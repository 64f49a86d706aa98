namespace DreamDoc.Text

/-- A character of which some bytes have been read: its value so far, how many bytes are missing,
and the range of the next one. -/
structure PartialChar where
  value : Nat
  missing : Nat
  lowest : UInt8
  highest : UInt8

def decodeLead (replacement : Char) (b : UInt8) : List Char × Option PartialChar :=
  let bits (mask : Nat) := b.toNat % mask
  if b < 0x80 then ([Char.ofNat b.toNat], none)
  else if b < 0xC2 then ([replacement], none)
  else if b < 0xE0 then ([], some ⟨bits 0x20, 1, 0x80, 0xBF⟩)
  else if b = 0xE0 then ([], some ⟨bits 0x10, 2, 0xA0, 0xBF⟩)
  else if b = 0xED then ([], some ⟨bits 0x10, 2, 0x80, 0x9F⟩)
  else if b < 0xF0 then ([], some ⟨bits 0x10, 2, 0x80, 0xBF⟩)
  else if b = 0xF0 then ([], some ⟨bits 0x08, 3, 0x90, 0xBF⟩)
  else if b < 0xF4 then ([], some ⟨bits 0x08, 3, 0x80, 0xBF⟩)
  else if b = 0xF4 then ([], some ⟨bits 0x08, 3, 0x80, 0x8F⟩)
  else ([replacement], none)

def decodeByte (replacement : Char) (pending : Option PartialChar) (b : UInt8) :
    List Char × Option PartialChar :=
  match pending with
  | none => decodeLead replacement b
  | some p =>
    if p.lowest ≤ b ∧ b ≤ p.highest then
      let value := p.value * 0x40 + b.toNat % 0x40
      if p.missing = 1 then ([Char.ofNat value], none)
      else ([], some ⟨value, p.missing - 1, 0x80, 0xBF⟩)
    else
      let (chars, next) := decodeLead replacement b
      (replacement :: chars, next)

def decodeFrom (replacement : Char) (pending : Option PartialChar) : List UInt8 → List Char
  | [] => if pending.isSome then [replacement] else []
  | b :: rest =>
    let (chars, next) := decodeByte replacement pending b
    chars ++ decodeFrom replacement next rest

def decodeWith (replacement : Char) (bytes : ByteArray) : String :=
  String.ofList (decodeFrom replacement none bytes.toList)

def decodeLossy (bytes : ByteArray) : String := decodeWith '\ufffd' bytes

end DreamDoc.Text
