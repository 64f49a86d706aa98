import DreamDoc.Json.Basic

namespace DreamDoc.Json

inductive Token where
  | openBracket
  | closeBracket
  | openBrace
  | closeBrace
  | comma
  | colon
  | str (value : String)
  | scalar (value : Json)

/-- How many containers may stand around a value, and how many digits the whole part of a numeral
may have. -/
structure Limits where
  depth : Nat
  digits : Nat

def isBlank (c : Char) : Bool := c = ' ' || c = '\t' || c = '\n' || c = '\r'

def hexDigit? (c : Char) : Option Nat :=
  if '0' ≤ c ∧ c ≤ '9' then some (c.toNat - '0'.toNat)
  else if 'a' ≤ c ∧ c ≤ 'f' then some (c.toNat - 'a'.toNat + 10)
  else if 'A' ≤ c ∧ c ≤ 'F' then some (c.toNat - 'A'.toNat + 10)
  else none

def codeUnit? (a b c d : Char) : Option Nat := do
  let a ← hexDigit? a
  let b ← hexDigit? b
  let c ← hexDigit? c
  let d ← hexDigit? d
  return ((a * 16 + b) * 16 + c) * 16 + d

def isHighSurrogate (unit : Nat) : Bool := 0xD800 ≤ unit && unit < 0xDC00

def isLowSurrogate (unit : Nat) : Bool := 0xDC00 ≤ unit && unit < 0xE000

def ofSurrogates (high low : Nat) : Char :=
  Char.ofNat (0x10000 + (high - 0xD800) * 0x400 + (low - 0xDC00))

def simpleEscape? : Char → Option Char
  | '\x22' => some '\x22'
  | '\x5c' => some '\x5c'
  | '/' => some '/'
  | 'b' => some '\x08'
  | 'f' => some '\x0c'
  | 'n' => some '\n'
  | 'r' => some '\r'
  | 't' => some '\t'
  | _ => none

/-- Reads the rest of a string up to its closing quote. `done` holds the characters so far, the
newest first. -/
def readString (done : List Char) : List Char → Option (String × List Char)
  | [] => none
  | '\x22' :: rest => some (String.ofList done.reverse, rest)
  | '\x5c' :: 'u' :: a :: b :: c :: d :: rest =>
    match codeUnit? a b c d with
    | none => none
    | some unit =>
      if isLowSurrogate unit then none
      else if isHighSurrogate unit then
        match rest with
        | '\x5c' :: 'u' :: e :: f :: g :: h :: rest =>
          match codeUnit? e f g h with
          | none => none
          | some low =>
            if isLowSurrogate low then readString (ofSurrogates unit low :: done) rest else none
        | _ => none
      else readString (Char.ofNat unit :: done) rest
  | '\x5c' :: c :: rest =>
    match simpleEscape? c with
    | none => none
    | some plain => readString (plain :: done) rest
  | c :: rest => if c.toNat < 0x20 ∨ c = '\x5c' then none else readString (c :: done) rest

theorem length_of_readString {done cs : List Char} {s : String} {rest : List Char}
    (read : readString done cs = some (s, rest)) : rest.length < cs.length := by
  fun_induction readString done cs <;> simp_all <;> omega

def digitsValue (digits : List Char) : Nat :=
  digits.foldl (fun value c => value * 10 + (c.toNat - '0'.toNat)) 0

def splitSign : List Char → Bool × List Char
  | '-' :: rest => (true, rest)
  | '+' :: rest => (false, rest)
  | rest => (false, rest)

def isWhole (digits : List Char) : Bool :=
  digits ≠ [] && (digits.head? ≠ some '0' || digits = ['0'])

def readFraction? : List Char → Option (List Char × List Char)
  | '.' :: rest =>
    let digits := rest.takeWhile Char.isDigit
    if digits = [] then none else some (digits, rest.dropWhile Char.isDigit)
  | rest => some ([], rest)

def readExponent? : List Char → Option (Option Int × List Char)
  | [] => some (none, [])
  | c :: rest =>
    if c = 'e' ∨ c = 'E' then
      let (negative, rest) := splitSign rest
      let digits := rest.takeWhile Char.isDigit
      if digits = [] then none
      else
        let value : Int := if negative then -digitsValue digits else digitsValue digits
        some (some value, rest.dropWhile Char.isDigit)
    else some (none, c :: rest)

theorem length_of_readFraction? {cs digits rest : List Char}
    (read : readFraction? cs = some (digits, rest)) : rest.length ≤ cs.length := by
  unfold readFraction? at read
  split at read
  · next tail =>
    have := (List.dropWhile_sublist Char.isDigit (l := tail)).length_le
    grind
  · simp_all

theorem length_of_splitSign (cs : List Char) : (splitSign cs).2.length ≤ cs.length := by
  unfold splitSign
  split <;> simp

theorem length_of_readExponent? {cs rest : List Char} {exponent : Option Int}
    (read : readExponent? cs = some (exponent, rest)) : rest.length ≤ cs.length := by
  unfold readExponent? at read
  split at read
  · simp_all
  · next c tail =>
    have := length_of_splitSign tail
    have := (List.dropWhile_sublist Char.isDigit (l := (splitSign tail).2)).length_le
    grind

def numeralOfParts (negative : Bool) (whole fraction : List Char) (exponent : Option Int) :
    Numeral :=
  if fraction = [] ∧ exponent = none then
    .integer (if negative then -digitsValue whole else digitsValue whole)
  else .decimal ⟨negative, digitsValue (whole ++ fraction), exponent.getD 0 - fraction.length⟩

def readMagnitude? (limits : Limits) (negative : Bool) (cs : List Char) :
    Option (Numeral × List Char) :=
  let whole := cs.takeWhile Char.isDigit
  if !isWhole whole || limits.digits < whole.length then none
  else do
    let (fraction, rest) ← readFraction? (cs.dropWhile Char.isDigit)
    let (exponent, rest) ← readExponent? rest
    return (numeralOfParts negative whole fraction exponent, rest)

theorem length_of_readMagnitude? {limits : Limits} {negative : Bool} {cs rest : List Char}
    {n : Numeral} (read : readMagnitude? limits negative cs = some (n, rest)) :
    rest.length < cs.length := by
  unfold readMagnitude? at read
  simp only [Option.ite_none_left_eq_some, Option.bind_eq_bind, Option.bind_eq_some_iff] at read
  obtain ⟨whole, ⟨fraction, middle⟩, first, ⟨exponent, left⟩, second, last⟩ := read
  have := length_of_readFraction? first
  have := length_of_readExponent? second
  have parts := congrArg List.length (List.takeWhile_append_dropWhile (p := Char.isDigit) (l := cs))
  rw [List.length_append] at parts
  have : 0 < (cs.takeWhile Char.isDigit).length := by
    simp_all [isWhole, List.length_pos_iff]
  simp_all
  omega

def readNumeral? (limits : Limits) : List Char → Option (Numeral × List Char)
  | '-' :: rest => readMagnitude? limits true rest
  | cs => readMagnitude? limits false cs

theorem length_of_readNumeral? {limits : Limits} {cs rest : List Char} {n : Numeral}
    (read : readNumeral? limits cs = some (n, rest)) : rest.length < cs.length := by
  unfold readNumeral? at read
  split at read
  · exact Nat.lt_succ_of_lt (length_of_readMagnitude? read)
  · exact length_of_readMagnitude? read

def namedValues : List (List Char × Json) := [
  ("null".toList, .null), ("true".toList, .bool true), ("false".toList, .bool false),
  ("NaN".toList, .num .nan), ("Infinity".toList, .num (.infinity false)),
  ("-Infinity".toList, .num (.infinity true))]

def readScalar? (limits : Limits) (cs : List Char) : Option (Json × List Char) :=
  match namedValues.find? fun (word, _) => word.isPrefixOf cs with
  | some (word, value) => some (value, cs.drop word.length)
  | none => (readNumeral? limits cs).map fun (n, rest) => (.num n, rest)

theorem length_of_readScalar? {limits : Limits} {cs rest : List Char} {value : Json}
    (read : readScalar? limits cs = some (value, rest)) : rest.length < cs.length := by
  unfold readScalar? at read
  split at read
  · next word value found =>
    have named := List.mem_of_find?_eq_some found
    have starts := List.find?_some found
    have := (List.isPrefixOf_iff_prefix.1 starts).length_le
    have : 0 < word.length := by
      simp only [namedValues, List.mem_cons, List.not_mem_nil, Prod.mk.injEq] at named
      grind
    simp only [Option.some.injEq, Prod.mk.injEq] at read
    rw [← read.2, List.length_drop]
    omega
  · obtain ⟨⟨n, left⟩, inner, eq⟩ := Option.map_eq_some_iff.1 read
    have := length_of_readNumeral? inner
    simp_all

def Token.read (limits : Limits) (first : Char) (rest : List Char) :
    Option (Token × List Char) :=
  match first with
  | '[' => some (.openBracket, rest)
  | ']' => some (.closeBracket, rest)
  | '\x7b' => some (.openBrace, rest)
  | '\x7d' => some (.closeBrace, rest)
  | ',' => some (.comma, rest)
  | ':' => some (.colon, rest)
  | '\x22' => (readString [] rest).map fun (s, rest) => (.str s, rest)
  | c => (readScalar? limits (c :: rest)).map fun (value, rest) => (.scalar value, rest)

theorem Token.length_of_read {limits : Limits} {first : Char} {rest left : List Char}
    {token : Token} (read : Token.read limits first rest = some (token, left)) :
    left.length ≤ rest.length := by
  unfold Token.read at read
  split at read
  case h_7 =>
    obtain ⟨⟨s, tail⟩, inner, eq⟩ := Option.map_eq_some_iff.1 read
    have := length_of_readString inner
    simp_all
    omega
  case h_8 =>
    obtain ⟨⟨value, tail⟩, inner, eq⟩ := Option.map_eq_some_iff.1 read
    cases eq
    exact Nat.le_of_lt_succ (length_of_readScalar? inner)
  all_goals simp_all

end DreamDoc.Json
