import DreamDoc.Json.Reader
import DreamDoc.Text.Split

/-!
# JSON texts

`Written` says which texts write a value. Two of its parameters say what a text may have that the
reader takes only in part or not at all: numerals with many digits, and surrogates that stand alone.
A text within the limits is read as its value (`parse_of_written`), and a text beyond them is either
refused or read as its value all the same (`eq_of_parse`).
-/

namespace DreamDoc.Json

inductive CharWritten : Char → List Char → Prop
  | plain {c : Char} (printable : 0x20 ≤ c.toNat) (unquoted : c ≠ '\x22') (bare : c ≠ '\x5c') :
    CharWritten c [c]
  | short {c letter : Char} (known : simpleEscape? letter = some c) :
    CharWritten c ['\x5c', letter]
  | unit {a b c d : Char} {unit : Nat} (digits : codeUnit? a b c d = some unit)
    (high : isHighSurrogate unit = false) (low : isLowSurrogate unit = false) :
    CharWritten (Char.ofNat unit) ['\x5c', 'u', a, b, c, d]
  | pair {a b c d e f g h : Char} {high low : Nat} (first : codeUnit? a b c d = some high)
    (second : codeUnit? e f g h = some low) (isHigh : isHighSurrogate high = true)
    (isLow : isLowSurrogate low = true) :
    CharWritten (ofSurrogates high low) ['\x5c', 'u', a, b, c, d, '\x5c', 'u', e, f, g, h]

def BeginsLow (text : List Char) : Prop :=
  ∃ a b c d unit rest, text = '\x5c' :: 'u' :: a :: b :: c :: d :: rest ∧
    codeUnit? a b c d = some unit ∧ isLowSurrogate unit = true

/-- A string without its quotes. A surrogate that is no part of a pair is no character; where such
surrogates may stand, each of them counts as a replacement character. -/
inductive BodyWritten (alone : Bool) : List Char → List Char → Prop
  | nil : BodyWritten alone [] []
  | cons {c : Char} {cs text body : List Char} (first : CharWritten c text)
    (rest : BodyWritten alone cs body) : BodyWritten alone (c :: cs) (text ++ body)
  | unpaired {a b c d : Char} {unit : Nat} {cs body : List Char} (allowed : alone = true)
    (digits : codeUnit? a b c d = some unit)
    (lone : isLowSurrogate unit = true ∨ isHighSurrogate unit = true ∧ ¬BeginsLow body)
    (rest : BodyWritten alone cs body) :
    BodyWritten alone ('\ufffd' :: cs) ('\x5c' :: 'u' :: a :: b :: c :: d :: body)

inductive FractionWritten : List Char → List Char → Prop
  | missing : FractionWritten [] []
  | given {digits : List Char} (nonempty : digits ≠ []) (decimal : ∀ c ∈ digits, c.isDigit) :
    FractionWritten digits ('.' :: digits)

inductive ExponentWritten : Option Int → List Char → Prop
  | missing : ExponentWritten none []
  | given {mark : Char} {sign digits : List Char} {negative : Bool}
    (marked : mark = 'e' ∨ mark = 'E')
    (signed : (sign, negative) ∈ [([], false), (['+'], false), (['-'], true)])
    (nonempty : digits ≠ []) (decimal : ∀ c ∈ digits, c.isDigit) :
    ExponentWritten
      (some (if negative then -(digitsValue digits : Int) else digitsValue digits))
      (mark :: sign ++ digits)

/-- A numeral whose whole part has at most `longest` digits. -/
inductive NumeralWritten (longest : Nat) : Numeral → List Char → Prop
  | mk {negative : Bool} {whole fraction fractionText exponentText : List Char}
    {exponent : Option Int} (proper : isWhole whole) (decimal : ∀ c ∈ whole, c.isDigit)
    (short : whole.length ≤ longest) (fractional : FractionWritten fraction fractionText)
    (scaled : ExponentWritten exponent exponentText) :
    NumeralWritten longest (numeralOfParts negative whole fraction exponent)
      ((if negative then ['-'] else []) ++ whole ++ fractionText ++ exponentText)

def Blank (text : List Char) : Prop := ∀ c ∈ text, isBlank c

def KeyWritten (alone : Bool) (key : String) (text : List Char) : Prop :=
  ∃ before body after, Blank before ∧ BodyWritten alone key.toList body ∧ Blank after ∧
    text = before ++ '\x22' :: body ++ '\x22' :: after

structure MemberText where
  key : String
  keyText : List Char
  value : Json
  valueText : List Char

/-- A text writes a value, perhaps with blanks around it. -/
inductive Written (longest : Nat) (alone : Bool) : Json → List Char → Prop
  | padded {value : Json} {before text after : List Char} (blank : Blank before)
    (inner : Written longest alone value text) (blankAfter : Blank after) :
    Written longest alone value (before ++ text ++ after)
  | word {value : Json} {text : List Char} (named : (text, value) ∈ namedValues) :
    Written longest alone value text
  | num {n : Numeral} {text : List Char} (numeral : NumeralWritten longest n text) :
    Written longest alone (.num n) text
  | str {s : String} {body : List Char} (written : BodyWritten alone s.toList body) :
    Written longest alone (.str s) ('\x22' :: body ++ ['\x22'])
  | emptyArray {blanks : List Char} (blank : Blank blanks) :
    Written longest alone (.arr []) ('[' :: blanks ++ [']'])
  | arr {items : List (Json × List Char)} (nonempty : items ≠ [])
    (each : ∀ item ∈ items, Written longest alone item.1 item.2) :
    Written longest alone (.arr (items.map Prod.fst))
      ('[' :: Text.joinWith ',' (items.map Prod.snd) ++ [']'])
  | emptyObject {blanks : List Char} (blank : Blank blanks) :
    Written longest alone (.obj []) ('\x7b' :: blanks ++ ['\x7d'])
  | obj {members : List MemberText} (nonempty : members ≠ [])
    (keys : ∀ member ∈ members, KeyWritten alone member.key member.keyText)
    (each : ∀ member ∈ members, Written longest alone member.value member.valueText) :
    Written longest alone (.obj (members.map fun member => (member.key, member.value)))
      ('\x7b' :: Text.joinWith ',' (members.map fun member =>
        member.keyText ++ ':' :: member.valueText) ++ ['\x7d'])

mutual

/-- How many containers stand around what is deepest inside a value. -/
def depth : Json → Nat
  | .arr items => itemsDepth items
  | .obj members => membersDepth members
  | _ => 0

def itemsDepth : List Json → Nat
  | [] => 0
  | item :: rest => max (item.depth + 1) (itemsDepth rest)

def membersDepth : List (String × Json) → Nat
  | [] => 0
  | (_, value) :: rest => max (value.depth + 1) (membersDepth rest)

end

/-! ## Strings -/

theorem readString_char {c : Char} {text : List Char} (written : CharWritten c text)
    (done rest : List Char) : readString done (text ++ rest) = readString (c :: done) rest := by
  cases written with
  | plain printable unquoted bare =>
    rw [List.singleton_append, readString.eq_def]
    split <;> grind
  | short known =>
    unfold simpleEscape? at known
    split at known <;> cases known <;> simp [readString, simpleEscape?]
  | unit digits high low => simp [readString, digits, high, low]
  | pair first second isHigh isLow =>
    have notLow : ∀ unit, isHighSurrogate unit = true → isLowSurrogate unit = false := by
      simp only [isHighSurrogate, isLowSurrogate, Bool.and_eq_true, decide_eq_true_eq,
        Bool.and_eq_false_iff, decide_eq_false_iff_not]
      omega
    simp [readString, first, second, isHigh, isLow, notLow _ isHigh]

theorem hexDigit?_quote : hexDigit? '\x22' = none := by decide

theorem beginsLow_of_append {body rest : List Char} (begins : BeginsLow (body ++ '\x22' :: rest)) :
    BeginsLow body := by
  obtain ⟨a, b, c, d, unit, tail, same, digits, low⟩ := begins
  have split : body ++ '\x22' :: rest = ['\x5c', 'u', a, b, c, d] ++ tail := same
  obtain ⟨more, rfl, -⟩ | ⟨cut, escape, behind⟩ := List.append_eq_append_iff.mp split.symm
  · exact ⟨a, b, c, d, unit, more, rfl, digits, low⟩
  · cases cut with
    | nil => exact ⟨a, b, c, d, unit, [], by simpa using escape.symm, digits, low⟩
    | cons quote others =>
      -- The quote would be one of the six characters of the escape.
      obtain ⟨rfl, -⟩ := List.cons_eq_cons.mp behind
      have inside : '\x22' ∈ ['\x5c', 'u', a, b, c, d] := by simp [escape]
      simp only [List.mem_cons, List.not_mem_nil, or_false] at inside
      rcases inside with inside | inside | rfl | rfl | rfl | rfl
      · cases inside
      · cases inside
      all_goals simp [codeUnit?, hexDigit?_quote] at digits

theorem readString_unpaired {a b c d : Char} {unit : Nat} {rest : List Char}
    (digits : codeUnit? a b c d = some unit)
    (lone : isLowSurrogate unit = true ∨ isHighSurrogate unit = true ∧ ¬BeginsLow rest)
    (done : List Char) : readString done ('\x5c' :: 'u' :: a :: b :: c :: d :: rest) = none := by
  rw [readString, digits]
  rcases lone with low | ⟨high, unpaired⟩
  · simp [low]
  · by_cases low : isLowSurrogate unit = true
    · simp [low]
    · simp only [low, high, Bool.false_eq_true, if_false, if_true]
      split
      · split
        · rfl
        · rename_i second
          split
          · rename_i isLow
            exact absurd ⟨_, _, _, _, _, _, rfl, second, isLow⟩ unpaired
          · rfl
      · rfl

theorem readString_body {alone : Bool} {cs body : List Char} (written : BodyWritten alone cs body)
    (done rest : List Char) :
    readString done (body ++ '\x22' :: rest) = some (String.ofList (done.reverse ++ cs), rest) ∨
      alone = true ∧ readString done (body ++ '\x22' :: rest) = none := by
  induction written generalizing done with
  | nil => simp [readString]
  | cons first written ih =>
    rw [List.append_assoc, readString_char first]
    simpa using ih (_ :: done)
  | unpaired allowed digits lone written ih =>
    refine .inr ⟨allowed, readString_unpaired digits ?_ done⟩
    exact lone.imp_right fun ⟨high, unpaired⟩ => ⟨high, mt beginsLow_of_append unpaired⟩

/-! ## Numerals -/

def Ends (rest : List Char) : Prop :=
  ∀ c tail, rest = c :: tail → c.isDigit = false ∧ c ≠ '.' ∧ c ≠ 'e' ∧ c ≠ 'E'

theorem span_digits {digits rest : List Char} (decimal : ∀ c ∈ digits, c.isDigit)
    (stops : ∀ c tail, rest = c :: tail → c.isDigit = false) :
    (digits ++ rest).takeWhile Char.isDigit = digits ∧
      (digits ++ rest).dropWhile Char.isDigit = rest := by
  rw [List.takeWhile_append_of_pos decimal, List.dropWhile_append_of_pos decimal]
  cases rest with
  | nil => simp
  | cons c tail => simp [stops c tail rfl]

theorem readFraction?_written {digits text rest : List Char}
    (written : FractionWritten digits text)
    (stops : ∀ c tail, rest = c :: tail → c.isDigit = false ∧ c ≠ '.') :
    readFraction? (text ++ rest) = some (digits, rest) := by
  cases written with
  | missing =>
    rw [List.nil_append, readFraction?.eq_def]
    split
    · rename_i tail
      exact absurd rfl (stops '.' tail rfl).2
    · rfl
  | given nonempty decimal =>
    obtain ⟨taken, left⟩ := span_digits decimal fun c tail same => (stops c tail same).1
    simp [readFraction?, taken, left, nonempty]

theorem splitSign_written {sign digits : List Char} {negative : Bool}
    (signed : (sign, negative) ∈ [([], false), (['+'], false), (['-'], true)])
    (nonempty : digits ≠ []) (decimal : ∀ c ∈ digits, c.isDigit) (rest : List Char) :
    splitSign (sign ++ (digits ++ rest)) = (negative, digits ++ rest) := by
  simp only [List.mem_cons, Prod.mk.injEq, List.not_mem_nil, or_false] at signed
  rcases signed with ⟨rfl, rfl⟩ | ⟨rfl, rfl⟩ | ⟨rfl, rfl⟩
  · obtain ⟨c, tail, rfl⟩ := List.exists_cons_of_ne_nil nonempty
    have digit := decimal c List.mem_cons_self
    have minus : c ≠ '-' := by
      rintro rfl
      exact absurd digit (by decide)
    have plus : c ≠ '+' := by
      rintro rfl
      exact absurd digit (by decide)
    simp [splitSign, minus, plus]
  · rfl
  · rfl

theorem readExponent?_written {exponent : Option Int} {text rest : List Char}
    (written : ExponentWritten exponent text) (ends : Ends rest) :
    readExponent? (text ++ rest) = some (exponent, rest) := by
  cases written with
  | missing =>
    cases rest with
    | nil => rfl
    | cons c tail =>
      obtain ⟨-, -, lower, upper⟩ := ends c tail rfl
      simp [readExponent?, lower, upper]
  | given marked signed nonempty decimal =>
    obtain ⟨taken, left⟩ := span_digits decimal fun c tail same => (ends c tail same).1
    rw [List.cons_append, List.cons_append, readExponent?, if_pos marked]
    simp [splitSign_written signed nonempty decimal, taken, left, nonempty]

theorem readMagnitude?_written (limits : Limits) (negative : Bool)
    {whole fraction fractionText exponentText rest : List Char} {exponent : Option Int}
    (proper : isWhole whole) (decimal : ∀ c ∈ whole, c.isDigit)
    (fractional : FractionWritten fraction fractionText)
    (scaled : ExponentWritten exponent exponentText) (ends : Ends rest) :
    readMagnitude? limits negative (whole ++ (fractionText ++ (exponentText ++ rest))) =
      if whole.length ≤ limits.digits then
        some (numeralOfParts negative whole fraction exponent, rest)
      else none := by
  have afterFraction : ∀ c tail, exponentText ++ rest = c :: tail → c.isDigit = false ∧ c ≠ '.' := by
    intro c tail same
    cases scaled with
    | missing => exact ⟨(ends c tail same).1, (ends c tail same).2.1⟩
    | given marked signed nonempty decimal =>
      cases same
      rcases marked with rfl | rfl <;> decide
  have afterWhole : ∀ c tail, fractionText ++ (exponentText ++ rest) = c :: tail →
      c.isDigit = false := by
    intro c tail same
    cases fractional with
    | missing => exact (afterFraction c tail same).1
    | given nonempty decimal =>
      cases same
      decide
  obtain ⟨taken, left⟩ := span_digits decimal afterWhole
  by_cases short : whole.length ≤ limits.digits
  · simp [readMagnitude?, taken, left, proper, short, Nat.not_lt.mpr short,
      readFraction?_written fractional afterFraction, readExponent?_written scaled ends]
  · simp [readMagnitude?, taken, short, Nat.lt_of_not_le short]

theorem readNumeral?_written (limits : Limits) {longest : Nat} {n : Numeral} {text rest : List Char}
    (written : NumeralWritten longest n text) (ends : Ends rest) :
    readNumeral? limits (text ++ rest) = some (n, rest) ∨
      limits.digits < longest ∧ readNumeral? limits (text ++ rest) = none := by
  obtain @⟨negative, whole, _, fractionText, exponentText, _, proper, decimal, short, fractional,
    scaled⟩ := written
  have signed : readNumeral? limits
      ((if negative then ['-'] else []) ++ whole ++ fractionText ++ exponentText ++ rest) =
      readMagnitude? limits negative (whole ++ (fractionText ++ (exponentText ++ rest))) := by
    cases negative with
    | true => simp [readNumeral?]
    | false =>
      obtain ⟨c, tail, rfl⟩ : ∃ c tail, whole = c :: tail :=
        List.exists_cons_of_ne_nil (by rintro rfl; simp [isWhole] at proper)
      have digit := decimal c List.mem_cons_self
      have unsigned : c ≠ '-' := by
        rintro rfl
        simp at digit
      simp [readNumeral?, unsigned]
  rw [signed, readMagnitude?_written limits negative proper decimal fractional scaled ends]
  split
  · exact .inl rfl
  · exact .inr ⟨by omega, rfl⟩

theorem head_of_numeral {longest : Nat} {n : Numeral} {text : List Char}
    (written : NumeralWritten longest n text) :
    (∃ c tail, text = c :: tail ∧ c.isDigit) ∨
      ∃ c tail, text = '-' :: c :: tail ∧ c.isDigit := by
  obtain @⟨negative, whole, _, _, _, _, proper, decimal, -, -, -⟩ := written
  obtain ⟨c, tail, rfl⟩ : ∃ c tail, whole = c :: tail :=
    List.exists_cons_of_ne_nil (by rintro rfl; simp [isWhole] at proper)
  have digit := decimal c List.mem_cons_self
  cases negative <;> simp [digit]

/-! ## Tokens -/

theorem Token.read_scalar (limits : Limits) {c : Char} (rest : List Char)
    (plain : c ∉ ['[', ']', '\x7b', '\x7d', ',', ':', '\x22']) :
    Token.read limits c rest =
      (readScalar? limits (c :: rest)).map fun (value, rest) => (.scalar value, rest) := by
  simp only [List.mem_cons, List.not_mem_nil, or_false, not_or] at plain
  unfold Token.read
  split <;> simp_all

theorem read_word {limits : Limits} {text rest : List Char} {value : Json}
    (named : (text, value) ∈ namedValues) :
    ∃ first tail, text = first :: tail ∧ isBlank first = false ∧
      Token.read limits first (tail ++ rest) = some (.scalar value, rest) := by
  simp only [namedValues, List.mem_cons, Prod.mk.injEq, List.not_mem_nil, or_false] at named
  rcases named with ⟨rfl, rfl⟩ | ⟨rfl, rfl⟩ | ⟨rfl, rfl⟩ | ⟨rfl, rfl⟩ | ⟨rfl, rfl⟩ | ⟨rfl, rfl⟩ <;>
    exact ⟨_, _, rfl, by decide, rfl⟩

theorem ne_of_isDigit {c letter : Char} (digit : c.isDigit) (other : letter.isDigit = false) :
    c ≠ letter := by
  rintro rfl
  simp [digit] at other

theorem find?_word_of_numeral {longest : Nat} {n : Numeral} {text : List Char}
    (written : NumeralWritten longest n text) (rest : List Char) :
    (namedValues.find? fun (word, _) => word.isPrefixOf (text ++ rest)) = none := by
  rcases head_of_numeral written with ⟨c, tail, rfl, digit⟩ | ⟨c, tail, rfl, digit⟩ <;>
    simp [namedValues, List.isPrefixOf, (ne_of_isDigit digit _).symm]

theorem read_numeral {limits : Limits} {longest : Nat} {n : Numeral} {text rest : List Char}
    (written : NumeralWritten longest n text) (ends : Ends rest) :
    ∃ first tail, text = first :: tail ∧ isBlank first = false ∧
      (Token.read limits first (tail ++ rest) = some (.scalar (.num n), rest) ∨
        limits.digits < longest ∧ Token.read limits first (tail ++ rest) = none) := by
  obtain ⟨first, tail, rfl, plain, unblank⟩ : ∃ first tail, text = first :: tail ∧
      first ∉ ['[', ']', '\x7b', '\x7d', ',', ':', '\x22'] ∧ isBlank first = false := by
    rcases head_of_numeral written with ⟨c, tail, rfl, digit⟩ | ⟨c, tail, rfl, -⟩
    · exact ⟨c, tail, rfl, by simp [ne_of_isDigit digit], by simp [isBlank, ne_of_isDigit digit]⟩
    · exact ⟨'-', c :: tail, rfl, by decide, by decide⟩
  refine ⟨first, tail, rfl, unblank, ?_⟩
  rw [Token.read_scalar limits _ plain, ← List.cons_append, readScalar?,
    find?_word_of_numeral written]
  obtain read | ⟨long, refused⟩ := readNumeral?_written limits written ends
  · exact .inl (by rw [read]; rfl)
  · exact .inr ⟨long, by rw [refused]; rfl⟩

/-! ## Values -/

section Run

variable {limits : Limits}

theorem run_eq (state : State) (text : List Char) :
    state.run limits text =
      match text.dropWhile isBlank with
      | [] => state.result
      | first :: tail =>
        match Token.read limits first tail with
        | none => .error state.flaw
        | some (token, left) =>
          match state.step limits token with
          | none => .error state.flaw
          | some next => next.run limits left := by
  rw [State.run]
  split <;> rename_i found
  · simp [found]
  · simp only [found]
    split <;> rename_i taken
    · simp [taken]
    · cases stepped : state.step limits _ <;> simp only [taken, stepped]

theorem run_blanks {blanks : List Char} (blank : Blank blanks) (state : State)
    (rest : List Char) : state.run limits (blanks ++ rest) = state.run limits rest := by
  rw [run_eq, run_eq, List.dropWhile_append_of_pos blank]

theorem run_token {state next : State} {first : Char} {tail left : List Char} {token : Token}
    (unblank : isBlank first = false) (read : Token.read limits first tail = some (token, left))
    (stepped : state.step limits token = some next) :
    state.run limits (first :: tail) = next.run limits left := by
  rw [run_eq, List.dropWhile_cons_of_neg (by simp [unblank])]
  simp [read, stepped]

theorem run_no_token {state : State} {first : Char} {tail : List Char}
    (unblank : isBlank first = false) (refused : Token.read limits first tail = none) :
    state.run limits (first :: tail) = .error state.flaw := by
  rw [run_eq, List.dropWhile_cons_of_neg (by simp [unblank])]
  simp [refused]

theorem run_no_step {state : State} {first : Char} {tail left : List Char} {token : Token}
    (unblank : isBlank first = false) (read : Token.read limits first tail = some (token, left))
    (refused : state.step limits token = none) :
    state.run limits (first :: tail) = .error state.flaw := by
  rw [run_eq, List.dropWhile_cons_of_neg (by simp [unblank])]
  simp [read, refused]

/-- A run ends like another one, or it fails where that is allowed. With a limit that a text may
exceed, the same induction says that the text is read, and that it is read as nothing else. -/
def Leads (mayFail : Prop) (run result : Except Flaw Json) : Prop :=
  run = result ∨ mayFail ∧ ∃ flaw, run = .error flaw

variable {mayFail : Prop}

theorem Leads.of_eq {run result : Except Flaw Json} (same : run = result) :
    Leads mayFail run result := .inl same

theorem Leads.trans {first second third : Except Flaw Json} (before : Leads mayFail first second)
    (after : Leads mayFail second third) : Leads mayFail first third := by
  rcases before with rfl | failed
  · exact after
  · exact .inr failed

def Steps (limits : Limits) (mayFail : Prop) (state : State) (token : Token) (next : State) : Prop :=
  state.step limits token = some next ∨ mayFail ∧ state.step limits token = none

theorem Steps.leads {state next : State} {first : Char} {tail left : List Char} {token : Token}
    (steps : Steps limits mayFail state token next) (unblank : isBlank first = false)
    (read : Token.read limits first tail = some (token, left)) :
    Leads mayFail (state.run limits (first :: tail)) (next.run limits left) := by
  rcases steps with stepped | ⟨fails, refused⟩
  · exact .of_eq (run_token unblank read stepped)
  · exact .inr ⟨fails, state.flaw, run_no_step unblank read refused⟩

theorem Steps.leads_string {alone : Bool} {state next : State} {s : String} {body : List Char}
    (steps : Steps limits mayFail state (.str s) next) (written : BodyWritten alone s.toList body)
    (paired : alone = false ∨ mayFail) (rest : List Char) :
    Leads mayFail (state.run limits ('\x22' :: (body ++ '\x22' :: rest)))
      (next.run limits rest) := by
  obtain read | ⟨allowed, refused⟩ := readString_body written [] rest
  · refine steps.leads (by decide) ?_
    simp [Token.read, read]
  · have fails : mayFail := paired.resolve_left (by simp [allowed])
    refine .inr ⟨fails, state.flaw, run_no_token (by decide) ?_⟩
    simp [Token.read, refused]

theorem leads_key {alone : Bool} {state next : State} {key : String} {text : List Char}
    (written : KeyWritten alone key text) (paired : alone = false ∨ mayFail)
    (stepped : state.step limits (.str key) = some next) (rest : List Char) :
    Leads mayFail (state.run limits (text ++ rest)) (next.run limits rest) := by
  obtain ⟨before, body, after, blank, inside, blankAfter, rfl⟩ := written
  have quoted : before ++ '\x22' :: body ++ '\x22' :: after ++ rest =
      before ++ '\x22' :: (body ++ '\x22' :: (after ++ rest)) := by simp
  rw [quoted, run_blanks blank, ← run_blanks blankAfter next rest]
  exact Steps.leads_string (.inl stepped) inside paired (after ++ rest)

def Awaits (limits : Limits) (state : State) (outer : List Frame) : Prop :=
  ∀ token, token ≠ .closeBracket → state.step limits token = State.start limits outer token

theorem awaits_value (outer : List Frame) : Awaits limits (.reading .value outer) outer :=
  fun _ _ => rfl

theorem awaits_firstItem (outer : List Frame) :
    Awaits limits (.reading .firstItem outer) (.array [] :: outer) := by
  intro token other
  cases token <;> first | rfl | exact absurd rfl other

section Enter

variable {state next : State} {outer : List Frame} (awaits : Awaits limits state outer)
  (room : outer.length ≤ limits.depth ∨ mayFail)

include awaits room

theorem Awaits.steps {token : Token} (entered : State.enter outer token = some next) :
    Steps limits mayFail state token next := by
  have inner : token ≠ .closeBracket := by
    rintro rfl
    cases entered
  rw [Steps, awaits token inner, State.start]
  by_cases fits : outer.length ≤ limits.depth
  · exact .inl (by rw [if_pos fits, entered])
  · exact .inr ⟨room.resolve_left fits, if_neg fits⟩

theorem leads_openBracket (rest : List Char) :
    Leads mayFail (state.run limits ('[' :: rest))
      ((State.reading .firstItem outer).run limits rest) :=
  (awaits.steps room rfl).leads (by decide) rfl

theorem leads_openBrace (rest : List Char) :
    Leads mayFail (state.run limits ('\x7b' :: rest))
      ((State.reading .firstKey outer).run limits rest) :=
  (awaits.steps room rfl).leads (by decide) rfl

end Enter

/-- Where a value is awaited, the text is read as the value. -/
def Reads (limits : Limits) (mayFail : Prop) (value : Json) (text : List Char) : Prop :=
  ∀ state outer rest, Awaits limits state outer →
    value.depth + outer.length ≤ limits.depth ∨ mayFail → Ends rest →
    Leads mayFail (state.run limits (text ++ rest)) ((State.deliver value outer).run limits rest)

theorem around {value : Json} {outer : List Frame}
    (room : value.depth + outer.length ≤ limits.depth ∨ mayFail) :
    outer.length ≤ limits.depth ∨ mayFail :=
  room.imp_left (Nat.le_trans (Nat.le_add_left _ _))

theorem ends_cons {c : Char} {rest : List Char}
    (foreign : c.isDigit = false ∧ c ≠ '.' ∧ c ≠ 'e' ∧ c ≠ 'E') : Ends (c :: rest) := by
  rintro _ _ ⟨⟩
  exact foreign

theorem Ends.append {blanks rest : List Char} (blank : Blank blanks) (ends : Ends rest) :
    Ends (blanks ++ rest) := by
  cases blanks with
  | nil => exact ends
  | cons c tail =>
    have blank := blank c List.mem_cons_self
    simp only [isBlank, Bool.or_eq_true, decide_eq_true_eq] at blank
    rcases blank with ((rfl | rfl) | rfl) | rfl <;> exact ends_cons (by decide)

theorem leads_items {items : List (Json × List Char)} (nonempty : items ≠ [])
    (each : ∀ item ∈ items, Reads limits mayFail item.1 item.2) {state : State} {done : List Json}
    {outer : List Frame} (awaits : Awaits limits state (.array done :: outer))
    (room : itemsDepth (items.map Prod.fst) + outer.length ≤ limits.depth ∨ mayFail)
    (rest : List Char) :
    Leads mayFail (state.run limits (Text.joinWith ',' (items.map Prod.snd) ++ ']' :: rest))
      ((State.deliver (.arr (done.reverse ++ items.map Prod.fst)) outer).run limits rest) := by
  -- By induction on the items to come; each one read moves to `done`, the newest first.
  induction items generalizing state done with
  | nil => exact absurd rfl nonempty
  | cons item more ih =>
    obtain ⟨value, text⟩ := item
    simp only [List.map_cons, itemsDepth] at room
    have first : ∀ rest, Ends rest → Leads mayFail (state.run limits (text ++ rest))
        ((State.reading (.afterItem (value :: done)) outer).run limits rest) := by
      intro rest ends
      refine each _ List.mem_cons_self state _ rest awaits (room.imp_left fun fits => ?_) ends
      simp only [List.length_cons]
      omega
    cases more with
    | nil =>
      simp only [List.map_cons, List.map_nil, Text.joinWith]
      refine (first _ (ends_cons (by decide))).trans (.of_eq ?_)
      rw [run_token (by decide) rfl rfl]
      simp
    | cons second others =>
      simp only [List.map_cons, Text.joinWith, List.append_assoc, List.cons_append] at ih ⊢
      refine (first _ (ends_cons (by decide))).trans ?_
      rw [run_token (by decide) rfl rfl]
      have remaining := ih (by simp) (fun item member => each item (List.mem_cons_of_mem _ member))
        (awaits_value (.array (value :: done) :: outer))
        (room.imp_left fun fits => by simp only [List.map_cons] at fits; omega)
      simpa using remaining

theorem keyed_key (done : List (String × Json)) (outer : List Frame) (key : String) :
    (State.reading (.key done) outer).step limits (.str key) =
      some (.reading (.colon done key) outer) := rfl

theorem leads_members {alone : Bool} {members : List MemberText} (nonempty : members ≠ [])
    (paired : alone = false ∨ mayFail)
    (keys : ∀ member ∈ members, KeyWritten alone member.key member.keyText)
    (each : ∀ member ∈ members, Reads limits mayFail member.value member.valueText) {state : State}
    {done : List (String × Json)} {outer : List Frame}
    (keyed : ∀ key, state.step limits (.str key) = some (.reading (.colon done key) outer))
    (room : membersDepth (members.map fun member => (member.key, member.value)) +
      outer.length ≤ limits.depth ∨ mayFail) (rest : List Char) :
    Leads mayFail (state.run limits (Text.joinWith ',' (members.map fun member =>
        member.keyText ++ ':' :: member.valueText) ++ '\x7d' :: rest))
      ((State.deliver (.obj (done.reverse ++ members.map fun member =>
        (member.key, member.value))) outer).run limits rest) := by
  induction members generalizing state done with
  | nil => exact absurd rfl nonempty
  | cons member more ih =>
    simp only [List.map_cons, membersDepth] at room
    have first : ∀ rest, Ends rest → Leads mayFail
        (state.run limits (member.keyText ++ ':' :: (member.valueText ++ rest)))
        ((State.reading (.afterMember ((member.key, member.value) :: done)) outer).run limits
          rest) := by
      intro rest ends
      refine (leads_key (keys member List.mem_cons_self) paired (keyed member.key) _).trans ?_
      rw [run_token (by decide) rfl rfl]
      refine each member List.mem_cons_self _ _ rest (awaits_value _)
        (room.imp_left fun fits => ?_) ends
      simp only [List.length_cons]
      omega
    cases more with
    | nil =>
      simp only [List.map_cons, List.map_nil, Text.joinWith, List.append_assoc, List.cons_append]
      refine (first _ (ends_cons (by decide))).trans (.of_eq ?_)
      rw [run_token (by decide) rfl rfl]
      simp
    | cons second others =>
      simp only [List.map_cons, Text.joinWith, List.append_assoc, List.cons_append] at ih ⊢
      refine (first _ (ends_cons (by decide))).trans ?_
      rw [run_token (by decide) rfl rfl]
      have remaining := ih (by simp) (fun item member => keys item (List.mem_cons_of_mem _ member))
        (fun item member => each item (List.mem_cons_of_mem _ member))
        (keyed_key ((member.key, member.value) :: done) outer)
        (room.imp_left fun fits => by simp only [List.map_cons] at fits; omega)
      simpa using remaining

theorem reads_of_written {longest : Nat} {alone : Bool} {value : Json} {text : List Char}
    (written : Written longest alone value text) (short : longest ≤ limits.digits ∨ mayFail)
    (paired : alone = false ∨ mayFail) : Reads limits mayFail value text := by
  induction written with
  | padded blank inner blankAfter ih =>
    intro state outer rest awaits room ends
    have inside := ih state outer _ awaits room (ends.append blankAfter)
    rwa [run_blanks blankAfter, ← run_blanks blank, ← List.append_assoc, ← List.append_assoc]
      at inside
  | word named =>
    intro state outer rest awaits room ends
    obtain ⟨first, tail, rfl, unblank, read⟩ := read_word named
    exact (awaits.steps (around room) rfl).leads unblank read
  | num numeral =>
    intro state outer rest awaits room ends
    obtain ⟨first, tail, rfl, unblank, read | ⟨long, refused⟩⟩ := read_numeral numeral ends
    · exact (awaits.steps (around room) rfl).leads unblank read
    · have fails : mayFail := short.resolve_left (Nat.not_le.mpr long)
      exact .inr ⟨fails, state.flaw, run_no_token unblank refused⟩
  | str written =>
    intro state outer rest awaits room ends
    simpa using (awaits.steps (around room) rfl).leads_string written paired rest
  | emptyArray blank =>
    intro state outer rest awaits room ends
    simp only [List.cons_append, List.append_assoc, List.nil_append]
    refine (leads_openBracket awaits (around room) _).trans (.of_eq ?_)
    rw [run_blanks blank]
    exact run_token (by decide) rfl rfl
  | arr nonempty each ih =>
    intro state outer rest awaits room ends
    simp only [List.cons_append, List.append_assoc, List.nil_append]
    refine (leads_openBracket awaits (around room) _).trans ?_
    exact leads_items nonempty ih (awaits_firstItem outer) room rest
  | emptyObject blank =>
    intro state outer rest awaits room ends
    simp only [List.cons_append, List.append_assoc, List.nil_append]
    refine (leads_openBrace awaits (around room) _).trans (.of_eq ?_)
    rw [run_blanks blank]
    exact run_token (by decide) rfl rfl
  | obj nonempty keys each ih =>
    intro state outer rest awaits room ends
    simp only [List.cons_append, List.append_assoc, List.nil_append]
    refine (leads_openBrace awaits (around room) _).trans ?_
    have keyed : ∀ key, (State.reading .firstKey outer).step limits (.str key) =
        some (.reading (.colon [] key) outer) := fun _ => rfl
    exact leads_members nonempty paired keys ih keyed room rest

theorem leads_parse {longest : Nat} {alone : Bool} {value : Json} {text : String}
    (written : Written longest alone value text.toList) (short : longest ≤ limits.digits ∨ mayFail)
    (paired : alone = false ∨ mayFail) (shallow : value.depth ≤ limits.depth ∨ mayFail) :
    Leads mayFail (parse limits text) (.ok value) := by
  have read := reads_of_written written short paired (.reading .value []) [] []
    (awaits_value []) (by simpa using shallow) nofun
  rw [List.append_nil] at read
  refine read.trans (.of_eq ?_)
  rw [run_eq]
  rfl

theorem parse_of_written {value : Json} {text : String}
    (written : Written limits.digits false value text.toList)
    (shallow : value.depth ≤ limits.depth) : parse limits text = .ok value := by
  have never : Leads False (parse limits text) (.ok value) :=
    leads_parse written (.inl (Nat.le_refl _)) (.inl rfl) (.inl shallow)
  exact never.resolve_right fun ⟨fails, _⟩ => fails

theorem eq_of_parse {longest : Nat} {alone : Bool} {value other : Json} {text : String}
    (written : Written longest alone value text.toList) (read : parse limits text = .ok other) :
    other = value := by
  obtain same | ⟨-, flaw, failed⟩ : Leads True (parse limits text) (.ok value) :=
    leads_parse written (.inr trivial) (.inr trivial) (.inr trivial)
  · rw [read] at same
    exact Except.ok.inj same
  · rw [read] at failed
    cases failed

end Run

end DreamDoc.Json
