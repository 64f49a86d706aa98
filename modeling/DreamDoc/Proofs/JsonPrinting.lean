import DreamDoc.Json.Printer
import DreamDoc.Proofs.JsonTexts

namespace DreamDoc.Json

def shortEscaped : List Char := ['\x22', '\x5c', '\x08', '\x0c', '\n', '\r', '\t']

theorem charWritten_escape (c : Char) : CharWritten c (escape c) := by
  by_cases short : c ∈ shortEscaped
  · obtain ⟨letter, known, escaped⟩ :
        ∃ letter, simpleEscape? letter = some c ∧ escape c = ['\x5c', letter] := by
      simp only [shortEscaped, List.mem_cons, List.not_mem_nil, or_false] at short
      rcases short with rfl | rfl | rfl | rfl | rfl | rfl | rfl
      · exact ⟨'\x22', rfl, rfl⟩
      · exact ⟨'\x5c', rfl, rfl⟩
      · exact ⟨'b', rfl, rfl⟩
      · exact ⟨'f', rfl, rfl⟩
      · exact ⟨'n', rfl, rfl⟩
      · exact ⟨'r', rfl, rfl⟩
      · exact ⟨'t', rfl, rfl⟩
    rw [escaped]
    exact .short known
  · simp only [shortEscaped, List.mem_cons, List.not_mem_nil, or_false, not_or] at short
    by_cases control : c.toNat < 0x20
    · have units : ∀ n < 0x20, codeUnit? '0' '0' (hexChar (n / 16)) (hexChar (n % 16)) = some n ∧
          isHighSurrogate n = false ∧ isLowSurrogate n = false := by
        decide
      obtain ⟨digits, high, low⟩ := units c.toNat control
      simpa [escape, short, control] using CharWritten.unit digits high low
    · simpa [escape, short, control] using .plain (Nat.not_lt.mp control) short.1 short.2.1

theorem bodyWritten_escape {alone : Bool} (cs : List Char) :
    BodyWritten alone cs (cs.flatMap escape) := by
  induction cs with
  | nil => exact .nil
  | cons c cs ih => exact .cons (charWritten_escape c) ih

theorem digitsValue_toDigits (n : Nat) : digitsValue (Nat.toDigits 10 n) = n := by
  have same : digitsValue (Nat.toDigits 10 n) = Nat.ofDigitChars 10 (Nat.toDigits 10 n) 0 := by
    simp [digitsValue, Nat.ofDigitChars, Nat.mul_comm]
  rw [same, Nat.ofDigitChars_ten_toDigits]

theorem isWhole_toDigits (n : Nat) : isWhole (Nat.toDigits 10 n) := by
  induction n using Nat.strongRecOn with
  | ind n ih =>
    by_cases small : n < 10
    · have digits : ∀ n < 10, isWhole (Nat.toDigits 10 n) := by decide
      exact digits n small
    · have shorter := ih (n / 10) (by omega)
      have positive : digitsValue (Nat.toDigits 10 (n / 10)) ≠ 0 := by
        rw [digitsValue_toDigits]
        omega
      rw [Nat.toDigits_of_base_le (by decide) (by omega)]
      generalize Nat.toDigits 10 (n / 10) = digits at shorter positive
      cases digits with
      | nil => simp [isWhole] at shorter
      | cons first rest =>
        have nonzero : first ≠ '0' := by
          rintro rfl
          simp_all [isWhole, digitsValue]
        simp [isWhole, nonzero]

def digitCount (n : Int) : Nat := (Nat.toDigits 10 n.natAbs).length

theorem isDigit_toDigits (n : Nat) : ∀ c ∈ Nat.toDigits 10 n, c.isDigit := fun _ member =>
  Nat.isDigit_of_mem_toDigits (by decide) (by decide) member

theorem numeralWritten_printInt {longest : Nat} {n : Int} (short : digitCount n ≤ longest) :
    NumeralWritten longest (.integer n) (printInt n) := by
  have written (negative : Bool) {m : Nat} (short : (Nat.toDigits 10 m).length ≤ longest) :
      NumeralWritten longest (numeralOfParts negative (Nat.toDigits 10 m) [] none)
        ((if negative then ['-'] else []) ++ Nat.toDigits 10 m ++ [] ++ []) :=
    .mk (isWhole_toDigits m) (isDigit_toDigits m) short .missing .missing
  cases n with
  | ofNat n => simpa [printInt, numeralOfParts, digitsValue_toDigits] using written false short
  | negSucc n =>
    have negative := written true short
    rw [Int.natAbs_negSucc] at negative
    simpa [printInt, numeralOfParts, digitsValue_toDigits, Int.negSucc_eq] using negative

/-- The numerals of the value are integers of at most `longest` digits. -/
inductive Integral (longest : Nat) : Json → Prop
  | null : Integral longest .null
  | bool {b : Bool} : Integral longest (.bool b)
  | integer {n : Int} (short : digitCount n ≤ longest) : Integral longest (.num (.integer n))
  | str {s : String} : Integral longest (.str s)
  | arr {items : List Json} (each : ∀ item ∈ items, Integral longest item) :
    Integral longest (.arr items)
  | obj {members : List (String × Json)} (each : ∀ member ∈ members, Integral longest member.2) :
    Integral longest (.obj members)

section Integral

variable {longest : Nat}

@[simp]
theorem integral_null : Integral longest .null := .null

@[simp]
theorem integral_bool (b : Bool) : Integral longest (.bool b) := .bool

@[simp]
theorem integral_str (s : String) : Integral longest (.str s) := .str

@[simp]
theorem integral_integer {n : Int} :
    Integral longest (.num (.integer n)) ↔ digitCount n ≤ longest :=
  ⟨fun | .integer short => short, .integer⟩

@[simp]
theorem integral_arr {items : List Json} :
    Integral longest (.arr items) ↔ ∀ item ∈ items, Integral longest item :=
  ⟨fun | .arr each => each, .arr⟩

@[simp]
theorem integral_obj {members : List (String × Json)} :
    Integral longest (.obj members) ↔ ∀ member ∈ members, Integral longest member.2 :=
  ⟨fun | .obj each => each, .obj⟩

end Integral

theorem printItems_eq (items : List Json) :
    printItems items = Text.joinWith ',' (items.map print) := by
  induction items with
  | nil => simp [printItems, Text.joinWith]
  | cons item rest ih => cases rest <;> simp_all [printItems, Text.joinWith]

theorem printMembers_eq (members : List (String × Json)) :
    printMembers members = Text.joinWith ',' (members.map fun member =>
      printString member.1 ++ ':' :: member.2.print) := by
  induction members with
  | nil => simp [printMembers, Text.joinWith]
  | cons member rest ih => cases rest <;> simp_all [printMembers, Text.joinWith]

theorem keyWritten_printString {alone : Bool} (key : String) :
    KeyWritten alone key (printString key) :=
  ⟨[], key.toList.flatMap escape, [], nofun, bodyWritten_escape key.toList, nofun,
    by simp [printString]⟩

theorem written_print {longest : Nat} {alone : Bool} {value : Json}
    (integral : Integral longest value) : Written longest alone value value.print := by
  induction integral with
  | null => exact .word (by simp [namedValues, print])
  | bool => rename_i b; exact .word (by cases b <;> simp [namedValues, print])
  | integer short => exact .num (numeralWritten_printInt short)
  | str => exact .str (bodyWritten_escape _)
  | arr each ih =>
    rename_i items
    rw [print, printItems_eq]
    by_cases empty : items = []
    · rw [empty]
      exact .emptyArray (List.forall_mem_nil _)
    · have written := Written.arr (by simpa using empty) (by simpa using ih :
        ∀ item ∈ items.map fun item => (item, item.print), Written longest alone item.1 item.2)
      simpa [Function.comp_def] using written
  | obj each ih =>
    rename_i members
    rw [print, printMembers_eq]
    by_cases empty : members = []
    · rw [empty]
      exact .emptyObject (List.forall_mem_nil _)
    · let texts := members.map fun member : String × Json =>
        (⟨member.1, printString member.1, member.2, member.2.print⟩ : MemberText)
      have keys : ∀ member ∈ texts, KeyWritten alone member.key member.keyText := by
        intro member inside
        obtain ⟨source, -, rfl⟩ := List.mem_map.mp inside
        exact keyWritten_printString source.1
      have values : ∀ member ∈ texts, Written longest alone member.value member.valueText := by
        intro member inside
        obtain ⟨source, there, rfl⟩ := List.mem_map.mp inside
        exact ih source there
      simpa [texts, Function.comp_def] using Written.obj (by simpa [texts] using empty) keys values

theorem written_render {longest : Nat} {alone : Bool} {value : Json}
    (integral : Integral longest value) : Written longest alone value value.render.toList := by
  rw [render, String.toList_ofList]
  exact written_print integral

/-! ## The length of numerals -/

theorem digitsValue_lt {digits : List Char} (decimal : ∀ c ∈ digits, c.isDigit) :
    digitsValue digits < Nat.pow 10 digits.length := by
  have bound (digits : List Char) (decimal : ∀ c ∈ digits, c.isDigit) (start : Nat) :
      digits.foldl (fun value c => value * 10 + (c.toNat - '0'.toNat)) start <
        (start + 1) * Nat.pow 10 digits.length := by
    induction digits generalizing start with
    | nil => simp
    | cons c rest ih =>
      simp only [List.forall_mem_cons] at decimal
      have small : c.toNat - '0'.toNat ≤ 9 := by
        have digit := decimal.1
        simp only [Char.isDigit, Bool.and_eq_true, decide_eq_true_eq, UInt32.le_iff_toNat_le] at digit
        exact Nat.sub_le_of_le_add digit.2
      calc (c :: rest).foldl (fun value c => value * 10 + (c.toNat - '0'.toNat)) start
          < (start * 10 + (c.toNat - '0'.toNat) + 1) * Nat.pow 10 rest.length :=
            ih decimal.2 _
        _ ≤ ((start + 1) * 10) * Nat.pow 10 rest.length := Nat.mul_le_mul_right _ (by omega)
        _ = (start + 1) * Nat.pow 10 (rest.length + 1) := by
          rw [Nat.mul_assoc, Nat.mul_comm 10]
          rfl
  simpa [digitsValue] using bound digits decimal 0

theorem digitCount_le_of_written {longest : Nat} {n : Int} {text : List Char}
    (written : NumeralWritten longest (.integer n) text) : digitCount n ≤ longest := by
  generalize same : Numeral.integer n = numeral at written
  obtain @⟨negative, whole, fraction, _, _, exponent, proper, decimal, short, -, -⟩ := written
  have positive : 0 < whole.length := by
    rw [List.length_pos_iff]
    rintro rfl
    simp [isWhole] at proper
  have magnitude : n.natAbs = digitsValue whole := by
    unfold numeralOfParts at same
    split at same
    · cases same
      cases negative <;> simp
    · cases same
  have fits : (Nat.toDigits 10 (digitsValue whole)).length ≤ whole.length :=
    (Nat.length_toDigits_le_iff (by decide) positive).mpr (digitsValue_lt decimal)
  rw [digitCount, magnitude]
  exact Nat.le_trans fits short

theorem Integral.of_written {longest longer : Nat} {alone : Bool} {value : Json} {text : List Char}
    (written : Written longest alone value text) (integral : Integral longer value) :
    Integral longest value := by
  induction written with
  | padded _ _ _ ih => exact ih integral
  | word named =>
    simp only [namedValues, List.mem_cons, Prod.mk.injEq, List.not_mem_nil, or_false] at named
    obtain ⟨-, rfl⟩ | ⟨-, rfl⟩ | ⟨-, rfl⟩ | ⟨-, rfl⟩ | ⟨-, rfl⟩ | ⟨-, rfl⟩ := named
    · exact .null
    · exact .bool
    · exact .bool
    all_goals cases integral
  | num numeral =>
    cases integral with
    | integer => exact .integer (digitCount_le_of_written numeral)
  | str => exact .str
  | emptyArray => exact .arr (List.forall_mem_nil _)
  | arr _ _ ih =>
    cases integral with
    | arr each =>
      simp only [List.forall_mem_map] at each
      exact .arr (List.forall_mem_map.mpr fun item member => ih item member (each item member))
  | emptyObject => exact .obj (List.forall_mem_nil _)
  | obj _ _ _ ih =>
    cases integral with
    | obj each =>
      simp only [List.forall_mem_map] at each
      exact .obj (List.forall_mem_map.mpr fun member there => ih member there (each member there))

end DreamDoc.Json
