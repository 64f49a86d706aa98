import DreamDoc.Dump.Integer
import DreamDoc.Proofs.JsonTexts
import Mathlib.Data.List.TakeWhile

namespace DreamDoc.Dump

open Json (isWhole digitsValue)

/-- Digits with single underscores between some of them. -/
inductive Grouped : List Char → List Char → Prop
  | last {c : Char} (digit : c.isDigit) : Grouped [c] [c]
  | next {c : Char} {text digits : List Char} (digit : c.isDigit) (rest : Grouped text digits) :
    Grouped (c :: text) (c :: digits)
  | apart {c : Char} {text digits : List Char} (digit : c.isDigit) (rest : Grouped text digits) :
    Grouped (c :: '_' :: text) (c :: digits)

inductive LeadingZeros : List Char → Prop
  | missing : LeadingZeros []
  | given {pad : List Char} (padding : ∀ c ∈ pad, c = '0' ∨ c = '_') : LeadingZeros ('0' :: pad)

/-- A fraction that changes nothing. -/
inductive NullFraction : List Char → Prop
  | missing : NullFraction []
  | zeros (count : Nat) : NullFraction ('.' :: List.replicate (count + 1) '0')

/-- A number with a sign and digits. A minus may come late, behind zeros. -/
inductive NumberText : Bool → List Char → List Char → Prop
  | usual {negative : Bool} {sign zeros text digits fraction : List Char}
    (signed : (sign, negative) ∈ [([], false), (['+'], false), (['-'], true)])
    (leading : LeadingZeros zeros) (grouped : Grouped text digits) (null : NullFraction fraction) :
    NumberText negative digits (sign ++ (zeros ++ (text ++ fraction)))
  | late {sign zeros gap text digits fraction : List Char} (signed : sign ∈ [[], ['+']])
    (leading : LeadingZeros zeros) (nonempty : zeros ≠ []) (gapped : gap ∈ [[], ['_']])
    (grouped : Grouped text digits) (null : NullFraction fraction) :
    NumberText true digits (sign ++ (zeros ++ '-' :: (gap ++ text ++ fraction)))

/-- A text denotes an integer: a number with white space around it, without too many digits. -/
inductive IntegerText : List Char → Int → Prop
  | mk {negative : Bool} {digits before core after : List Char}
    (blankBefore : ∀ c ∈ before, Text.isWhiteSpace c)
    (blankAfter : ∀ c ∈ after, Text.isWhiteSpace c) (number : NumberText negative digits core)
    (whole : isWhole digits) (short : digits.length ≤ limits.digits) :
    IntegerText (before ++ core ++ after)
      (if negative then -(digitsValue digits : Int) else digitsValue digits)

/-! ## Digits and underscores -/

namespace Grouped

variable {text digits : List Char}

theorem decimal (grouped : Grouped text digits) : ∀ c ∈ digits, c.isDigit := by
  induction grouped with
  | last digit => simpa using digit
  | next digit _ ih => simpa using ⟨digit, ih⟩
  | apart digit _ ih => simpa using ⟨digit, ih⟩

theorem chars (grouped : Grouped text digits) : ∀ c ∈ text, c.isDigit ∨ c = '_' := by
  induction grouped with
  | last digit => simpa using .inl digit
  | next digit _ ih => simpa using ⟨.inl digit, ih⟩
  | apart digit _ ih => simpa using ⟨.inl digit, ih⟩

theorem dropUnderscores (grouped : Grouped text digits) (due : Bool) :
    dropUnderscores due text = some digits := by
  have bare {c : Char} (digit : c.isDigit) : c ≠ '_' := Json.ne_of_isDigit digit (by decide)
  induction grouped generalizing due with
  | last digit => simp [Dump.dropUnderscores, bare digit]
  | next digit _ ih => simp [Dump.dropUnderscores, bare digit, ih]
  | apart digit _ ih => simp [Dump.dropUnderscores, bare digit, ih]

theorem of_digits (nonempty : digits ≠ []) (decimal : ∀ c ∈ digits, c.isDigit) :
    Grouped digits digits := by
  induction digits with
  | nil => contradiction
  | cons c rest ih =>
    simp only [List.forall_mem_cons] at decimal
    by_cases empty : rest = []
    · exact empty ▸ .last decimal.1
    · exact .next decimal.1 (ih empty decimal.2)

end Grouped

theorem grouped_of_dropUnderscores {due : Bool} {text digits : List Char}
    (dropped : dropUnderscores due text = some digits) (decimal : ∀ c ∈ digits, c.isDigit) :
    (due = false ∧ text = [] ∧ digits = []) ∨
      ∃ gap ∈ [[], ['_']], (due = true → gap = []) ∧ ∃ body, text = gap ++ body ∧
        Grouped body digits := by
  induction text generalizing due digits with
  | nil =>
    cases due
    · simp_all [dropUnderscores]
    · simp [dropUnderscores] at dropped
  | cons c rest ih =>
    by_cases bar : c = '_'
    · subst bar
      cases due with
      | true => simp [dropUnderscores] at dropped
      | false =>
        simp only [dropUnderscores, ↓reduceIte, Bool.false_eq_true] at dropped
        obtain ⟨impossible, -⟩ | ⟨gap, -, none, body, rfl, grouped⟩ := ih dropped decimal
        · cases impossible
        · exact .inr ⟨['_'], by simp, nofun, body, by simp [none rfl], grouped⟩
    · simp only [dropUnderscores, if_neg bar, Option.map_eq_some_iff] at dropped
      obtain ⟨tail, dropped, rfl⟩ := dropped
      simp only [List.forall_mem_cons] at decimal
      refine .inr ⟨[], by simp, fun _ => rfl, c :: rest, rfl, ?_⟩
      obtain ⟨-, rfl, rfl⟩ | ⟨gap, member, -, body, rfl, grouped⟩ := ih dropped decimal.2
      · exact .last decimal.1
      · simp only [List.mem_cons, List.not_mem_nil, or_false] at member
        obtain rfl | rfl := member
        · exact .next decimal.1 grouped
        · exact .apart decimal.1 grouped

/-! ## Zeros and fractions -/

theorem skipZeros_eq_some {last : Char} {rest kept : List Char}
    (skipped : skipZeros last rest = some kept) (zero : last = '0' ∨ last = '_') :
    ∃ zeros, (∀ c ∈ zeros, c = '0' ∨ c = '_') ∧ last :: rest = zeros ++ kept := by
  fun_induction skipZeros last rest with
  | case1 last => exact ⟨[], nofun, by simpa using skipped⟩
  | case2 last c rest again ih =>
    obtain ⟨zeros, padding, split⟩ := ih skipped again
    exact ⟨last :: zeros, by simpa using ⟨zero, padding⟩, by rw [split, List.cons_append]⟩
  | case3 last c rest => exact ⟨[], nofun, by simpa using skipped⟩
  | case4 last c rest => exact ⟨[last], by simpa using zero, by simpa using skipped⟩
  | case5 => cases skipped

theorem dropZeros_eq_some {text kept : List Char} (dropped : dropZeros text = some kept) :
    ∃ zeros, LeadingZeros zeros ∧ text = zeros ++ kept := by
  cases text with
  | nil => cases dropped
  | cons c rest =>
    by_cases zero : c = '0'
    · subst zero
      simp only [dropZeros, ↓reduceIte] at dropped
      obtain ⟨zeros, padding, split⟩ := skipZeros_eq_some dropped (.inl rfl)
      refine ⟨zeros, ?_, split⟩
      cases zeros with
      | nil => exact .missing
      | cons first pad =>
        obtain ⟨rfl, -⟩ := List.cons_eq_cons.mp split
        exact .given fun c member => padding c (List.mem_cons_of_mem _ member)
    · simp only [dropZeros, if_neg zero, Option.ite_none_right_eq_some, Option.some.injEq] at dropped
      exact ⟨[], .missing, dropped.2⟩

inductive Settled : List Char → Prop
  | number {c : Char} {rest : List Char} (starts : startsNumber c) : Settled (c :: rest)
  | zero {fraction : List Char} (null : NullFraction fraction) : Settled ('0' :: fraction)

theorem skipZeros_settled {zeros kept : List Char} (padding : ∀ c ∈ zeros, c = '0' ∨ c = '_')
    (settled : Settled kept) (last : Char) : skipZeros last (zeros ++ kept) = some kept := by
  induction zeros generalizing last with
  | nil =>
    cases settled with
    | number starts =>
      rename_i c rest
      have other : ¬(c = '0' ∨ c = '_') ∧ c ≠ '.' := by
        refine ⟨?_, ?_⟩
        · rintro (rfl | rfl) <;> simp [startsNumber] at starts
        · rintro rfl
          simp [startsNumber] at starts
      simp [skipZeros, other, starts]
    | zero null => cases null <;> simp [skipZeros]
  | cons c rest ih =>
    simp only [List.forall_mem_cons] at padding
    rw [List.cons_append, skipZeros, if_pos padding.1, ih padding.2]

theorem dropZeros_settled {zeros kept : List Char} (leading : LeadingZeros zeros)
    (settled : Settled kept) : dropZeros (zeros ++ kept) = some kept := by
  cases leading with
  | given padding => simpa [dropZeros] using skipZeros_settled padding settled '0'
  | missing =>
    cases settled with
    | number starts =>
      rename_i c rest
      have other : c ≠ '0' := by
        rintro rfl
        simp [startsNumber] at starts
      simp [dropZeros, other, starts]
    | zero null => cases null <;> simp [dropZeros, skipZeros]

theorem isNullFraction_iff {fraction : List Char} :
    isNullFraction fraction ↔ NullFraction fraction := by
  constructor
  · intro null
    match fraction with
    | [] => exact .missing
    | point :: zeros =>
      simp only [isNullFraction, ne_eq, Bool.and_eq_true, decide_eq_true_eq, List.all_eq_true] at null
      obtain ⟨⟨rfl, some⟩, zero⟩ := null
      have replicated := List.eq_replicate_of_mem zero
      obtain ⟨count, length⟩ := Nat.exists_eq_succ_of_ne_zero (mt List.length_eq_zero_iff.mp some)
      rw [length] at replicated
      exact replicated ▸ .zeros count
  · intro null
    cases null <;> simp [isNullFraction]

theorem dropFraction_eq_some {text number : List Char} (dropped : dropFraction text = some number) :
    ∃ fraction, NullFraction fraction ∧ text = number ++ fraction := by
  simp only [dropFraction, Option.ite_none_right_eq_some, Option.some.injEq] at dropped
  obtain ⟨null, rfl⟩ := dropped
  exact ⟨_, isNullFraction_iff.mp null, List.takeWhile_append_dropWhile.symm⟩

theorem dropFraction_append {number fraction : List Char} (pointless : ∀ c ∈ number, c ≠ '.')
    (null : NullFraction fraction) : dropFraction (number ++ fraction) = some number := by
  have kept : ∀ c ∈ number, decide (c ≠ '.') = true := by simpa using pointless
  rw [dropFraction, List.takeWhile_append_of_pos kept, List.dropWhile_append_of_pos kept]
  cases null <;> simp [isNullFraction]

/-! ## Numbers -/

theorem tidyUnsigned_eq_some {text tidied : List Char} (tidy : tidyUnsigned text = some tidied) :
    ∃ zeros number fraction, LeadingZeros zeros ∧ NullFraction fraction ∧
      dropUnderscores true number = some tidied ∧ text = zeros ++ (number ++ fraction) := by
  simp only [tidyUnsigned, Option.bind_eq_bind, Option.bind_eq_some_iff] at tidy
  obtain ⟨kept, zerosDropped, number, fractionDropped, dropped⟩ := tidy
  obtain ⟨zeros, leading, rfl⟩ := dropZeros_eq_some zerosDropped
  obtain ⟨fraction, null, rfl⟩ := dropFraction_eq_some fractionDropped
  exact ⟨zeros, number, fraction, leading, null, dropped, rfl⟩

theorem tidyUnsigned_append {zeros number fraction : List Char} (leading : LeadingZeros zeros)
    (settled : Settled (number ++ fraction)) (pointless : ∀ c ∈ number, c ≠ '.')
    (null : NullFraction fraction) :
    tidyUnsigned (zeros ++ (number ++ fraction)) = dropUnderscores true number := by
  simp [tidyUnsigned, dropZeros_settled leading settled, dropFraction_append pointless null]

theorem startsNumber_of_isDigit {c : Char} (digit : c.isDigit) (nonzero : c ≠ '0') :
    startsNumber c := by
  have low : c.val.toNat ≠ 48 := fun same => nonzero (Char.ext (UInt32.toNat_inj.mp same))
  simp only [Char.isDigit, startsNumber, Bool.or_eq_true, Bool.and_eq_true, decide_eq_true_eq,
    Char.le_def, ge_iff_le, UInt32.le_iff_toNat_le] at digit ⊢
  exact .inr ⟨Nat.lt_of_le_of_ne digit.1 low.symm, digit.2⟩

theorem Grouped.settled {text digits fraction : List Char} (grouped : Grouped text digits)
    (whole : isWhole digits) (null : NullFraction fraction) : Settled (text ++ fraction) := by
  have nonzero {c : Char} {digits : List Char} (more : digits ≠ []) (whole : isWhole (c :: digits)) :
      c ≠ '0' := by
    rintro rfl
    simp_all [isWhole]
  cases grouped with
  | last digit =>
    rename_i c
    by_cases zero : c = '0'
    · exact zero ▸ .zero null
    · exact .number (startsNumber_of_isDigit digit zero)
  | next digit rest =>
    exact .number (startsNumber_of_isDigit digit (nonzero (by cases rest <;> simp) whole))
  | apart digit rest =>
    exact .number (startsNumber_of_isDigit digit (nonzero (by cases rest <;> simp) whole))

theorem tidy_of_isDigit {c : Char} (digit : c.isDigit) (rest : List Char) :
    tidy (c :: rest) = tidyUnsigned (c :: rest) ∧
      tidy ('+' :: c :: rest) = tidyUnsigned (c :: rest) := by
  have plus : c ≠ '+' := Json.ne_of_isDigit digit (by decide)
  have minus : c ≠ '-' := Json.ne_of_isDigit digit (by decide)
  constructor
  · unfold tidy
    split <;> simp_all
  · unfold tidy
    split <;> simp_all

theorem LeadingZeros.exists_digit {zeros text digits : List Char} (leading : LeadingZeros zeros)
    (grouped : Grouped text digits) (fraction : List Char) :
    ∃ c rest, zeros ++ (text ++ fraction) = c :: rest ∧ c.isDigit := by
  cases leading with
  | given => exact ⟨'0', _, rfl, rfl⟩
  | missing =>
    cases grouped with
    | last digit => exact ⟨_, _, rfl, digit⟩
    | next digit => exact ⟨_, _, rfl, digit⟩
    | apart digit => exact ⟨_, _, rfl, digit⟩

theorem NumberText.tidy {negative : Bool} {digits core : List Char}
    (number : NumberText negative digits core) (whole : isWhole digits) :
    tidy core = some ((if negative then ['-'] else []) ++ digits) := by
  have pointless {c : Char} (char : c.isDigit ∨ c = '_') : c ≠ '.' := by
    rintro rfl
    simp at char
  cases number with
  | usual signed leading grouped null =>
    rename_i sign zeros text fraction
    have tidied := tidyUnsigned_append leading (grouped.settled whole null)
      (fun c member => pointless (grouped.chars c member)) null
    rw [grouped.dropUnderscores] at tidied
    obtain ⟨c, rest, starts, digit⟩ := leading.exists_digit grouped fraction
    rw [starts] at tidied ⊢
    simp only [List.mem_cons, Prod.mk.injEq, List.not_mem_nil, or_false] at signed
    obtain ⟨rfl, rfl⟩ | ⟨rfl, rfl⟩ | ⟨rfl, rfl⟩ := signed
    · simpa [(tidy_of_isDigit digit rest).1] using tidied
    · simpa [(tidy_of_isDigit digit rest).2] using tidied
    · simp [Dump.tidy, tidied]
  | late signed leading nonempty gapped grouped null =>
    rename_i sign zeros gap text fraction
    have tidied : tidyUnsigned (zeros ++ ('-' :: (gap ++ text) ++ fraction)) =
        dropUnderscores true ('-' :: (gap ++ text)) := by
      apply tidyUnsigned_append leading (.number rfl) _ null
      simp only [List.mem_cons, List.not_mem_nil, or_false] at gapped
      obtain rfl | rfl := gapped <;>
        simpa using fun c member => pointless (grouped.chars c member)
    have dropped : dropUnderscores true ('-' :: (gap ++ text)) = some ('-' :: digits) := by
      simp only [List.mem_cons, List.not_mem_nil, or_false] at gapped
      obtain rfl | rfl := gapped <;> simp [dropUnderscores, grouped.dropUnderscores]
    cases leading with
    | missing => exact absurd rfl nonempty
    | given padding =>
      rename_i pad
      have zero : '0'.isDigit := rfl
      have first := tidy_of_isDigit zero (pad ++ '-' :: (gap ++ text ++ fraction))
      rw [dropped] at tidied
      simp only [List.mem_cons, List.not_mem_nil, or_false] at signed
      obtain rfl | rfl := signed
      · exact first.1.trans tidied
      · exact first.2.trans tidied

theorem numberText_of_digits {text digits sign : List Char} {negative : Bool}
    (tidied : tidyUnsigned text = some digits) (decimal : ∀ c ∈ digits, c.isDigit)
    (signed : (sign, negative) ∈ [([], false), (['+'], false), (['-'], true)]) :
    NumberText negative digits (sign ++ text) := by
  obtain ⟨zeros, number, fraction, leading, null, dropped, rfl⟩ := tidyUnsigned_eq_some tidied
  obtain ⟨impossible, -⟩ | ⟨gap, -, none, body, rfl, grouped⟩ :=
    grouped_of_dropUnderscores dropped decimal
  · cases impossible
  · rw [none rfl, List.nil_append]
    exact .usual signed leading grouped null

theorem numberText_of_minus {text digits sign : List Char}
    (tidied : tidyUnsigned text = some ('-' :: digits)) (nonempty : digits ≠ [])
    (decimal : ∀ c ∈ digits, c.isDigit) (minus : ∀ rest, text ≠ '-' :: rest)
    (signed : sign ∈ [[], ['+']]) : NumberText true digits (sign ++ text) := by
  obtain ⟨zeros, number, fraction, leading, null, dropped, rfl⟩ := tidyUnsigned_eq_some tidied
  cases number with
  | nil => cases dropped
  | cons c rest =>
    by_cases bar : c = '_'
    · simp [dropUnderscores, bar] at dropped
    · simp only [dropUnderscores, if_neg bar, Option.map_eq_some_iff, List.cons.injEq] at dropped
      obtain ⟨_, dropped, rfl, rfl⟩ := dropped
      obtain ⟨-, -, impossible⟩ | ⟨gap, gapped, -, body, rfl, grouped⟩ :=
        grouped_of_dropUnderscores dropped decimal
      · contradiction
      · refine .late signed leading ?_ gapped grouped null
        rintro rfl
        exact minus _ rfl

theorem numberText_of_tidy {negative : Bool} {digits core : List Char}
    (tidied : tidy core = some ((if negative then ['-'] else []) ++ digits))
    (nonempty : digits ≠ []) (decimal : ∀ c ∈ digits, c.isDigit) :
    NumberText negative digits core := by
  have unsigned {text sign : List Char} (minus : ∀ rest, text ≠ '-' :: rest)
      (signed : sign ∈ [[], ['+']])
      (tidied : tidyUnsigned text = some ((if negative then ['-'] else []) ++ digits)) :
      NumberText negative digits (sign ++ text) := by
    cases negative with
    | false => exact numberText_of_digits tidied decimal (by simpa using signed)
    | true => exact numberText_of_minus tidied nonempty decimal minus signed
  unfold tidy at tidied
  split at tidied
  · cases tidied
  · rename_i text minus
    have plus : ['+'] ∈ [[], ['+']] := by decide
    exact unsigned minus plus tidied
  · rename_i text
    obtain ⟨rest, cleaned, same⟩ := Option.map_eq_some_iff.mp tidied
    cases negative with
    | false =>
      have inside : '-' ∈ digits := by
        rw [show digits = '-' :: rest from same.symm]
        exact List.mem_cons_self
      exact absurd (decimal '-' inside) (by decide)
    | true =>
      obtain ⟨-, rfl⟩ := List.cons_eq_cons.mp same
      have minus : (['-'], true) ∈ [([], false), (['+'], false), (['-'], true)] := by decide
      exact numberText_of_digits cleaned decimal minus
  · rename_i plus minus
    have none : [] ∈ [[], ['+']] := by decide
    exact unsigned minus none tidied

/-! ## Plain spellings -/

theorem plainInteger_digits {digits : List Char} (negative : Bool)
    (decimal : ∀ c ∈ digits, c.isDigit) (whole : isWhole digits)
    (short : digits.length ≤ limits.digits) :
    plainInteger ((if negative then ['-'] else []) ++ digits) =
      .ok (if negative then -(digitsValue digits : Int) else digitsValue digits) := by
  have taken : digits.takeWhile Char.isDigit = digits := List.takeWhile_eq_self_iff.mpr decimal
  cases negative with
  | true => simp [plainInteger, taken, whole, Nat.not_lt.mpr short]
  | false =>
    cases digits with
    | nil => simp [isWhole] at whole
    | cons c rest =>
      have unsigned : c ≠ '-' := Json.ne_of_isDigit (decimal c List.mem_cons_self) (by decide)
      simpa [plainInteger, taken, whole, unsigned] using fun _ => short

theorem plainInteger_cases (text : List Char) :
    ∃ (negative : Bool) (digits rest : List Char),
      text = (if negative then ['-'] else []) ++ (digits ++ rest) ∧
      (∀ c ∈ digits, c.isDigit) ∧
      plainInteger text =
        if digits.head? ≠ some '0' ∧ limits.digits < digits.length then .error .tooLarge
        else if rest = [] ∧ isWhole digits then
          .ok (if negative then -(digitsValue digits : Int) else digitsValue digits)
        else .error .notIntegerText := by
  have ended (body : List Char) :
      body.takeWhile Char.isDigit = body ↔ body.dropWhile Char.isDigit = [] := by
    rw [List.takeWhile_eq_self_iff, List.dropWhile_eq_nil_iff]
  by_cases minus : ∃ body, text = '-' :: body
  · obtain ⟨body, rfl⟩ := minus
    refine ⟨true, body.takeWhile Char.isDigit, body.dropWhile Char.isDigit, ?_, ?_, ?_⟩
    · simp
    · exact fun c member => List.mem_takeWhile_imp member
    · simp only [plainInteger, ended]
  · refine ⟨false, text.takeWhile Char.isDigit, text.dropWhile Char.isDigit, ?_, ?_, ?_⟩
    · simp
    · exact fun c member => List.mem_takeWhile_imp member
    · rw [plainInteger.eq_def]
      split
      rename_i read
      split at read
      · exact absurd ⟨_, rfl⟩ minus
      · cases read
        simp only [ended]

theorem plainInteger_eq_ok {text : List Char} {n : Int} (read : plainInteger text = .ok n) :
    ∃ (negative : Bool) (digits : List Char), text = (if negative then ['-'] else []) ++ digits ∧
      (∀ c ∈ digits, c.isDigit) ∧ isWhole digits ∧ digits.length ≤ limits.digits ∧
      n = if negative then -(digitsValue digits : Int) else digitsValue digits := by
  obtain ⟨negative, digits, rest, split, decimal, outcome⟩ := plainInteger_cases text
  rw [outcome] at read
  split at read
  · cases read
  · rename_i small
    split at read
    · rename_i proper
      obtain ⟨rfl, whole⟩ := proper
      refine ⟨negative, digits, by simpa using split, decimal, whole, ?_, by cases read; rfl⟩
      by_cases zero : digits = ['0']
      · rw [zero]
        decide
      · have proper : digits ≠ [] ∧ digits.head? ≠ some '0' := by simpa [isWhole, zero] using whole
        exact Nat.not_lt.mp fun large => small ⟨proper.2, large⟩
    · cases read

/-- A plain spelling with too many digits, whatever follows them. -/
def Overlong (text : List Char) : Prop :=
  ∃ (negative : Bool) (digits rest : List Char),
    text = (if negative then ['-'] else []) ++ (digits ++ rest) ∧ (∀ c ∈ digits, c.isDigit) ∧
      digits.head? ≠ some '0' ∧ limits.digits < digits.length

theorem plainInteger_eq_error {text : List Char} {cause : Cause}
    (read : plainInteger text = .error cause) :
    cause = .notIntegerText ∨ cause = .tooLarge ∧ Overlong text := by
  obtain ⟨negative, digits, rest, split, decimal, outcome⟩ := plainInteger_cases text
  rw [outcome] at read
  split at read
  · rename_i large
    cases read
    exact .inr ⟨rfl, negative, digits, rest, split, decimal, large⟩
  · split at read
    · cases read
    · cases read
      exact .inl rfl

/-! ## White space -/

theorem trim_split (drop : Char → Bool) (text : List Char) :
    ∃ before after, (∀ c ∈ before, drop c) ∧ (∀ c ∈ after, drop c) ∧
      text = before ++ Text.trim drop text ++ after := by
  let inner := text.dropWhile drop
  refine ⟨text.takeWhile drop, (inner.reverse.takeWhile drop).reverse, ?_, ?_, ?_⟩
  · exact fun c member => List.mem_takeWhile_imp member
  · exact fun c member => List.mem_takeWhile_imp (List.mem_reverse.mp member)
  · rw [Text.trim, List.append_assoc, ← List.reverse_append, List.takeWhile_append_dropWhile,
      List.reverse_reverse, List.takeWhile_append_dropWhile]

theorem dropWhile_append_of_clean {drop : Char → Bool} {core : List Char}
    (clean : ∀ c ∈ core, drop c = false) (nonempty : core ≠ []) (after : List Char) :
    (core ++ after).dropWhile drop = core ++ after := by
  cases core with
  | nil => contradiction
  | cons c rest => simp [clean c List.mem_cons_self]

theorem trim_append {drop : Char → Bool} {before core after : List Char}
    (blankBefore : ∀ c ∈ before, drop c) (blankAfter : ∀ c ∈ after, drop c)
    (clean : ∀ c ∈ core, drop c = false) (nonempty : core ≠ []) :
    Text.trim drop (before ++ core ++ after) = core := by
  have cleanReverse : ∀ c ∈ core.reverse, drop c = false := by simpa using clean
  rw [Text.trim, List.append_assoc, List.dropWhile_append_of_pos blankBefore,
    dropWhile_append_of_clean clean nonempty, List.reverse_append,
    List.dropWhile_append_of_pos (by simpa using blankAfter)]
  simpa using congrArg List.reverse
    (dropWhile_append_of_clean cleanReverse (by simpa using nonempty) [])

theorem isWhiteSpace_of_isDigit {c : Char} (digit : c.isDigit) : Text.isWhiteSpace c = false := by
  simp only [Char.isDigit, Bool.and_eq_true, decide_eq_true_eq, ge_iff_le, UInt32.le_iff_toNat_le]
    at digit
  have low : 48 ≤ c.toNat := digit.1
  have high : c.toNat ≤ 57 := digit.2
  simp only [Text.isWhiteSpace, Bool.or_eq_false_iff, Bool.and_eq_false_iff, decide_eq_false_iff_not]
  omega

theorem Grouped.clean {text digits : List Char} (grouped : Grouped text digits) :
    ∀ c ∈ text, Text.isWhiteSpace c = false := by
  intro c member
  obtain digit | rfl := grouped.chars c member
  · exact isWhiteSpace_of_isDigit digit
  · rfl

theorem LeadingZeros.clean {zeros : List Char} (leading : LeadingZeros zeros) :
    ∀ c ∈ zeros, Text.isWhiteSpace c = false := by
  cases leading with
  | missing => exact nofun
  | given padding =>
    refine List.forall_mem_cons.mpr ⟨rfl, fun c member => ?_⟩
    obtain rfl | rfl := padding c member <;> rfl

theorem NullFraction.clean {fraction : List Char} (null : NullFraction fraction) :
    ∀ c ∈ fraction, Text.isWhiteSpace c = false := by
  cases null with
  | missing => exact nofun
  | zeros count => simpa using ⟨rfl, rfl⟩

theorem clean_of_mark {mark : List Char} (known : mark ∈ [[], ['+'], ['-'], ['_']]) :
    ∀ c ∈ mark, Text.isWhiteSpace c = false := by
  simp only [List.mem_cons, List.not_mem_nil, or_false] at known
  obtain rfl | rfl | rfl | rfl := known
  · exact nofun
  all_goals exact List.forall_mem_singleton.mpr rfl

theorem NumberText.clean {negative : Bool} {digits core : List Char}
    (number : NumberText negative digits core) : ∀ c ∈ core, Text.isWhiteSpace c = false := by
  cases number with
  | usual signed leading grouped null =>
    simp only [List.forall_mem_append]
    exact ⟨clean_of_mark (by grind), leading.clean, grouped.clean, null.clean⟩
  | late signed leading nonempty gapped grouped null =>
    simp only [List.forall_mem_append, List.forall_mem_cons]
    exact ⟨clean_of_mark (by grind), leading.clean, rfl,
      ⟨clean_of_mark (by grind), grouped.clean⟩, null.clean⟩

/-! ## The digits of a plain spelling -/

theorem Grouped.length_le {text digits tail run rest : List Char} (grouped : Grouped text digits)
    (stops : ∀ c more, tail = c :: more → c.isDigit = false) (decimal : ∀ c ∈ run, c.isDigit)
    (same : text ++ tail = run ++ rest) : run.length ≤ digits.length := by
  induction grouped generalizing run with
  | last digit =>
    match run with
    | [] => simp
    | [_] => simp
    | _ :: d :: more =>
      simp only [List.cons_append, List.cons.injEq] at same
      have impossible := stops d _ same.2
      simp_all
  | next digit _ ih =>
    cases run with
    | nil => simp
    | cons c more =>
      simp only [List.cons_append, List.cons.injEq] at same
      simpa using ih (fun c member => decimal c (List.mem_cons_of_mem _ member)) same.2
  | apart digit _ ih =>
    match run with
    | [] => simp
    | [_] => simp
    | _ :: d :: more =>
      simp only [List.cons_append, List.cons.injEq] at same
      obtain ⟨-, rfl, -⟩ := same
      simp at decimal

theorem run_length_le {zeros text digits fraction after run rest : List Char}
    (leading : LeadingZeros zeros) (grouped : Grouped text digits) (null : NullFraction fraction)
    (blank : ∀ c ∈ after, Text.isWhiteSpace c) (decimal : ∀ c ∈ run, c.isDigit) (nonempty : run ≠ [])
    (nonzero : run.head? ≠ some '0')
    (same : zeros ++ (text ++ fraction) ++ after = run ++ rest) : run.length ≤ digits.length := by
  cases leading with
  | given padding =>
    obtain ⟨d, more, rfl⟩ := List.exists_cons_of_ne_nil nonempty
    simp only [List.cons_append, List.cons.injEq] at same
    exact absurd same.1.symm (by simpa using nonzero)
  | missing =>
    rw [List.nil_append, List.append_assoc] at same
    refine grouped.length_le ?_ decimal same
    intro c more starts
    cases null with
    | zeros count =>
      obtain ⟨rfl, -⟩ := List.cons_eq_cons.mp starts
      rfl
    | missing =>
      rw [List.nil_append] at starts
      have white := blank c (starts ▸ List.mem_cons_self)
      exact Bool.eq_false_iff.mpr fun digit => by simp [isWhiteSpace_of_isDigit digit] at white

theorem IntegerText.not_overlong {text : List Char} {n : Int} (denotes : IntegerText text n) :
    ¬Overlong text := by
  rintro ⟨negative, run, rest, split, decimal, nonzero, large⟩
  obtain ⟨d, more, rfl⟩ : ∃ d more, run = d :: more :=
    List.exists_cons_of_ne_nil fun empty => by simp [empty] at large
  have digit := decimal d List.mem_cons_self
  have plus : '+' ≠ d := (Json.ne_of_isDigit digit (by decide)).symm
  have minus : '-' ≠ d := (Json.ne_of_isDigit digit (by decide)).symm
  have zero : '0' ≠ d := fun same => nonzero (congrArg some same.symm)
  cases denotes with
  | mk blankBefore blankAfter number whole short =>
    rename_i digits before core after
    have starts : before = [] := by
      cases before with
      | nil => rfl
      | cons b _ =>
        have white := blankBefore b List.mem_cons_self
        cases negative with
        | true =>
          obtain ⟨rfl, -⟩ : b = '-' ∧ _ := by simpa using split
          simp [Text.isWhiteSpace] at white
        | false =>
          obtain ⟨rfl, -⟩ : b = d ∧ _ := by simpa using split
          simp [isWhiteSpace_of_isDigit digit] at white
    subst starts
    -- The sign of the number is the sign of the plain spelling.
    cases number with
    | usual signed leading grouped null =>
      rename_i sign zeros text fraction
      obtain ⟨c, body, starts, first⟩ := leading.exists_digit grouped fraction
      have same : zeros ++ (text ++ fraction) ++ after = d :: more ++ rest := by
        simp only [List.mem_cons, Prod.mk.injEq, List.not_mem_nil, or_false] at signed
        rw [starts] at split ⊢
        obtain ⟨rfl, rfl⟩ | ⟨rfl, rfl⟩ | ⟨rfl, rfl⟩ := signed <;> cases negative <;> simp_all
      have within := run_length_le leading grouped null blankAfter decimal (by simp) nonzero same
      omega
    | late signed leading nonempty gapped grouped null =>
      cases leading with
      | missing => exact absurd rfl nonempty
      | given padding =>
        simp only [List.mem_cons, List.not_mem_nil, or_false] at signed
        obtain rfl | rfl := signed <;> cases negative <;> simp_all

/-! ## All spellings -/

theorem NumberText.decimal {negative : Bool} {digits core : List Char}
    (number : NumberText negative digits core) : ∀ c ∈ digits, c.isDigit := by
  cases number with
  | usual _ _ grouped => exact grouped.decimal
  | late _ _ _ _ grouped => exact grouped.decimal

theorem IntegerText.tidy_trim {text : List Char} {n : Int} (denotes : IntegerText text n) :
    ∃ tidied, tidy (Text.trim Text.isWhiteSpace text) = some tidied ∧
      plainInteger tidied = .ok n := by
  cases denotes with
  | mk blankBefore blankAfter number whole short =>
    rename_i negative digits before core after
    have tidied := number.tidy whole
    have nonempty : core ≠ [] := by
      rintro rfl
      simp [tidy, tidyUnsigned, dropZeros] at tidied
    rw [trim_append blankBefore blankAfter number.clean nonempty]
    exact ⟨_, tidied, plainInteger_digits negative number.decimal whole short⟩

theorem integerText_of_plainInteger {text : List Char} {n : Int}
    (read : plainInteger text = .ok n) :
    IntegerText text n := by
  obtain ⟨negative, digits, rfl, decimal, whole, short, rfl⟩ := plainInteger_eq_ok read
  have nonempty : digits ≠ [] := by
    rintro rfl
    simp [isWhole] at whole
  have signed : ((if negative then ['-'] else []), negative) ∈
      [([], false), (['+'], false), (['-'], true)] := by
    cases negative <;> simp
  have number := NumberText.usual signed .missing (.of_digits nonempty decimal) .missing
  have blank : ∀ c ∈ ([] : List Char), Text.isWhiteSpace c := List.forall_mem_nil _
  simpa using IntegerText.mk blank blank number whole short

theorem integerText_of_tidy {text tidied : List Char} {n : Int}
    (cleaned : tidy (Text.trim Text.isWhiteSpace text) = some tidied)
    (read : plainInteger tidied = .ok n) : IntegerText text n := by
  obtain ⟨negative, digits, rfl, decimal, whole, short, rfl⟩ := plainInteger_eq_ok read
  have nonempty : digits ≠ [] := by
    rintro rfl
    simp [isWhole] at whole
  obtain ⟨before, after, blankBefore, blankAfter, split⟩ := trim_split Text.isWhiteSpace text
  rw [split]
  exact .mk blankBefore blankAfter (numberText_of_tidy cleaned nonempty decimal) whole short

theorem integerText_eq_ok_iff {text : String} {n : Int} :
    integerText text = .ok n ↔ IntegerText text.toList n := by
  constructor
  · intro read
    unfold integerText at read
    split at read
    · split at read
      · rename_i cleanedRead
        cases read
        obtain ⟨tidied, cleaned, read⟩ := Option.map_eq_some_iff.mp cleanedRead
        exact integerText_of_tidy cleaned read
      · cases read
    · exact integerText_of_plainInteger read
  · intro denotes
    obtain ⟨tidied, cleaned, read⟩ := denotes.tidy_trim
    unfold integerText
    split
    · simp [cleaned, read]
    · rename_i other
      cases plain : plainInteger text.toList with
      | ok m =>
        -- A plain spelling is its own tidied form.
        obtain ⟨_, again, reread⟩ := (integerText_of_plainInteger plain).tidy_trim
        rw [cleaned] at again
        cases again
        rw [← read, ← reread]
      | error cause =>
        obtain rfl | ⟨rfl, overlong⟩ := plainInteger_eq_error plain
        · exact absurd plain other
        · exact absurd overlong denotes.not_overlong

theorem integerText_eq_error {text : String} {cause : Cause}
    (refused : integerText text = .error cause) :
    (∀ n, ¬IntegerText text.toList n) ∧
      (cause = .notIntegerText ∨ cause = .tooLarge ∧ Overlong text.toList) := by
  constructor
  · intro n denotes
    rw [integerText_eq_ok_iff.mpr denotes] at refused
    cases refused
  · unfold integerText at refused
    split at refused
    · split at refused <;> cases refused
      exact .inl rfl
    · exact plainInteger_eq_error refused

end DreamDoc.Dump
