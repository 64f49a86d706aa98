import DreamDoc.Dump.Verdict
import DreamDoc.Json.Token
import DreamDoc.Text.Blank

/-!
# Integers in a dump

An integer may be written as a JSON integer, as a boolean, as a number that has no fraction once
it is rounded to a double, or as a string. A string may have white space around it, a sign, zeros
in front, single underscores between its digits, and a fraction of zeros.
-/

namespace DreamDoc.Dump

def limits : Json.Limits := ⟨200, 4300⟩

def plainInteger (text : List Char) : Except Cause Int :=
  let (negative, digits) := match text with
    | '-' :: rest => (true, rest)
    | rest => (false, rest)
  let whole := digits.takeWhile Char.isDigit
  if whole.head? ≠ some '0' ∧ limits.digits < whole.length then .error .tooLarge
  else if whole = digits ∧ Json.isWhole whole then
    .ok (if negative then -(Json.digitsValue whole : Int) else Json.digitsValue whole)
  else .error .notIntegerText

def startsNumber (c : Char) : Bool := c = '-' || ('1' ≤ c && c ≤ '9')

/-- Skips zeros and underscores up to a digit or a minus sign; `last` is the last one skipped. It
stays before a point and at the end of the text. -/
def skipZeros (last : Char) : List Char → Option (List Char)
  | [] => some [last]
  | c :: rest =>
    if c = '0' ∨ c = '_' then skipZeros c rest
    else if c = '.' then some (last :: c :: rest)
    else if startsNumber c then some (c :: rest)
    else none

def dropZeros : List Char → Option (List Char)
  | [] => none
  | c :: rest =>
    if c = '0' then skipZeros c rest else if startsNumber c then some (c :: rest) else none

def isNullFraction : List Char → Bool
  | [] => true
  | point :: zeros => point = '.' && zeros ≠ [] && zeros.all (· = '0')

def dropFraction (text : List Char) : Option (List Char) :=
  if isNullFraction (text.dropWhile (· ≠ '.')) then some (text.takeWhile (· ≠ '.')) else none

def dropUnderscores (due : Bool) : List Char → Option (List Char)
  | [] => if due then none else some []
  | c :: rest =>
    if c = '_' then if due then none else dropUnderscores true rest
    else (dropUnderscores false rest).map (c :: ·)

def tidyUnsigned (text : List Char) : Option (List Char) := do
  let text ← dropZeros text
  let text ← dropFraction text
  dropUnderscores true text

def tidy : List Char → Option (List Char)
  | '+' :: '-' :: _ => none
  | '+' :: text => tidyUnsigned text
  | '-' :: text => (tidyUnsigned text).map ('-' :: ·)
  | text => tidyUnsigned text

/-- The integer that a string denotes. Only a string that needs no tidying is too large; of another
one nothing is said but that it denotes no integer. -/
def integerText (text : String) : Except Cause Int :=
  match plainInteger text.toList with
  | .error .notIntegerText =>
    match (tidy (Text.trim Text.isWhiteSpace text.toList)).map plainInteger with
    | some (.ok n) => .ok n
    | _ => .error .notIntegerText
  | outcome => outcome

def integerOfDecimal (d : Decimal) : Verdict Int :=
  match d.nearest with
  | none => .fail .notFinite
  | some double =>
    match double.toNat? with
    | none => .fail .fractional
    | some n =>
      if n < Nat.pow 2 63 then .accepted (if d.negative then -(n : Int) else n) else .fail .tooLarge

def integer : Json → Verdict Int
  | .num (.integer n) => .accepted n
  | .num (.decimal d) => integerOfDecimal d
  | .num .nan => .fail .notFinite
  | .num (.infinity _) => .fail .notFinite
  | .bool b => .accepted (if b then 1 else 0)
  | .str text => .ofExcept (integerText text)
  | _ => .fail .notInteger

end DreamDoc.Dump
