namespace DreamDoc

structure Decimal where
  negative : Bool
  digits : Nat
  exponent : Int
deriving DecidableEq

structure Binary where
  significand : Nat
  exponent : Int
deriving DecidableEq

namespace Binary

def toNat? (b : Binary) : Option Nat :=
  if 0 ≤ b.exponent then some (b.significand * Nat.pow 2 b.exponent.toNat)
  else
    let unit := Nat.pow 2 (-b.exponent).toNat
    if b.significand % unit = 0 then some (b.significand / unit) else none

def floor (b : Binary) : Nat :=
  if 0 ≤ b.exponent then b.significand * Nat.pow 2 b.exponent.toNat
  else b.significand / Nat.pow 2 (-b.exponent).toNat

end Binary

def roundHalfEven (numerator denominator : Nat) : Nat :=
  let quotient := numerator / denominator
  let twice := 2 * (numerator % denominator)
  if twice < denominator then quotient
  else if denominator < twice then quotient + 1
  else quotient + quotient % 2

def scaledQuotient (numerator denominator : Nat) (exponent : Int) : Nat :=
  if 0 ≤ exponent then roundHalfEven numerator (denominator * Nat.pow 2 exponent.toNat)
  else roundHalfEven (numerator * Nat.pow 2 (-exponent).toNat) denominator

/-- The exponent at which a positive quotient has 53 bits before the point, but never one below
the smallest exponent of a double. -/
def doubleExponent (numerator denominator : Nat) : Int :=
  let guess : Int := (numerator.log2 : Int) - denominator.log2 - 52
  let short :=
    if 0 ≤ guess then numerator < denominator * Nat.pow 2 (guess.toNat + 52)
    else numerator * Nat.pow 2 (-guess).toNat < denominator * Nat.pow 2 52
  max (-1074) (if short then guess - 1 else guess)

def nearestQuotient (numerator denominator : Nat) : Option Binary :=
  let exponent := doubleExponent numerator denominator
  let rounded : Binary := ⟨scaledQuotient numerator denominator exponent, exponent⟩
  if rounded.floor < Nat.pow 2 1024 then some rounded else none

namespace Decimal

/-- The magnitude of the nearest double; `none` if it is infinite. A number of 400 or more digits
before the point is beyond every double, and one with 400 or more zeros after the point is nearest
to zero, so that exponents of any size are harmless. -/
def nearest (d : Decimal) : Option Binary :=
  let size : Int := (Nat.toDigits 10 d.digits).length + d.exponent
  if d.digits = 0 ∨ size ≤ -400 then some ⟨0, 0⟩
  else if 400 ≤ size then none
  else if 0 ≤ d.exponent then nearestQuotient (d.digits * Nat.pow 10 d.exponent.toNat) 1
  else nearestQuotient d.digits (Nat.pow 10 (-d.exponent).toNat)

end Decimal

end DreamDoc
