/-
This file holds the finite binary numbers of sixty-four bits and rounds exact quotients to them.
-/

namespace NetworkAutomation.Decimal

/-- Magnitudes below this bound are finite, and the bound itself stands for infinity. -/
def magnitudeBound : Nat := 2047 * Nat.pow 2 52

/--
A finite binary number is a sign and the bit pattern of its absolute value. The pattern holds the
exponent above the fifty-two bits of the fraction, so patterns are ordered as the values are.
-/
structure Binary where
  negative : Bool
  magnitude : Nat
  finite : magnitude < magnitudeBound
  deriving DecidableEq

namespace Binary

/-- The significand carries the hidden bit unless the exponent field is zero. -/
def significand (value : Binary) : Nat :=
  if value.magnitude < Nat.pow 2 52 then value.magnitude
  else value.magnitude % Nat.pow 2 52 + Nat.pow 2 52

/-- The absolute value is the significand times two to this power. -/
def exponent (value : Binary) : Int :=
  if value.magnitude < Nat.pow 2 52 then -1074
  else (value.magnitude / Nat.pow 2 52 : Nat) - 1075

def isZero (value : Binary) : Bool :=
  value.magnitude == 0

def negate (value : Binary) : Binary :=
  { value with negative := !value.negative }

/-- Two numbers agree when they are equal in value, so the two zeros agree. -/
def agrees (left right : Binary) : Bool :=
  left.magnitude == right.magnitude &&
    (left.negative == right.negative || left.magnitude == 0)

end Binary

/-- A quotient keeps its numerator above its denominator, and the denominator is positive. -/
structure Quotient where
  numerator : Nat
  denominator : Nat
  deriving DecidableEq

namespace Quotient

/-- This function multiplies by a power of a base, which may have a negative exponent. -/
def scale (quotient : Quotient) (base : Nat) (power : Int) : Quotient :=
  if power < 0 then
    { quotient with denominator := quotient.denominator * base.pow power.natAbs }
  else
    { quotient with numerator := quotient.numerator * base.pow power.natAbs }

def less (left right : Quotient) : Bool :=
  left.numerator * right.denominator < right.numerator * left.denominator

def atMost (left right : Quotient) : Bool :=
  left.numerator * right.denominator ≤ right.numerator * left.denominator

def wholePart (quotient : Quotient) : Nat :=
  quotient.numerator / quotient.denominator

/-- The nearest whole number is taken, and of two equally near ones the even one. -/
def nearest (quotient : Quotient) : Nat :=
  let whole := quotient.numerator / quotient.denominator
  let twice := 2 * (quotient.numerator % quotient.denominator)
  if twice < quotient.denominator then whole
  else if quotient.denominator < twice then whole + 1
  else whole + whole % 2

/-- A positive quotient lies between two to this power and twice that. -/
def floorLog2 (quotient : Quotient) : Int :=
  let estimate : Int := (quotient.numerator.log2 : Int) - quotient.denominator.log2
  let unit : Quotient := ⟨1, 1⟩
  if quotient.less (unit.scale 2 estimate) then estimate - 1 else estimate

/--
The significand is rounded at the last bit that the format keeps. Where the rounding reaches the
next power of two, the sum carries into the exponent field.
-/
def roundMagnitude (quotient : Quotient) : Nat :=
  if quotient.numerator = 0 then 0
  else
    let unitExponent := max (quotient.floorLog2 - 52) (-1074)
    (unitExponent + 1074).toNat * Nat.pow 2 52 + (quotient.scale 2 (-unitExponent)).nearest

end Quotient

namespace Binary

/-- The nearest finite number, or nothing where the quotient overflows. -/
def ofQuotient? (negative : Bool) (quotient : Quotient) : Option Binary :=
  if finite : quotient.roundMagnitude < magnitudeBound then
    some ⟨negative, quotient.roundMagnitude, finite⟩
  else none

/-- This is the exact absolute value. -/
def toQuotient (value : Binary) : Quotient :=
  Quotient.scale ⟨value.significand, 1⟩ 2 value.exponent

/-- The product is rounded once, and an overflow gives nothing. -/
def multiply? (left right : Binary) : Option Binary :=
  let leftQuotient := left.toQuotient
  let rightQuotient := right.toQuotient
  ofQuotient? (left.negative != right.negative)
    ⟨leftQuotient.numerator * rightQuotient.numerator,
      leftQuotient.denominator * rightQuotient.denominator⟩

/-- The quotient by a nonzero number is rounded once. -/
def divide? (left right : Binary) : Option Binary :=
  let leftQuotient := left.toQuotient
  let rightQuotient := right.toQuotient
  ofQuotient? (left.negative != right.negative)
    ⟨leftQuotient.numerator * rightQuotient.denominator,
      leftQuotient.denominator * rightQuotient.numerator⟩

def zero (negative : Bool) : Binary :=
  ⟨negative, 0, by decide⟩

end Binary

end NetworkAutomation.Decimal
