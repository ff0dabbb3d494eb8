/-
This file finds the shortest decimal that reads back as a given binary number.
-/

import NetworkAutomation.Decimal.Binary

namespace NetworkAutomation.Decimal

/-- A decimal is a whole number of digits times a power of ten. -/
structure Scaled where
  digits : Nat
  power : Int
  deriving DecidableEq

def Scaled.toQuotient (decimal : Scaled) : Quotient :=
  Quotient.scale ⟨decimal.digits, 1⟩ 10 decimal.power

/-- The number of decimal digits of a positive number. -/
def digitCount (value : Nat) : Nat :=
  (Nat.toDigits 10 value).length

/-- A positive quotient lies between ten to this power and ten times that. -/
def floorLog10 (quotient : Quotient) : Int :=
  if quotient.denominator ≤ quotient.numerator then
    (digitCount quotient.wholePart : Int) - 1
  else
    -(digitCount ((quotient.denominator - 1) / quotient.numerator) : Int)

namespace Binary

/-- Below a power of two the neighbour is only half as far away. -/
def lowerQuarters (value : Binary) : Nat :=
  if value.significand = Nat.pow 2 52 ∧ -1074 < value.exponent then 1 else 2

/-- The least quotient that could round to the number. -/
def lowerBound (value : Binary) : Quotient :=
  Quotient.scale ⟨4 * value.significand - value.lowerQuarters, 1⟩ 2 (value.exponent - 2)

/-- The greatest quotient that could round to the number. -/
def upperBound (value : Binary) : Quotient :=
  Quotient.scale ⟨4 * value.significand + 2, 1⟩ 2 (value.exponent - 2)

/-- A quotient reads back as the number inside its bounds, or on them for an even significand. -/
def admits (value : Binary) (quotient : Quotient) : Bool :=
  if value.significand % 2 = 0 then
    value.lowerBound.atMost quotient && quotient.atMost value.upperBound
  else
    value.lowerBound.less quotient && quotient.less value.upperBound

/--
On the grid of the given digit count, only the two neighbours of the number can be nearest to it.
Of two neighbours that read back, the nearer one is taken, and the even one at an exact tie.
-/
def onGrid? (value : Binary) (log : Int) (count : Nat) : Option Scaled :=
  let power := log - count + 1
  let scaled := value.toQuotient.scale 10 (-power)
  let below : Scaled := ⟨scaled.wholePart, power⟩
  let above : Scaled := ⟨scaled.wholePart + 1, power⟩
  match value.admits below.toQuotient, value.admits above.toQuotient with
  | true, true => some ⟨scaled.nearest, power⟩
  | true, false => some below
  | false, true => some above
  | false, false => none

/-- The first of the grids from the given digit count on that holds a decimal that reads back. -/
def searchGrids (value : Binary) (log : Int) (count : Nat) : Nat → Option Scaled
  | 0 => none
  | remaining + 1 =>
      match value.onGrid? log count with
      | some decimal => some decimal
      | none => searchGrids value log (count + 1) remaining

/-- The exact value always is a decimal, because a half is five tenths. -/
def exactDecimal (value : Binary) : Scaled :=
  if value.exponent < 0 then
    ⟨value.significand * Nat.pow 5 value.exponent.natAbs, value.exponent⟩
  else
    ⟨value.significand * Nat.pow 2 value.exponent.natAbs, 0⟩

/-- Trailing zeros move into the power of ten. -/
def dropTrailingZeros (decimal : Scaled) : Nat → Scaled
  | 0 => decimal
  | remaining + 1 =>
      if decimal.digits % 10 = 0 then
        dropTrailingZeros ⟨decimal.digits / 10, decimal.power + 1⟩ remaining
      else decimal

/-- Seventeen digits always suffice for a nonzero number. -/
def shortest (value : Binary) : Scaled :=
  if value.isZero then ⟨0, 0⟩
  else
    let found := (value.searchGrids (floorLog10 value.toQuotient) 1 17).getD value.exactDecimal
    dropTrailingZeros found (digitCount found.digits)

end Binary

end NetworkAutomation.Decimal
