/-
This file writes binary numbers as decimal text.
-/

import NetworkAutomation.Decimal.Shortest
import NetworkAutomation.Text.Numeral

namespace NetworkAutomation.Decimal

open NetworkAutomation.Text

/-- A spelling decides which decimals are written without an exponent. -/
structure Spelling where
  /-- Points at this place or before it need an exponent. -/
  leastPoint : Int
  /-- Points behind this place need an exponent. -/
  greatestPoint : Int

/-- Numbers from one hundred-thousandth up to ten to the sixteenth are written in full. -/
def plainSpelling : Spelling := ⟨-5, 16⟩

def zeros (count : Nat) : List Char :=
  List.replicate count '0'

/-- The digits with the point after the given number of them, which may lie outside the digits. -/
def positional (digits : List Char) (point : Int) : List Char :=
  if point ≤ 0 then '0' :: '.' :: (zeros point.natAbs ++ digits)
  else if (digits.length : Int) ≤ point then
    digits ++ zeros (point.natAbs - digits.length) ++ ['.', '0']
  else digits.take point.natAbs ++ '.' :: digits.drop point.natAbs

/-- One digit stands before the point, and no point stands behind a single digit. -/
def scientific (digits : List Char) (point : Int) : List Char :=
  let power := 'e' :: integerCharacters (point - 1)
  match digits with
  | first :: second :: rest => first :: '.' :: second :: (rest ++ power)
  | _ => digits ++ power

def Spelling.write (rule : Spelling) (decimal : Scaled) : List Char :=
  let digits := naturalCharacters decimal.digits
  let point := (digits.length : Int) + decimal.power
  if rule.leastPoint < point ∧ point ≤ rule.greatestPoint then positional digits point
  else scientific digits point

/-- A number is written with the fewest digits that read back, and zero keeps its sign. -/
def Binary.text (value : Binary) : String :=
  let characters := plainSpelling.write value.shortest
  String.ofList (if value.negative then '-' :: characters else characters)

end NetworkAutomation.Decimal
