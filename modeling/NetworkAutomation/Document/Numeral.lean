/-
This file reads the numbers of document text.
-/

import NetworkAutomation.Document.Basic
import NetworkAutomation.Text.Numeral

namespace NetworkAutomation.Numeral

open NetworkAutomation.Decimal NetworkAutomation.Text

/-- Significands are kept in words of sixty-four bits. -/
def significandMax : Nat := 18446744073709551615

def isDigit (character : Char) : Bool :=
  (digitValue? character).isSome

/-- A run of digits is taken into the significand for as long as it fits. -/
structure Run where
  significand : Nat
  taken : Nat
  rest : List Char

def takeDigits (significand taken : Nat) : List Char → Run
  | [] => ⟨significand, taken, []⟩
  | character :: rest =>
      match digitValue? character with
      | some digit =>
          if 10 * significand + digit ≤ significandMax then
            takeDigits (10 * significand + digit) (taken + 1) rest
          else ⟨significand, taken, character :: rest⟩
      | none => ⟨significand, taken, character :: rest⟩

/-- Powers of ten are themselves rounded before they are used. -/
def powerOfTen? (power : Nat) : Option Binary :=
  Binary.ofQuotient? false ⟨Nat.pow 10 power, 1⟩

/-- One rounded operation suffices for powers up to this one. -/
def greatestPower : Nat := 308

/-- Large negative powers are applied in steps, each of which is rounded. -/
def scaleDown (value : Binary) (power : Nat) : Nat → Option Binary
  | 0 => some value
  | steps + 1 =>
      if power ≤ greatestPower then do
        value.divide? (← powerOfTen? power)
      else if value.isZero then some value
      else do
        scaleDown (← value.divide? (← powerOfTen? greatestPower)) (power - greatestPower) steps

/-- The significand is rounded first and then scaled, and an overflow gives nothing. -/
def approximate? (significand : Nat) (power : Int) : Option Binary := do
  let value ← Binary.ofQuotient? false ⟨significand, 1⟩
  if power < 0 then
    scaleDown value power.natAbs (power.natAbs / greatestPower + 1)
  else if power.natAbs ≤ greatestPower then
    value.multiply? (← powerOfTen? power.natAbs)
  else if value.isZero then some value
  else none

/-- An exponent is a sign and at least one digit. -/
def readExponent? (characters : List Char) : Option (Int × List Char) :=
  let (negative, digits) := match characters with
    | '+' :: rest => (false, rest)
    | '-' :: rest => (true, rest)
    | rest => (false, rest)
  match natural? (digits.takeWhile isDigit) with
  | some value => some (if negative then -value else value, digits.dropWhile isDigit)
  | none => none

def signed (negative : Bool) (value : Binary) : Number :=
  .float (if negative then value.negate else value)

/-- The mark of an exponent may follow the digits. -/
def finish? (negative : Bool) (significand : Nat) (power : Int) :
    List Char → Option (Number × List Char)
  | 'e' :: rest | 'E' :: rest => do
      let (exponent, remaining) ← readExponent? rest
      let value ← approximate? significand (power + exponent)
      some (signed negative value, remaining)
  | rest => do
      let value ← approximate? significand power
      some (signed negative value, rest)

/-- A fraction has at least one digit, and digits that do not fit are dropped. -/
def readFraction? (negative : Bool) (significand : Nat) (power : Int)
    (characters : List Char) : Option (Number × List Char) :=
  match characters with
  | character :: _ =>
      if isDigit character then
        let run := takeDigits significand 0 characters
        finish? negative run.significand (power - run.taken) (run.rest.dropWhile isDigit)
      else none
  | [] => none

/-- Negative zero and integers below the least signed word are approximated. -/
def whole? (negative : Bool) (significand : Nat) : Option Number :=
  if negative then
    if significand = 0 ∨ Nat.pow 2 63 < significand then
      (Binary.ofQuotient? true ⟨significand, 1⟩).map .float
    else some (.integer (-Int.ofNat significand))
  else some (.integer (Int.ofNat significand))

/-- The characters behind the integer digits decide between an integer and a float. -/
def readTail? (negative : Bool) (significand dropped : Nat) :
    List Char → Option (Number × List Char)
  | '.' :: rest => readFraction? negative significand dropped rest
  | 'e' :: rest => finish? negative significand dropped ('e' :: rest)
  | 'E' :: rest => finish? negative significand dropped ('E' :: rest)
  | rest =>
      if dropped = 0 then (whole? negative significand).map fun number => (number, rest)
      else finish? negative significand dropped rest

/-- A leading zero stands alone before the point. -/
def readUnsigned? (negative : Bool) : List Char → Option (Number × List Char)
  | '0' :: rest =>
      match rest with
      | next :: _ => if isDigit next then none else readTail? negative 0 0 rest
      | [] => readTail? negative 0 0 []
  | characters =>
      let run := takeDigits 0 0 characters
      if run.taken = 0 then none
      else
        let excess := run.rest.takeWhile isDigit
        readTail? negative run.significand excess.length (run.rest.dropWhile isDigit)

/-- This function reads one number from the front of the characters. -/
def read? : List Char → Option (Number × List Char)
  | '-' :: rest => readUnsigned? true rest
  | characters => readUnsigned? false characters

end NetworkAutomation.Numeral
