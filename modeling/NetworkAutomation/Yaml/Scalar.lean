/-
This file decides what the text of a YAML scalar stands for.
-/

import NetworkAutomation.Decimal.Spelling

namespace NetworkAutomation.Yaml

open NetworkAutomation.Decimal NetworkAutomation.Text

/-- YAML floats include the infinities and the value that is no number. -/
inductive Extended where
  | finite (value : Binary)
  | infinite (negative : Bool)
  | notANumber
  deriving DecidableEq

/-- Unlike in arithmetic, the value that is no number agrees with itself. -/
def Extended.agrees : Extended → Extended → Bool
  | .finite left, .finite right => left.agrees right
  | .infinite left, .infinite right => left == right
  | .notANumber, .notANumber => true
  | _, _ => false

/-- A scalar stands for one of these values. -/
inductive Scalar where
  | null
  | boolean (value : Bool)
  | integer (value : Int)
  | float (value : Extended)
  | text (value : List Char)
  deriving DecidableEq

namespace Scalar

def isNullWord (text : List Char) : Bool :=
  ["null", "Null", "NULL", "~"].any fun word => word.toList == text

def readBoolean? (text : List Char) : Option Bool :=
  if ["true", "True", "TRUE"].any fun word => word.toList == text then some true
  else if ["false", "False", "FALSE"].any fun word => word.toList == text then some false
  else none

def digitsIn? (base : Nat) (text : List Char) : Option Nat :=
  if text.isEmpty then none
  else text.foldl
    (fun value? character => do
      let value ← value?
      let digit ← digitIn? base character
      some (base * value + digit)) (some 0)

/-- Two characters announce the digits of another base. -/
def splitBase : List Char → Nat × List Char
  | '0' :: 'x' :: digits => (16, digits)
  | '0' :: 'o' :: digits => (8, digits)
  | '0' :: 'b' :: digits => (2, digits)
  | digits => (10, digits)

def dropSign : List Char → List Char
  | '-' :: rest => rest
  | '+' :: rest => rest
  | unsigned => unsigned

/-- Digits behind a leading zero are text. -/
def isPadded (text : List Char) : Bool :=
  match dropSign text with
  | '0' :: next :: rest => (next :: rest).all fun character => (digitIn? 10 character).isSome
  | _ => false

/-- An integer is its magnitude behind an optional sign. -/
def readInteger? (text : List Char) : Option (Bool × Nat) :=
  if isPadded text then none
  else
    let (base, digits) := splitBase (dropSign text)
    (digitsIn? base digits).map fun magnitude => (text.head? == some '-', magnitude)

/-- What becomes of an integer depends on the width that it needs. -/
inductive Width where
  | word
  | doubleWord
  | wider

def widthOf (negative : Bool) (magnitude : Nat) : Width :=
  if negative then
    if magnitude ≤ Nat.pow 2 63 then .word
    else if magnitude ≤ Nat.pow 2 127 then .doubleWord
    else .wider
  else if magnitude < Nat.pow 2 64 then .word
  else if magnitude < Nat.pow 2 128 then .doubleWord
  else .wider

/-- The digits of a float without its point, and the power of ten that they are scaled by. -/
structure Decimals where
  digits : Nat
  count : Nat
  power : Int

def readPower? : List Char → Option Int
  | [] => some 0
  | mark :: rest =>
      if mark == 'e' || mark == 'E' then
        match rest with
        | '+' :: digits => (digitsIn? 10 digits).map Int.ofNat
        | '-' :: digits => (digitsIn? 10 digits).map fun power => -Int.ofNat power
        | digits => (digitsIn? 10 digits).map Int.ofNat
      else none

/-- At least one digit stands before or behind the point. -/
def readDecimals? (text : List Char) : Option Decimals := do
  let isDigit := fun character => (digitIn? 10 character).isSome
  let whole := text.takeWhile isDigit
  let behind := text.dropWhile isDigit
  let (fraction, rest) := match behind with
    | '.' :: rest => (rest.takeWhile isDigit, rest.dropWhile isDigit)
    | rest => ([], rest)
  let digits ← digitsIn? 10 (whole ++ fraction)
  let power ← readPower? rest
  some ⟨digits, digitCount digits, power - fraction.length⟩

/-- Beyond these places every number overflows or vanishes. -/
def farthestPlace : Int := 400

/-- The nearest number, or nothing where it overflows. -/
def Decimals.round? (negative : Bool) (decimals : Decimals) : Option Binary :=
  let place := (decimals.count : Int) + decimals.power
  if decimals.digits = 0 || place < -farthestPlace then some (Binary.zero negative)
  else if farthestPlace < place then none
  else Binary.ofQuotient? negative (Quotient.scale ⟨decimals.digits, 1⟩ 10 decimals.power)

def isWord (words : List String) (text : List Char) : Bool :=
  words.any fun word => word.toList == text

/-- A float is a decimal number or one of the words for the values that no decimal has. -/
def readFloat? (text : List Char) : Option Extended :=
  let unsigned := if text.head? == some '+' then text.drop 1 else text
  if isWord [".inf", ".Inf", ".INF"] unsigned then some (.infinite false)
  else if isWord ["-.inf", "-.Inf", "-.INF"] text then some (.infinite true)
  else if isWord [".nan", ".NaN", ".NAN"] text then some .notANumber
  else do
    let decimals ← readDecimals? (dropSign text)
    let value ← decimals.round? (text.head? == some '-')
    some (.finite value)

/-- An integer beyond the words is refused while it fits a double word, and is no integer beyond. -/
def ofInteger? (negative : Bool) (magnitude : Nat) : Option (Option Scalar) :=
  match widthOf negative magnitude with
  | .word => some (some (.integer (if negative then -magnitude else magnitude)))
  | .doubleWord => none
  | .wider => some none

/-- The reading of a scalar without quotes; nothing is returned for a refused integer. -/
def ofPlain? (text : List Char) : Option Scalar := do
  if text.isEmpty || isNullWord text then return .null
  if let some value := readBoolean? text then return .boolean value
  if let some (negative, magnitude) := readInteger? text then
    if let some scalar := ← ofInteger? negative magnitude then return scalar
  if isPadded text then return .text text
  match readFloat? text with
  | some value => return .float value
  | none => return .text text

/-- The names of the standard tags share this beginning. -/
def standardLead : List Char := "tag:yaml.org,2002:".toList

/-- Four standard tags ask for their own reading, and every other tag makes a text. -/
def ofStandardTag? (tag text : List Char) : Option Scalar :=
  if tag = standardLead ++ "bool".toList then (readBoolean? text).map .boolean
  else if tag = standardLead ++ "int".toList then do
    let (negative, magnitude) ← readInteger? text
    (← ofInteger? negative magnitude)
  else if tag = standardLead ++ "float".toList then (readFloat? text).map .float
  else if tag = standardLead ++ "null".toList then
    if isNullWord text then some .null else none
  else some (.text text)

/-- A local tag leaves the reading of a scalar as it is. -/
def resolve? (tag : Option (List Char)) (text : List Char) (plain : Bool) : Option Scalar :=
  let common := if plain then ofPlain? text else some (.text text)
  match tag with
  | none => common
  | some ('!' :: _) => common
  | some tag => ofStandardTag? tag text

end Scalar

end NetworkAutomation.Yaml
