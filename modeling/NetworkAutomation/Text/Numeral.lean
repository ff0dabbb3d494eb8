/-
This file reads and writes whole numbers in decimal digits.
-/

namespace NetworkAutomation.Text

/-- Only the ten ASCII digits have a value. -/
def digitValue? (character : Char) : Option Nat :=
  if '0' ≤ character ∧ character ≤ '9' then some (character.toNat - 48) else none

/-- Letters of either case continue the digits of bases above ten. -/
def digitIn? (base : Nat) (character : Char) : Option Nat :=
  let value? :=
    if '0' ≤ character ∧ character ≤ '9' then some (character.toNat - 48)
    else if 'a' ≤ character ∧ character ≤ 'z' then some (character.toNat - 87)
    else if 'A' ≤ character ∧ character ≤ 'Z' then some (character.toNat - 55)
    else none
  value?.bind fun value => if value < base then some value else none

def hexValue? (character : Char) : Option Nat :=
  digitIn? 16 character

/-- The value so far is extended by each digit, and any other character is refused. -/
def digitsFrom? (value : Nat) : List Char → Option Nat
  | [] => some value
  | character :: rest =>
      match digitValue? character with
      | some digit => digitsFrom? (10 * value + digit) rest
      | none => none

/-- A natural number is one or more digits. -/
def natural? : List Char → Option Nat
  | [] => none
  | digits => digitsFrom? 0 digits

/-- An integer is a natural number behind at most one sign. -/
def integer? : List Char → Option Int
  | '+' :: digits => (natural? digits).map Int.ofNat
  | '-' :: digits => (natural? digits).map fun value => -Int.ofNat value
  | digits => (natural? digits).map Int.ofNat

/-- This is the least signed word of sixty-four bits. -/
def wordMin : Int := -9223372036854775808

/-- This is the greatest signed word of sixty-four bits. -/
def wordMax : Int := 9223372036854775807

/-- A word is an integer that fits in sixty-four bits with a sign. -/
def word? (value : Int) : Option Int64 :=
  if wordMin ≤ value ∧ value ≤ wordMax then some (Int64.ofInt value) else none

/-- This function reads a signed word and refuses what does not fit. -/
def readWord? (text : String) : Option Int64 :=
  (integer? text.toList).bind word?

def naturalCharacters (value : Nat) : List Char :=
  Nat.toDigits 10 value

/-- A negative integer carries a minus sign, and no other sign is written. -/
def integerCharacters : Int → List Char
  | .ofNat value => naturalCharacters value
  | .negSucc value => '-' :: naturalCharacters (value + 1)

def integerText (value : Int) : String :=
  String.ofList (integerCharacters value)

def naturalText (value : Nat) : String :=
  String.ofList (naturalCharacters value)

def wordText (value : Int64) : String :=
  integerText value.toInt

end NetworkAutomation.Text
