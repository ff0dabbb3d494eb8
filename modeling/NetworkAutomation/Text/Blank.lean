/-
This file fixes which characters count as blank and trims them.
-/

namespace NetworkAutomation.Text

/-- These are the twenty-five characters with the property `White_Space`. -/
def isBlank (character : Char) : Bool :=
  let code := character.toNat
  (9 ≤ code && code ≤ 13) || code == 0x20 || code == 0x85 || code == 0xA0 || code == 0x1680 ||
    (0x2000 ≤ code && code ≤ 0x200A) || code == 0x2028 || code == 0x2029 || code == 0x202F ||
    code == 0x205F || code == 0x3000

/-- This function drops the blanks at both ends. -/
def trimCharacters (characters : List Char) : List Char :=
  ((characters.dropWhile isBlank).reverse.dropWhile isBlank).reverse

def trim (text : String) : String :=
  String.ofList (trimCharacters text.toList)

end NetworkAutomation.Text
