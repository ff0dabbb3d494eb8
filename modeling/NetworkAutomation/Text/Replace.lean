/-
This file replaces the occurrences of one text inside another.
-/

namespace NetworkAutomation.Text

/-- The rest behind the leading pattern, if the characters start with the pattern. -/
def stripLead? : List Char → List Char → Option (List Char)
  | [], characters => some characters
  | _ :: _, [] => none
  | expected :: pattern, character :: characters =>
      if expected = character then stripLead? pattern characters else none

/--
The skipped count passes over the characters of an occurrence that was already replaced, so the
occurrences are taken from left to right and never overlap.
-/
def replaceFrom (pattern replacement : List Char) : Nat → List Char → List Char
  | _, [] => []
  | skipped + 1, _ :: rest => replaceFrom pattern replacement skipped rest
  | 0, character :: rest =>
      match stripLead? pattern (character :: rest) with
      | some _ => replacement ++ replaceFrom pattern replacement (pattern.length - 1) rest
      | none => character :: replaceFrom pattern replacement 0 rest

/-- Every occurrence of a nonempty pattern is replaced. -/
def replaceAll (pattern replacement text : List Char) : List Char :=
  replaceFrom pattern replacement 0 text

/-- Each matched character gives way to the substituted one. -/
def substitute (matched : Char → Bool) (substituted : Char) (text : String) : String :=
  String.ofList (text.toList.map fun character =>
    if matched character then substituted else character)

end NetworkAutomation.Text
