/-
This file writes documents over several lines.
-/

import NetworkAutomation.Document.Printer

namespace NetworkAutomation

/-- A line break and two spaces for each level. -/
def lineBreak (level : Nat) : List Char :=
  '\n' :: List.replicate (2 * level) ' '

mutual

/-- Each part of a container stands on a line of its own, one level deeper. -/
def Document.indentedCharacters (level : Nat) : Document → List Char
  | .list (item :: rest) =>
      '[' :: (lineBreak (level + 1) ++ item.indentedCharacters (level + 1) ++
        indentedItems (level + 1) rest ++ lineBreak level ++ [']'])
  | .mapping ((key, document) :: rest) =>
      '{' :: (lineBreak (level + 1) ++ quoteText key ++ [':', ' '] ++
        document.indentedCharacters (level + 1) ++
        indentedEntries (level + 1) rest ++ lineBreak level ++ ['}'])
  | document => document.characters

def indentedItems (level : Nat) : List Document → List Char
  | [] => []
  | item :: rest =>
      ',' :: (lineBreak level ++ item.indentedCharacters level ++ indentedItems level rest)

def indentedEntries (level : Nat) : List (String × Document) → List Char
  | [] => []
  | (key, document) :: rest =>
      ',' :: (lineBreak level ++ quoteText key ++ [':', ' '] ++
        document.indentedCharacters level ++ indentedEntries level rest)

end

def Document.renderIndented (document : Document) : String :=
  String.ofList (document.indentedCharacters 0)

end NetworkAutomation
