/-
This file decides which names may be declared.
-/

import NetworkAutomation.Entity.Error

namespace NetworkAutomation.Naming

/-- These words can never be declared as names. -/
def reservedWords : List String :=
  ["and", "as", "assert", "break", "class", "continue", "def", "del", "elif", "else", "except",
    "exec", "finally", "for", "from", "global", "if", "import", "in", "is", "lambda", "not", "or",
    "pass", "print", "raise", "return", "try", "while", "with", "yield"]

def isReserved (name : String) : Bool :=
  reservedWords.contains name

/-- Only the letters of ASCII may begin a name. -/
def beginsName (character : Char) : Bool :=
  ('a' ≤ character && character ≤ 'z') || ('A' ≤ character && character ≤ 'Z')

/-- A name is no reserved word and begins with a letter. -/
def check (name : String) : Except DefinitionError Unit :=
  if isReserved name then .error (.reservedName name)
  else if (name.toList.head?.map beginsName).getD false then .ok ()
  else .error (.invalidName name)

end NetworkAutomation.Naming
