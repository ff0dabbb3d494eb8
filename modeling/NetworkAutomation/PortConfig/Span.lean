/-
This file finds the last complete object in the output of a port query.
-/

namespace NetworkAutomation.PortConfig

/-- The scan keeps the open object in reverse and the last object that was closed. -/
structure Scan where
  depth : Nat
  opened : List Char
  closed : Option (List Char)

namespace Scan

def start : Scan := ⟨0, [], none⟩

/-- A closing brace outside every object is passed over like any other character. -/
def step (scan : Scan) (character : Char) : Scan :=
  match character, scan.depth with
  | '{', 0 => { scan with depth := 1, opened := ['{'] }
  | '{', depth + 1 => { scan with depth := depth + 2, opened := '{' :: scan.opened }
  | _, 0 => scan
  | '}', 1 =>
      { depth := 0, opened := [], closed := some ('}' :: scan.opened).reverse }
  | '}', depth + 2 => { scan with depth := depth + 1, opened := '}' :: scan.opened }
  | other, _ + 1 => { scan with opened := other :: scan.opened }

def run (text : List Char) : Scan :=
  text.foldl step start

end Scan

/-- The braces of a text may fail to balance, or it may hold no object. -/
inductive SpanError where
  | unbalanced (fragment : List Char)
  | missing
  deriving DecidableEq

/-- An object that is still open at the end is reported from its first brace on. -/
def lastObject (text : List Char) : Except SpanError (List Char) :=
  let scan := Scan.run text
  if scan.depth ≠ 0 then .error (.unbalanced scan.opened.reverse)
  else
    match scan.closed with
    | some object => .ok object
    | none => .error .missing

end NetworkAutomation.PortConfig
