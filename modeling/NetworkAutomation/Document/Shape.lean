/-
This file reads the fields of structures from documents.
-/

import NetworkAutomation.Document.Basic
import NetworkAutomation.Text.Numeral

namespace NetworkAutomation.Shape

/-- A field has one or more spellings, and the first of them is its name. -/
abbrev Spellings := List String

/-- A field is given at most once, in whichever spelling. -/
def given? (mapping : Mapping) (spellings : Spellings) : Option (Option Document) :=
  match mapping.filter fun entry => spellings.contains entry.1 with
  | [] => some none
  | [entry] => some (some entry.2)
  | _ => none

def isKnown (fields : List Spellings) (key : String) : Bool :=
  fields.any fun spellings => spellings.contains key

/-- The fields of a list are given by their places, and those behind its end are not given. -/
def placed? : List Spellings → List Document → Option (List (Option Document))
  | [], [] => some []
  | [], _ :: _ => none
  | _ :: fields, [] => (placed? fields []).map (none :: ·)
  | _ :: fields, document :: documents => (placed? fields documents).map (some document :: ·)

/--
A structure is written as a mapping, or as a list of its fields in their order. A strict structure
refuses keys that name none of its fields.
-/
def fields? (strict : Bool) (fields : List Spellings) :
    Document → Option (List (Option Document))
  | .mapping entries =>
      if strict && !(entries.all fun entry => isKnown fields entry.1) then none
      else fields.mapM (given? entries)
  | .list documents => placed? fields documents
  | _ => none

def text? : Document → Option String
  | .text value => some value
  | _ => none

def boolean? : Document → Option Bool
  | .boolean value => some value
  | _ => none

def list? : Document → Option (List Document)
  | .list items => some items
  | _ => none

def mapping? : Document → Option Mapping
  | .mapping entries => some entries
  | _ => none

def texts? (document : Document) : Option (List String) := do
  (← list? document).mapM text?

/-- Only integers that are signed words are read. -/
def word? : Document → Option Int64
  | .number (.integer value) => Text.word? value
  | _ => none

def natural? : Document → Option Nat
  | .number (.integer (.ofNat value)) => some value
  | _ => none

/-- A field that is not given takes its default. -/
def orDefault {α : Type} (read : Document → Option α) (default : α) :
    Option Document → Option α
  | none => some default
  | some document => read document

/-- A field that may be unset is unset by null as well. -/
def optional {α : Type} (read : Document → Option α) : Option Document → Option (Option α)
  | none => some none
  | some .null => some none
  | some document => (read document).map some

end NetworkAutomation.Shape
