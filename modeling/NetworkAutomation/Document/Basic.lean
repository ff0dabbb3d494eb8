/-
This file holds the plain documents that specifications, entities and engines exchange.
-/

import NetworkAutomation.Decimal.Binary

namespace NetworkAutomation

open NetworkAutomation.Decimal

/-- A document number keeps whether it is an integer, so one and one point zero differ. -/
inductive Number where
  | integer (value : Int)
  | float (value : Binary)
  deriving DecidableEq

/-- Numbers agree when they are of one sort and of one value. -/
def Number.agrees : Number → Number → Bool
  | .integer left, .integer right => left == right
  | .float left, .float right => left.agrees right
  | _, _ => false

/-- The entries of a mapping keep their order, and each key stands once. -/
inductive Document where
  | null
  | boolean (value : Bool)
  | number (value : Number)
  | text (value : String)
  | list (items : List Document)
  | mapping (entries : List (String × Document))

instance : Inhabited Document := ⟨.null⟩

/-- A mapping holds documents under distinct keys in the order of their first insertion. -/
abbrev Mapping := List (String × Document)

namespace Document

def integer (value : Int) : Document :=
  .number (.integer value)

def word (value : Int64) : Document :=
  integer value.toInt

/-- The null document stands for an absent text. -/
def optionalText : Option String → Document
  | some value => .text value
  | none => .null

def texts (values : List String) : Document :=
  .list (values.map .text)

def isNull : Document → Bool
  | .null => true
  | _ => false

/-- The null document and the empty containers count as absent. -/
def isPresent : Document → Bool
  | .null => false
  | .list items => !items.isEmpty
  | .mapping entries => !entries.isEmpty
  | _ => true

/-- This word names the sort of a document in messages. -/
def kind : Document → String
  | .null => "null"
  | .boolean _ => "bool"
  | .number (.integer _) => "int"
  | .number (.float _) => "float"
  | .text _ => "str"
  | .list _ => "list"
  | .mapping _ => "dict"

end Document

namespace Mapping

def keys (mapping : Mapping) : List String :=
  mapping.map Prod.fst

def lookup? (mapping : Mapping) (key : String) : Option Document :=
  (mapping.find? fun entry => entry.1 == key).map Prod.snd

def contains (mapping : Mapping) (key : String) : Bool :=
  mapping.any fun entry => entry.1 == key

/-- A present key keeps its place and takes the new document, and an absent key is appended. -/
def insert (mapping : Mapping) (key : String) (document : Document) : Mapping :=
  match mapping with
  | [] => [(key, document)]
  | (present, previous) :: rest =>
      if present = key then (key, document) :: rest
      else (present, previous) :: insert rest key document

def erase (mapping : Mapping) (key : String) : Mapping :=
  mapping.filter fun entry => entry.1 != key

/-- The entries of the second mapping are inserted in their order. -/
def merge (mapping added : Mapping) : Mapping :=
  added.foldl (fun merged entry => insert merged entry.1 entry.2) mapping

def ofEntries (entries : Mapping) : Mapping :=
  merge [] entries

end Mapping

mutual

/-- Documents agree when they differ at most in the order of mapping keys. -/
def Document.agrees : Document → Document → Bool
  | .null, .null => true
  | .boolean left, .boolean right => left == right
  | .number left, .number right => left.agrees right
  | .text left, .text right => left == right
  | .list left, .list right => listAgrees left right
  | .mapping left, .mapping right =>
      left.length == right.length && entriesAgree left right
  | _, _ => false

def listAgrees : List Document → List Document → Bool
  | [], [] => true
  | left :: lefts, right :: rights => left.agrees right && listAgrees lefts rights
  | _, _ => false

/-- Every entry of the first mapping has an agreeing entry in the second. -/
def entriesAgree : List (String × Document) → List (String × Document) → Bool
  | [], _ => true
  | (key, document) :: rest, other =>
      (match Mapping.lookup? other key with
        | some found => document.agrees found
        | none => false) && entriesAgree rest other

end

def Mapping.agrees (left right : Mapping) : Bool :=
  (Document.mapping left).agrees (.mapping right)

end NetworkAutomation
