/-
This file holds the reasons why definitions, values and edits are refused.
-/

import NetworkAutomation.Text.Numeral

namespace NetworkAutomation

open NetworkAutomation.Text

/-- A definition is refused before any entity of the type exists. -/
inductive DefinitionError where
  | incompatibleValidator (validator type : String)
  | invalidDefault (field reason : String)
  | invalidRange (least greatest : Int64)
  | invalidPolicy (field policy : String)
  | reservedName (name : String)
  | invalidName (name : String)
  | duplicateAttribute (entity name : String)
  | invalidKeyField (entity key : String)
  | invalidCatchAll (entity field : String)
  deriving DecidableEq

/-- A validator refuses a value of the kind that it judges. -/
inductive ValidationError where
  | invalidChoice (value : String) (choices : List String)
  | invalidRange (value least greatest : Int64)
  deriving DecidableEq

/-- An entity or a collection is refused, or an edit of one. -/
inductive EntityError where
  | missingRequiredField (entity field : String)
  | unknownAttribute (entity field : String)
  | typeMismatch (field expected actual : String)
  | requiredFieldImmutable (entity field : String)
  | duplicateKey (key : String)
  | missingKey (entity field : String)
  | unknownField (entity field : String)
  | malformedDocument (entity reason : String)
  | indexOutOfRange (index length : Nat)
  | validation (error : ValidationError)
  | definition (error : DefinitionError)
  deriving DecidableEq

def quoted (text : String) : String :=
  "'" ++ text ++ "'"

def DefinitionError.message : DefinitionError → String
  | .incompatibleValidator validator type =>
      "validator " ++ quoted validator ++ " cannot be attached to attribute type " ++ quoted type
  | .invalidDefault field reason =>
      "invalid default for attribute " ++ quoted field ++ ": " ++ reason
  | .invalidRange least greatest =>
      "invalid range: min " ++ wordText least ++ " is greater than max " ++ wordText greatest
  | .invalidPolicy field policy =>
      "required attribute " ++ quoted field ++ " must always be serialized (got " ++
        quoted policy ++ ")"
  | .reservedName name => quoted name ++ " is a reserved word"
  | .invalidName name =>
      "invalid name " ++ quoted name ++ ": names must start with an alphabetic character"
  | .duplicateAttribute entity name =>
      "entity type " ++ quoted entity ++ " declares " ++ quoted name ++ " more than once"
  | .invalidKeyField entity key =>
      "key field " ++ quoted key ++ " is not a string attribute of " ++ quoted entity
  | .invalidCatchAll entity field =>
      "catch-all field " ++ quoted field ++ " is not a dict attribute of " ++ quoted entity

def ValidationError.message : ValidationError → String
  | .invalidChoice value choices =>
      "invalid choice " ++ quoted value ++ ": expected one of [" ++
        String.intercalate ", " choices ++ "]"
  | .invalidRange value least greatest =>
      "value " ++ wordText value ++ " is outside the range [" ++ wordText least ++ ", " ++
        wordText greatest ++ "]"

def EntityError.message : EntityError → String
  | .missingRequiredField entity field =>
      "missing required attribute " ++ quoted field ++ " on " ++ quoted entity
  | .unknownAttribute entity field =>
      quoted entity ++ " has no attribute " ++ quoted field
  | .typeMismatch field expected actual =>
      "type mismatch for " ++ quoted field ++ ": expected " ++ expected ++ ", got " ++ actual
  | .requiredFieldImmutable entity field =>
      "required attribute " ++ quoted field ++ " on " ++ quoted entity ++ " cannot be deleted"
  | .duplicateKey key => "an entry with key " ++ quoted key ++ " already exists"
  | .missingKey entity field =>
      "missing key attribute " ++ quoted field ++ " for " ++ quoted entity
  | .unknownField entity field =>
      "unknown field " ++ quoted field ++ " for closed entity " ++ quoted entity
  | .malformedDocument entity reason =>
      "malformed document for " ++ quoted entity ++ ": " ++ reason
  | .indexOutOfRange index length =>
      "index " ++ naturalText index ++ " is out of range for a collection of " ++
        naturalText length ++ " items"
  | .validation error => "validation error: " ++ error.message
  | .definition error => "definition error: " ++ error.message

end NetworkAutomation
