/-
This file holds the reasons why bindings are not loaded and actions are not invoked.
-/

import NetworkAutomation.Entity.Definition
import NetworkAutomation.Specification.Reader

namespace NetworkAutomation

/-- A specification declares names at these places. -/
inductive NamePlace where
  | validator
  | model
  | field
  | fieldAlias
  | action
  | parameter
  deriving DecidableEq

def NamePlace.name : NamePlace → String
  | .validator => "validator"
  | .model => "model"
  | .field => "field"
  | .fieldAlias => "alias"
  | .action => "action"
  | .parameter => "parameter"

/-- Loading refuses a whole specification, and an invocation refuses one call. -/
inductive BindingsError where
  | parse (error : ParseError)
  | unreadable (file : String)
  | bindingsNotFound (folder : String)
  | unknownValidatorKind (validator kind : String)
  | invalidValidatorParameters (validator reason : String)
  | unknownValidator (owner validator : String)
  | unknownAttributeType (owner type : String)
  | unknownModel (name : String)
  | missingModelReference (owner type : String)
  | unknownAction (name : String)
  | reservedName (name : String) (place : NamePlace)
  | unknownArgument (action argument : String)
  | missingRequiredArgument (action argument : String)
  | argumentType (action argument expected actual : String)
  | invalidArgument (action argument : String) (cause : ValidationError)
  | definition (error : DefinitionError)
  | entity (error : EntityError)
  deriving DecidableEq

def BindingsError.message : BindingsError → String
  | .parse error => "cannot parse specification: " ++ error.message
  | .unreadable file => "cannot read " ++ quoted file
  | .bindingsNotFound folder => "role bindings not found in " ++ quoted folder
  | .unknownValidatorKind validator kind =>
      "validator " ++ quoted validator ++ " has unknown type " ++ quoted kind
  | .invalidValidatorParameters validator reason =>
      "invalid parameters for validator " ++ quoted validator ++ ": " ++ reason
  | .unknownValidator owner validator =>
      quoted owner ++ " references unknown validator " ++ quoted validator
  | .unknownAttributeType owner type => quoted owner ++ " has unknown type " ++ quoted type
  | .unknownModel name => "unknown model " ++ quoted name
  | .missingModelReference owner type =>
      "field " ++ quoted owner ++ " of type " ++ quoted type ++ " must name a model"
  | .unknownAction name => "unknown action " ++ quoted name
  | .reservedName name place =>
      quoted name ++ " is a reserved word and cannot name a " ++ place.name
  | .unknownArgument action argument =>
      "action " ++ quoted action ++ " got an unexpected argument " ++ quoted argument
  | .missingRequiredArgument action argument =>
      "action " ++ quoted action ++ " is missing required argument " ++ quoted argument
  | .argumentType action argument expected actual =>
      "argument " ++ quoted argument ++ " of action " ++ quoted action ++ " must be " ++
        expected ++ ", got " ++ actual
  | .invalidArgument action argument cause =>
      "argument " ++ quoted argument ++ " of action " ++ quoted action ++ " is invalid: " ++
        cause.message
  | .definition error => error.message
  | .entity error => error.message

/-- Every failure of bindings is one of their errors. -/
abbrev Bound (α : Type) := Except BindingsError α

namespace BindingsError

def ofDefined {α : Type} : Defined α → Bound α
  | .ok value => .ok value
  | .error error => .error (.definition error)

def ofChecked {α : Type} : Checked α → Bound α
  | .ok value => .ok value
  | .error error => .error (.entity error)

end BindingsError

end NetworkAutomation
