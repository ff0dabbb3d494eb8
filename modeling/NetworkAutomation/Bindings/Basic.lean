/-
This file holds the compiled bindings of a role.
-/

import NetworkAutomation.Bindings.Compile

namespace NetworkAutomation

/-- Bindings are the validators, models and actions of one role. -/
structure Bindings where
  settings : Settings
  tables : Tables

namespace Bindings

/-- The identities of the models begin at the given one. -/
def compile (firstIdentity : Nat) (specification : Specification) (settings : Settings) :
    Bound Bindings := do
  let tables ← Compile.tables firstIdentity specification settings
  return ⟨settings, tables⟩

def name (bindings : Bindings) : String :=
  roleIdentifier bindings.settings.role

def role (bindings : Bindings) : String :=
  bindings.settings.role

def taskAction (bindings : Bindings) : String :=
  bindings.settings.taskAction

def validators (bindings : Bindings) : List (String × Validator) :=
  bindings.tables.validators

def models (bindings : Bindings) : List (String × EntityType) :=
  bindings.tables.models

def actions (bindings : Bindings) : List Action :=
  bindings.tables.actions

def model? (bindings : Bindings) (name : String) : Option EntityType :=
  Compile.find? bindings.models name

def action? (bindings : Bindings) (name : String) : Option Action :=
  bindings.actions.find? fun action => action.name == name

/-- A new entity of the named model. -/
def newModel (bindings : Bindings) (name : String) (fields : List (String × Value)) :
    Bound Entity :=
  match bindings.model? name with
  | some type => BindingsError.ofChecked (type.create fields)
  | none => .error (.unknownModel name)

/-- The task of the named action with the given arguments. -/
def invoke (bindings : Bindings) (name : String) (arguments : Action.Arguments) : Bound Entity :=
  match bindings.action? name with
  | some action => action.invoke bindings.role bindings.taskAction arguments
  | none => .error (.unknownAction name)

end Bindings

end NetworkAutomation
