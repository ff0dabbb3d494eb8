/-
This file builds validators and runs them on values.
-/

import NetworkAutomation.Entity.Serialization

namespace NetworkAutomation

open NetworkAutomation.Text

namespace Validator

/-- The first occurrence of each choice is kept. -/
def ofChoices (choices : List String) : Validator :=
  .choice choices.eraseDups

/-- The least admitted integer may not exceed the greatest. -/
def ofBounds (least greatest : Int64) : Except DefinitionError Validator :=
  if least ≤ greatest then .ok (.range least greatest)
  else .error (.invalidRange least greatest)

def kind : Validator → String
  | .choice _ => "choice"
  | .range _ _ => "range"
  | .port => "port"

/-- Each validator judges values of one primitive kind. -/
def supported : Validator → Primitive
  | .choice _ => .text
  | .range _ _ => .integer
  | .port => .integer

def supports (validator : Validator) (primitive : Primitive) : Bool :=
  validator.supported == primitive

/-- The least and the greatest port number. -/
def portBounds : Int64 × Int64 := (1, 65535)

def displayBounds (kind : String) (bounds : Int64 × Int64) : String :=
  kind ++ "[" ++ wordText bounds.1 ++ ", " ++ wordText bounds.2 ++ "]"

def display : Validator → String
  | .choice choices => "choice[" ++ String.intercalate ", " choices ++ "]"
  | .range least greatest => displayBounds "range" (least, greatest)
  | .port => displayBounds "port" portBounds

/-- The word in front of the given one, and the least word itself in front of the least. -/
def wordBefore (value : Int64) : Int64 :=
  if value = Int64.ofInt wordMin then value else value - 1

def checkChoice (choices : List String) : Value → Except ValidationError Unit
  | .null => .ok ()
  | .text value =>
      if choices.contains value then .ok () else .error (.invalidChoice value choices)
  | value => .error (.invalidChoice value.toDocument.render choices)

/-- A value that is no integer is reported as if it lay just below the bounds. -/
def checkBounds (least greatest : Int64) : Value → Except ValidationError Unit
  | .null => .ok ()
  | .integer value =>
      if least ≤ value ∧ value ≤ greatest then .ok ()
      else .error (.invalidRange value least greatest)
  | _ => .error (.invalidRange (wordBefore least) least greatest)

/-- Null is never judged. -/
def check (validator : Validator) (value : Value) : Except ValidationError Unit :=
  match validator with
  | .choice choices => checkChoice choices value
  | .range least greatest => checkBounds least greatest value
  | .port => checkBounds portBounds.1 portBounds.2 value

/-- Validators judge in their order, and the first refusal decides. -/
def checkAll (validators : List Validator) (value : Value) : Except ValidationError Unit :=
  validators.forM fun validator => validator.check value

end Validator

end NetworkAutomation
