/-
This file holds specifications, which declare the validators, models and actions of a role.
-/

import NetworkAutomation.Entity.Basic

namespace NetworkAutomation

/-- A validator is declared by its kind and the parameters of that kind. -/
structure ValidatorSpecification where
  kind : String
  parameters : Mapping

/-- A field is a text unless a type is given. -/
structure FieldSpecification where
  type : Option String := none
  default : Option Document := none
  required : Bool := false
  validators : List String := []
  policy : Policy := .always
  aliases : List String := []
  /-- The element model of an object or a collection. -/
  model : Option String := none
  /-- The key field of the elements of a map. -/
  key : Option String := none

/-- A parameter is a text unless a type is given. -/
structure ParameterSpecification where
  type : Option String := none
  required : Bool := false
  default : Option Document := none
  validators : List String := []

/-- An action has parameters, static variables, and a task file of the role. -/
structure ActionSpecification where
  parameters : List (String × Option ParameterSpecification) := []
  staticVariables : Option Mapping := none
  tasksFrom : Option String := none

/-- Every declaration keeps its place, and a body that is left out is none. -/
structure Specification where
  validators : List (String × ValidatorSpecification) := []
  models : List (String × List (String × Option FieldSpecification)) := []
  actions : List (String × ActionSpecification) := []

namespace Specification

def isEmpty (specification : Specification) : Bool :=
  specification.validators.isEmpty && specification.models.isEmpty &&
    specification.actions.isEmpty

end Specification

end NetworkAutomation
