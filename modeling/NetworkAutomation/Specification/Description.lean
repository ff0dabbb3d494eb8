/-
This file describes specifications as documents.
-/

import NetworkAutomation.Entity.Description
import NetworkAutomation.Specification.Basic

namespace NetworkAutomation

def FieldSpecification.description (field : FieldSpecification) : Mapping := [
  ("type", Document.optionalText field.type),
  ("default", Document.describedOption field.default),
  ("required", .boolean field.required),
  ("validators", Document.texts field.validators),
  ("when", .text field.policy.name),
  ("aliases", Document.texts field.aliases),
  ("model", Document.optionalText field.model),
  ("key", Document.optionalText field.key)]

def ParameterSpecification.description (parameter : ParameterSpecification) : Mapping := [
  ("type", Document.optionalText parameter.type),
  ("required", .boolean parameter.required),
  ("default", Document.describedOption parameter.default),
  ("validators", Document.texts parameter.validators)]

namespace Specification

/-- A table is described by pairs of a name and the description of its body. -/
def describeTable {α : Type} (describe : α → Document) (entries : List (String × α)) :
    Document :=
  .list (entries.map fun entry => .list [.text entry.1, describe entry.2])

/-- A body that is left out is described by null. -/
def describeBody {α : Type} (describe : α → Mapping) (body : Option α) : Document :=
  (body.map fun given => Document.mapping (describe given)).getD .null

def describeAction (action : ActionSpecification) : Document := .mapping [
  ("args", describeTable (describeBody ParameterSpecification.description) action.parameters),
  ("vars", Document.describedOption (action.staticVariables.map .mapping)),
  ("tasks_from", Document.optionalText action.tasksFrom)]

def describeValidator (entry : String × ValidatorSpecification) : Document :=
  .list [.text entry.1, .text entry.2.kind, (Document.mapping entry.2.parameters).described]

def counts (specification : Specification) : List Nat :=
  [specification.validators.length, specification.models.length, specification.actions.length]

def description (specification : Specification) : Mapping := [
  ("counts", .list (specification.counts.map fun count => .integer (Int.ofNat count))),
  ("empty", .boolean specification.isEmpty),
  ("validators", .list (specification.validators.map describeValidator)),
  ("models", describeTable
    (describeTable (describeBody FieldSpecification.description)) specification.models),
  ("actions", describeTable describeAction specification.actions)]

end Specification

end NetworkAutomation
