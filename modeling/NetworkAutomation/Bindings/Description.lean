/-
This file describes bindings as documents.
-/

import NetworkAutomation.Bindings.Basic
import NetworkAutomation.Entity.Description

namespace NetworkAutomation

def Parameter.description (parameter : Parameter) : Mapping := [
  ("name", .text parameter.name),
  ("type", .text parameter.type.display),
  ("primitive", .text parameter.type.primitive.name),
  ("required", .boolean parameter.required),
  ("default", Document.describedOption parameter.default),
  ("validators", Validator.displays parameter.validators)]

def Action.description (action : Action) : Mapping := [
  ("name", .text action.name),
  ("params", .list (action.parameters.map fun parameter => .mapping parameter.description)),
  ("tasks_from", Document.optionalText action.tasksFrom),
  ("vars", (Document.mapping action.staticVariables).described)]

/-- Validators and models stand as pairs of their name and their description. -/
def Bindings.description (bindings : Bindings) : Mapping := [
  ("name", .text bindings.name),
  ("role", .text bindings.role),
  ("task_action", .text bindings.taskAction),
  ("validators", .list (bindings.validators.map fun entry =>
    Document.texts [entry.1, entry.2.display])),
  ("models", .list (bindings.models.map fun entry =>
    .list [.text entry.1, entry.2.attributeDescriptions])),
  ("actions", .list (bindings.actions.map fun action => .mapping action.description))]

end NetworkAutomation
