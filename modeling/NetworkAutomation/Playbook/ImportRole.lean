/-
This file turns the import of a role into a task.
-/

import NetworkAutomation.Entity.Edit
import NetworkAutomation.Playbook.Catalogue

namespace NetworkAutomation.ImportRole

/-- The action of every task that imports a role. -/
def actionName : String := "import_role"

/-- The import of a role, or of one of its task files. -/
def create (name : String) (tasksFrom : Option String) : Checked Entity :=
  Catalogue.importRole.create
    [("name", .text name), ("tasks_from", Value.optionalText tasksFrom)]

def argument (name : String) : Option String → Mapping
  | some value => [(name, .text value)]
  | none => []

/-- The arguments of the task name the role and the task file where there is one. -/
def toTask (importRole : Entity) : Checked Entity := do
  if importRole.instanceOf Catalogue.importRole then
    let name ← importRole.getText "name"
    let tasksFrom ← importRole.getText "tasks_from"
    Catalogue.task.create [
      ("action", .text actionName),
      ("args", .dict (argument "name" name ++ argument "tasks_from" tasksFrom))]
  else .error (.typeMismatch actionName Catalogue.importRole.name importRole.type.name)

end NetworkAutomation.ImportRole
