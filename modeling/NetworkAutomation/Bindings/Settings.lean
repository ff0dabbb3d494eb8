/-
This file holds the settings under which a specification is compiled.
-/

import NetworkAutomation.Document.Shape
import NetworkAutomation.Entity.Naming
import NetworkAutomation.Playbook.Operation
import NetworkAutomation.Text.Replace

namespace NetworkAutomation

/-- The settings name the role, the action of its tasks, and further reserved words. -/
structure Settings where
  role : String := Operation.roleName
  taskAction : String := ImportRole.actionName
  reservedWords : List String := []
  deriving DecidableEq

namespace Settings

def forRole (role : String) : Settings := { role := role }

def isReserved (settings : Settings) (name : String) : Bool :=
  Naming.isReserved name || settings.reservedWords.contains name

/-- Every setting that is not given takes its default. -/
def ofDocument? (document : Document) : Option Settings := do
  match ← Shape.fields? false [["role_name"], ["task_action"], ["reserved_words"]] document with
  | [role, taskAction, reservedWords] =>
      return {
        role := ← Shape.orDefault Shape.text? Operation.roleName role
        taskAction := ← Shape.orDefault Shape.text? ImportRole.actionName taskAction
        reservedWords := ← Shape.orDefault Shape.texts? [] reservedWords }
  | _ => none

end Settings

/-- The identifier of a role has underscores for hyphens and points. -/
def roleIdentifier (role : String) : String :=
  Text.substitute (fun character => character == '-' || character == '.') '_' role

end NetworkAutomation
