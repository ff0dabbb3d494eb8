/-
This file invokes compiled actions with checked arguments.
-/

import NetworkAutomation.Bindings.Error
import NetworkAutomation.Playbook.ImportRole
import NetworkAutomation.Text.Blank

namespace NetworkAutomation

open NetworkAutomation.Text

/-- A parameter holds a plain value or an entity of a model. -/
inductive ParameterType where
  | text
  | integer
  | boolean
  | list
  | dict
  | model (name : String) (type : EntityType)

namespace ParameterType

def primitive : ParameterType → Primitive
  | .text => .text
  | .integer => .integer
  | .boolean => .boolean
  | .list => .list
  | .dict => .dict
  | .model _ _ => .object

/-- A model parameter is shown under the name of its model. -/
def display : ParameterType → String
  | .model name _ => name
  | type => type.primitive.name

def booleanText (value : Bool) : String :=
  if value then "true" else "false"

def readBoolean? : String → Option Bool
  | "true" => some true
  | "false" => some false
  | _ => none

/--
Texts are made from integers and booleans, and integers and booleans are read from their texts.
Every other value must already be of the declared type.
-/
def coerce? : ParameterType → Value → Option Value
  | .text, .text value => some (.text value)
  | .text, .integer value => some (.text (wordText value))
  | .text, .boolean value => some (.text (booleanText value))
  | .integer, .integer value => some (.integer value)
  | .integer, .text value => (readWord? (trim value)).map .integer
  | .boolean, .boolean value => some (.boolean value)
  | .boolean, .text value => (readBoolean? value).map .boolean
  | .list, .list items => some (.list items)
  | .dict, .dict entries => some (.dict entries)
  | .model _ type, .object entity => if entity.instanceOf type then some (.object entity) else none
  | _, _ => none

end ParameterType

/-- A default was already checked, and it is kept as a document. -/
structure Parameter where
  name : String
  type : ParameterType
  required : Bool
  default : Option Document
  validators : List Validator

namespace Parameter

/-- An entity is described by the name of its type. -/
def describe : Value → String
  | .object entity => entity.type.name
  | value => value.kind

/-- The document of a value that the type and all validators accept. -/
def check (parameter : Parameter) (action : String) (value : Value) : Bound Document :=
  match parameter.type.coerce? value with
  | none =>
      .error (.argumentType action parameter.name parameter.type.display (describe value))
  | some coerced =>
      match Validator.checkAll parameter.validators coerced with
      | .ok () => .ok coerced.toDocument
      | .error cause => .error (.invalidArgument action parameter.name cause)

end Parameter

/-- An action imports a task file of the role with the arguments as variables. -/
structure Action where
  name : String
  parameters : List Parameter
  staticVariables : Mapping
  tasksFrom : Option String

namespace Action

def parameter? (action : Action) (name : String) : Option Parameter :=
  action.parameters.find? fun parameter => parameter.name == name

abbrev Arguments := List (String × Value)

/-- The first argument without a parameter is refused before any value is looked at. -/
def checkNames (action : Action) (arguments : Arguments) : Bound Unit :=
  match arguments.find? fun argument => (action.parameter? argument.1).isNone with
  | some argument => .error (.unknownArgument action.name argument.1)
  | none => .ok ()

/-- The last of several values counts, and null counts as not given. -/
def given? (arguments : Arguments) (name : String) : Option Value :=
  match arguments.reverse.find? fun argument => argument.1 == name with
  | some (_, .null) => none
  | some (_, value) => some value
  | none => none

/-- A parameter without a value takes its default or is left out, unless it is required. -/
def argument? (action : Action) (arguments : Arguments) (parameter : Parameter) :
    Bound (Option Document) :=
  match given? arguments parameter.name, parameter.default with
  | some value, _ => (parameter.check action.name value).map some
  | none, some default => .ok (some default)
  | none, none =>
      if parameter.required then
        .error (.missingRequiredArgument action.name parameter.name)
      else .ok none

/-- The arguments in the order of the parameters. -/
def collect (action : Action) (arguments : Arguments) : List Parameter → Bound Mapping
  | [] => .ok []
  | parameter :: rest => do
      let value? ← action.argument? arguments parameter
      let others ← collect action arguments rest
      match value? with
      | some document => return (parameter.name, document) :: others
      | none => return others

/-- The task that imports the role with the given variables. -/
def task (action : Action) (role taskAction : String) (taskVariables : Mapping) :
    Checked Entity := do
  let importRole ← ImportRole.create role action.tasksFrom
  let task ← ImportRole.toTask importRole
  let named ←
    if taskAction = ImportRole.actionName then pure task
    else task.set "action" (.text taskAction)
  named.set "vars" (.dict taskVariables)

/-- Static variables are merged over the arguments. -/
def invoke (action : Action) (role taskAction : String) (arguments : Arguments) :
    Bound Entity := do
  action.checkNames arguments
  let collected ← action.collect arguments action.parameters
  BindingsError.ofChecked
    (action.task role taskAction (Mapping.merge collected action.staticVariables))

end Action

end NetworkAutomation
