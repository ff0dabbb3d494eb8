/-
This file defines attributes and builds entity types from their declarations.
-/

import NetworkAutomation.Entity.Naming
import NetworkAutomation.Entity.Reading

namespace NetworkAutomation

/-- Every failure of a definition is one of its errors. -/
abbrev Defined (α : Type) := Except DefinitionError α

/-- A definition that is known to succeed has a value. -/
def Defined.value {α : Type} : (defined : Defined α) → defined.isOk = true → α
  | .ok value, _ => value

/-- A declaration is an attribute that has no name and was not checked yet. -/
structure Declaration where
  type : AttributeType
  default : Value := .null
  required : Bool := false
  validators : List Validator := []
  policy : Policy := .always
  aliases : List String := []

namespace EntityType

/-- The key field of a keyed collection is a text field of its elements. -/
def checkKeyField (itemType : EntityType) (key : String) : Defined Unit :=
  match (itemType.field? key).map Attribute.type with
  | some .text => .ok ()
  | _ => .error (.invalidKeyField itemType.name key)

end EntityType

namespace AttributeType

/-- Containers default to their empty value, and an object to an entity without given fields. -/
def implicitDefault : AttributeType → Value
  | .list => .list []
  | .dict => .dict []
  | .index item => .index ⟨item, []⟩
  | .map item key => .map ⟨item, key, []⟩
  | .object item =>
      match item.empty with
      | .ok entity => .object entity
      | .error _ => .null
  | _ => .null

def checkKey : AttributeType → Defined Unit
  | .map item key => item.checkKeyField key
  | _ => .ok ()

end AttributeType

namespace Declaration

def checkValidators (declaration : Declaration) : Defined Unit :=
  match declaration.validators.find? fun validator =>
      !validator.supports declaration.type.primitive with
  | some validator =>
      .error (.incompatibleValidator validator.kind declaration.type.display)
  | none => .ok ()

/-- A required field is always written. -/
def checkPolicy (declaration : Declaration) (name : String) : Defined Unit :=
  if declaration.required ∧ declaration.policy ≠ .always then
    .error (.invalidPolicy name declaration.policy.name)
  else .ok ()

def withDefault (declaration : Declaration) (name : String) (default : Value) : Attribute :=
  { name := name
    type := declaration.type
    default := default
    required := declaration.required
    validators := declaration.validators
    policy := declaration.policy
    aliases := declaration.aliases }

/-- A declared default passes through the attribute that it is declared for. -/
def defaultFor (declaration : Declaration) (name : String) : Defined Value :=
  if declaration.default.isNull then .ok declaration.type.implicitDefault
  else
    match (declaration.withDefault name .null).coerce declaration.default with
    | .ok value => .ok value
    | .error error => .error (.invalidDefault name error.message)

/-- The attribute of the given name, if the whole contract is consistent. -/
def define (declaration : Declaration) (name : String) : Defined Attribute := do
  Naming.check name
  declaration.aliases.forM Naming.check
  declaration.checkValidators
  declaration.checkPolicy name
  declaration.type.checkKey
  let default ← declaration.defaultFor name
  return declaration.withDefault name default

end Declaration

/-- The declaration of a type names its parents and its own attributes. -/
structure TypeDeclaration where
  name : String
  parents : List EntityType := []
  declared : List (String × Declaration) := []
  catchAll : Option CatchAll := none
  envelope : Option String := none

namespace TypeDeclaration

/-- A later attribute takes the place of an earlier one of the same name. -/
def merge (attributes : List Attribute) (added : Attribute) : List Attribute :=
  match attributes with
  | [] => [added]
  | field :: rest =>
      if field.name = added.name then added :: rest else field :: merge rest added

def inherited (parents : List EntityType) : List Attribute :=
  (parents.flatMap EntityType.attributes).foldl merge []

/-- Own attributes are defined in order, and none is declared twice. -/
def mergeOwn (entity : String) : List String → List Attribute → List (String × Declaration) →
    Defined (List Attribute)
  | _, attributes, [] => .ok attributes
  | seen, attributes, (name, declaration) :: rest =>
      if seen.contains name then .error (.duplicateAttribute entity name)
      else do
        let field ← declaration.define name
        mergeOwn entity (name :: seen) (merge attributes field) rest

/-- An alias is unique among all aliases, unless a field of that name hides it. -/
def checkAliases (entity : String) (names : List String) : List String → List String →
    Defined Unit
  | _, [] => .ok ()
  | seen, name :: rest =>
      if names.contains name then checkAliases entity names seen rest
      else if seen.contains name then .error (.duplicateAttribute entity name)
      else checkAliases entity names (name :: seen) rest

/-- The catch-all is a dict field of the type. -/
def checkCatchAll (type : EntityType) : Defined Unit :=
  match type.catchAll with
  | none => .ok ()
  | some catchAll =>
      match (type.field? catchAll.field).map Attribute.type with
      | some .dict => .ok ()
      | _ => .error (.invalidCatchAll type.name catchAll.field)

/-- Catch-all and envelope come from the first parent that has one, unless the type has its own. -/
def build (identity : Nat) (declaration : TypeDeclaration) : Defined EntityType := do
  Naming.check declaration.name
  let attributes ←
    mergeOwn declaration.name [] (inherited declaration.parents) declaration.declared
  checkAliases declaration.name (attributes.map Attribute.name) []
    (attributes.flatMap Attribute.aliases)
  let type : EntityType := {
    identity := identity
    name := declaration.name
    parents := declaration.parents
    attributes := attributes
    catchAll := declaration.catchAll.or (declaration.parents.findSome? EntityType.catchAll)
    envelope := declaration.envelope.or (declaration.parents.findSome? EntityType.envelope) }
  checkCatchAll type
  return type

end TypeDeclaration

end NetworkAutomation
