/-
This file compiles specifications into validators, entity types and actions.
-/

import NetworkAutomation.Bindings.Action
import NetworkAutomation.Bindings.Settings

namespace NetworkAutomation

/-- What is compiled so far, in the order of declaration. -/
structure Tables where
  validators : List (String × Validator)
  models : List (String × EntityType)
  actions : List Action

namespace Compile

open NetworkAutomation.Text

/-- The fields of a model and their aliases, in order. -/
def fieldNames (fields : List (String × Option FieldSpecification)) :
    List (String × NamePlace) :=
  fields.flatMap fun entry =>
    (entry.1, .field) ::
      ((entry.2.map FieldSpecification.aliases).getD []).map fun name =>
        (name, NamePlace.fieldAlias)

/-- All declared names in the order in which they are checked. -/
def declaredNames (specification : Specification) : List (String × NamePlace) :=
  (specification.validators.map fun entry => (entry.1, NamePlace.validator)) ++
    (specification.models.flatMap fun entry => (entry.1, NamePlace.model) :: fieldNames entry.2) ++
    specification.actions.flatMap fun entry =>
      (entry.1, NamePlace.action) ::
        entry.2.parameters.map fun parameter => (parameter.1, NamePlace.parameter)

/-- The first reserved name rejects the whole specification. -/
def checkReserved (specification : Specification) (settings : Settings) : Bound Unit :=
  match (declaredNames specification).find? fun entry => settings.isReserved entry.1 with
  | some (name, place) => .error (.reservedName name place)
  | none => .ok ()

/-- A parameter that the kind does not know is refused. -/
def allowParameters (parameters : Mapping) (allowed : List String) : Except String Unit :=
  match (Mapping.keys parameters).find? fun key => !allowed.contains key with
  | some key => .error ("unexpected parameter " ++ quoted key)
  | none => .ok ()

/-- A bound is given in exactly one of its two spellings. -/
def bound (parameters : Mapping) (name spelling : String) : Except String Int64 := do
  let document ←
    match Mapping.lookup? parameters name, Mapping.lookup? parameters spelling with
    | some _, some _ => .error ("both " ++ quoted name ++ " and " ++ quoted spelling ++ " given")
    | some document, none => .ok document
    | none, some document => .ok document
    | none, none => .error ("missing parameter " ++ quoted name)
  match Shape.word? document with
  | some value => .ok value
  | none => .error (quoted name ++ " must be an integer, got " ++ document.render)

def rangeValidator (parameters : Mapping) : Except String Validator := do
  allowParameters parameters ["minval", "maxval", "min", "max"]
  let least ← bound parameters "minval" "min"
  let greatest ← bound parameters "maxval" "max"
  match Validator.ofBounds least greatest with
  | .ok validator => .ok validator
  | .error error => .error error.message

def choiceValidator (parameters : Mapping) : Except String Validator := do
  allowParameters parameters ["choices"]
  match Mapping.lookup? parameters "choices" with
  | some (.list (item :: rest)) =>
      match (item :: rest).mapM Shape.text? with
      | some choices => .ok (Validator.ofChoices choices)
      | none => .error "choices must be strings"
  | some _ => .error "choices must be a non-empty list"
  | none => .error "missing parameter 'choices'"

def portValidator (parameters : Mapping) : Except String Validator := do
  allowParameters parameters []
  return .port

def ofParameters (name : String) : Except String Validator → Bound Validator
  | .ok validator => .ok validator
  | .error reason => .error (.invalidValidatorParameters name reason)

/-- There are three kinds of validators. -/
def validator (name : String) (declared : ValidatorSpecification) : Bound Validator :=
  match declared.kind with
  | "range" => ofParameters name (rangeValidator declared.parameters)
  | "choice" => ofParameters name (choiceValidator declared.parameters)
  | "port" => ofParameters name (portValidator declared.parameters)
  | kind => .error (.unknownValidatorKind name kind)

def find? {α : Type} (table : List (String × α)) (name : String) : Option α :=
  (table.find? fun entry => entry.1 == name).map Prod.snd

/-- The named validators in the order of their naming. -/
def resolveValidators (owner : String) (tables : Tables) (names : List String) :
    Bound (List Validator) :=
  names.mapM fun name =>
    match find? tables.validators name with
    | some validator => .ok validator
    | none => .error (.unknownValidator owner name)

def resolveModel (tables : Tables) (name : String) : Bound EntityType :=
  match find? tables.models name with
  | some type => .ok type
  | none => .error (.unknownModel name)

/-- Objects and collections name a model that is declared earlier. -/
def elementType (owner type : String) (declared : FieldSpecification) (tables : Tables) :
    Bound EntityType :=
  match declared.model with
  | some model => resolveModel tables model
  | none => .error (.missingModelReference owner type)

def fieldType (owner : String) (declared : FieldSpecification) (tables : Tables) :
    Bound AttributeType :=
  match declared.type.getD "str" with
  | "str" => .ok .text
  | "int" => .ok .integer
  | "bool" => .ok .boolean
  | "list" => .ok .list
  | "dict" => .ok .dict
  | "object" => do return .object (← elementType owner "object" declared tables)
  | "index" => do return .index (← elementType owner "index" declared tables)
  | "map" => do
      return .map (← elementType owner "map" declared tables)
        (declared.key.getD KeyedCollection.defaultKeyField)
  | type => .error (.unknownAttributeType owner type)

def fieldDeclaration (owner : String) (declared : FieldSpecification) (tables : Tables) :
    Bound Declaration := do
  let type ← fieldType owner declared tables
  let validators ← resolveValidators owner tables declared.validators
  return {
    type := type
    default := (declared.default.map Value.ofDocument).getD .null
    required := declared.required
    validators := validators
    policy := declared.policy
    aliases := declared.aliases }

/-- A field without a body is an optional text. -/
def modelField (model : String) (tables : Tables)
    (entry : String × Option FieldSpecification) : Bound (String × Declaration) := do
  match entry.2 with
  | some declared =>
      return (entry.1, ← fieldDeclaration (model ++ "." ++ entry.1) declared tables)
  | none => return (entry.1, { type := .text })

/-- A model becomes an entity type of the given identity. -/
def model (identity : Nat) (name : String) (fields : List (String × Option FieldSpecification))
    (tables : Tables) : Bound EntityType := do
  let declared ← fields.mapM (modelField name tables)
  BindingsError.ofDefined (TypeDeclaration.build identity { name := name, declared := declared })

def parameterType (owner : String) (declared : ParameterSpecification) (tables : Tables) :
    Bound ParameterType :=
  match declared.type.getD "str" with
  | "str" => .ok .text
  | "int" => .ok .integer
  | "bool" => .ok .boolean
  | "list" => .ok .list
  | "dict" => .ok .dict
  | name =>
      match find? tables.models name with
      | some type => .ok (.model name type)
      | none => .error (.unknownAttributeType owner name)

def checkSupport (type : ParameterType) (validators : List Validator) : Bound Unit :=
  match validators.find? fun validator => !validator.supports type.primitive with
  | some validator =>
      .error (.definition (.incompatibleValidator validator.kind type.display))
  | none => .ok ()

/-- A default of a model parameter is written as the document of an entity. -/
def defaultValue (parameter : Parameter) (document : Document) : Bound Value :=
  match parameter.type, document with
  | .model _ type, .mapping entries =>
      match type.read entries with
      | .ok entity => .ok (.object entity)
      | .error error => .error (.definition (.invalidDefault parameter.name error.message))
  | _, document => .ok (Value.ofDocument document)

/-- A declared default passes through the parameter that it is declared for. -/
def parameterDefault (action owner : String) (parameter : Parameter) :
    Option Document → Bound (Option Document)
  | none => .ok none
  | some .null => .ok none
  | some document => do
      let value ← defaultValue parameter document
      match parameter.check action value with
      | .ok checked => return some checked
      | .error error => .error (.definition (.invalidDefault owner error.message))

/-- A parameter without a body is an optional text. -/
def parameter (action : String) (tables : Tables)
    (entry : String × Option ParameterSpecification) : Bound Parameter := do
  let declared := entry.2.getD {}
  let owner := action ++ "." ++ entry.1
  let type ← parameterType owner declared tables
  let validators ← resolveValidators owner tables declared.validators
  checkSupport type validators
  let bare : Parameter := ⟨entry.1, type, declared.required, none, validators⟩
  let default ← parameterDefault action owner bare declared.default
  return { bare with default := default }

def action (name : String) (declared : ActionSpecification) (tables : Tables) : Bound Action := do
  let parameters ← declared.parameters.mapM (parameter name tables)
  return ⟨name, parameters, declared.staticVariables.getD [], declared.tasksFrom⟩

def addValidator (tables : Tables) (entry : String × ValidatorSpecification) : Bound Tables := do
  let validator ← validator entry.1 entry.2
  return { tables with validators := tables.validators ++ [(entry.1, validator)] }

/-- The identities of the models follow each other in the order of declaration. -/
def addModel (firstIdentity : Nat) (tables : Tables)
    (entry : String × List (String × Option FieldSpecification)) : Bound Tables := do
  let type ← model (firstIdentity + tables.models.length) entry.1 entry.2 tables
  return { tables with models := tables.models ++ [(entry.1, type)] }

def addAction (tables : Tables) (entry : String × ActionSpecification) : Bound Tables := do
  let action ← action entry.1 entry.2 tables
  return { tables with actions := tables.actions ++ [action] }

/-- Names are checked first, and a declaration refers to what is compiled before it. -/
def tables (firstIdentity : Nat) (specification : Specification) (settings : Settings) :
    Bound Tables := do
  checkReserved specification settings
  let validated ← specification.validators.foldlM addValidator ⟨[], [], []⟩
  let modeled ← specification.models.foldlM (addModel firstIdentity) validated
  specification.actions.foldlM addAction modeled

end Compile

end NetworkAutomation
