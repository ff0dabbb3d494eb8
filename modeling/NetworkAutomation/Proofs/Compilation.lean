/-
This file proves that compiled bindings hold what their specification declares.
-/

import NetworkAutomation.Bindings.Basic
import NetworkAutomation.Proofs.ParsedSpecifications
import NetworkAutomation.Proofs.TypeBuilding

namespace NetworkAutomation

variable {validators : List (String × Validator)} {models : List (String × EntityType)}

/-! ## What declarations stand for -/

/-- Each name leads to a validator of the table. -/
def NamesValidators (validators : List (String × Validator)) :
    List String → List Validator → Prop :=
  List.Forall₂ fun name validator => (name, validator) ∈ validators

/-- The validator is of the declared kind, under the declared name. -/
structure RendersValidator (entry : String × ValidatorSpecification)
    (result : String × Validator) : Prop where
  name : result.1 = entry.1
  kind : result.2.kind = entry.2.kind
  compiled : Compile.validator entry.1 entry.2 = .ok result.2

namespace FieldSpecification

/-- A field without a body is an optional text. -/
def ofBody (body : Option FieldSpecification) : FieldSpecification :=
  body.getD { type := some "str", required := false }

/-- Element types are models of the table, and a map without a key is keyed by names. -/
inductive DeclaresType (models : List (String × EntityType))
    (declared : FieldSpecification) : AttributeType → Prop where
  | text (named : declared.type.getD "str" = "str") : DeclaresType models declared .text
  | integer (named : declared.type = some "int") : DeclaresType models declared .integer
  | boolean (named : declared.type = some "bool") : DeclaresType models declared .boolean
  | list (named : declared.type = some "list") : DeclaresType models declared .list
  | dict (named : declared.type = some "dict") : DeclaresType models declared .dict
  | object {model : String} {item : EntityType} (named : declared.type = some "object")
      (element : declared.model = some model) (known : (model, item) ∈ models) :
      DeclaresType models declared (.object item)
  | index {model : String} {item : EntityType} (named : declared.type = some "index")
      (element : declared.model = some model) (known : (model, item) ∈ models) :
      DeclaresType models declared (.index item)
  | map {model : String} {item : EntityType} (named : declared.type = some "map")
      (element : declared.model = some model) (known : (model, item) ∈ models) :
      DeclaresType models declared (.map item (declared.key.getD "name"))

/-- A declared default was coerced, and without one the default follows from the type. -/
inductive DeclaresDefault (declared : FieldSpecification) (field : Attribute) : Prop where
  | implicit (unset : declared.default.getD .null = .null)
      (taken : field.default = field.type.implicitDefault)
  | coerced {document : Document} (written : declared.default = some document)
      (notNull : document ≠ .null)
      (taken : field.coerce (Value.ofDocument document) = .ok field.default)

/-- The attribute is what the body of the field declares. -/
structure Renders (validators : List (String × Validator))
    (models : List (String × EntityType)) (name : String) (declared : FieldSpecification)
    (field : Attribute) : Prop where
  name : field.name = name
  type : declared.DeclaresType models field.type
  default : declared.DeclaresDefault field
  required : field.required = declared.required
  validators : NamesValidators validators declared.validators field.validators
  policy : field.policy = declared.policy
  aliases : field.aliases = declared.aliases

end FieldSpecification

/-- The model is a closed type of its own whose fields stand in the order of declaration. -/
structure RendersModel (validators : List (String × Validator))
    (models : List (String × EntityType))
    (entry : String × List (String × Option FieldSpecification))
    (result : String × EntityType) : Prop where
  name : result.1 = entry.1
  typeName : result.2.name = entry.1
  parents : result.2.parents = []
  catchAll : result.2.catchAll = none
  envelope : result.2.envelope = none
  fields : List.Forall₂ (fun declared field =>
    (FieldSpecification.ofBody declared.2).Renders validators models declared.1 field)
    entry.2 result.2.attributes

/-- The names of the types that are no models. -/
def plainTypeNames : List String := ["str", "int", "bool", "list", "dict"]

/-- A mapping stands for an entity where the parameter holds a model, and else for itself. -/
def ParameterType.valueOf? : ParameterType → Document → Option Value
  | .model _ type, .mapping entries => (type.read entries).toOption.map .object
  | _, document => some (Value.ofDocument document)

namespace ParameterSpecification

/-- A parameter without a body is an optional text. -/
def ofBody (body : Option ParameterSpecification) : ParameterSpecification :=
  body.getD { type := some "str", required := false }

inductive DeclaresType (models : List (String × EntityType))
    (declared : ParameterSpecification) : ParameterType → Prop where
  | text (named : declared.type.getD "str" = "str") : DeclaresType models declared .text
  | integer (named : declared.type = some "int") : DeclaresType models declared .integer
  | boolean (named : declared.type = some "bool") : DeclaresType models declared .boolean
  | list (named : declared.type = some "list") : DeclaresType models declared .list
  | dict (named : declared.type = some "dict") : DeclaresType models declared .dict
  | model {name : String} {type : EntityType} (named : declared.type = some name)
      (notPlain : name ∉ plainTypeNames) (known : (name, type) ∈ models) :
      DeclaresType models declared (.model name type)

/-- A declared default was coerced, judged and kept as a document. -/
inductive DeclaresDefault (declared : ParameterSpecification) (parameter : Parameter) : Prop where
  | missing (unset : declared.default.getD .null = .null) (taken : parameter.default = none)
  | coerced {document : Document} {value coerced : Value}
      (written : declared.default = some document) (notNull : document ≠ .null)
      (given : parameter.type.valueOf? document = some value)
      (fits : parameter.type.coerce? value = some coerced)
      (judged : Validator.checkAll parameter.validators coerced = .ok ())
      (taken : parameter.default = some coerced.toDocument)

/-- The parameter is what the body declares. -/
structure Renders (validators : List (String × Validator))
    (models : List (String × EntityType)) (name : String) (declared : ParameterSpecification)
    (parameter : Parameter) : Prop where
  name : parameter.name = name
  type : declared.DeclaresType models parameter.type
  required : parameter.required = declared.required
  validators : NamesValidators validators declared.validators parameter.validators
  default : declared.DeclaresDefault parameter

end ParameterSpecification

structure RendersAction (validators : List (String × Validator))
    (models : List (String × EntityType)) (entry : String × ActionSpecification)
    (action : Action) : Prop where
  name : action.name = entry.1
  parameters : List.Forall₂ (fun declared parameter =>
    (ParameterSpecification.ofBody declared.2).Renders validators models declared.1 parameter)
    entry.2.parameters action.parameters
  staticVariables : action.staticVariables = entry.2.staticVariables.getD []
  tasksFrom : action.tasksFrom = entry.2.tasksFrom

/-! ## Tables of models -/

section Models

variable {larger : List (String × EntityType)}

theorem FieldSpecification.DeclaresType.mono {declared : FieldSpecification}
    {type : AttributeType} (declares : declared.DeclaresType models type)
    (within : models ⊆ larger) : declared.DeclaresType larger type := by
  cases declares with
  | text named => exact .text named
  | integer named => exact .integer named
  | boolean named => exact .boolean named
  | list named => exact .list named
  | dict named => exact .dict named
  | object named element known => exact .object named element (within known)
  | index named element known => exact .index named element (within known)
  | map named element known => exact .map named element (within known)

theorem FieldSpecification.DeclaresType.exists_model {declared : FieldSpecification}
    {type : AttributeType} (declares : declared.DeclaresType models type) {item : EntityType}
    (element : type.item? = some item) : ∃ model, (model, item) ∈ models := by
  cases declares with
  | object _ _ known => exact ⟨_, Option.some.inj element ▸ known⟩
  | index _ _ known => exact ⟨_, Option.some.inj element ▸ known⟩
  | map _ _ known => exact ⟨_, Option.some.inj element ▸ known⟩
  | _ => exact nomatch element

/-- Whatever type a field of the model refers to is a model of the table. -/
theorem RendersModel.exists_model {entry : String × List (String × Option FieldSpecification)}
    {result : String × EntityType} (renders : RendersModel validators models entry result)
    {field : Attribute} (member : field ∈ result.2.attributes) {item : EntityType}
    (element : field.type.item? = some item) : ∃ model, (model, item) ∈ models := by
  obtain ⟨_, _, rendered⟩ := Success.exists_source renders.fields member
  exact rendered.type.exists_model element

theorem RendersModel.mono {entry : String × List (String × Option FieldSpecification)}
    {result : String × EntityType} (renders : RendersModel validators models entry result)
    (within : models ⊆ larger) : RendersModel validators larger entry result :=
  { renders with
    fields := renders.fields.imp fun _ _ field => { field with type := field.type.mono within } }

end Models

/-! ## Tables of validators and models -/

theorem BindingsError.ofDefined_eq_ok {α : Type} {defined : Defined α} {value : α} :
    BindingsError.ofDefined defined = .ok value ↔ defined = .ok value := by
  cases defined <;> simp [BindingsError.ofDefined]

theorem BindingsError.ofDefined_eq_error {α : Type} {defined : Defined α}
    {refusal : DefinitionError} :
    BindingsError.ofDefined defined = .error (.definition refusal) ↔
      defined = .error refusal := by
  cases defined <;> simp [BindingsError.ofDefined]

namespace Compile

variable {tables : Tables}

theorem mem_of_find? {α : Type} {table : List (String × α)} {name : String} {value : α}
    (found : find? table name = some value) : (name, value) ∈ table :=
  Entries.mem_of_find? found

theorem resolveValidators_eq_ok {owner : String} {names : List String} {found : List Validator}
    (resolved : resolveValidators owner tables names = .ok found) :
    NamesValidators tables.validators names found := by
  refine (Success.mapM_eq_ok_iff.mp resolved).imp fun name validator taken => ?_
  split at taken
  next known => exact mem_of_find? (Except.ok.inj taken ▸ known)
  next => exact nomatch taken

theorem elementType_eq_ok {owner type : String} {declared : FieldSpecification}
    {item : EntityType} (resolved : elementType owner type declared tables = .ok item) :
    ∃ model, declared.model = some model ∧ (model, item) ∈ tables.models := by
  unfold elementType at resolved
  split at resolved
  next model given =>
    unfold resolveModel at resolved
    split at resolved
    next known => exact ⟨model, given, mem_of_find? (Except.ok.inj resolved ▸ known)⟩
    next => exact nomatch resolved
  next => exact nomatch resolved

/-- A type name other than the one of texts was declared. -/
theorem eq_some_of_getD {name : Option String} {default given : String}
    (named : name.getD default = given) (other : given ≠ default) : name = some given := by
  cases name with
  | none => exact absurd named.symm other
  | some name => exact congrArg some named

theorem fieldType_eq_ok {owner : String} {declared : FieldSpecification} {type : AttributeType}
    (resolved : fieldType owner declared tables = .ok type) :
    declared.DeclaresType tables.models type := by
  unfold fieldType at resolved
  split at resolved
  next named => exact Except.ok.inj resolved ▸ .text named
  next named => exact Except.ok.inj resolved ▸ .integer (eq_some_of_getD named (by decide))
  next named => exact Except.ok.inj resolved ▸ .boolean (eq_some_of_getD named (by decide))
  next named => exact Except.ok.inj resolved ▸ .list (eq_some_of_getD named (by decide))
  next named => exact Except.ok.inj resolved ▸ .dict (eq_some_of_getD named (by decide))
  next named =>
    obtain ⟨item, taken, same⟩ := Success.bind_eq_ok.mp resolved
    obtain ⟨model, element, known⟩ := elementType_eq_ok taken
    exact Except.ok.inj same ▸ .object (eq_some_of_getD named (by decide)) element known
  next named =>
    obtain ⟨item, taken, same⟩ := Success.bind_eq_ok.mp resolved
    obtain ⟨model, element, known⟩ := elementType_eq_ok taken
    exact Except.ok.inj same ▸ .index (eq_some_of_getD named (by decide)) element known
  next named =>
    obtain ⟨item, taken, same⟩ := Success.bind_eq_ok.mp resolved
    obtain ⟨model, element, known⟩ := elementType_eq_ok taken
    exact Except.ok.inj same ▸ .map (eq_some_of_getD named (by decide)) element known
  next => exact nomatch resolved

/-! ## Models -/

theorem eq_null_of_ofDocument {document : Document} (isNull : Value.ofDocument document = .null) :
    document = .null := by
  rw [← Value.toDocument_ofDocument document, isNull]
  rfl

/-- The declaration of a field whose type and validators are resolved. -/
def declarationOf (declared : FieldSpecification) (type : AttributeType)
    (found : List Validator) : Declaration where
  type := type
  default := (declared.default.map Value.ofDocument).getD .null
  required := declared.required
  validators := found
  policy := declared.policy
  aliases := declared.aliases

theorem modelField_eq_ok {model : String} {entry : String × Option FieldSpecification}
    {result : String × Declaration} (compiled : modelField model tables entry = .ok result) :
    ∃ type found, (FieldSpecification.ofBody entry.2).DeclaresType tables.models type ∧
      NamesValidators tables.validators (FieldSpecification.ofBody entry.2).validators found ∧
      result = (entry.1, declarationOf (FieldSpecification.ofBody entry.2) type found) := by
  obtain ⟨name, body⟩ := entry
  cases body with
  | none =>
      obtain rfl := Except.ok.inj compiled
      exact ⟨.text, [], .text rfl, .nil, rfl⟩
  | some declared =>
      obtain ⟨declaration, taken, same⟩ := Success.bind_eq_ok.mp compiled
      obtain ⟨type, typed, taken⟩ := Success.bind_eq_ok.mp taken
      obtain ⟨found, resolved, rendered⟩ := Success.bind_eq_ok.mp taken
      obtain rfl := Except.ok.inj rendered
      obtain rfl := Except.ok.inj same
      exact ⟨type, found, fieldType_eq_ok typed, resolveValidators_eq_ok resolved, rfl⟩

/-- A declared default is coerced by the very attribute that it ends up in. -/
theorem declaresDefault_of_defaultFor {declared : FieldSpecification} {type : AttributeType}
    {found : List Validator} {name : String} {default : Value}
    (taken : (declarationOf declared type found).defaultFor name = .ok default) :
    declared.DeclaresDefault ((declarationOf declared type found).withDefault name default) := by
  have given : (declarationOf declared type found).default =
      Value.ofDocument (declared.default.getD .null) := by
    unfold declarationOf
    cases declared.default <;> rfl
  rcases Declaration.defaultFor_eq_ok_iff.mp taken with ⟨isNull, rfl⟩ | ⟨notNull, coerced⟩
  · exact .implicit (eq_null_of_ofDocument (given ▸ isNull)) rfl
  · rw [given] at notNull coerced
    cases written : declared.default with
    | none => exact absurd (by rw [written]; rfl) notNull
    | some document =>
        rw [written, Option.getD_some] at notNull coerced
        refine .coerced written (fun isNull => notNull (by rw [isNull]; rfl)) ?_
        rw [Attribute.coerce_of_ne_null _ notNull] at coerced ⊢
        exact coerced

theorem modelField_renders {model : String} {entry : String × Option FieldSpecification}
    {declared : String × Declaration} {field : Attribute}
    (compiled : modelField model tables entry = .ok declared)
    (defined : declared.2.define declared.1 = .ok field) :
    (FieldSpecification.ofBody entry.2).Renders tables.validators tables.models entry.1 field := by
  obtain ⟨type, found, typed, resolved, rfl⟩ := modelField_eq_ok compiled
  obtain ⟨_, _, _, default, taken, rfl⟩ := Declaration.define_eq_ok defined
  exact {
    name := rfl
    type := typed
    default := declaresDefault_of_defaultFor taken
    required := rfl
    validators := resolved
    policy := rfl
    aliases := rfl }

theorem model_renders {identity : Nat} {name : String}
    {fields : List (String × Option FieldSpecification)} {type : EntityType}
    (compiled : model identity name fields tables = .ok type) :
    type.identity = identity ∧
      RendersModel tables.validators tables.models (name, fields) (name, type) := by
  obtain ⟨declared, each, built⟩ := Success.bind_eq_ok.mp compiled
  obtain ⟨defined, shape⟩ :=
    TypeDeclaration.build_root_eq_ok rfl (BindingsError.ofDefined_eq_ok.mp built)
  rw [shape]
  exact ⟨rfl, {
    name := rfl
    typeName := rfl
    parents := rfl
    catchAll := rfl
    envelope := rfl
    fields := Success.related_through (Success.mapM_eq_ok_iff.mp each) defined
      fun _ _ _ compiled defined => modelField_renders compiled defined }⟩

/-! ## Actions -/

theorem parameterType_eq_ok {owner : String} {declared : ParameterSpecification}
    {type : ParameterType} (resolved : parameterType owner declared tables = .ok type) :
    declared.DeclaresType tables.models type := by
  unfold parameterType at resolved
  split at resolved
  next named => exact Except.ok.inj resolved ▸ .text named
  next named => exact Except.ok.inj resolved ▸ .integer (eq_some_of_getD named (by decide))
  next named => exact Except.ok.inj resolved ▸ .boolean (eq_some_of_getD named (by decide))
  next named => exact Except.ok.inj resolved ▸ .list (eq_some_of_getD named (by decide))
  next named => exact Except.ok.inj resolved ▸ .dict (eq_some_of_getD named (by decide))
  next name notText notInteger notBoolean notList notDict =>
    split at resolved
    next model known =>
      obtain rfl := Except.ok.inj resolved
      refine .model (eq_some_of_getD rfl notText) ?_ (mem_of_find? known)
      simp only [plainTypeNames, List.mem_cons, List.not_mem_nil, or_false, not_or]
      exact ⟨notText, notInteger, notBoolean, notList, notDict⟩
    next => exact nomatch resolved

theorem defaultValue_eq_ok {parameter : Parameter} {document : Document} {value : Value}
    (given : defaultValue parameter document = .ok value) :
    parameter.type.valueOf? document = some value := by
  unfold defaultValue at given
  split at given
  next name type entries isModel =>
    split at given
    next entity read =>
      rw [isModel, ParameterType.valueOf?, read]
      exact congrArg some (Except.ok.inj given)
    next => contradiction
  next plain =>
    obtain rfl := Except.ok.inj given
    unfold ParameterType.valueOf?
    split
    next name type entries isModel => exact absurd rfl (plain name type entries isModel)
    next => rfl

theorem check_eq_ok {parameter : Parameter} {action : String} {value : Value}
    {document : Document} :
    parameter.check action value = .ok document ↔ ∃ coerced,
      parameter.type.coerce? value = some coerced ∧
      Validator.checkAll parameter.validators coerced = .ok () ∧
      coerced.toDocument = document := by
  unfold Parameter.check
  cases parameter.type.coerce? value with
  | none => simp
  | some coerced =>
      cases judged : Validator.checkAll parameter.validators coerced with
      | ok accepted => simp [judged]
      | error cause => simp [judged]

theorem parameterDefault_eq_ok {action owner : String} {declared : ParameterSpecification}
    {bare : Parameter} {default : Option Document}
    (taken : parameterDefault action owner bare declared.default = .ok default) :
    declared.DeclaresDefault { bare with default := default } := by
  unfold parameterDefault at taken
  split at taken
  next missing => exact .missing (by rw [missing]; rfl) (Except.ok.inj taken).symm
  next missing => exact .missing (by rw [missing]; rfl) (Except.ok.inj taken).symm
  next document notNull written =>
    obtain ⟨value, given, taken⟩ := Success.bind_eq_ok.mp taken
    split at taken
    next checked accepted =>
      obtain ⟨coerced, fits, judged, rfl⟩ := check_eq_ok.mp accepted
      exact .coerced written notNull (defaultValue_eq_ok given) fits judged
        (Except.ok.inj taken).symm
    next => exact nomatch taken

/-- A body that is left out is compiled like one that says nothing. -/
theorem parameter_ofBody (action : String) (entry : String × Option ParameterSpecification) :
    parameter action tables entry =
      parameter action tables (entry.1, some (ParameterSpecification.ofBody entry.2)) := by
  obtain ⟨name, body⟩ := entry
  cases body <;> rfl

theorem parameter_renders {action : String} {entry : String × Option ParameterSpecification}
    {result : Parameter} (compiled : parameter action tables entry = .ok result) :
    (ParameterSpecification.ofBody entry.2).Renders tables.validators tables.models entry.1
      result := by
  rw [parameter_ofBody] at compiled
  obtain ⟨type, typed, compiled⟩ := Success.bind_eq_ok.mp compiled
  obtain ⟨found, resolved, compiled⟩ := Success.bind_eq_ok.mp compiled
  obtain ⟨_, supported, compiled⟩ := Success.bind_eq_ok.mp compiled
  obtain ⟨default, taken, same⟩ := Success.bind_eq_ok.mp compiled
  obtain rfl := Except.ok.inj same
  exact {
    name := rfl
    type := parameterType_eq_ok typed
    required := rfl
    validators := resolveValidators_eq_ok resolved
    default := parameterDefault_eq_ok taken }

theorem action_renders {entry : String × ActionSpecification} {result : Action}
    (compiled : action entry.1 entry.2 tables = .ok result) :
    RendersAction tables.validators tables.models entry result := by
  obtain ⟨parameters, each, same⟩ := Success.bind_eq_ok.mp compiled
  obtain rfl := Except.ok.inj same
  exact {
    name := rfl
    parameters := (Success.mapM_eq_ok_iff.mp each).imp fun _ _ => parameter_renders
    staticVariables := rfl
    tasksFrom := rfl }

/-! ## Whole specifications -/

theorem kind_of_ofParameters {name kind : String} {made : Except String Validator}
    {result : Validator} (kinds : ∀ validator, made = .ok validator → validator.kind = kind)
    (compiled : ofParameters name made = .ok result) : result.kind = kind := by
  cases made with
  | error reason => exact nomatch compiled
  | ok validator => exact kinds result (congrArg Except.ok (Except.ok.inj compiled))

theorem rangeValidator_kind {parameters : Mapping} {result : Validator}
    (made : rangeValidator parameters = .ok result) : result.kind = "range" := by
  obtain ⟨_, _, made⟩ := Success.bind_eq_ok.mp made
  obtain ⟨least, _, made⟩ := Success.bind_eq_ok.mp made
  obtain ⟨greatest, _, made⟩ := Success.bind_eq_ok.mp made
  split at made
  next validator bounded =>
    obtain rfl := Except.ok.inj made
    unfold Validator.ofBounds at bounded
    split at bounded
    next => exact Except.ok.inj bounded ▸ rfl
    next => exact nomatch bounded
  next => exact nomatch made

theorem choiceValidator_kind {parameters : Mapping} {result : Validator}
    (made : choiceValidator parameters = .ok result) : result.kind = "choice" := by
  obtain ⟨_, _, made⟩ := Success.bind_eq_ok.mp made
  split at made
  next =>
    split at made
    next choices _ => exact Except.ok.inj made ▸ rfl
    next => exact nomatch made
  next => exact nomatch made
  next => exact nomatch made

theorem portValidator_kind {parameters : Mapping} {result : Validator}
    (made : portValidator parameters = .ok result) : result.kind = "port" := by
  obtain ⟨_, _, made⟩ := Success.bind_eq_ok.mp made
  exact Except.ok.inj made ▸ rfl

theorem validator_renders {entry : String × ValidatorSpecification} {result : Validator}
    (compiled : validator entry.1 entry.2 = .ok result) :
    RendersValidator entry (entry.1, result) where
  name := rfl
  kind := by
    unfold validator at compiled
    split at compiled
    next kind => exact kind ▸ kind_of_ofParameters (fun _ => rangeValidator_kind) compiled
    next kind => exact kind ▸ kind_of_ofParameters (fun _ => choiceValidator_kind) compiled
    next kind => exact kind ▸ kind_of_ofParameters (fun _ => portValidator_kind) compiled
    next => exact nomatch compiled
  compiled := compiled

/-- A model is compiled from the validators and from the models before it. -/
def CompilesModel (firstIdentity : Nat) (validators : List (String × Validator))
    (before : List (String × EntityType))
    (entry : String × List (String × Option FieldSpecification))
    (result : String × EntityType) : Prop :=
  result.1 = entry.1 ∧
    model (firstIdentity + before.length) entry.1 entry.2 ⟨validators, before, []⟩ = .ok result.2

/-- An action is compiled from all validators and all models. -/
def CompilesAction (validators : List (String × Validator)) (models : List (String × EntityType))
    (entry : String × ActionSpecification) (result : Action) : Prop :=
  ∃ before, action entry.1 entry.2 ⟨validators, models, before⟩ = .ok result

/-- A model is made from the validators and from the models before it. -/
def MakesModel (firstIdentity : Nat) (validators : List (String × Validator))
    (before : List (String × EntityType))
    (entry : String × List (String × Option FieldSpecification))
    (result : String × EntityType) : Prop :=
  result.2.identity = firstIdentity + before.length ∧ RendersModel validators before entry result

theorem CompilesModel.makes {firstIdentity : Nat} {before : List (String × EntityType)}
    {entry : String × List (String × Option FieldSpecification)} {result : String × EntityType}
    (compiles : CompilesModel firstIdentity validators before entry result) :
    MakesModel firstIdentity validators before entry result := by
  obtain ⟨name, type⟩ := result
  obtain ⟨named, compiled⟩ := compiles
  obtain ⟨identity, renders⟩ := model_renders compiled
  exact ⟨identity, { renders with name := named }⟩

theorem validators_of_foldlM {declared : List (String × ValidatorSpecification)}
    (added : declared.foldlM addValidator ⟨[], [], []⟩ = .ok tables) :
    ∃ results, tables = ⟨results, [], []⟩ ∧ List.Forall₂ RendersValidator declared results := by
  have appends : ∀ (before : List (String × Validator)) entry next,
      addValidator ⟨before, [], []⟩ entry = .ok next →
      ∃ result, next = ⟨before ++ [result], [], []⟩ ∧ RendersValidator entry result := by
    intro before entry next taken
    obtain ⟨result, compiled, same⟩ := Success.bind_eq_ok.mp taken
    exact ⟨(entry.1, result), (Except.ok.inj same).symm, validator_renders compiled⟩
  obtain ⟨results, same, turns⟩ := Success.inTurn_of_foldlM
    (fun results => (⟨results, [], []⟩ : Tables)) appends added
  exact ⟨results, same, turns.forall₂ fun _ _ _ _ renders => renders⟩

theorem models_of_foldlM {firstIdentity : Nat}
    {declared : List (String × List (String × Option FieldSpecification))}
    (added : declared.foldlM (addModel firstIdentity) ⟨validators, [], []⟩ = .ok tables) :
    ∃ results, tables = ⟨validators, results, []⟩ ∧
      Success.InTurn (CompilesModel firstIdentity validators) [] declared results := by
  have appends : ∀ (before : List (String × EntityType)) entry next,
      addModel firstIdentity ⟨validators, before, []⟩ entry = .ok next →
      ∃ result, next = ⟨validators, before ++ [result], []⟩ ∧
        CompilesModel firstIdentity validators before entry result := by
    intro before entry next taken
    obtain ⟨type, compiled, same⟩ := Success.bind_eq_ok.mp taken
    exact ⟨(entry.1, type), (Except.ok.inj same).symm, rfl, compiled⟩
  exact Success.inTurn_of_foldlM
    (fun results => (⟨validators, results, []⟩ : Tables)) appends added

theorem actions_of_foldlM {declared : List (String × ActionSpecification)}
    (added : declared.foldlM addAction ⟨validators, models, []⟩ = .ok tables) :
    ∃ results, tables = ⟨validators, models, results⟩ ∧
      List.Forall₂ (CompilesAction validators models) declared results := by
  have appends : ∀ (before : List Action) entry next,
      addAction ⟨validators, models, before⟩ entry = .ok next →
      ∃ result, next = ⟨validators, models, before ++ [result]⟩ ∧
        CompilesAction validators models entry result := by
    intro before entry next taken
    obtain ⟨result, compiled, same⟩ := Success.bind_eq_ok.mp taken
    exact ⟨result, (Except.ok.inj same).symm, before, compiled⟩
  obtain ⟨results, same, turns⟩ := Success.inTurn_of_foldlM
    (fun results => (⟨validators, models, results⟩ : Tables)) appends added
  exact ⟨results, same, turns.forall₂ fun _ _ _ _ compiles => compiles⟩

/-- The tables are compiled entry by entry, each from what stands before it. -/
theorem tables_compile {firstIdentity : Nat} {specification : Specification}
    {settings : Settings}
    (compiled : Compile.tables firstIdentity specification settings = .ok tables) :
    List.Forall₂ RendersValidator specification.validators tables.validators ∧
      Success.InTurn (CompilesModel firstIdentity tables.validators) [] specification.models
        tables.models ∧
      List.Forall₂ (CompilesAction tables.validators tables.models) specification.actions
        tables.actions := by
  obtain ⟨_, _, compiled⟩ := Success.bind_eq_ok.mp compiled
  obtain ⟨validated, addedValidators, compiled⟩ := Success.bind_eq_ok.mp compiled
  obtain ⟨modeled, addedModels, addedActions⟩ := Success.bind_eq_ok.mp compiled
  obtain ⟨validators, rfl, renderedValidators⟩ := validators_of_foldlM addedValidators
  obtain ⟨models, rfl, compiledModels⟩ := models_of_foldlM addedModels
  obtain ⟨actions, rfl, compiledActions⟩ := actions_of_foldlM addedActions
  exact ⟨renderedValidators, compiledModels, compiledActions⟩

theorem tables_eq_ok {firstIdentity : Nat} {specification : Specification} {settings : Settings}
    (compiled : Compile.tables firstIdentity specification settings = .ok tables) :
    List.Forall₂ RendersValidator specification.validators tables.validators ∧
      Success.InTurn (MakesModel firstIdentity tables.validators) [] specification.models
        tables.models ∧
      List.Forall₂ (RendersAction tables.validators tables.models) specification.actions
        tables.actions := by
  obtain ⟨validators, models, actions⟩ := tables_compile compiled
  refine ⟨validators, models.imp fun _ _ _ => CompilesModel.makes, actions.imp ?_⟩
  rintro entry result ⟨before, compiled⟩
  exact action_renders compiled

end Compile

namespace Bindings

/-- Everything that is declared stands rendered at its place in the bindings. -/
theorem renders_of_compile {firstIdentity : Nat} {specification : Specification}
    {settings : Settings} {bindings : Bindings}
    (compiled : Bindings.compile firstIdentity specification settings = .ok bindings) :
    List.Forall₂ RendersValidator specification.validators bindings.validators ∧
      List.Forall₂ (RendersModel bindings.validators bindings.models)
        specification.models bindings.models ∧
      List.Forall₂ (RendersAction bindings.validators bindings.models)
        specification.actions bindings.actions := by
  obtain ⟨tables, taken, same⟩ := Success.bind_eq_ok.mp compiled
  obtain rfl := Except.ok.inj same
  obtain ⟨validators, turns, actions⟩ := Compile.tables_eq_ok taken
  exact ⟨validators, turns.forall₂ fun _ _ _ within makes => makes.2.mono within, actions⟩

/-- The bindings hold what the specification declares, and models refer to earlier ones only. -/
structure Faithful (bindings : Bindings) (firstIdentity : Nat) (specification : Specification)
    (settings : Settings) : Prop where
  settings : bindings.settings = settings
  validators : List.Forall₂ RendersValidator specification.validators bindings.validators
  models : List.Forall₂ (RendersModel bindings.validators bindings.models)
    specification.models bindings.models
  actions : List.Forall₂ (RendersAction bindings.validators bindings.models)
    specification.actions bindings.actions
  validatorNames : (Entries.keys bindings.validators).Nodup
  modelNames : (Entries.keys bindings.models).Nodup
  actionNames : (bindings.actions.map Action.name).Nodup
  identities (place : Nat) (entry : String × EntityType)
    (placed : bindings.models[place]? = some entry) : entry.2.identity = firstIdentity + place
  earlier (place : Nat) (entry : String × EntityType)
    (placed : bindings.models[place]? = some entry) :
    ∀ field ∈ entry.2.attributes, ∀ item, field.type.item? = some item →
      ∃ before name, before < place ∧ bindings.models[before]? = some (name, item)

/-- The compiler is faithful to each specification that it accepts. -/
theorem compile_faithful {firstIdentity : Nat} {specification : Specification}
    {settings : Settings} {bindings : Bindings} (parsed : specification.Parsed)
    (compiled : Bindings.compile firstIdentity specification settings = .ok bindings) :
    bindings.Faithful firstIdentity specification settings := by
  have formed := parsed.wellFormed
  obtain ⟨validators, models, actions⟩ := renders_of_compile compiled
  obtain ⟨tables, taken, same⟩ := Success.bind_eq_ok.mp compiled
  obtain rfl := Except.ok.inj same
  obtain ⟨_, turns, _⟩ := Compile.tables_eq_ok taken
  have validatorNames : Entries.keys tables.validators = Entries.keys specification.validators :=
    Success.map_eq_of_related validators fun _ _ renders => renders.name
  have modelNames : Entries.keys tables.models = Entries.keys specification.models :=
    Success.map_eq_of_related models fun _ _ renders => renders.name
  have actionNames : tables.actions.map Action.name = Entries.keys specification.actions :=
    Success.map_eq_of_related actions fun _ _ renders => renders.name
  have made {place : Nat} {entry : String × EntityType}
      (placed : tables.models[place]? = some entry) : ∃ declared,
      Compile.MakesModel firstIdentity tables.validators (tables.models.take place) declared
        entry := by
    obtain ⟨declared, _, makes⟩ := turns.at_place placed
    exact ⟨declared, by simpa using makes⟩
  exact {
    settings := rfl
    validators := validators
    models := models
    actions := actions
    validatorNames := validatorNames.symm ▸ formed.validators
    modelNames := modelNames.symm ▸ formed.models
    actionNames := actionNames.symm ▸ formed.actions
    identities := by
      intro place entry placed
      obtain ⟨_, identity, _⟩ := made placed
      have inRange : place < tables.models.length := (List.getElem?_eq_some_iff.mp placed).1
      rwa [List.length_take_of_le (Nat.le_of_lt inRange)] at identity
    earlier := by
      intro place entry placed field member item element
      obtain ⟨_, _, renders⟩ := made placed
      obtain ⟨name, known⟩ := renders.exists_model member element
      obtain ⟨before, found⟩ := List.mem_iff_getElem?.mp known
      rw [List.getElem?_take] at found
      split at found
      next isEarlier => exact ⟨before, name, isEarlier, found⟩
      next => exact nomatch found }

end Bindings

/-! ## The bindings of a role for switches -/

namespace SwitchRole

def document : Document := .mapping [
  ("validators", .mapping [
    ("vlan_range", .mapping [
      ("type", .text "range"), ("minval", .integer 1), ("maxval", .integer 4094)])]),
  ("models", .mapping [
    ("vlan", .mapping [
      ("vlan_id", .mapping [
        ("type", .text "int"), ("required", .boolean true), ("validators", .text "vlan_range")]),
      ("vlan_name", .null),
      ("state", .mapping [("default", .text "present"), ("serialize_when", .text "present")])]),
    ("interface", .mapping [
      ("name", .mapping []),
      ("vlans", .mapping [
        ("type", .text "map"), ("model", .text "vlan"), ("key", .text "vlan_name")])])]),
  ("actions", .mapping [
    ("conf_port", .mapping [
      ("args", .mapping [
        ("port", .mapping [("required", .boolean true)]),
        ("vlan_id", .mapping [
          ("type", .text "int"), ("default", .text "1"), ("validators", .text "vlan_range")]),
        ("vlan", .mapping [("type", .text "vlan")])]),
      ("vars", .mapping [("state", .text "present")]),
      ("tasks_from", .text "conf_port")])])]

def specification : Specification :=
  (Specification.ofDocument? document).get rfl

/-- The identities of the bundled types are not used again. -/
def bindings : Bindings :=
  Success.value (Bindings.compile Catalogue.firstFreeIdentity specification {}) rfl

theorem document_wellFormed : document.WellFormed := by
  simp [document, Document.WellFormed.mapping_iff, Document.integer, Document.WellFormed.text,
    Document.WellFormed.number, Document.WellFormed.boolean, Document.WellFormed.null]

theorem specification_parsed : specification.Parsed :=
  ⟨document, document_wellFormed, (Option.some_get _).symm⟩

theorem compile_eq_ok :
    Bindings.compile Catalogue.firstFreeIdentity specification {} = .ok bindings :=
  Success.eq_ok_value _

theorem bindings_faithful :
    specification.Parsed ∧
      Bindings.compile Catalogue.firstFreeIdentity specification {} = .ok bindings ∧
      bindings.Faithful Catalogue.firstFreeIdentity specification {} :=
  ⟨specification_parsed, compile_eq_ok,
    Bindings.compile_faithful specification_parsed compile_eq_ok⟩

end SwitchRole

end NetworkAutomation
