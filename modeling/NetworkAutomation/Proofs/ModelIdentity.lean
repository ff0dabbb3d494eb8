/-
This file proves that a model has one type in its bindings, which every place that names it shares.
-/

import NetworkAutomation.Proofs.Collections
import NetworkAutomation.Proofs.Compilation

namespace NetworkAutomation

/-! ## Places that name a model -/

namespace Bindings

/-- The attribute stands in the bindings where the specification declares the field. -/
def HasField (bindings : Bindings) (specification : Specification)
    (declared : FieldSpecification) (field : Attribute) : Prop :=
  ∃ (place slot : Nat) (name : String) (entry : String × List (String × Option FieldSpecification))
    (result : String × EntityType), specification.models[place]? = some entry ∧
    bindings.models[place]? = some result ∧ entry.2[slot]? = some (name, some declared) ∧
    result.2.attributes[slot]? = some field

/-- The parameter stands in the bindings where the specification declares it. -/
def HasParameter (bindings : Bindings) (specification : Specification)
    (declared : ParameterSpecification) (action : Action) (parameter : Parameter) : Prop :=
  ∃ (place slot : Nat) (name : String) (entry : String × ActionSpecification),
    specification.actions[place]? = some entry ∧ bindings.actions[place]? = some action ∧
    entry.2.parameters[slot]? = some (name, some declared) ∧
    action.parameters[slot]? = some parameter

/-- Every field and parameter that the specification declares stands in the bindings. -/
structure Carries (bindings : Bindings) (specification : Specification) : Prop where
  field : ∀ (place slot : Nat) (name : String)
    (entry : String × List (String × Option FieldSpecification))
    (body : Option FieldSpecification), specification.models[place]? = some entry →
    entry.2[slot]? = some (name, body) → ∃ (type : EntityType) (field : Attribute),
      bindings.models[place]? = some (entry.1, type) ∧ type.attributes[slot]? = some field ∧
      field.name = name ∧
      ∀ declared, body = some declared → bindings.HasField specification declared field
  parameter : ∀ (place slot : Nat) (name : String) (entry : String × ActionSpecification)
    (body : Option ParameterSpecification), specification.actions[place]? = some entry →
    entry.2.parameters[slot]? = some (name, body) → ∃ (action : Action) (parameter : Parameter),
      bindings.actions[place]? = some action ∧ action.name = entry.1 ∧
      action.parameters[slot]? = some parameter ∧ parameter.name = name ∧
      ∀ declared, body = some declared →
        bindings.HasParameter specification declared action parameter

/-- The field is declared with this type and this model. -/
structure Names (declared : FieldSpecification) (type model : String) : Prop where
  type : declared.type = some type
  model : declared.model = some model

/-- Every place that names the model takes the entity, and parameters keep its document. -/
structure Takes (bindings : Bindings) (specification : Specification) (model : String)
    (entity : Entity) : Prop where
  parameter : ∀ declared action parameter,
    bindings.HasParameter specification declared action parameter → declared.type = some model →
    parameter.check action.name (.object entity) = .ok entity.toDocument
  object : ∀ declared field, bindings.HasField specification declared field →
    Names declared "object" model → field.coerce (.object entity) = .ok (.object entity)
  index : ∀ declared field, bindings.HasField specification declared field →
    Names declared "index" model → ∃ item, field.type = .index item ∧
      ∀ items, OrderedCollection.checkItem ⟨item, items⟩ entity = .ok ()
  map : ∀ declared field, bindings.HasField specification declared field →
    Names declared "map" model → ∃ item key, field.type = .map item key ∧
      ∀ entries, KeyedCollection.checkItem ⟨item, key, entries⟩ entity = .ok ()

/-- Every place that names the model refuses the entity as one of a wrong type. -/
structure Refuses (bindings : Bindings) (specification : Specification) (model : String)
    (entity : Entity) : Prop where
  parameter : ∀ declared action parameter,
    bindings.HasParameter specification declared action parameter → declared.type = some model →
    parameter.check action.name (.object entity) =
      .error (.argumentType action.name parameter.name model entity.type.name)
  object : ∀ declared field, bindings.HasField specification declared field →
    Names declared "object" model → ∃ item, field.type = .object item ∧
      field.coerce (.object entity) = .error (.typeMismatch field.name
        (AttributeType.object item).display (Value.object entity).describe)
  index : ∀ declared field, bindings.HasField specification declared field →
    Names declared "index" model → ∃ item, field.type = .index item ∧
      ∀ items, OrderedCollection.checkItem ⟨item, items⟩ entity =
        .error (wrongItem "index" item entity)
  map : ∀ declared field, bindings.HasField specification declared field →
    Names declared "map" model → ∃ item key, field.type = .map item key ∧
      ∀ entries, KeyedCollection.checkItem ⟨item, key, entries⟩ entity =
        .error (wrongItem "map" item entity)

end Bindings

/-! ## Resolving the name of a model -/

namespace Compile

variable {tables : Tables} {model : String}

theorem resolveModel_eq_ok_iff {type : EntityType} :
    resolveModel tables model = .ok type ↔ find? tables.models model = some type := by
  unfold resolveModel
  cases find? tables.models model <;> simp

/-- What is found in the first part of a table is found in the whole of it. -/
theorem find?_of_take {table : List (String × EntityType)} {count : Nat} {type : EntityType}
    (found : find? (table.take count) model = some type) : find? table model = some type := by
  unfold find? at found ⊢
  obtain ⟨entry, isFirst, rfl⟩ := Option.map_eq_some_iff.mp found
  have whole : table.find? (fun entry => entry.1 == model) = some entry := by
    rw [← List.take_append_drop count table, List.find?_append, isFirst, Option.some_or]
  rw [whole, Option.map_some]

/-- The element type of a field is what its model stands for at this point. -/
theorem exists_element_of_fieldType {owner name : String} {declared : FieldSpecification}
    {type : AttributeType} (named : Bindings.Names declared name model)
    (element : name ∈ ["object", "index", "map"])
    (resolved : fieldType owner declared tables = .ok type) :
    ∃ item, find? tables.models model = some item ∧ type.item? = some item ∧
      type.primitive.name = name := by
  have taken (place : String) : elementType owner place declared tables =
      resolveModel tables model := by
    rw [elementType, named.model]
  unfold fieldType at resolved
  rw [named.type, Option.getD_some] at resolved
  simp only [List.mem_cons, List.not_mem_nil, or_false] at element
  rcases element with rfl | rfl | rfl
  · obtain ⟨item, found, same⟩ := Success.bind_eq_ok.mp resolved
    rw [taken, resolveModel_eq_ok_iff] at found
    exact ⟨item, found, Except.ok.inj same ▸ rfl, Except.ok.inj same ▸ rfl⟩
  · obtain ⟨item, found, same⟩ := Success.bind_eq_ok.mp resolved
    rw [taken, resolveModel_eq_ok_iff] at found
    exact ⟨item, found, Except.ok.inj same ▸ rfl, Except.ok.inj same ▸ rfl⟩
  · obtain ⟨item, found, same⟩ := Success.bind_eq_ok.mp resolved
    rw [taken, resolveModel_eq_ok_iff] at found
    exact ⟨item, found, Except.ok.inj same ▸ rfl, Except.ok.inj same ▸ rfl⟩

theorem parameterType_eq_ok_model {owner : String} {declared : ParameterSpecification}
    {type : ParameterType} (named : declared.type = some model)
    (notPlain : model ∉ plainTypeNames)
    (resolved : parameterType owner declared tables = .ok type) :
    ∃ item, find? tables.models model = some item ∧ type = .model model item := by
  simp only [plainTypeNames, List.mem_cons, List.not_mem_nil, or_false, not_or] at notPlain
  unfold parameterType at resolved
  rw [named, Option.getD_some] at resolved
  split at resolved
  · exact absurd rfl notPlain.1
  · exact absurd rfl notPlain.2.1
  · exact absurd rfl notPlain.2.2.1
  · exact absurd rfl notPlain.2.2.2.1
  · exact absurd rfl notPlain.2.2.2.2
  · split at resolved
    next item found => exact ⟨item, found, (Except.ok.inj resolved).symm⟩
    next => contradiction

theorem checkSupport_eq_ok_iff {type : ParameterType} {validators : List Validator} :
    checkSupport type validators = .ok () ↔
      ∀ validator ∈ validators, validator.supports type.primitive = true := by
  unfold checkSupport
  split
  next validator found =>
    have unsupported := List.find?_some found
    simp only [reduceCtorEq, false_iff]
    intro all
    rw [all validator (List.mem_of_find?_eq_some found)] at unsupported
    exact Bool.noConfusion unsupported
  next absent => simpa using List.find?_eq_none.mp absent

/-- The fields of a model have the declared types and no validator of another kind. -/
theorem model_fields {identity : Nat} {name : String}
    {fields : List (String × Option FieldSpecification)} {type : EntityType}
    (compiled : Compile.model identity name fields tables = .ok type) :
    List.Forall₂ (fun entry field => (∀ declared, entry.2 = some declared →
        ∃ owner, fieldType owner declared tables = .ok field.type) ∧
      ∀ validator ∈ field.validators, validator.supports field.type.primitive = true)
      fields type.attributes := by
  obtain ⟨declarations, each, built⟩ := Success.bind_eq_ok.mp compiled
  obtain ⟨defined, _⟩ :=
    TypeDeclaration.build_root_eq_ok rfl (BindingsError.ofDefined_eq_ok.mp built)
  refine Success.related_through (Success.mapM_eq_ok_iff.mp each) defined ?_
  intro entry declaration field resolved accepted
  obtain ⟨supported, _, _, default, _, rfl⟩ := Declaration.define_eq_ok accepted
  refine ⟨fun declared given => ?_, Declaration.checkValidators_eq_ok_iff.mp supported⟩
  unfold modelField at resolved
  rw [given] at resolved
  obtain ⟨made, taken, same⟩ := Success.bind_eq_ok.mp resolved
  obtain ⟨type, typed, taken⟩ := Success.bind_eq_ok.mp taken
  obtain ⟨found, _, rendered⟩ := Success.bind_eq_ok.mp taken
  obtain rfl := Except.ok.inj rendered
  obtain rfl := Except.ok.inj same
  exact ⟨_, typed⟩

/-- The parameters of an action have the declared types and no validator of another kind. -/
theorem action_parameters {entry : String × ActionSpecification} {result : Action}
    (compiled : Compile.action entry.1 entry.2 tables = .ok result) :
    List.Forall₂ (fun declared parameter => (∀ body, declared.2 = some body →
        ∃ owner, parameterType owner body tables = .ok parameter.type) ∧
      ∀ validator ∈ parameter.validators,
        validator.supports parameter.type.primitive = true)
      entry.2.parameters result.parameters := by
  obtain ⟨parameters, each, same⟩ := Success.bind_eq_ok.mp compiled
  obtain rfl := Except.ok.inj same
  refine (Success.mapM_eq_ok_iff.mp each).imp fun declared result taken => ?_
  obtain ⟨type, typed, taken⟩ := Success.bind_eq_ok.mp taken
  obtain ⟨found, _, taken⟩ := Success.bind_eq_ok.mp taken
  obtain ⟨_, supported, taken⟩ := Success.bind_eq_ok.mp taken
  obtain ⟨default, _, same⟩ := Success.bind_eq_ok.mp taken
  obtain rfl := Except.ok.inj same
  refine ⟨fun body given => ?_, checkSupport_eq_ok_iff.mp supported⟩
  rw [given, Option.getD_some] at typed
  exact ⟨_, typed⟩

end Compile

namespace AttributeType

variable {type : AttributeType} {item : EntityType}

theorem eq_object (element : type.item? = some item) (kind : type.primitive.name = "object") :
    type = .object item := by
  cases type <;> simp_all [item?, primitive, Primitive.name]

theorem eq_index (element : type.item? = some item) (kind : type.primitive.name = "index") :
    type = .index item := by
  cases type <;> simp_all [item?, primitive, Primitive.name]

theorem exists_map (element : type.item? = some item) (kind : type.primitive.name = "map") :
    ∃ key, type = .map item key := by
  cases type <;> simp_all [item?, primitive, Primitive.name]

end AttributeType

/-- Validators judge texts and integers, so none of them is for entities. -/
theorem Validator.eq_nil_of_supports_object {validators : List Validator}
    (supported : ∀ validator ∈ validators, validator.supports .object = true) :
    validators = [] := by
  rw [List.eq_nil_iff_forall_not_mem]
  intro validator member
  have isObject := supported validator member
  cases validator <;> simp [supports, Validator.supported] at isObject

/-! ## One type for each model -/

namespace Bindings

variable {firstIdentity : Nat} {specification : Specification} {settings : Settings}
  {bindings : Bindings} {model : String}

/-- Models stand in their places under identities of their own, and they descend from nothing. -/
theorem exists_place (compiled : compile firstIdentity specification settings = .ok bindings)
    {type : EntityType} (found : bindings.model? model = some type) :
    ∃ place, bindings.models[place]? = some (model, type) ∧
      type.identity = firstIdentity + place ∧ type.parents = [] := by
  obtain ⟨tables, taken, same⟩ := Success.bind_eq_ok.mp compiled
  obtain rfl := Except.ok.inj same
  obtain ⟨_, turns, _⟩ := Compile.tables_eq_ok taken
  obtain ⟨place, placed⟩ := List.mem_iff_getElem?.mp (Compile.mem_of_find? found)
  obtain ⟨_, _, identity, renders⟩ := turns.at_place placed
  have inRange : place < tables.models.length := (List.getElem?_eq_some_iff.mp placed).1
  refine ⟨place, placed, ?_, renders.parents⟩
  rwa [List.nil_append, List.length_take_of_le (Nat.le_of_lt inRange)] at identity

/-- Models and actions are compiled at their places, and so are the fields and parameters there. -/
theorem carries_of_compile
    (compiled : compile firstIdentity specification settings = .ok bindings) :
    bindings.Carries specification := by
  obtain ⟨_, models, actions⟩ := renders_of_compile compiled
  constructor
  case field =>
    intro place slot name entry body placed stored
    obtain ⟨⟨_, type⟩, made, renders⟩ := exists_related models placed
    obtain ⟨field, held, rendered⟩ := exists_related renders.fields stored
    obtain rfl := renders.name
    refine ⟨type, field, made, held, rendered.name, ?_⟩
    intro declared given
    subst given
    exact ⟨place, slot, name, entry, _, placed, made, stored, held⟩
  case parameter =>
    intro place slot name entry body placed stored
    obtain ⟨action, made, renders⟩ := exists_related actions placed
    obtain ⟨parameter, held, rendered⟩ := exists_related renders.parameters stored
    refine ⟨action, parameter, made, renders.name, held, rendered.name, ?_⟩
    intro declared given
    subst given
    exact ⟨place, slot, name, entry, placed, made, stored, held⟩

/-- The element type of a compiled field is the type of the model that it names. -/
theorem HasField.exists_element
    (compiled : compile firstIdentity specification settings = .ok bindings)
    {declared : FieldSpecification} {field : Attribute}
    (has : bindings.HasField specification declared field) {name : String}
    (named : Names declared name model) (element : name ∈ ["object", "index", "map"]) :
    ∃ item, bindings.model? model = some item ∧ field.type.item? = some item ∧
      field.type.primitive.name = name ∧
      ∀ validator ∈ field.validators, validator.supports field.type.primitive = true := by
  obtain ⟨tables, taken, same⟩ := Success.bind_eq_ok.mp compiled
  obtain rfl := Except.ok.inj same
  obtain ⟨_, turns, _⟩ := Compile.tables_compile taken
  obtain ⟨place, slot, fieldName, entry, result, placed, made, inFields, stored⟩ := has
  obtain ⟨given, ownPlaced, _, compiledModel⟩ := turns.at_place made
  obtain rfl := Option.some.inj (ownPlaced.symm.trans placed)
  obtain ⟨own, ownStored, typed, supported⟩ :=
    exists_related (Compile.model_fields compiledModel) inFields
  obtain rfl := Option.some.inj (ownStored.symm.trans stored)
  obtain ⟨_, resolved⟩ := typed declared rfl
  obtain ⟨item, found, isItem, kind⟩ :=
    Compile.exists_element_of_fieldType named element resolved
  exact ⟨item, Compile.find?_of_take found, isItem, kind, supported⟩

/-- A compiled parameter that names a model has its type and no validators. -/
theorem HasParameter.type_eq
    (compiled : compile firstIdentity specification settings = .ok bindings)
    {declared : ParameterSpecification} {action : Action} {parameter : Parameter}
    (has : bindings.HasParameter specification declared action parameter)
    (named : declared.type = some model) (notPlain : model ∉ plainTypeNames) :
    ∃ item, bindings.model? model = some item ∧ parameter.type = .model model item ∧
      parameter.validators = [] := by
  obtain ⟨tables, taken, same⟩ := Success.bind_eq_ok.mp compiled
  obtain rfl := Except.ok.inj same
  obtain ⟨_, _, actions⟩ := Compile.tables_compile taken
  obtain ⟨place, slot, name, entry, placed, made, inParameters, stored⟩ := has
  obtain ⟨own, ownMade, before, compiledAction⟩ := exists_related actions placed
  obtain rfl := Option.some.inj (ownMade.symm.trans made)
  obtain ⟨result, ownStored, typed, supported⟩ :=
    exists_related (Compile.action_parameters compiledAction) inParameters
  obtain rfl := Option.some.inj (ownStored.symm.trans stored)
  obtain ⟨_, resolved⟩ := typed declared rfl
  obtain ⟨item, found, isModel⟩ := Compile.parameterType_eq_ok_model named notPlain resolved
  rw [isModel] at supported
  exact ⟨item, found, isModel, Validator.eq_nil_of_supports_object supported⟩

theorem newModel_eq_ok {fields : List (String × Value)} {entity : Entity}
    (made : bindings.newModel model fields = .ok entity) :
    bindings.model? model = some entity.type := by
  unfold newModel at made
  split at made
  next type found =>
    cases created : type.create fields with
    | ok own =>
        rw [created] at made
        obtain rfl := Except.ok.inj made
        obtain ⟨_, _, _, rfl⟩ := EntityType.populate_eq_ok_iff.mp created
        exact found
    | error refusal =>
        rw [created] at made
        contradiction
  next => contradiction

/-! ## Taking and refusing entities -/

/-- An entity of the one type is taken wherever the model is named. -/
theorem takes_of_type (compiled : compile firstIdentity specification settings = .ok bindings)
    (notPlain : model ∉ plainTypeNames) {entity : Entity}
    (found : bindings.model? model = some entity.type) :
    bindings.Takes specification model entity where
  parameter declared action parameter has named := by
    obtain ⟨item, isItem, isModel, unjudged⟩ := has.type_eq compiled named notPlain
    obtain rfl := Option.some.inj (isItem.symm.trans found)
    rw [Compile.check_eq_ok, isModel, unjudged]
    refine ⟨.object entity, ?_, rfl, rfl⟩
    rw [ParameterType.coerce?, Entity.instanceOf, if_pos entity.type.isA_self]
  object declared field has named := by
    obtain ⟨item, isItem, element, kind, supported⟩ :=
      has.exists_element compiled named (by simp)
    obtain rfl := Option.some.inj (isItem.symm.trans found)
    have isObject := AttributeType.eq_object element kind
    rw [isObject] at supported
    rw [Attribute.coerce_eq_ok_iff field Value.noConfusion, isObject,
      Validator.eq_nil_of_supports_object supported]
    exact ⟨AttributeType.admission_object_eq_ok_iff.mpr
      (.inl ⟨entity, rfl, entity.type.isA_self, rfl⟩), List.forall_mem_nil _⟩
  index declared field has named := by
    obtain ⟨item, isItem, element, kind, _⟩ := has.exists_element compiled named (by simp)
    obtain rfl := Option.some.inj (isItem.symm.trans found)
    refine ⟨entity.type, AttributeType.eq_index element kind, fun items => ?_⟩
    exact OrderedCollection.checkItem_eq_ok_iff.mpr entity.type.isA_self
  map declared field has named := by
    obtain ⟨item, isItem, element, kind, _⟩ := has.exists_element compiled named (by simp)
    obtain rfl := Option.some.inj (isItem.symm.trans found)
    obtain ⟨key, isMap⟩ := AttributeType.exists_map element kind
    refine ⟨entity.type, key, isMap, fun entries => ?_⟩
    exact KeyedCollection.checkItem_eq_ok_iff.mpr entity.type.isA_self

/-- An entity that does not descend from the one type is refused wherever the model is named. -/
theorem refuses_of_foreign
    (compiled : compile firstIdentity specification settings = .ok bindings)
    (notPlain : model ∉ plainTypeNames) {entity : Entity}
    (foreign : ∀ type, bindings.model? model = some type → entity.instanceOf type = false) :
    bindings.Refuses specification model entity where
  parameter declared action parameter has named := by
    obtain ⟨item, isItem, isModel, _⟩ := has.type_eq compiled named notPlain
    have refused : parameter.type.coerce? (.object entity) = none := by
      rw [isModel, ParameterType.coerce?, foreign item isItem]
      rfl
    rw [Parameter.check, refused, isModel]
    rfl
  object declared field has named := by
    obtain ⟨item, isItem, element, kind, _⟩ := has.exists_element compiled named (by simp)
    have isObject := AttributeType.eq_object element kind
    have apart : entity.type.isA item = false := foreign item isItem
    refine ⟨item, isObject, ?_⟩
    rw [Attribute.coerce_of_ne_null field Value.noConfusion, isObject, AttributeType.admission,
      apart]
    rfl
  index declared field has named := by
    obtain ⟨item, isItem, element, kind, _⟩ := has.exists_element compiled named (by simp)
    refine ⟨item, AttributeType.eq_index element kind, fun items => ?_⟩
    rw [OrderedCollection.checkItem, foreign item isItem]
    rfl
  map declared field has named := by
    obtain ⟨item, isItem, element, kind, _⟩ := has.exists_element compiled named (by simp)
    obtain ⟨key, isMap⟩ := AttributeType.exists_map element kind
    refine ⟨item, key, isMap, fun entries => ?_⟩
    rw [KeyedCollection.checkItem, foreign item isItem]
    rfl

/-- A type without parents is an instance of nothing but itself. -/
theorem instanceOf_eq_false {entity : Entity} {type : EntityType}
    (root : entity.type.parents = []) (apart : entity.type.identity ≠ type.identity) :
    entity.instanceOf type = false := by
  rw [Entity.instanceOf, ← Bool.not_eq_true, EntityType.isA_iff, root]
  simpa using apart

/--
Every declared field and parameter stands in the bindings. Entities of a model are taken by every
place that names the model. Entities of other models, and of the models of bindings that took their
identities elsewhere, are refused there.
-/
theorem newModel_recognized
    (compiled : compile firstIdentity specification settings = .ok bindings)
    (notPlain : model ∉ plainTypeNames) {fields : List (String × Value)} {entity : Entity}
    (made : bindings.newModel model fields = .ok entity) :
    bindings.Carries specification ∧ bindings.Takes specification model entity ∧
      (∀ name given other, name ≠ model → bindings.newModel name given = .ok other →
        bindings.Refuses specification model other) ∧
      ∀ otherIdentity otherSpecification otherSettings others name given other,
        compile otherIdentity otherSpecification otherSettings = .ok others →
        (firstIdentity + bindings.models.length ≤ otherIdentity ∨
          otherIdentity + others.models.length ≤ firstIdentity) →
        others.newModel name given = .ok other → bindings.Refuses specification model other := by
  refine ⟨carries_of_compile compiled, takes_of_type compiled notPlain (newModel_eq_ok made),
    ?_, ?_⟩
  · intro name given other different otherMade
    refine refuses_of_foreign compiled notPlain fun type found => ?_
    obtain ⟨place, placed, identity, _⟩ := exists_place compiled found
    obtain ⟨otherPlace, otherPlaced, otherIdentity, root⟩ :=
      exists_place compiled (newModel_eq_ok otherMade)
    apply instanceOf_eq_false root
    intro same
    -- One identity is one place in the table, and one place has one name.
    have samePlace : otherPlace = place := by omega
    subst samePlace
    exact different (congrArg Prod.fst (Option.some.inj (otherPlaced.symm.trans placed)))
  · intro otherIdentity otherSpecification otherSettings others name given other otherCompiled
      separate otherMade
    refine refuses_of_foreign compiled notPlain fun type found => ?_
    obtain ⟨place, placed, identity, _⟩ := exists_place compiled found
    obtain ⟨otherPlace, otherPlaced, foreign, root⟩ :=
      exists_place otherCompiled (newModel_eq_ok otherMade)
    have inRange := (List.getElem?_eq_some_iff.mp placed).1
    have otherInRange := (List.getElem?_eq_some_iff.mp otherPlaced).1
    exact instanceOf_eq_false root (by omega)

end Bindings

/-! ## Two bindings of one specification -/

namespace SwitchRole

/-- The second bindings take the identities behind those of the first. -/
def otherBindings : Bindings :=
  Success.value (Bindings.compile (Catalogue.firstFreeIdentity + 2) specification {}) rfl

/-- The entity of a model with one integer. -/
def vlan : Entity :=
  Success.value (bindings.newModel "vlan" [("vlan_id", .integer 12)]) rfl

theorem vlan_recognized :
    Bindings.compile Catalogue.firstFreeIdentity specification {} = .ok bindings ∧
      "vlan" ∉ plainTypeNames ∧
      bindings.newModel "vlan" [("vlan_id", .integer 12)] = .ok vlan ∧
      bindings.Carries specification ∧ bindings.Takes specification "vlan" vlan ∧
      ∀ name given other, otherBindings.newModel name given = .ok other →
        bindings.Refuses specification "vlan" other := by
  have notPlain : "vlan" ∉ plainTypeNames := by decide
  have made : bindings.newModel "vlan" [("vlan_id", .integer 12)] = .ok vlan :=
    Success.eq_ok_value _
  obtain ⟨carries, takes, _, refuses⟩ := Bindings.newModel_recognized compile_eq_ok notPlain made
  refine ⟨compile_eq_ok, notPlain, made, carries, takes, fun name given other otherMade => ?_⟩
  exact refuses (Catalogue.firstFreeIdentity + 2) specification {} otherBindings name given other
    (Success.eq_ok_value _) (.inl (by decide)) otherMade

end SwitchRole

end NetworkAutomation
