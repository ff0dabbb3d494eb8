/-
This file proves that definitions give sound attributes and that declarations build sound types.
-/

import NetworkAutomation.Proofs.Coercion

namespace NetworkAutomation

variable {types : List EntityType}

theorem Validator.check_null (validator : Validator) : validator.check .null = .ok () := by
  cases validator <;> rfl

/-! ## Attributes -/

namespace Declaration

theorem checkValidators_eq_ok_iff {declaration : Declaration} :
    declaration.checkValidators = .ok () ↔
      ∀ validator ∈ declaration.validators,
        validator.supports declaration.type.primitive = true := by
  unfold checkValidators
  split
  next validator found =>
    have unsupported := List.find?_some found
    simp only [reduceCtorEq, false_iff]
    intro all
    rw [all validator (List.mem_of_find?_eq_some found)] at unsupported
    exact Bool.noConfusion unsupported
  next absent => simpa using List.find?_eq_none.mp absent

theorem checkPolicy_eq_ok_iff {declaration : Declaration} {name : String} :
    declaration.checkPolicy name = .ok () ↔
      (declaration.required = true → declaration.policy = .always) := by
  unfold checkPolicy
  split
  next conflict => simpa using conflict
  next agreed => simpa using agreed

/-- A default that is not declared follows from the type, and any other one is coerced. -/
theorem defaultFor_eq_ok_iff {declaration : Declaration} {name : String} {value : Value} :
    declaration.defaultFor name = .ok value ↔
      (declaration.default = .null ∧ value = declaration.type.implicitDefault) ∨
      (declaration.default ≠ .null ∧
        (declaration.withDefault name .null).coerce declaration.default = .ok value) := by
  have isNull_iff : declaration.default.isNull = true ↔ declaration.default = .null := by
    cases declaration.default <;> simp [Value.isNull]
  unfold defaultFor
  by_cases isNull : declaration.default = .null
  · rw [if_pos (isNull_iff.mpr isNull)]
    simp [isNull, @eq_comm _ value]
  · rw [if_neg (mt isNull_iff.mp isNull)]
    cases coerced : (declaration.withDefault name .null).coerce declaration.default with
    | ok result => simp [isNull]
    | error refusal => simp [isNull]

/-- This is what a declaration keeps to that defines an attribute. -/
theorem define_eq_ok {declaration : Declaration} {name : String} {field : Attribute}
    (defined : declaration.define name = .ok field) :
    declaration.checkValidators = .ok () ∧ declaration.checkPolicy name = .ok () ∧
      declaration.type.checkKey = .ok () ∧ ∃ default, declaration.defaultFor name = .ok default ∧
        field = declaration.withDefault name default := by
  unfold define at defined
  obtain ⟨_, defined⟩ := Success.check_bind_eq_ok.mp defined
  obtain ⟨_, defined⟩ := Success.check_bind_eq_ok.mp defined
  obtain ⟨supported, defined⟩ := Success.check_bind_eq_ok.mp defined
  obtain ⟨policy, defined⟩ := Success.check_bind_eq_ok.mp defined
  obtain ⟨keyed, defined⟩ := Success.check_bind_eq_ok.mp defined
  obtain ⟨default, given, same⟩ := Success.bind_eq_ok.mp defined
  exact ⟨supported, policy, keyed, default, given, (Except.ok.inj same).symm⟩

end Declaration

/-- An implicit default is null or of the declared kind, and it is sound. -/
theorem AttributeType.implicitDefault_sound (registry : Registry types) {type : AttributeType}
    (known : ∀ item, type.item? = some item → item ∈ types) (keyed : type.checkKey = .ok ()) :
    type.implicitDefault.SoundThroughout types ∧
      (type.implicitDefault ≠ .null →
        type.isContainer = true ∧ type.Fits type.implicitDefault) := by
  have noEntity (entity : Entity) : entity ∉ ([] : List Entity) := List.not_mem_nil
  cases type with
  | object item =>
      cases created : item.empty with
      | ok entity =>
          obtain ⟨sound, rfl⟩ := EntityType.empty_sound registry (known item rfl) created
          simp only [implicitDefault, created]
          exact ⟨Value.SoundThroughout.object_iff.mpr sound,
            fun _ => ⟨rfl, .object entity.type.isA_self⟩⟩
      | error refusal =>
          simp only [implicitDefault, created]
          exact ⟨.null, fun given => absurd rfl given⟩
  | index item =>
      have empty : OrderedCollection.Sound types ⟨item, []⟩ :=
        ⟨known item rfl, fun entity member => absurd member (noEntity entity)⟩
      exact ⟨⟨empty, fun entity member => absurd member (noEntity entity)⟩,
        fun _ => ⟨rfl, .index item.isA_self⟩⟩
  | map item key =>
      have empty : KeyedCollection.Sound types ⟨item, key, []⟩ :=
        { known := known item rfl
          keyField := keyed
          distinct := List.nodup_nil
          items := fun _ member => absurd member List.not_mem_nil
          keys := fun _ member => absurd member List.not_mem_nil }
      exact ⟨⟨empty, fun entity member => absurd member (noEntity entity)⟩,
        fun _ => ⟨rfl, .map item.isA_self rfl⟩⟩
  | list =>
      have empty : (Document.list []).WellFormed :=
        .list fun _ member => absurd member List.not_mem_nil
      exact ⟨⟨empty, fun entity member => absurd member (noEntity entity)⟩,
        fun _ => ⟨rfl, rfl, nofun, nofun⟩⟩
  | dict =>
      exact ⟨⟨Document.WellFormed.nil, fun entity member => absurd member (noEntity entity)⟩,
        fun _ => ⟨rfl, rfl, nofun, nofun⟩⟩
  | _ => exact ⟨.null, fun given => absurd rfl given⟩

/-- An attribute without a default accepts null, whatever its validators are. -/
theorem Declaration.bare_sound {declaration : Declaration} (name : String)
    (known : ∀ item, declaration.type.item? = some item → item ∈ types)
    (supported : declaration.checkValidators = .ok ())
    (policy : declaration.checkPolicy name = .ok ())
    (keyed : declaration.type.checkKey = .ok ()) :
    (declaration.withDefault name .null).Sound types where
  item := known
  key item key isMap := by
    have checked := keyed
    rw [show declaration.type = .map item key from isMap] at checked
    exact checked
  default := .null
  accepted := ⟨fun _ => rfl, fun given => absurd rfl given,
    fun validator _ => validator.check_null⟩
  supported := checkValidators_eq_ok_iff.mp supported
  always := checkPolicy_eq_ok_iff.mp policy

/-- A defined attribute accepts its own default, be it declared or implicit. -/
theorem Declaration.define_sound (registry : Registry types) {declaration : Declaration}
    {name : String} {field : Attribute}
    (known : ∀ item, declaration.type.item? = some item → item ∈ types)
    (given : declaration.default.SoundThroughout types)
    (defined : declaration.define name = .ok field) : field.Sound types := by
  obtain ⟨supported, policy, keyed, default, taken, rfl⟩ := define_eq_ok defined
  have bare := declaration.bare_sound name known supported policy keyed
  have accepted : default.SoundThroughout types ∧
      (declaration.withDefault name .null).Accepts default := by
    rcases defaultFor_eq_ok_iff.mp taken with ⟨_, rfl⟩ | ⟨_, coerced⟩
    · obtain ⟨sound, fits⟩ :=
        AttributeType.implicitDefault_sound registry known keyed
      refine ⟨sound, fun _ => rfl, fun set => (fits set).2, fun validator member => ?_⟩
      by_cases isNull : declaration.type.implicitDefault = .null
      · rw [isNull]
        exact validator.check_null
      · rw [bare.validators_eq_nil (fits isNull).1] at member
        exact absurd member List.not_mem_nil
    · exact registry.coercesSoundly bare _ _ given coerced
  exact { bare with
    default := accepted.1
    accepted := ⟨id, accepted.2.fits, accepted.2.judged⟩ }

theorem AttributeType.mayBeNull_of_implicitDefault {type : AttributeType}
    (isNull : type.implicitDefault = .null) : type.MayBeNull := by
  cases type with
  | object item => exact .inr ⟨item, rfl⟩
  | list => exact nomatch isNull
  | dict => exact nomatch isNull
  | index item => exact nomatch isNull
  | map item key => exact nomatch isNull
  | _ => exact .inl rfl

/-- A declared default is never null, so a null default is an implicit one. -/
theorem Declaration.mayBeNull_of_define {declaration : Declaration} {name : String}
    {field : Attribute} (defined : declaration.define name = .ok field)
    (isNull : field.default = .null) : field.type.MayBeNull := by
  obtain ⟨_, _, _, default, taken, rfl⟩ := define_eq_ok defined
  rcases defaultFor_eq_ok_iff.mp taken with ⟨_, rfl⟩ | ⟨given, coerced⟩
  · exact AttributeType.mayBeNull_of_implicitDefault isNull
  · obtain ⟨admitted, _⟩ := (Attribute.coerce_eq_ok_iff _ given).mp coerced
    exact absurd isNull (AttributeType.admission_ne_null admitted)

/-! ## Types -/

namespace TypeDeclaration

theorem names_merge (attributes : List Attribute) (added : Attribute) :
    (merge attributes added).map Attribute.name =
      if added.name ∈ attributes.map Attribute.name then attributes.map Attribute.name
      else attributes.map Attribute.name ++ [added.name] := by
  induction attributes with
  | nil => rfl
  | cons field rest ih =>
      rw [merge]
      by_cases same : field.name = added.name
      · simp [same]
      · rw [if_neg same, List.map_cons, ih, List.map_cons]
        by_cases later : added.name ∈ rest.map Attribute.name
        · rw [if_pos later, if_pos (List.mem_cons_of_mem _ later)]
        · have absent : added.name ∉ field.name :: rest.map Attribute.name := by
            rw [List.mem_cons, not_or]
            exact ⟨fun back => same back.symm, later⟩
          rw [if_neg later, if_neg absent, List.cons_append]

theorem mem_merge {attributes : List Attribute} {added field : Attribute}
    (member : field ∈ merge attributes added) : field = added ∨ field ∈ attributes := by
  induction attributes with
  | nil => exact .inl (List.mem_singleton.mp member)
  | cons first rest ih =>
      rw [merge] at member
      split at member
      next =>
        rcases List.mem_cons.mp member with new | old
        · exact .inl new
        · exact .inr (List.mem_cons_of_mem _ old)
      next =>
        rcases List.mem_cons.mp member with here | later
        · exact .inr (here ▸ List.mem_cons_self)
        · exact (ih later).imp_right (List.mem_cons_of_mem _)

/-- Attributes under distinct names that all have the property. -/
structure Coherent (property : Attribute → Prop) (attributes : List Attribute) : Prop where
  distinct : (attributes.map Attribute.name).Nodup
  each : ∀ field ∈ attributes, property field

theorem Coherent.merge {property : Attribute → Prop} {attributes : List Attribute}
    (coherent : Coherent property attributes) {added : Attribute} (holds : property added) :
    Coherent property (merge attributes added) where
  distinct := by
    rw [names_merge]
    split
    next => exact coherent.distinct
    next absent =>
      rw [List.nodup_append]
      refine ⟨coherent.distinct, List.nodup_singleton _, fun name old other new same => ?_⟩
      rw [List.mem_singleton.mp new] at same
      exact absent (same ▸ old)
  each field member := by
    rcases mem_merge member with rfl | old
    · exact holds
    · exact coherent.each field old

theorem Coherent.mergeAll {property : Attribute → Prop} {attributes added : List Attribute}
    (coherent : Coherent property attributes) (holds : ∀ field ∈ added, property field) :
    Coherent property (added.foldl TypeDeclaration.merge attributes) := by
  induction added generalizing attributes with
  | nil => exact coherent
  | cons field rest ih =>
      rw [List.forall_mem_cons] at holds
      exact ih (coherent.merge holds.1) holds.2

theorem inherited_coherent {property : Attribute → Prop} {parents : List EntityType}
    (holds : ∀ parent ∈ parents, ∀ field ∈ parent.attributes, property field) :
    Coherent property (inherited parents) := by
  have start : Coherent property [] :=
    ⟨List.nodup_nil, fun _ member => absurd member List.not_mem_nil⟩
  refine start.mergeAll fun field member => ?_
  obtain ⟨parent, inParents, inFields⟩ := List.mem_flatMap.mp member
  exact holds parent inParents field inFields

theorem mergeOwn_coherent {property : Attribute → Prop} {entity : String} {seen : List String}
    {attributes result : List Attribute} {declared : List (String × Declaration)}
    (start : Coherent property attributes)
    (holds : ∀ entry ∈ declared, ∀ field, entry.2.define entry.1 = .ok field → property field)
    (merged : mergeOwn entity seen attributes declared = .ok result) :
    Coherent property result := by
  induction declared generalizing seen attributes with
  | nil =>
      obtain rfl := Except.ok.inj merged
      exact start
  | cons entry rest ih =>
      rw [List.forall_mem_cons] at holds
      rw [mergeOwn] at merged
      split at merged
      next => contradiction
      next =>
        obtain ⟨field, defined, later⟩ := Success.bind_eq_ok.mp merged
        exact ih (start.merge (holds.1 field defined)) holds.2 later

theorem checkCatchAll_eq_ok_iff {type : EntityType} :
    checkCatchAll type = .ok () ↔ ∀ catchAll, type.catchAll = some catchAll →
      ∃ slot field, type.slot? catchAll.field = some slot ∧
        type.attributes[slot]? = some field ∧ field.type = .dict := by
  simp only [← EntityType.fieldType_eq_some_iff]
  unfold checkCatchAll
  cases type.catchAll with
  | none => simp
  | some catchAll =>
      simp only [Option.some.injEq, forall_eq']
      split
      next dict => simp [dict]
      next other => exact ⟨fun refused => (nomatch refused), fun dict => absurd dict other⟩

/-- This is what a declaration keeps to that builds a type. -/
theorem build_eq_ok {declaration : TypeDeclaration} {identity : Nat} {type : EntityType}
    (built : declaration.build identity = .ok type) :
    type.identity = identity ∧ type.parents = declaration.parents ∧
      mergeOwn declaration.name [] (inherited declaration.parents) declaration.declared =
        .ok type.attributes ∧
      checkCatchAll type = .ok () := by
  unfold build at built
  obtain ⟨_, _, built⟩ := Success.bind_eq_ok.mp built
  obtain ⟨attributes, merged, built⟩ := Success.bind_eq_ok.mp built
  obtain ⟨_, _, built⟩ := Success.bind_eq_ok.mp built
  obtain ⟨_, closed, same⟩ := Success.bind_eq_ok.mp built
  obtain rfl := Except.ok.inj same
  exact ⟨rfl, rfl, merged, closed⟩

theorem merge_of_absent {attributes : List Attribute} {added : Attribute}
    (absent : added.name ∉ attributes.map Attribute.name) :
    merge attributes added = attributes ++ [added] := by
  induction attributes with
  | nil => rfl
  | cons field rest ih =>
      rw [List.map_cons, List.mem_cons, not_or] at absent
      rw [merge, if_neg (Ne.symm absent.1), ih absent.2, List.cons_append]

/-- Own attributes that hide none before them are appended one by one. -/
theorem mergeOwn_append {entity : String} {seen : List String}
    {attributes result : List Attribute} {declared : List (String × Declaration)}
    (known : ∀ field ∈ attributes, field.name ∈ seen)
    (merged : mergeOwn entity seen attributes declared = .ok result) :
    ∃ added, result = attributes ++ added ∧ List.Forall₂
      (fun entry field => entry.2.define entry.1 = .ok field) declared added := by
  induction declared generalizing seen attributes with
  | nil =>
      obtain rfl := Except.ok.inj merged
      exact ⟨[], by rw [List.append_nil], .nil⟩
  | cons entry rest ih =>
      rw [mergeOwn] at merged
      split at merged
      next => contradiction
      next unseen =>
        obtain ⟨field, defined, merged⟩ := Success.bind_eq_ok.mp merged
        have named : field.name = entry.1 := by
          obtain ⟨_, _, _, default, _, rfl⟩ := Declaration.define_eq_ok defined
          rfl
        have absent : field.name ∉ attributes.map Attribute.name := by
          intro member
          obtain ⟨other, inAttributes, same⟩ := List.mem_map.mp member
          refine unseen (List.contains_iff_mem.mpr ?_)
          exact named ▸ same ▸ known other inAttributes
        rw [merge_of_absent absent] at merged
        have extended : ∀ other ∈ attributes ++ [field], other.name ∈ entry.1 :: seen := by
          intro other member
          rcases List.mem_append.mp member with old | new
          · exact List.mem_cons_of_mem _ (known other old)
          · rw [List.mem_singleton.mp new, named]
            exact List.mem_cons_self
        obtain ⟨added, rfl, later⟩ := ih extended merged
        exact ⟨field :: added, by rw [List.append_assoc, List.singleton_append],
          .cons defined later⟩

/-- A type without parents has just its own attributes, catch-all and envelope. -/
theorem build_root_eq_ok {declaration : TypeDeclaration} {identity : Nat} {type : EntityType}
    (root : declaration.parents = []) (built : declaration.build identity = .ok type) :
    List.Forall₂ (fun entry field => entry.2.define entry.1 = .ok field) declaration.declared
        type.attributes ∧
      type = { identity := identity, name := declaration.name, parents := [],
               attributes := type.attributes, catchAll := declaration.catchAll,
               envelope := declaration.envelope } := by
  obtain ⟨_, _, merged, _⟩ := build_eq_ok built
  rw [root] at merged
  have noField : ∀ field ∈ inherited [], field.name ∈ ([] : List String) :=
    fun _ member => absurd member List.not_mem_nil
  obtain ⟨added, same, defined⟩ := mergeOwn_append noField merged
  refine ⟨same ▸ defined, ?_⟩
  unfold build at built
  obtain ⟨_, _, built⟩ := Success.bind_eq_ok.mp built
  obtain ⟨attributes, _, built⟩ := Success.bind_eq_ok.mp built
  obtain ⟨_, _, built⟩ := Success.bind_eq_ok.mp built
  obtain ⟨_, _, shape⟩ := Success.bind_eq_ok.mp built
  obtain rfl := Except.ok.inj shape
  simp [root]

end TypeDeclaration

/-- A type that is built from known types with sound defaults is sound. -/
theorem TypeDeclaration.build_sound (registry : Registry types) {declaration : TypeDeclaration}
    {identity : Nat} {type : EntityType}
    (parents : ∀ parent ∈ declaration.parents, parent ∈ types)
    (known : ∀ entry ∈ declaration.declared, ∀ item,
      entry.2.type.item? = some item → item ∈ types)
    (given : ∀ entry ∈ declaration.declared, entry.2.default.SoundThroughout types)
    (built : declaration.build identity = .ok type) : type.Sound types := by
  obtain ⟨_, sameParents, merged, closed⟩ := build_eq_ok built
  have start : Coherent (fun field => field.Sound types ∧
      (field.default = .null → field.type.MayBeNull)) (inherited declaration.parents) := by
    refine inherited_coherent fun parent member field inFields => ?_
    have parentSound := registry.sound parent (parents parent member)
    exact ⟨parentSound.attributes field inFields, parentSound.nulls field inFields⟩
  have coherent := mergeOwn_coherent start (fun entry member field defined =>
    ⟨Declaration.define_sound registry (known entry member) (given entry member) defined,
      Declaration.mayBeNull_of_define defined⟩) merged
  exact {
    parents := by rw [sameParents]; exact parents
    attributes := fun field member => (coherent.each field member).1
    nulls := fun field member => (coherent.each field member).2
    distinct := coherent.distinct
    catchAll := checkCatchAll_eq_ok_iff.mp closed }

/-- A sound type with an identity of its own can join a registry. -/
theorem Registry.cons (registry : Registry types) {type : EntityType} (sound : type.Sound types)
    (fresh : ∀ known ∈ types, known.identity ≠ type.identity) : Registry (type :: types) where
  unique first firstKnown second secondKnown same := by
    rcases List.mem_cons.mp firstKnown with rfl | firstOld <;>
      rcases List.mem_cons.mp secondKnown with rfl | secondOld
    · rfl
    · exact absurd same.symm (fresh second secondOld)
    · exact absurd same (fresh first firstOld)
    · exact registry.unique first firstOld second secondOld same
  sound known member := by
    rcases List.mem_cons.mp member with rfl | old
    · exact sound.mono (List.subset_cons_self _ _)
    · exact (registry.sound known old).mono (List.subset_cons_self _ _)

end NetworkAutomation
