/-
This file proves that what was written of a slot is coerced to a value that is written alike.
-/

import NetworkAutomation.Proofs.Rebuilding

namespace NetworkAutomation

/-- What stands in the slots of the entity is of exactly the declared types. -/
def Entity.Exact (entity : Entity) : Prop :=
  ∀ (slot : Nat) (field : Attribute) value item, entity.type.attributes[slot]? = some field →
    entity.values[slot]? = some value → field.type.item? = some item →
    ∀ child ∈ value.entities, child.type = item

/-- The document of the entity is read again, with the key in its own field or outside. -/
structure Entity.ReadsBack (entity : Entity) : Prop where
  plain : ∃ rebuilt, entity.type.read entity.serialize = .ok rebuilt ∧
    rebuilt.serialize = entity.serialize
  keyed : ∀ keyField key, keyField ∈ entity.type.fieldNames → entity.type.envelope = none →
    entity.type.AcceptsKey keyField key → ∃ rebuilt,
      entity.type.read (Mapping.insert (Mapping.without entity.serialize keyField) keyField
        (.text key)) = .ok rebuilt ∧
      Mapping.without rebuilt.serialize keyField = Mapping.without entity.serialize keyField

section Sound

variable {types : List EntityType}

/-! ## Values of slots -/

namespace AttributeType.Fits

variable {type : AttributeType} {value : Value}

/-- Scalars and documents become documents and back. -/
theorem ofDocument_toDocument (fits : type.Fits value) (plain : value.itemType? = none) :
    Value.ofDocument value.toDocument = value := by
  have kind := fits.kind
  cases value with
  | integer content => exact Value.ofDocument_word content
  | number content => exact nomatch kind
  | object entity => exact nomatch plain
  | index collection => exact nomatch plain
  | map collection => exact nomatch plain
  | _ => rfl

theorem admission_self (fits : type.Fits value) (plain : value.itemType? = none) (name : String) :
    type.admission name value = .ok value := by
  have kind := fits.kind
  cases value <;> simp only [Value.itemType?, reduceCtorEq] at plain <;> cases type <;>
    simp_all [Value.primitive?, primitive, AttributeType.admission]

theorem exists_element (fits : type.Fits value) {own : EntityType}
    (nested : value.itemType? = some own) : ∃ item, type.item? = some item := by
  have kind := fits.kind
  cases value <;> simp only [Value.itemType?, reduceCtorEq] at nested <;> cases type <;>
    simp_all [Value.primitive?, primitive, item?]

theorem exists_item (fits : type.Fits value) {entity : Entity} (member : entity ∈ value.entities) :
    ∃ item, type.item? = some item := by
  have nested : ∃ own, value.itemType? = some own := by
    cases value <;> first | exact ⟨_, rfl⟩ | exact absurd member List.not_mem_nil
  obtain ⟨own, nested⟩ := nested
  exact fits.exists_element nested

end AttributeType.Fits

end Sound

/-! ## Reading what was written of collections -/

/-- The documents of elements are read one by one. -/
theorem OrderedCollection.exists_readItems {items : List Entity} {item : EntityType}
    {related : Entity → Entity → Prop}
    (each : ∀ child ∈ items, ∃ rebuilt, item.read child.serialize = .ok rebuilt ∧
      related child rebuilt) :
    ∃ rebuilt, readItems item item.read (items.map Entity.toDocument) = .ok ⟨item, rebuilt⟩ ∧
      List.Forall₂ related items rebuilt := by
  obtain ⟨rebuilt, all⟩ := Success.exists_related_list each
  refine ⟨rebuilt, readItems_eq_ok_iff.mpr ⟨rebuilt, ?_, rfl⟩, all.imp fun _ _ both => both.2⟩
  rw [List.forall₂_map_left_iff]
  refine all.imp fun child _ both => ?_
  exact EntityType.readMapping_eq_ok_iff.mpr ⟨child.serialize, rfl, both.1⟩

/-- The documents of elements are read one by one, each with its key in its key field. -/
theorem KeyedCollection.exists_readEntries {collection : KeyedCollection} {item : EntityType}
    {related : String × Entity → Entity → Prop}
    (each : ∀ entry ∈ collection.entries, ∃ rebuilt,
      item.read (Mapping.insert (Mapping.without entry.2.serialize collection.keyField)
          collection.keyField (.text entry.1)) = .ok rebuilt ∧
        related entry rebuilt) :
    ∃ rebuilt, readEntries item collection.keyField item.read collection.serialize =
        .ok ⟨item, collection.keyField, rebuilt⟩ ∧
      List.Forall₂ (fun entry result => result.1 = entry.1 ∧ related entry result.2)
        collection.entries rebuilt := by
  have named : ∀ entry ∈ collection.entries, ∃ result : String × Entity,
      readEntry item collection.keyField item.read
          (entry.1, entryDocument collection.keyField entry.2.serialize) = .ok result ∧
        result.1 = entry.1 ∧ related entry result.2 := by
    intro entry member
    obtain ⟨rebuilt, taken, held⟩ := each entry member
    exact ⟨(entry.1, rebuilt), readEntry_eq_ok_iff.mpr ⟨_, rebuilt,
      entryBody_eq_ok_iff.mpr (.inr rfl), taken, rfl⟩, rfl, held⟩
  obtain ⟨rebuilt, all⟩ := Success.exists_related_list named
  refine ⟨rebuilt, readEntries_eq_ok_iff.mpr ⟨rebuilt, ?_, rfl⟩, all.imp fun _ _ both => both.2⟩
  rw [serialize_eq, List.forall₂_map_left_iff]
  exact all.imp fun _ _ both => both.1

/-- The entities inside a value are read one by one into those of another value. -/
inductive Value.ReadInto (plain : Entity → Entity → Prop)
    (keyed : String → String × Entity → Entity → Prop) : Value → Value → Prop where
  | object {entity rebuilt : Entity} (read : plain entity rebuilt) :
      ReadInto plain keyed (.object entity) (.object rebuilt)
  | index {collection : OrderedCollection} {item : EntityType} {rebuilt : List Entity}
      (read : List.Forall₂ plain collection.items rebuilt) :
      ReadInto plain keyed (.index collection) (.index ⟨item, rebuilt⟩)
  | map {collection : KeyedCollection} {item : EntityType} {rebuilt : List (String × Entity)}
      (read : List.Forall₂
        (fun entry result => result.1 = entry.1 ∧ keyed collection.keyField entry result.2)
        collection.entries rebuilt) :
      ReadInto plain keyed (.map collection) (.map ⟨item, collection.keyField, rebuilt⟩)

section Related

variable {plain : Entity → Entity → Prop} {keyed : String → String × Entity → Entity → Prop}

/-- What is written of an entity or a collection is admitted when its entities are read. -/
theorem AttributeType.Fits.exists_admission {type : AttributeType} {value : Value}
    (fits : type.Fits value) (name : String) {own item : EntityType}
    (nested : value.itemType? = some own) (element : type.item? = some item)
    (read : value.keyField? = none → ∀ child ∈ value.entities, ∃ rebuilt,
      item.read child.serialize = .ok rebuilt ∧ plain child rebuilt)
    (readKeyed : ∀ collection, type = .map item collection.keyField → value = .map collection →
      ∀ entry ∈ collection.entries, ∃ rebuilt,
        item.read (Mapping.insert (Mapping.without entry.2.serialize collection.keyField)
            collection.keyField (.text entry.1)) = .ok rebuilt ∧
          keyed collection.keyField entry rebuilt) :
    ∃ result, type.admission name (Value.ofDocument value.toDocument) = .ok result ∧
      value.ReadInto plain keyed result := by
  have kind := fits.kind
  cases value with
  | object entity =>
      cases type with
      | object declared =>
          obtain rfl := Option.some.inj element
          obtain ⟨rebuilt, taken, held⟩ := read rfl entity (List.mem_singleton.mpr rfl)
          exact ⟨.object rebuilt, admission_object_eq_ok_iff.mpr
            (.inr ⟨entity.serialize, rebuilt, rfl, taken, rfl⟩), .object held⟩
      | _ => exact nomatch kind
  | index collection =>
      cases type with
      | index declared =>
          obtain rfl := Option.some.inj element
          obtain ⟨rebuilt, taken, all⟩ := OrderedCollection.exists_readItems (read rfl)
          rw [show (Value.index collection).entities = collection.items from rfl,
            ← OrderedCollection.serialize_eq] at taken
          exact ⟨.index ⟨declared, rebuilt⟩, admission_index_eq_ok_iff.mpr
            (.inr ⟨collection.serialize, _, rfl, taken, rfl⟩), .index all⟩
      | _ => exact nomatch kind
  | map collection =>
      cases type with
      | map declared key =>
          obtain rfl := Option.some.inj element
          obtain rfl := fits.key declared key collection.keyField rfl rfl
          obtain ⟨rebuilt, taken, all⟩ :=
            KeyedCollection.exists_readEntries (readKeyed collection rfl rfl)
          exact ⟨.map ⟨declared, collection.keyField, rebuilt⟩, admission_map_eq_ok_iff.mpr
            (.inr ⟨collection.serialize, _, rfl, taken, rfl⟩), .map all⟩
      | _ => exact nomatch kind
  | _ => exact nomatch nested

/-- What is written of a slot is coerced to the same value, or to one of entities that are read. -/
theorem Attribute.Holds.exists_coerce {types : List EntityType} {field : Attribute} {value : Value}
    (holds : field.Holds value) (fieldSound : field.Sound types)
    (plain : Entity → Entity → Prop) (keyed : String → String × Entity → Entity → Prop)
    (read : value.keyField? = none → ∀ item, field.type.item? = some item →
      ∀ child ∈ value.entities, ∃ rebuilt,
        item.read child.serialize = .ok rebuilt ∧ plain child rebuilt)
    (readKeyed : ∀ item collection, field.type = .map item collection.keyField →
      value = .map collection → ∀ entry ∈ collection.entries, ∃ rebuilt,
        item.read (Mapping.insert (Mapping.without entry.2.serialize collection.keyField)
            collection.keyField (.text entry.1)) = .ok rebuilt ∧
          keyed collection.keyField entry rebuilt) :
    ∃ result, field.coerce (Value.ofDocument value.toDocument) = .ok result ∧
      (field.required = true → result ≠ .null) ∧
      (value.itemType? = none ∧ result = value ∨ value.ReadInto plain keyed result) := by
  by_cases isNull : value = .null
  · subst isNull
    have unset := field.coerce_null
    rw [holds.accepts.null rfl] at unset
    exact ⟨.null, unset, fun required => absurd rfl (holds.required required), .inl ⟨rfl, rfl⟩⟩
  have fits := holds.accepts.fits isNull
  cases nested : value.itemType? with
  | none =>
      rw [fits.ofDocument_toDocument nested]
      exact ⟨value, (field.coerce_eq_ok_iff isNull).mpr
        ⟨fits.admission_self nested field.name, holds.accepts.judged⟩, fun _ => isNull,
        .inl ⟨rfl, rfl⟩⟩
  | some own =>
      obtain ⟨item, element⟩ := fits.exists_element nested
      obtain ⟨result, taken, held⟩ := fits.exists_admission field.name nested element
        (fun noKey => read noKey item element)
        (readKeyed item)
      have given : Value.ofDocument value.toDocument ≠ .null := by
        cases value <;> first | exact Value.noConfusion | exact nomatch nested
      refine ⟨result, (field.coerce_eq_ok_iff given).mpr ⟨taken, ?_⟩,
        fun _ => AttributeType.admission_ne_null taken, .inr held⟩
      rw [fieldSound.validators_eq_nil (fits.isContainer nested)]
      exact fun _ member => absurd member List.not_mem_nil

/-- Values of entities that are written alike are written alike. -/
theorem Value.ReadInto.toDocument_eq {value result : Value}
    (read : value.ReadInto plain keyed result)
    (plainSame : ∀ entity rebuilt, plain entity rebuilt → rebuilt.toDocument = entity.toDocument)
    (keyedSame : ∀ keyField entry rebuilt, keyed keyField entry rebuilt →
      KeyedCollection.entryDocument keyField rebuilt.serialize =
        KeyedCollection.entryDocument keyField entry.2.serialize) :
    result.toDocument = value.toDocument := by
  cases read with
  | object held => exact plainSame _ _ held
  | index all =>
      rw [Value.toDocument, Value.toDocument, OrderedCollection.serialize_eq,
        OrderedCollection.serialize_eq]
      exact congrArg Document.list (Success.map_eq_of_related all plainSame)
  | map all =>
      rw [Value.toDocument, Value.toDocument, KeyedCollection.serialize_eq,
        KeyedCollection.serialize_eq]
      apply congrArg Document.mapping
      refine Success.map_eq_of_related all fun entry result both => ?_
      rw [both.1, keyedSame _ _ _ both.2]

end Related

end NetworkAutomation
