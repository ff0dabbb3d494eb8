/-
This file says when a reader can take the document of an entity and when it gets the entity back.
What a document leaves out is made up from the defaults of the reader.
-/

import NetworkAutomation.Proofs.Readers

namespace NetworkAutomation

namespace Entity

/-- The reader meets the child in a slot that is written, and reads it as the item. -/
def ShowsChild (entity : Entity) (reader item : EntityType) (child : Entity) : Prop :=
  ∃ slot field value, entity.Shows reader slot field value ∧
    field.policy.emits value.toDocument = true ∧ field.type.item? = some item ∧
      child ∈ value.entities

/-- At any depth the inner entity is read as the inner type. -/
inductive ShowsWithin : Entity → EntityType → EntityType → Entity → Prop where
  | here (entity : Entity) (reader : EntityType) : ShowsWithin entity reader reader entity
  | deeper {entity child inner : Entity} {reader item innerReader : EntityType}
      (shown : entity.ShowsChild reader item child)
      (within : ShowsWithin child item innerReader inner) :
      ShowsWithin entity reader innerReader inner

/-- A property holds of all that is shown when it holds here and below each child. -/
theorem forall_showsWithin_iff {property : EntityType → Entity → Prop} {entity : Entity}
    {reader : EntityType} :
    (∀ innerReader inner, entity.ShowsWithin reader innerReader inner →
        property innerReader inner) ↔
      property reader entity ∧ ∀ item child, entity.ShowsChild reader item child →
        ∀ innerReader inner, child.ShowsWithin item innerReader inner →
          property innerReader inner := by
  constructor
  · intro throughout
    constructor
    · exact throughout reader entity (.here entity reader)
    · intro item child shown innerReader inner within
      exact throughout innerReader inner (.deeper shown within)
  · rintro ⟨here, below⟩ innerReader inner within
    cases within with
    | here => exact here
    | deeper shown rest => exact below _ _ shown innerReader inner rest

/-- What stands under the name is written into the body, under the name of the field. -/
def Writes (entity : Entity) (reader : EntityType) (name : String) : Prop :=
  ∃ slot field value, entity.Shows reader slot field value ∧ reader.slot? name = some slot ∧
    field.policy.emits value.toDocument = true

/--
The element can be read again under its key. Without an envelope the key is put under the name of
the key field, or it still stands in the element. Beside an open envelope it gives way to what the
element writes itself.
-/
def KeyedFor (element : Entity) (reader : EntityType) (keyField key : String) : Prop :=
  match reader.envelope with
  | none => keyField ∈ reader.fieldNames ∨ element.getText keyField = .ok (some key)
  | some root => root ≠ keyField ∧ reader.isOpen = true ∧
      (element.getText keyField = .ok (some key) ∨ element.Writes reader keyField)

/-- The reader has a place for everything that is written of the entity. -/
structure Legible (entity : Entity) (reader : EntityType) : Prop where
  keeps : entity.type.Keeps reader
  added : ∀ entry ∈ entity.body, reader.hasAttribute entry.1 = false →
    ∃ slot, reader.flattenedSlot? = some slot
  keyed : ∀ slot field collection item keyField,
    entity.Shows reader slot field (.map collection) → field.type = .map item keyField →
    field.policy.emits (Value.map collection).toDocument = true →
    ∀ entry ∈ collection.entries, entry.2.KeyedFor item keyField entry.1

/-- The defaults of the reader do not make up anything that the entity does not have. -/
structure RestoredBy (entity : Entity) (reader : EntityType) : Prop where
  absent : ∀ slot field value, entity.Shows reader slot field value → field.policy = .present →
    field.type.isContainer = true → value.isPresent = false → field.default.isPresent = false
  captured : ∀ slot field entries, reader.flattenedSlot? = some slot →
    reader.attributes[slot]? = some field → field.default = .dict entries →
    ∀ key ∈ Entries.keys entries, reader.hasAttribute key = false →
      key ∈ Entries.keys entity.body

def LegibleThroughout (entity : Entity) (reader : EntityType) : Prop :=
  ∀ innerReader inner, entity.ShowsWithin reader innerReader inner → inner.Legible innerReader

def RestoredThroughout (entity : Entity) (reader : EntityType) : Prop :=
  ∀ innerReader inner, entity.ShowsWithin reader innerReader inner → inner.RestoredBy innerReader

theorem legibleThroughout_iff {entity : Entity} {reader : EntityType} :
    entity.LegibleThroughout reader ↔ entity.Legible reader ∧
      ∀ item child, entity.ShowsChild reader item child → child.LegibleThroughout item :=
  forall_showsWithin_iff

theorem restoredThroughout_iff {entity : Entity} {reader : EntityType} :
    entity.RestoredThroughout reader ↔ entity.RestoredBy reader ∧
      ∀ item child, entity.ShowsChild reader item child → child.RestoredThroughout item :=
  forall_showsWithin_iff

/-- The document is read again with the key put back, and comes back where nothing is made up. -/
def ReadsUnder (entity : Entity) (reader : EntityType) (keyField key : String) : Prop :=
  ∃ rebuilt, reader.read (Mapping.insert (Mapping.without entity.serialize keyField) keyField
      (.text key)) = .ok rebuilt ∧
    ((KeyedCollection.entryDocument keyField rebuilt.serialize).agrees
        (KeyedCollection.entryDocument keyField entity.serialize) = true ↔
      entity.RestoredThroughout reader)

/-- The document is read, and it comes back exactly where nothing is made up. -/
structure ReadsAs (entity : Entity) (reader : EntityType) : Prop where
  plain : ∃ rebuilt, reader.read entity.serialize = .ok rebuilt ∧
    (rebuilt.toDocument.agrees entity.toDocument = true ↔ entity.RestoredThroughout reader)
  keyed : ∀ keyField key, reader.checkKeyField keyField = .ok () →
    entity.type.AcceptsKey keyField key → entity.KeyedFor reader keyField key →
    entity.ReadsUnder reader keyField key

end Entity

/-! ## Slots -/

/-- Related lists agree place by place where each of the first members is good. -/
theorem Success.forall₂_iff_of_related {α β : Type} {related : α → β → Prop}
    {agree : β → α → Prop} {good : α → Prop} {inputs : List α} {outputs : List β}
    (all : List.Forall₂ related inputs outputs)
    (each : ∀ input output, related input output → (agree output input ↔ good input)) :
    List.Forall₂ agree outputs inputs ↔ ∀ input ∈ inputs, good input := by
  induction all with
  | nil => simp
  | cons head _ ih => rw [List.forall₂_cons, List.forall_mem_cons, ih, each _ _ head]

/-- Ordered collections agree where each of the elements is good. -/
theorem OrderedCollection.agrees_iff_of_related {collection : OrderedCollection}
    {good : Entity → Prop} {item : EntityType} {rebuilt : List Entity}
    (all : List.Forall₂ (fun child result =>
      result.toDocument.agrees child.toDocument = true ↔ good child) collection.items rebuilt) :
    agrees ⟨item, rebuilt⟩ collection = true ↔ ∀ child ∈ collection.items, good child := by
  rw [agrees, toDocument, toDocument, Document.agrees, listAgrees_iff, serialize_eq, serialize_eq,
    List.forall₂_map_left_iff, List.forall₂_map_right_iff]
  exact Success.forall₂_iff_of_related all fun _ _ same => same

/-- Keyed collections with the same keys agree where each of the elements is good. -/
theorem KeyedCollection.agrees_iff_of_related {collection : KeyedCollection}
    (good : Entity → Prop) {item : EntityType} {rebuilt : List (String × Entity)}
    (distinct : (Entries.keys collection.entries).Nodup)
    (all : List.Forall₂ (fun entry result => result.1 = entry.1 ∧
      ((entryDocument collection.keyField result.2.serialize).agrees
        (entryDocument collection.keyField entry.2.serialize) = true ↔ good entry.2))
      collection.entries rebuilt) :
    agrees ⟨item, collection.keyField, rebuilt⟩ collection = true ↔
      ∀ entry ∈ collection.entries, good entry.2 := by
  have same : Entries.keys (serialize ⟨item, collection.keyField, rebuilt⟩) =
      Entries.keys collection.serialize := by
    rw [keys_serialize, keys_serialize]
    exact Success.map_eq_of_related all fun _ _ both => both.1
  have distinctKeys : (Entries.keys (serialize ⟨item, collection.keyField, rebuilt⟩)).Nodup := by
    rw [same, keys_serialize]
    exact distinct
  rw [agrees, toDocument, toDocument, Document.mapping_agrees_iff_forall₂ same distinctKeys,
    serialize_eq, serialize_eq, List.forall₂_map_left_iff, List.forall₂_map_right_iff]
  apply Success.forall₂_iff_of_related all
  intro entry result both
  rw [← both.2]
  exact and_iff_right both.1

/-- What was read of a value agrees with it where each entity inside is good. -/
theorem Value.ReadInto.agrees_iff {types : List EntityType} {value result : Value}
    {good : Entity → Prop} (sound : value.Sound types)
    (read : value.ReadInto
      (fun child rebuilt => rebuilt.toDocument.agrees child.toDocument = true ↔ good child)
      (fun keyField entry rebuilt =>
        (KeyedCollection.entryDocument keyField rebuilt.serialize).agrees
          (KeyedCollection.entryDocument keyField entry.2.serialize) = true ↔ good entry.2)
      result) :
    result.toDocument.agrees value.toDocument = true ↔ ∀ child ∈ value.entities, good child := by
  cases read with
  | object same =>
      rw [Value.entities, List.forall_mem_singleton]
      exact same
  | index all => exact OrderedCollection.agrees_iff_of_related all
  | map all =>
      rw [Value.entities, List.forall_mem_map]
      exact KeyedCollection.agrees_iff_of_related good (KeyedCollection.Sound.distinct sound) all

theorem Value.entities_eq_nil {value : Value} (plain : value.itemType? = none) :
    value.entities = [] := by
  cases value <;> first | rfl | exact nomatch plain

theorem Value.ReadInto.exists_itemType {value result : Value} {plain : Entity → Entity → Prop}
    {keyed : String → String × Entity → Entity → Prop} (read : value.ReadInto plain keyed result) :
    ∃ item, value.itemType? = some item := by
  cases read <;> exact ⟨_, rfl⟩

namespace Attribute.Holds

variable {types : List EntityType} {field : Attribute} {value : Value}

/-- What was written of scalars and plain documents is coerced back. -/
theorem coerce_toDocument (holds : field.Holds value) (fieldSound : field.Sound types)
    (plain : value.itemType? = none) :
    field.coerce (Value.ofDocument value.toDocument) = .ok value := by
  have empty := Value.entities_eq_nil plain
  obtain ⟨result, coerced, _, made⟩ := holds.exists_coerce fieldSound (fun _ _ => True)
    (fun _ _ _ => True) (fun _ _ _ child inside => by
      rw [empty] at inside
      exact absurd inside List.not_mem_nil)
    (fun _ collection _ isMap => by
      rw [isMap] at plain
      exact nomatch plain)
  rcases made with ⟨_, rfl⟩ | read
  · exact coerced
  · obtain ⟨item, nested⟩ := read.exists_itemType
    rw [plain] at nested
    contradiction

/-- What was written of entities is coerced to a value that agrees where all are restored. -/
theorem exists_coerce_agreeing (holds : field.Holds value) (fieldSound : field.Sound types)
    (sound : value.Sound types) {item : EntityType} (element : field.type.item? = some item)
    (keyed : ∀ keyField collection, field.type = .map item keyField → value = .map collection →
      ∀ entry ∈ collection.entries, entry.2.KeyedFor item keyField entry.1)
    (below : ∀ child ∈ value.entities, child.ReadsAs item) :
    ∃ result, field.coerce (Value.ofDocument value.toDocument) = .ok result ∧
      (field.required = true → result ≠ .null) ∧
      (value.itemType? = none ∧ result = value ∨
        (result.toDocument.agrees value.toDocument = true ↔
          ∀ child ∈ value.entities, child.RestoredThroughout item)) := by
  have made := holds.exists_coerce fieldSound
    (fun child rebuilt => rebuilt.toDocument.agrees child.toDocument = true ↔
      child.RestoredThroughout item)
    (fun keyField entry rebuilt =>
      (KeyedCollection.entryDocument keyField rebuilt.serialize).agrees
        (KeyedCollection.entryDocument keyField entry.2.serialize) = true ↔
          entry.2.RestoredThroughout item) ?_ ?_
  · obtain ⟨result, coerced, required, made⟩ := made
    exact ⟨result, coerced, required, made.imp_right (Value.ReadInto.agrees_iff sound)⟩
  · intro _ own ownElement child inside
    obtain rfl := Option.some.inj (element.symm.trans ownElement)
    exact (below child inside).plain
  · rintro own collection isMap rfl entry member
    have ownElement : field.type.item? = some own := by
      rw [isMap]
      rfl
    obtain rfl := Option.some.inj (element.symm.trans ownElement)
    exact (below entry.2 (List.mem_map_of_mem member)).keyed collection.keyField entry.1
      (fieldSound.key item collection.keyField isMap)
      (KeyedCollection.Sound.keys sound entry member)
      (keyed collection.keyField collection isMap rfl entry member)

end Attribute.Holds

end NetworkAutomation
