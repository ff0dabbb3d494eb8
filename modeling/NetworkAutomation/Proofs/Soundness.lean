/-
This file says what types, values and entities keep to however they were made and changed.
-/

import NetworkAutomation.Proofs.Descent
import NetworkAutomation.Proofs.Reading
import NetworkAutomation.Proofs.Workspace

namespace NetworkAutomation

namespace Value

/-- Null and the numbers that are no signed words are of no primitive kind. -/
def primitive? : Value → Option Primitive
  | .null => none
  | .text _ => some .text
  | .integer _ => some .integer
  | .boolean _ => some .boolean
  | .number _ => none
  | .list _ => some .list
  | .dict _ => some .dict
  | .object _ => some .object
  | .index _ => some .index
  | .map _ => some .map

/-- The type of an entity, or the element type of a collection. -/
def itemType? : Value → Option EntityType
  | .object entity => some entity.type
  | .index collection => some collection.itemType
  | .map collection => some collection.itemType
  | _ => none

def keyField? : Value → Option String
  | .map collection => some collection.keyField
  | _ => none

/-- Two values are of one kind, down to the element type and the key field. -/
structure SameFrame (former changed : Value) : Prop where
  kind : changed.primitive? = former.primitive?
  item : changed.itemType? = former.itemType?
  key : changed.keyField? = former.keyField?

end Value

/-- The value is of the declared kind, down to the element type and the key field. -/
structure AttributeType.Fits (type : AttributeType) (value : Value) : Prop where
  kind : value.primitive? = some type.primitive
  item : ∀ item own, type.item? = some item → value.itemType? = some own → own.isA item = true
  key : ∀ item key own, type = .map item key → value.keyField? = some own → own = key

/-- Only scalars and objects may be left without a default. -/
def AttributeType.MayBeNull (type : AttributeType) : Prop :=
  type.isContainer = false ∨ ∃ item, type = .object item

/-- A slot of the attribute may hold the value, as far as the attribute is not required. -/
structure Attribute.Accepts (field : Attribute) (value : Value) : Prop where
  null : value = .null → field.default = .null
  fits : value ≠ .null → field.type.Fits value
  judged : ∀ validator ∈ field.validators, validator.check value = .ok ()

/-- A slot of a required attribute is never null. -/
structure Attribute.Holds (field : Attribute) (value : Value) : Prop where
  accepts : field.Accepts value
  required : field.required = true → value ≠ .null

/-- The text may stand in the key field of entities of the type. -/
def EntityType.AcceptsKey (type : EntityType) (keyField key : String) : Prop :=
  ∃ slot field, type.slot? keyField = some slot ∧ type.attributes[slot]? = some field ∧
    field.type = .text ∧ ∀ validator ∈ field.validators, validator.check (.text key) = .ok ()

variable (types : List EntityType)

structure OrderedCollection.Sound (collection : OrderedCollection) : Prop where
  known : collection.itemType ∈ types
  items : ∀ item ∈ collection.items, item.instanceOf collection.itemType = true

/-- A key was once the text in the key field of its element, or of one that it replaced. -/
structure KeyedCollection.Sound (collection : KeyedCollection) : Prop where
  known : collection.itemType ∈ types
  keyField : collection.itemType.checkKeyField collection.keyField = .ok ()
  distinct : (Entries.keys collection.entries).Nodup
  items : ∀ entry ∈ collection.entries, entry.2.instanceOf collection.itemType = true
  keys : ∀ entry ∈ collection.entries, entry.2.type.AcceptsKey collection.keyField entry.1

/-- This is what a value itself keeps to, whatever its entities hold. -/
def Value.Sound : Value → Prop
  | .list items => (Document.list items).WellFormed
  | .dict entries => (Document.mapping entries).WellFormed
  | .index collection => collection.Sound types
  | .map collection => collection.Sound types
  | _ => True

structure Entity.Sound (entity : Entity) : Prop where
  known : entity.type ∈ types
  slots : List.Forall₂ Attribute.Holds entity.type.attributes entity.values
  values : ∀ value ∈ entity.values, value.Sound types

def Entity.SoundThroughout (entity : Entity) : Prop :=
  ∀ inner, entity.Contains inner → inner.Sound types

structure Value.SoundThroughout (value : Value) : Prop where
  here : value.Sound types
  below : ∀ entity ∈ value.entities, entity.SoundThroughout types

/-- An attribute refers to known types and accepts its own default. -/
structure Attribute.Sound (field : Attribute) : Prop where
  item : ∀ item, field.type.item? = some item → item ∈ types
  key : ∀ item key, field.type = .map item key → item.checkKeyField key = .ok ()
  default : field.default.SoundThroughout types
  accepted : field.Accepts field.default
  supported : ∀ validator ∈ field.validators, validator.supports field.type.primitive = true
  always : field.required = true → field.policy = .always

/-- The catch-all of a type is one of its dict fields. -/
structure EntityType.Sound (type : EntityType) : Prop where
  parents : ∀ parent ∈ type.parents, parent ∈ types
  attributes : ∀ field ∈ type.attributes, field.Sound types
  nulls : ∀ field ∈ type.attributes, field.default = .null → field.type.MayBeNull
  distinct : type.fieldNames.Nodup
  catchAll : ∀ catchAll, type.catchAll = some catchAll → ∃ slot field,
    type.slot? catchAll.field = some slot ∧ type.attributes[slot]? = some field ∧
      field.type = .dict

/-- In a registry every type is sound, and no two types share an identity. -/
structure Registry : Prop where
  unique : ∀ first ∈ types, ∀ second ∈ types, first.identity = second.identity → first = second
  sound : ∀ type ∈ types, type.Sound types

def Target.toValue : Target → Value
  | .entity owner => .object owner
  | .ordered collection => .index collection
  | .keyed collection => .map collection

structure Workspace.Sound (space : Workspace) : Prop where
  registry : Registry space.types
  targets : ∀ target ∈ space.targets, target.toValue.SoundThroughout space.types

variable {types}

theorem Registry.lineage (registry : Registry types) : EntityType.Lineage types where
  unique := registry.unique
  parents type known := (registry.sound type known).parents

/-! ## Values of the declared kind -/

namespace AttributeType.Fits

theorem object {item : EntityType} {entity : Entity} (descends : entity.type.isA item = true) :
    (AttributeType.object item).Fits (.object entity) where
  kind := rfl
  item declared own element given := by
    obtain rfl := Option.some.inj element
    obtain rfl := Option.some.inj given
    exact descends
  key := nofun

theorem index {item : EntityType} {collection : OrderedCollection}
    (descends : collection.itemType.isA item = true) :
    (AttributeType.index item).Fits (.index collection) where
  kind := rfl
  item declared own element given := by
    obtain rfl := Option.some.inj element
    obtain rfl := Option.some.inj given
    exact descends
  key := nofun

theorem map {item : EntityType} {key : String} {collection : KeyedCollection}
    (descends : collection.itemType.isA item = true) (sameKey : collection.keyField = key) :
    (AttributeType.map item key).Fits (.map collection) where
  kind := rfl
  item declared own element given := by
    obtain rfl := Option.some.inj element
    obtain rfl := Option.some.inj given
    exact descends
  key declared key own isMap given := by
    cases isMap
    exact (Option.some.inj given).symm.trans sameKey

/-- A value without elements only has to be of the declared kind. -/
theorem plain {type : AttributeType} {value : Value}
    (kind : value.primitive? = some type.primitive) (noItem : value.itemType? = none)
    (noKey : value.keyField? = none) : type.Fits value where
  kind := kind
  item item own _ given := by
    rw [noItem] at given
    contradiction
  key item key own _ given := by
    rw [noKey] at given
    contradiction

theorem exchange {type : AttributeType} {former changed : Value} (fits : type.Fits former)
    (framed : former.SameFrame changed) : type.Fits changed where
  kind := framed.kind.trans fits.kind
  item := framed.item ▸ fits.item
  key := framed.key ▸ fits.key

theorem isContainer {type : AttributeType} {value : Value} {item : EntityType}
    (fits : type.Fits value) (nested : value.itemType? = some item) :
    type.isContainer = true := by
  have kind := fits.kind
  cases value <;> simp only [Value.itemType?, reduceCtorEq] at nested <;> cases type <;>
    simp_all [Value.primitive?, AttributeType.primitive, AttributeType.isContainer]

theorem eq_text {type : AttributeType} {text : String} (fits : type.Fits (.text text)) :
    type = .text := by
  have kind := fits.kind
  cases type <;> simp_all [Value.primitive?, AttributeType.primitive]

theorem eq_dict {type : AttributeType} {entries : Mapping} (fits : type.Fits (.dict entries)) :
    type = .dict := by
  have kind := fits.kind
  cases type <;> simp_all [Value.primitive?, AttributeType.primitive]

end AttributeType.Fits

/-! ## Slots beside their attributes -/

section Related

variable {α β : Type} {related : α → β → Prop} {left : List α} {right : List β}

theorem exists_related (all : List.Forall₂ related left right) {index : Nat} {first : α}
    (placed : left[index]? = some first) : ∃ second, right[index]? = some second ∧
      related first second := by
  induction all generalizing index with
  | nil => simp at placed
  | cons head _ ih =>
      cases index with
      | zero =>
          obtain rfl := Option.some.inj placed
          exact ⟨_, rfl, head⟩
      | succ index => exact ih placed

theorem related_set (all : List.Forall₂ related left right) {index : Nat} {first : α}
    (placed : left[index]? = some first) {second : β} (pair : related first second) :
    List.Forall₂ related left (right.set index second) := by
  induction all generalizing index with
  | nil => simp at placed
  | cons head tail ih =>
      cases index with
      | zero =>
          obtain rfl := Option.some.inj placed
          exact .cons pair tail
      | succ index => exact .cons head (ih placed)

end Related

/-! ## Whole values from their parts -/

theorem Entity.soundThroughout_iff {entity : Entity} :
    entity.SoundThroughout types ↔ entity.Sound types ∧
      ∀ value ∈ entity.values, value.SoundThroughout types := by
  unfold Entity.SoundThroughout
  rw [Entity.forall_contains_iff]
  constructor
  · rintro ⟨here, below⟩
    refine ⟨here, fun value member => ⟨here.values value member, fun child inside => ?_⟩⟩
    exact below child (Entity.mem_children.mpr ⟨value, member, inside⟩)
  · rintro ⟨here, below⟩
    refine ⟨here, fun child member => ?_⟩
    obtain ⟨value, inValues, inside⟩ := Entity.mem_children.mp member
    exact (below value inValues).below child inside

theorem Entity.SoundThroughout.here {entity : Entity} (sound : entity.SoundThroughout types) :
    entity.Sound types :=
  sound entity entity.contains_self

theorem Entity.SoundThroughout.values {entity : Entity} (sound : entity.SoundThroughout types) :
    ∀ value ∈ entity.values, value.SoundThroughout types :=
  (Entity.soundThroughout_iff.mp sound).2

/-- An entity is sound throughout when its slots hold values that are. -/
theorem Entity.SoundThroughout.intro {type : EntityType} {values : List Value}
    (known : type ∈ types) (slots : List.Forall₂ Attribute.Holds type.attributes values)
    (below : ∀ value ∈ values, value.SoundThroughout types) :
    Entity.SoundThroughout types ⟨type, values⟩ :=
  Entity.soundThroughout_iff.mpr
    ⟨⟨known, slots, fun value member => (below value member).here⟩, below⟩

theorem Value.SoundThroughout.null : Value.SoundThroughout types .null :=
  ⟨trivial, fun _ member => absurd member List.not_mem_nil⟩

theorem Value.SoundThroughout.object_iff {entity : Entity} :
    Value.SoundThroughout types (.object entity) ↔ entity.SoundThroughout types := by
  constructor
  · intro sound
    exact sound.below entity (List.mem_singleton.mpr rfl)
  · intro sound
    refine ⟨trivial, fun inner member => ?_⟩
    obtain rfl := List.mem_singleton.mp member
    exact sound

/-- A well-formed document is a sound value, since it holds no entity. -/
theorem Value.SoundThroughout.ofDocument {document : Document} (formed : document.WellFormed) :
    Value.SoundThroughout types (Value.ofDocument document) := by
  cases document with
  | list items => exact ⟨formed, fun _ member => absurd member List.not_mem_nil⟩
  | mapping entries => exact ⟨formed, fun _ member => absurd member List.not_mem_nil⟩
  | number value =>
      simp only [Value.ofDocument, Value.ofNumber]
      split
      next =>
        split
        all_goals exact ⟨trivial, fun _ member => absurd member List.not_mem_nil⟩
      next => exact ⟨trivial, fun _ member => absurd member List.not_mem_nil⟩
  | _ => exact ⟨trivial, fun _ member => absurd member List.not_mem_nil⟩

/-- Whatever a sound workspace supplies is sound. -/
theorem Workspace.Sound.supplied {space : Workspace} (sound : space.Sound) {value : Value}
    (given : space.Supplies value) : value.SoundThroughout space.types := by
  cases value with
  | list items => exact ⟨given, fun _ member => absurd member List.not_mem_nil⟩
  | dict entries => exact ⟨given, fun _ member => absurd member List.not_mem_nil⟩
  | object entity => exact sound.targets _ (given _ (List.mem_singleton.mpr rfl))
  | index collection => exact sound.targets _ (given _ (List.mem_singleton.mpr rfl))
  | map collection => exact sound.targets _ (given _ (List.mem_singleton.mpr rfl))
  | _ => exact ⟨trivial, fun _ member => absurd member List.not_mem_nil⟩

/-! ## More types -/

variable {larger : List EntityType}

theorem OrderedCollection.Sound.mono {collection : OrderedCollection}
    (sound : collection.Sound types) (within : types ⊆ larger) : collection.Sound larger :=
  { sound with known := within sound.known }

theorem KeyedCollection.Sound.mono {collection : KeyedCollection}
    (sound : collection.Sound types) (within : types ⊆ larger) : collection.Sound larger :=
  { sound with known := within sound.known }

theorem Value.Sound.mono {value : Value} (sound : value.Sound types)
    (within : types ⊆ larger) : value.Sound larger := by
  cases value with
  | index collection => exact OrderedCollection.Sound.mono sound within
  | map collection => exact KeyedCollection.Sound.mono sound within
  | list items => exact sound
  | dict entries => exact sound
  | _ => trivial

theorem Entity.SoundThroughout.mono {entity : Entity} (sound : entity.SoundThroughout types)
    (within : types ⊆ larger) : entity.SoundThroughout larger := by
  intro inner contained
  have held := sound inner contained
  exact ⟨within held.known, held.slots,
    fun value member => (held.values value member).mono within⟩

theorem Value.SoundThroughout.mono {value : Value} (sound : value.SoundThroughout types)
    (within : types ⊆ larger) : value.SoundThroughout larger :=
  ⟨sound.here.mono within, fun entity member => (sound.below entity member).mono within⟩

theorem Attribute.Sound.mono {field : Attribute} (sound : field.Sound types)
    (within : types ⊆ larger) : field.Sound larger :=
  { sound with
    item := fun item element => within (sound.item item element)
    default := sound.default.mono within }

theorem EntityType.Sound.mono {type : EntityType} (sound : type.Sound types)
    (within : types ⊆ larger) : type.Sound larger :=
  { sound with
    parents := fun parent member => within (sound.parents parent member)
    attributes := fun field member => (sound.attributes field member).mono within }

end NetworkAutomation
