/-
This file proves that whatever is reached conforms to its type in every slot and at every depth.
-/

import NetworkAutomation.Proofs.Inventories
import NetworkAutomation.Proofs.Preservation

namespace NetworkAutomation

/-- This is everything that an attribute promises about the value of its slot. -/
structure Attribute.Conforms (field : Attribute) (value : Value) : Prop where
  null : value = .null → field.default = .null
  required : field.required = true → value ≠ .null
  kind : value ≠ .null → value.primitive? = some field.type.primitive
  accepted : ∀ validator ∈ field.validators, validator.check value = .ok ()
  instances : ∀ item, field.type.item? = some item →
    ∀ entity ∈ value.entities, entity.instanceOf item = true
  keyField : ∀ item key (collection : KeyedCollection), field.type = .map item key →
    value = .map collection → collection.keyField = key

/-- An entity conforms to its type when each attribute has one value that conforms to it. -/
structure Entity.Conforms (entity : Entity) : Prop where
  complete : entity.values.length = entity.type.attributes.length
  slots : ∀ (slot : Nat) (field : Attribute) value, entity.type.attributes[slot]? = some field →
    entity.values[slot]? = some value → field.Conforms value
  catchAll : ∀ catchAll, entity.type.catchAll = some catchAll → ∃ slot entries,
    entity.type.catchAllSlot? = some slot ∧ entity.values[slot]? = some (.dict entries)

variable {types : List EntityType}

/-- The elements of a value are instances of the declared type, through narrower collections too. -/
theorem Attribute.Accepts.instances (registry : Registry types) {field : Attribute}
    {value : Value} (fieldSound : field.Sound types) (accepts : field.Accepts value)
    (sound : value.SoundThroughout types) {item : EntityType}
    (element : field.type.item? = some item) :
    ∀ entity ∈ value.entities, entity.instanceOf item = true := by
  intro entity member
  have given : value ≠ .null := by
    rintro rfl
    exact absurd member List.not_mem_nil
  have fits := accepts.fits given
  have itemKnown := fieldSound.item item element
  have entityKnown := (sound.below entity member).here.known
  cases value with
  | object own =>
      obtain rfl := List.mem_singleton.mp member
      exact fits.item item entity.type element rfl
  | index collection =>
      have narrower := fits.item item collection.itemType element rfl
      have descends := sound.here.items entity member
      exact registry.lineage.isA_trans entityKnown sound.here.known descends narrower
  | map collection =>
      have narrower := fits.item item collection.itemType element rfl
      obtain ⟨entry, inEntries, rfl⟩ := List.mem_map.mp member
      have descends := sound.here.items entry inEntries
      exact registry.lineage.isA_trans entityKnown sound.here.known descends narrower
  | _ => exact absurd member List.not_mem_nil

theorem Attribute.Holds.conforms (registry : Registry types) {field : Attribute} {value : Value}
    (fieldSound : field.Sound types) (holds : field.Holds value)
    (sound : value.SoundThroughout types) : field.Conforms value where
  null := holds.accepts.null
  required := holds.required
  kind given := (holds.accepts.fits given).kind
  accepted := holds.accepts.judged
  instances _ element := holds.accepts.instances registry fieldSound sound element
  keyField item key collection isMap isValue := by
    subst isValue
    exact (holds.accepts.fits Value.noConfusion).key item key collection.keyField isMap rfl

theorem Entity.SoundThroughout.conforms (registry : Registry types) {entity : Entity}
    (sound : entity.SoundThroughout types) : entity.Conforms := by
  have typeSound := registry.sound _ sound.here.known
  refine ⟨sound.here.slots.length_eq.symm, fun slot field value placed stored => ?_,
    fun catchAll opened => ?_⟩
  · obtain ⟨own, ownStored, holds⟩ := exists_related sound.here.slots placed
    obtain rfl := Option.some.inj (stored.symm.trans ownStored)
    exact holds.conforms registry (typeSound.attributes field (List.mem_of_getElem? placed))
      (sound.values value (List.mem_of_getElem? stored))
  · obtain ⟨slot, field, found, placed, dict⟩ := typeSound.catchAll catchAll opened
    obtain ⟨value, stored, holds⟩ := exists_related sound.here.slots placed
    have given : value ≠ .null := by
      intro isNull
      have unset := typeSound.nulls field (List.mem_of_getElem? placed) (holds.accepts.null isNull)
      rw [AttributeType.MayBeNull, dict] at unset
      exact unset.elim Bool.noConfusion fun ⟨_, isObject⟩ => nomatch isObject
    have kind := (holds.accepts.fits given).kind
    rw [dict] at kind
    have located : entity.type.catchAllSlot? = some slot :=
      Option.bind_eq_some_iff.mpr ⟨catchAll, opened, found⟩
    cases value with
    | dict entries => exact ⟨slot, entries, located, stored⟩
    | _ => exact nomatch kind

/-- Whatever is reached conforms to its type, and so does everything inside it. -/
theorem Workspace.Reachable.conformsThroughout {space : Workspace} (reached : space.Reachable)
    {entity inner : Entity} (held : .entity entity ∈ space.targets)
    (contained : entity.Contains inner) : inner.Conforms := by
  have sound := Value.SoundThroughout.object_iff.mp (reached.sound.targets _ held)
  have innerSound : inner.SoundThroughout space.types :=
    fun deeper below => sound deeper (contained.trans below)
  exact innerSound.conforms reached.sound.registry

/-- The host inside an inventory conforms to its type. -/
theorem Catalogue.leaf_conforms : leaf.Conforms := by
  have inside : leaf ∈ (inventoryOf [("leaf", leaf)]).children := List.mem_cons_self
  exact leaf_reachable.conformsThroughout List.mem_cons_self
    (Entity.Contains.of_child inside leaf.contains_self)

end NetworkAutomation
