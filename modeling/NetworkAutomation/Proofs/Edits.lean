/-
This file proves that commands keep what is sound, directly and at the end of a path.
-/

import NetworkAutomation.Proofs.Paths
import NetworkAutomation.Proofs.TypeBuilding

namespace NetworkAutomation

variable {types : List EntityType}

/-! ## Slots of entities -/

/-- A slot that holds an entity or a collection may hold another one of the same frame. -/
theorem Attribute.Holds.exchange {field : Attribute} (sound : field.Sound types)
    {former changed : Value} (holds : field.Holds former) (framed : former.SameFrame changed)
    {item : EntityType} (nested : former.itemType? = some item) : field.Holds changed := by
  have given : former ≠ .null := by
    rintro rfl
    exact nomatch nested
  have fits := holds.accepts.fits given
  have notNull : changed ≠ .null := by
    rintro rfl
    exact nomatch framed.kind.trans fits.kind
  refine ⟨⟨fun isNull => absurd isNull notNull, fun _ => fits.exchange framed, ?_⟩,
    fun _ => notNull⟩
  rw [sound.validators_eq_nil (fits.isContainer nested)]
  exact fun _ member => absurd member List.not_mem_nil

namespace Entity

theorem SoundThroughout.slotsSound {entity : Entity} (sound : entity.SoundThroughout types) :
    SlotsSound types Attribute.Holds entity.type entity.values :=
  ⟨sound.here.slots, sound.values⟩

theorem SoundThroughout.withValue {entity : Entity} (sound : entity.SoundThroughout types)
    {slot : Nat} {field : Attribute} (placed : entity.type.attributes[slot]? = some field)
    {value : Value} (valueSound : value.SoundThroughout types) (holds : field.Holds value) :
    (entity.withValue slot value).SoundThroughout types := by
  have slots := sound.slotsSound.set placed valueSound holds
  exact .intro sound.here.known slots.slots slots.values

theorem Stores.sound {entity : Entity} {name : String} {value : Value}
    (stores : entity.Stores name value) (sound : entity.SoundThroughout types) :
    value.SoundThroughout types := by
  obtain ⟨slot, _, stored⟩ := stores
  exact sound.values _ (List.mem_of_getElem? stored)

/-- A stored value fits the attribute of its slot. -/
theorem exists_holding {entity : Entity} (sound : entity.SoundThroughout types) {name : String}
    {slot : Nat} {value : Value} (found : entity.type.slot? name = some slot)
    (stored : entity.values[slot]? = some value) :
    ∃ field, entity.type.attributes[slot]? = some field ∧ field.Holds value := by
  obtain ⟨field, placed⟩ := EntityType.exists_field_of_slot? found
  obtain ⟨own, ownStored, holds⟩ := exists_related sound.here.slots placed
  obtain rfl := Option.some.inj (stored.symm.trans ownStored)
  exact ⟨field, placed, holds⟩

/-- A text that stands in a field may serve as a key there. -/
theorem Stores.acceptsKey {entity : Entity} {keyField key : String}
    (stores : entity.Stores keyField (.text key)) (sound : entity.SoundThroughout types) :
    entity.type.AcceptsKey keyField key := by
  obtain ⟨slot, found, stored⟩ := stores
  obtain ⟨field, placed, holds⟩ := exists_holding sound found stored
  exact ⟨slot, field, found, placed, (holds.accepts.fits Value.noConfusion).eq_text,
    holds.accepts.judged⟩

theorem set_eq_ok {entity changed : Entity} {name : String} {value : Value}
    (set : entity.set name value = .ok changed) : ∃ slot field result,
      entity.type.slot? name = some slot ∧ entity.type.attributes[slot]? = some field ∧
      field.coerce value = .ok result ∧ (field.required = true → result ≠ .null) ∧
      changed = entity.withValue slot result := by
  unfold Entity.set at set
  obtain ⟨slot, found, rest⟩ := Success.bind_eq_ok.mp set
  obtain ⟨result, assigned, same⟩ := Success.bind_eq_ok.mp rest
  have located := slot_eq_ok_iff.mp found
  obtain ⟨field, placed⟩ := EntityType.exists_field_of_slot? located
  obtain ⟨coerced, required⟩ := (EntityType.assign_eq_ok_iff placed).mp assigned
  exact ⟨slot, field, result, located, placed, coerced, required, (Except.ok.inj same).symm⟩

/-- Setting a text succeeds for a text field only, and the slot then holds just this text. -/
theorem set_text_eq_ok {entity changed : Entity} {name text : String}
    (set : entity.set name (.text text) = .ok changed) :
    entity.type.AcceptsKey name text ∧ ∃ slot, entity.type.slot? name = some slot ∧
      changed = entity.withValue slot (.text text) := by
  obtain ⟨slot, field, result, found, placed, coerced, _, rfl⟩ := set_eq_ok set
  obtain ⟨admitted, accepted⟩ := (Attribute.coerce_eq_ok_iff field Value.noConfusion).mp coerced
  cases kind : field.type <;> rw [kind] at admitted <;>
    simp only [AttributeType.admission, Except.ok.injEq, reduceCtorEq] at admitted
  subst admitted
  exact ⟨⟨slot, field, found, placed, kind, accepted⟩, slot, found, rfl⟩

/-- A text that was set is read back. -/
theorem stores_of_set_text {entity changed : Entity} {name text : String}
    (sound : entity.SoundThroughout types) (set : entity.set name (.text text) = .ok changed) :
    changed.Stores name (.text text) := by
  obtain ⟨_, slot, found, rfl⟩ := set_text_eq_ok set
  obtain ⟨field, placed⟩ := EntityType.exists_field_of_slot? found
  obtain ⟨own, stored, _⟩ := exists_related sound.here.slots placed
  obtain ⟨inRange, _⟩ := List.getElem?_eq_some_iff.mp stored
  refine ⟨slot, found, ?_⟩
  rw [withValue_values, List.getElem?_set_self inRange]

theorem set_sound (registry : Registry types) {entity changed : Entity} {name : String}
    {value : Value} (sound : entity.SoundThroughout types) (given : value.SoundThroughout types)
    (set : entity.set name value = .ok changed) :
    changed.SoundThroughout types ∧ changed.type = entity.type := by
  obtain ⟨slot, field, result, _, placed, coerced, required, rfl⟩ := set_eq_ok set
  have coerces := registry.attributes_coerceSoundly sound.here.known field
    (List.mem_of_getElem? placed)
  obtain ⟨resultSound, accepts⟩ := coerces value result given coerced
  exact ⟨sound.withValue placed resultSound ⟨accepts, required⟩, rfl⟩

theorem delete_eq_ok {entity changed : Entity} {name : String}
    (deleted : entity.delete name = .ok changed) : ∃ slot field,
      entity.type.slot? name = some slot ∧ entity.type.attributes[slot]? = some field ∧
      ¬field.required = true ∧ changed = entity.withValue slot field.default := by
  unfold Entity.delete at deleted
  obtain ⟨slot, taken, rest⟩ := Success.bind_eq_ok.mp deleted
  have found := slot_eq_ok_iff.mp taken
  obtain ⟨field, placed⟩ := EntityType.exists_field_of_slot? found
  rw [placed] at rest
  dsimp only at rest
  split at rest
  next => contradiction
  next optional => exact ⟨slot, field, found, placed, optional, (Except.ok.inj rest).symm⟩

theorem delete_sound (registry : Registry types) {entity changed : Entity} {name : String}
    (sound : entity.SoundThroughout types) (deleted : entity.delete name = .ok changed) :
    changed.SoundThroughout types ∧ changed.type = entity.type := by
  obtain ⟨slot, field, _, placed, optional, rfl⟩ := delete_eq_ok deleted
  have fieldSound := (registry.sound _ sound.here.known).attributes field
    (List.mem_of_getElem? placed)
  have holds : field.Holds field.default :=
    ⟨fieldSound.accepted, fun required => absurd required optional⟩
  exact ⟨sound.withValue placed fieldSound.default holds, rfl⟩

/-- An extra value is set where its name is declared, and otherwise it is captured. -/
theorem setExtra_eq_ok {entity changed : Entity} {name : String} {document : Document}
    (set : entity.setExtra name document = .ok changed) :
    entity.set name (.ofDocument document) = .ok changed ∨
      (¬entity.type.hasAttribute name = true ∧ ∃ slot,
        entity.type.catchAllSlot? = some slot ∧
        changed = ⟨entity.type, EntityType.capture entity.values slot name document⟩) := by
  unfold Entity.setExtra at set
  split at set
  next => exact .inl set
  next undeclared =>
    split at set
    next slot found => exact .inr ⟨undeclared, slot, found, (Except.ok.inj set).symm⟩
    next => contradiction

theorem setExtra_sound (registry : Registry types) {entity changed : Entity} {name : String}
    {document : Document} (sound : entity.SoundThroughout types) (formed : document.WellFormed)
    (set : entity.setExtra name document = .ok changed) :
    changed.SoundThroughout types ∧ changed.type = entity.type := by
  rcases setExtra_eq_ok set with declared | ⟨_, slot, found, rfl⟩
  · exact set_sound registry sound (.ofDocument formed) declared
  · have typeSound := registry.sound _ sound.here.known
    obtain ⟨field, placed, fieldSound, dict⟩ := typeSound.exists_catchAllSlot found
    have admits (entries : Mapping) : field.Holds (.dict entries) :=
      ⟨fieldSound.accepts_dict dict entries, fun _ => Value.noConfusion⟩
    have slots := sound.slotsSound.capture placed admits name formed
    exact ⟨.intro sound.here.known slots.slots slots.values, rfl⟩

theorem rewriteDict_eq_ok {entity changed : Entity} {name : String} {entries : Mapping}
    (rewritten : entity.rewriteDict name entries = .ok changed) : ∃ slot former,
      entity.type.slot? name = some slot ∧ entity.values[slot]? = some (.dict former) ∧
      changed = entity.withValue slot (.dict entries) := by
  unfold Entity.rewriteDict at rewritten
  obtain ⟨slot, found, rest⟩ := Success.bind_eq_ok.mp rewritten
  split at rest
  next former stored =>
    exact ⟨slot, former, slot_eq_ok_iff.mp found, (valueAt_eq_iff Value.noConfusion).mp stored,
      (Except.ok.inj rest).symm⟩
  next => contradiction

theorem rewriteDict_sound (registry : Registry types) {entity changed : Entity} {name : String}
    {entries : Mapping} (sound : entity.SoundThroughout types)
    (formed : (Document.mapping entries).WellFormed)
    (rewritten : entity.rewriteDict name entries = .ok changed) :
    changed.SoundThroughout types ∧ changed.type = entity.type := by
  obtain ⟨slot, former, found, stored, rfl⟩ := rewriteDict_eq_ok rewritten
  obtain ⟨field, placed, holds⟩ := exists_holding sound found stored
  have dict := (holds.accepts.fits Value.noConfusion).eq_dict
  have fieldSound := (registry.sound _ sound.here.known).attributes field
    (List.mem_of_getElem? placed)
  have valueSound : Value.SoundThroughout types (.dict entries) :=
    ⟨formed, fun _ member => absurd member List.not_mem_nil⟩
  exact ⟨sound.withValue placed valueSound
    ⟨fieldSound.accepts_dict dict entries, fun _ => Value.noConfusion⟩, rfl⟩

end Entity

/-! ## Elements of collections -/

/-- A sound collection stays sound when every element was one before or is a sound instance. -/
theorem OrderedCollection.withItems_sound {collection : OrderedCollection}
    (sound : Value.SoundThroughout types (.index collection)) {items : List Entity}
    (each : ∀ item ∈ items, item ∈ collection.items ∨
      (item.instanceOf collection.itemType = true ∧ item.SoundThroughout types)) :
    Value.SoundThroughout types (.index { collection with items := items }) := by
  refine ⟨⟨sound.here.known, fun item member => ?_⟩, fun item member => ?_⟩
  · rcases each item member with old | ⟨descends, _⟩
    · exact sound.here.items item old
    · exact descends
  · rcases each item member with old | ⟨_, new⟩
    · exact sound.below item old
    · exact new

theorem KeyedCollection.withEntries_sound {collection : KeyedCollection}
    (sound : Value.SoundThroughout types (.map collection)) {entries : List (String × Entity)}
    (distinct : (Entries.keys entries).Nodup)
    (each : ∀ entry ∈ entries, entry ∈ collection.entries ∨
      (entry.2.instanceOf collection.itemType = true ∧ entry.2.SoundThroughout types ∧
        entry.2.type.AcceptsKey collection.keyField entry.1)) :
    Value.SoundThroughout types (.map { collection with entries := entries }) := by
  have here : KeyedCollection.Sound types collection := sound.here
  refine ⟨{ here with
    distinct := distinct
    items := fun entry member => ?_
    keys := fun entry member => ?_ }, fun item member => ?_⟩
  · rcases each entry member with old | ⟨descends, _⟩
    · exact here.items entry old
    · exact descends
  · rcases each entry member with old | ⟨_, _, accepted⟩
    · exact here.keys entry old
    · exact accepted
  · obtain ⟨entry, inEntries, rfl⟩ := List.mem_map.mp member
    rcases each entry inEntries with old | ⟨_, new, _⟩
    · exact sound.below _ (List.mem_map_of_mem old)
    · exact new

end NetworkAutomation
