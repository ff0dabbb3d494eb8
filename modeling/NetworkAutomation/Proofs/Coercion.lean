/-
This file proves that attributes make sound values of sound values, at any depth of their types.
-/

import NetworkAutomation.Proofs.Admission

namespace NetworkAutomation

variable {types : List EntityType}

/-! ## Elements of collections -/

/-- A text beside the root of an envelope is one of the fields, as is a text without envelope. -/
theorem EntityType.mem_unwrap_of_text {type : EntityType} {name text : String}
    {document : Mapping} {fields : List (String × Value)}
    (formed : (Document.mapping document).WellFormed)
    (member : (name, Document.text text) ∈ document)
    (unwrapped : type.unwrap document = .ok fields) : (name, Value.text text) ∈ fields := by
  have own : (name, Value.text text) ∈ EntityType.fieldsOf document :=
    List.mem_map.mpr ⟨_, member, rfl⟩
  rcases EntityType.unwrap_eq_ok_iff.mp unwrapped with ⟨_, rfl⟩ | ⟨root, body, _, found, _, rfl⟩
  · exact own
  · -- the name is no root, since under the root there stands a mapping
    have apart : name ≠ root := by
      rintro rfl
      have stored := (Entries.find?_eq_some_iff formed.keys).mpr member
      exact nomatch Option.some.inj (found.symm.trans stored)
    have outside : (name, Document.text text) ∈ document.without root :=
      List.mem_filter.mpr ⟨member, by simpa using apart⟩
    exact List.mem_append_left _ (List.mem_map.mpr ⟨_, outside, rfl⟩)

/-- A document under a key is read by an element type only if the key field accepts the key. -/
theorem EntityType.acceptsKey_of_read {type : EntityType} {keyField key : String}
    {document : Mapping} {entity : Entity}
    (text : type.checkKeyField keyField = .ok ())
    (formed : (Document.mapping document).WellFormed)
    (member : (keyField, Document.text key) ∈ document)
    (taken : type.read document = .ok entity) : type.AcceptsKey keyField key := by
  rw [EntityType.read_eq] at taken
  obtain ⟨fields, unwrapped, populated⟩ := Success.bind_eq_ok.mp taken
  have given := EntityType.mem_unwrap_of_text formed member unwrapped
  obtain ⟨slot, field, located, placed, isText⟩ := EntityType.checkKeyField_eq_ok_iff.mp text
  obtain ⟨population, folded, _⟩ := EntityType.populate_eq_ok_iff.mp populated
  obtain ⟨state, next, assigned⟩ := Success.exists_step_of_foldlM folded given
  unfold EntityType.populateField at assigned
  rw [located] at assigned
  obtain ⟨value, assigned, _⟩ := Success.bind_eq_ok.mp assigned
  have coerced : field.coerce (.text key) = .ok value :=
    ((EntityType.assign_eq_ok_iff placed).mp assigned).1
  obtain ⟨admitted, accepted⟩ :=
    (Attribute.coerce_eq_ok_iff field Value.noConfusion).mp coerced
  rw [isText, AttributeType.admission] at admitted
  obtain rfl := Except.ok.inj admitted
  exact ⟨slot, field, located, placed, isText, accepted⟩

theorem OrderedCollection.readItems_sound {item : EntityType} (known : item ∈ types)
    (reads : item.ReadsSoundly types) {documents : List Document}
    (formed : (Document.list documents).WellFormed) {collection : OrderedCollection}
    (taken : OrderedCollection.readItems item item.read documents = .ok collection) :
    Value.SoundThroughout types (.index collection) ∧ collection.itemType = item := by
  obtain ⟨items, pairs, rfl⟩ := OrderedCollection.readItems_eq_ok_iff.mp taken
  have each : ∀ entity ∈ items, entity.SoundThroughout types ∧ entity.type = item := by
    intro entity member
    obtain ⟨index, stored⟩ := List.mem_iff_getElem?.mp member
    obtain ⟨document, given, read⟩ := exists_related pairs.flip stored
    obtain ⟨entries, rfl, read⟩ := EntityType.readMapping_eq_ok_iff.mp read
    exact reads entries entity (formed.items _ (List.mem_of_getElem? given)) read
  refine ⟨⟨⟨known, fun entity member => ?_⟩, fun entity member => (each entity member).1⟩, rfl⟩
  rw [Entity.instanceOf, (each entity member).2]
  exact item.isA_self

theorem KeyedCollection.readEntries_sound {item : EntityType} (known : item ∈ types)
    (reads : item.ReadsSoundly types) {keyField : String}
    (text : item.checkKeyField keyField = .ok ()) {document : Mapping}
    (formed : (Document.mapping document).WellFormed) {collection : KeyedCollection}
    (taken : KeyedCollection.readEntries item keyField item.read document = .ok collection) :
    Value.SoundThroughout types (.map collection) ∧ collection.itemType = item ∧
      collection.keyField = keyField := by
  obtain ⟨entries, pairs, rfl⟩ := KeyedCollection.readEntries_eq_ok_iff.mp taken
  have each : ∀ entry ∈ entries, entry.2.SoundThroughout types ∧ entry.2.type = item ∧
      item.AcceptsKey keyField entry.1 := by
    intro entry member
    obtain ⟨index, stored⟩ := List.mem_iff_getElem?.mp member
    obtain ⟨own, given, read⟩ := exists_related pairs.flip stored
    obtain ⟨body, entity, bodyTaken, taken, rfl⟩ := KeyedCollection.readEntry_eq_ok_iff.mp read
    have ownFormed := formed.entries own (List.mem_of_getElem? given)
    have bodyFormed : (Document.mapping body).WellFormed := by
      rcases KeyedCollection.entryBody_eq_ok_iff.mp bodyTaken with ⟨_, rfl⟩ | isBody
      · exact .nil
      · exact isBody ▸ ownFormed
    have whole := bodyFormed.insert keyField (.text own.1)
    have present : (keyField, Document.text own.1) ∈
        Mapping.insert body keyField (.text own.1) := by
      rw [Mapping.insert_eq_put]
      exact Entries.mem_put_self _ _ _
    obtain ⟨sound, sameType⟩ := reads _ entity whole taken
    exact ⟨sound, sameType, EntityType.acceptsKey_of_read text whole present taken⟩
  refine ⟨⟨⟨known, text, ?_, fun entry member => ?_, fun entry member => ?_⟩, ?_⟩, rfl, rfl⟩
  · rw [KeyedCollection.keys_readEntries pairs]
    exact formed.keys
  · rw [Entity.instanceOf, (each entry member).2.1]
    exact item.isA_self
  · rw [(each entry member).2.1]
    exact (each entry member).2.2
  · intro entity member
    obtain ⟨entry, inEntries, rfl⟩ := List.mem_map.mp member
    exact (each entry inEntries).1

/-! ## Values of a declared kind -/

/-- What a type admits is sound and of the declared kind. -/
theorem AttributeType.admission_sound {type : AttributeType} {name : String} {value result : Value}
    (known : ∀ item, type.item? = some item → item ∈ types)
    (reads : ∀ item, type.item? = some item → item.ReadsSoundly types)
    (keys : ∀ item key, type = .map item key → item.checkKeyField key = .ok ())
    (sound : value.SoundThroughout types) (admitted : type.admission name value = .ok result) :
    result.SoundThroughout types ∧ type.Fits result := by
  cases type with
  | object item =>
      rcases admission_object_eq_ok_iff.mp admitted with
        ⟨entity, rfl, descends, rfl⟩ | ⟨entries, entity, rfl, read, rfl⟩
      · exact ⟨sound, .object descends⟩
      · obtain ⟨entitySound, rfl⟩ := reads item rfl entries entity sound.here read
        exact ⟨Value.SoundThroughout.object_iff.mpr entitySound,
          .object entity.type.isA_self⟩
  | index item =>
      rcases admission_index_eq_ok_iff.mp admitted with
        ⟨collection, rfl, descends, rfl⟩ | ⟨documents, collection, rfl, read, rfl⟩
      · exact ⟨sound, .index descends⟩
      · obtain ⟨collectionSound, rfl⟩ :=
          OrderedCollection.readItems_sound (known item rfl) (reads item rfl) sound.here read
        exact ⟨collectionSound, .index collection.itemType.isA_self⟩
  | map item key =>
      rcases admission_map_eq_ok_iff.mp admitted with
        ⟨collection, rfl, descends, rfl, rfl⟩ | ⟨document, collection, rfl, read, rfl⟩
      · exact ⟨sound, .map descends rfl⟩
      · obtain ⟨collectionSound, rfl, rfl⟩ := KeyedCollection.readEntries_sound
          (known item rfl) (reads item rfl) (keys item key rfl) sound.here read
        exact ⟨collectionSound, .map collection.itemType.isA_self rfl⟩
  | _ =>
      cases value <;> simp only [AttributeType.admission, Except.ok.injEq, reduceCtorEq] at admitted
      subst admitted
      exact ⟨sound, .plain rfl rfl rfl⟩

/-- An attribute makes sound values of sound values when its element type reads soundly. -/
theorem Attribute.Sound.coercesSoundly {field : Attribute} (sound : field.Sound types)
    (reads : ∀ item, field.type.item? = some item → item.ReadsSoundly types) :
    field.CoercesSoundly types := by
  intro value result given coerced
  by_cases isNull : value = .null
  · subst isNull
    rw [Attribute.coerce_null] at coerced
    obtain rfl := Except.ok.inj coerced
    exact ⟨sound.default, sound.accepted⟩
  · obtain ⟨admitted, accepted⟩ := (Attribute.coerce_eq_ok_iff field isNull).mp coerced
    obtain ⟨resultSound, fits⟩ :=
      AttributeType.admission_sound sound.item reads sound.key given admitted
    exact ⟨resultSound, fun isNull => absurd isNull (AttributeType.admission_ne_null admitted),
      fun _ => fits, accepted⟩

/-! ## Types of a registry -/

/-- Every known type reads soundly, since its element types do. -/
theorem Registry.readsSoundly (registry : Registry types) {type : EntityType}
    (known : type ∈ types) : type.ReadsSoundly types := by
  induction type using EntityType.itemInduction with
  | step type ih =>
      refine EntityType.read_sound registry known fun field member => ?_
      have fieldSound := (registry.sound type known).attributes field member
      refine fieldSound.coercesSoundly fun item element => ?_
      exact ih item ⟨field, member, element⟩ (fieldSound.item item element)

theorem Registry.coercesSoundly (registry : Registry types) {field : Attribute}
    (sound : field.Sound types) : field.CoercesSoundly types :=
  sound.coercesSoundly fun item element => registry.readsSoundly (sound.item item element)

theorem Registry.attributes_coerceSoundly (registry : Registry types) {type : EntityType}
    (known : type ∈ types) : ∀ field ∈ type.attributes, field.CoercesSoundly types :=
  fun field member => registry.coercesSoundly ((registry.sound type known).attributes field member)

theorem Registry.readDocument_sound (registry : Registry types) {type : EntityType}
    (known : type ∈ types) {document : Document} (formed : document.WellFormed) {entity : Entity}
    (taken : type.readDocument document = .ok entity) :
    entity.SoundThroughout types ∧ entity.type = type := by
  obtain ⟨entries, rfl, read⟩ := EntityType.readMapping_eq_ok_iff.mp taken
  exact registry.readsSoundly known entries entity formed read

theorem Registry.create_sound (registry : Registry types) {type : EntityType}
    (known : type ∈ types) {fields : List (String × Value)}
    (given : ∀ field ∈ fields, field.2.SoundThroughout types) {entity : Entity}
    (created : type.create fields = .ok entity) :
    entity.SoundThroughout types ∧ entity.type = type :=
  EntityType.populate_sound registry known (registry.attributes_coerceSoundly known) given created

end NetworkAutomation
