/-
This file proves that entities are sound when they are made from sound fields and documents.
-/

import NetworkAutomation.Proofs.Layout

namespace NetworkAutomation

variable {types : List EntityType}

/-- Whatever the attribute makes of a sound value is sound and may stand in its slot. -/
def Attribute.CoercesSoundly (types : List EntityType) (field : Attribute) : Prop :=
  ∀ value result, value.SoundThroughout types → field.coerce value = .ok result →
    result.SoundThroughout types ∧ field.Accepts result

/-- Whatever the type reads from a well-formed document is sound and of exactly this type. -/
def EntityType.ReadsSoundly (types : List EntityType) (type : EntityType) : Prop :=
  ∀ document entity, (Document.mapping document).WellFormed → type.read document = .ok entity →
    entity.SoundThroughout types ∧ entity.type = type

/-! ## Filling the slots of an entity -/

/-- Only texts and integers are judged, so containers have no validators. -/
theorem Validator.eq_nil_of_isContainer {type : AttributeType} {validators : List Validator}
    (supported : ∀ validator ∈ validators, validator.supports type.primitive = true)
    (container : type.isContainer = true) : validators = [] := by
  rw [List.eq_nil_iff_forall_not_mem]
  intro validator member
  have judged := supported validator member
  unfold Validator.supports at judged
  cases type <;> cases validator <;> simp_all [Validator.supported, AttributeType.primitive,
    AttributeType.isContainer]

theorem Attribute.Sound.validators_eq_nil {field : Attribute} (sound : field.Sound types)
    (container : field.type.isContainer = true) : field.validators = [] :=
  Validator.eq_nil_of_isContainer sound.supported container

theorem Attribute.Sound.accepts_dict {field : Attribute} (sound : field.Sound types)
    (dict : field.type = .dict) (entries : Mapping) : field.Accepts (.dict entries) where
  null isNull := Value.noConfusion isNull
  fits _ := by
    rw [dict]
    exact ⟨rfl, (fun _ _ element => nomatch element), fun _ _ _ isMap => nomatch isMap⟩
  judged := by
    rw [sound.validators_eq_nil (by rw [dict]; rfl)]
    exact fun _ member => absurd member List.not_mem_nil

theorem EntityType.Sound.exists_catchAllSlot {type : EntityType} (sound : type.Sound types)
    {slot : Nat} (found : type.catchAllSlot? = some slot) :
    ∃ field, type.attributes[slot]? = some field ∧ field.Sound types ∧ field.type = .dict := by
  obtain ⟨catchAll, declared, located⟩ := Option.bind_eq_some_iff.mp found
  obtain ⟨own, field, ownFound, placed, dict⟩ := sound.catchAll catchAll declared
  obtain rfl := Option.some.inj (ownFound.symm.trans located)
  exact ⟨field, placed, sound.attributes field (List.mem_of_getElem? placed), dict⟩

/-- The slots of a type hold sound values that the relation admits beside their attributes. -/
structure SlotsSound (types : List EntityType) (related : Attribute → Value → Prop)
    (type : EntityType) (values : List Value) : Prop where
  slots : List.Forall₂ related type.attributes values
  values : ∀ value ∈ values, value.SoundThroughout types

theorem SlotsSound.set {related : Attribute → Value → Prop} {type : EntityType}
    {values : List Value} (sound : SlotsSound types related type values) {slot : Nat}
    {field : Attribute} (placed : type.attributes[slot]? = some field) {value : Value}
    (valueSound : value.SoundThroughout types) (pair : related field value) :
    SlotsSound types related type (values.set slot value) where
  slots := related_set sound.slots placed pair
  values other member := by
    rcases List.mem_or_eq_of_mem_set member with old | rfl
    · exact sound.values other old
    · exact valueSound

/-- Capturing a document keeps the catch-all a dict of well-formed documents. -/
theorem SlotsSound.capture {related : Attribute → Value → Prop} {type : EntityType}
    {values : List Value} (sound : SlotsSound types related type values) {slot : Nat}
    {field : Attribute} (placed : type.attributes[slot]? = some field)
    (admits : ∀ entries, related field (.dict entries)) (name : String) {document : Document}
    (formed : document.WellFormed) :
    SlotsSound types related type (EntityType.capture values slot name document) := by
  have dictSound (entries : Mapping) (whole : (Document.mapping entries).WellFormed) :
      Value.SoundThroughout types (.dict entries) :=
    ⟨whole, fun _ member => absurd member List.not_mem_nil⟩
  unfold EntityType.capture
  split
  next entries stored =>
    have old := (sound.values _ (List.mem_of_getElem? stored)).here
    exact sound.set placed (dictSound _ (Document.WellFormed.insert old name formed)) (admits _)
  next =>
    exact sound.set placed (dictSound _ (Document.WellFormed.nil.insert name formed)) (admits _)

theorem SlotsSound.captureAll {related : Attribute → Value → Prop} {type : EntityType}
    {values : List Value} (sound : SlotsSound types related type values) {slot : Nat}
    {field : Attribute} (placed : type.attributes[slot]? = some field)
    (admits : ∀ entries, related field (.dict entries)) {extras : List (String × Value)}
    (formed : ∀ entry ∈ extras, entry.2.toDocument.WellFormed) :
    SlotsSound types related type (extras.foldl
      (fun values entry => EntityType.capture values slot entry.1 entry.2.toDocument) values) := by
  induction extras generalizing values with
  | nil => exact sound
  | cons entry rest ih =>
      rw [List.forall_mem_cons] at formed
      exact ih (sound.capture placed admits entry.1 formed.1) formed.2

/-- The slots filled so far are sound, and so are the values that are still to be captured. -/
structure EntityType.Population.Sound (types : List EntityType) (type : EntityType)
    (population : EntityType.Population) : Prop where
  slots : SlotsSound types Attribute.Accepts type population.values
  extras : ∀ entry ∈ population.extras, entry.2.SoundThroughout types

theorem EntityType.populateField_sound {type : EntityType} {source : FieldSource}
    {population next : EntityType.Population} {entry : String × Value}
    (coerces : ∀ field ∈ type.attributes, field.CoercesSoundly types)
    (given : entry.2.SoundThroughout types) (sound : population.Sound types type)
    (taken : type.populateField type.coerceAt source population entry = .ok next) :
    next.Sound types type := by
  unfold EntityType.populateField at taken
  split at taken
  next slot found =>
    obtain ⟨field, placed⟩ := EntityType.exists_field_of_slot? found
    obtain ⟨value, assigned, same⟩ := Success.bind_eq_ok.mp taken
    obtain rfl := Except.ok.inj same
    have coerced := ((EntityType.assign_eq_ok_iff placed).mp assigned).1
    obtain ⟨valueSound, accepted⟩ :=
      coerces field (List.mem_of_getElem? placed) entry.2 value given coerced
    exact ⟨sound.slots.set placed valueSound accepted, sound.extras⟩
  next =>
    split at taken
    next =>
      obtain rfl := Except.ok.inj taken
      refine ⟨sound.slots, fun other member => ?_⟩
      rcases List.mem_append.mp member with old | new
      · exact sound.extras other old
      · obtain rfl := List.mem_singleton.mp new
        exact given
    next => contradiction

theorem EntityType.captureExtras_sound {type : EntityType} (registry : Registry types)
    (known : type ∈ types) {population : EntityType.Population}
    (sound : population.Sound types type) :
    SlotsSound types Attribute.Accepts type (type.captureExtras population) := by
  unfold EntityType.captureExtras
  split
  next slot found =>
    obtain ⟨field, placed, fieldSound, dict⟩ :=
      (registry.sound type known).exists_catchAllSlot found
    refine sound.slots.captureAll placed (fieldSound.accepts_dict dict) fun entry member => ?_
    exact (sound.extras entry member).toDocument_wellFormed registry
  next => exact sound.slots

theorem EntityType.defaults_sound {type : EntityType} (sound : type.Sound types) :
    SlotsSound types Attribute.Accepts type type.defaults where
  slots := by
    rw [EntityType.defaults, List.forall₂_map_right_iff, List.forall₂_same]
    exact fun field member => (sound.attributes field member).accepted
  values value member := by
    obtain ⟨field, inFields, rfl⟩ := List.mem_map.mp member
    exact (sound.attributes field inFields).default

/-- Slots that are complete belong to a sound entity. -/
theorem SlotsSound.entity {type : EntityType} (known : type ∈ types) {values : List Value}
    (sound : SlotsSound types Attribute.Accepts type values)
    (complete : type.checkRequired values = .ok ()) :
    Entity.SoundThroughout types ⟨type, values⟩ := by
  refine .intro known ?_ sound.values
  rw [List.forall₂_iff_zip]
  refine ⟨sound.slots.length_eq, fun {field value} member => ⟨?_, ?_⟩⟩
  · exact (List.forall₂_iff_zip.mp sound.slots).2 member
  · exact EntityType.checkRequired_eq_ok_iff.mp complete (field, value) member

/-- An entity that is filled with sound values is sound and of the type it was made for. -/
theorem EntityType.populate_sound {type : EntityType} (registry : Registry types)
    (known : type ∈ types) (coerces : ∀ field ∈ type.attributes, field.CoercesSoundly types)
    {source : FieldSource} {fields : List (String × Value)} {entity : Entity}
    (given : ∀ entry ∈ fields, entry.2.SoundThroughout types)
    (populated : type.populate type.coerceAt source fields = .ok entity) :
    entity.SoundThroughout types ∧ entity.type = type := by
  obtain ⟨population, folded, complete, rfl⟩ := EntityType.populate_eq_ok_iff.mp populated
  have start : EntityType.Population.Sound types type ⟨type.defaults, []⟩ :=
    ⟨EntityType.defaults_sound (registry.sound type known),
      fun _ member => absurd member List.not_mem_nil⟩
  have final : population.Sound types type := by
    refine Success.foldlM_preserves _ start (fun state entry next member held taken => ?_) folded
    exact EntityType.populateField_sound coerces (given entry member) held taken
  exact ⟨(EntityType.captureExtras_sound registry known final).entity known complete, rfl⟩

/-- An entity without given fields is sound as well. -/
theorem EntityType.empty_sound {type : EntityType} (registry : Registry types)
    (known : type ∈ types) {entity : Entity} (created : type.empty = .ok entity) :
    entity.SoundThroughout types ∧ entity.type = type := by
  obtain ⟨_, complete, same⟩ := Success.bind_eq_ok.mp created
  obtain rfl := Except.ok.inj same
  exact ⟨(EntityType.defaults_sound (registry.sound type known)).entity known complete, rfl⟩

/-! ## Reading documents -/

theorem EntityType.fieldsOf_sound {document : Mapping}
    (formed : (Document.mapping document).WellFormed) :
    ∀ entry ∈ EntityType.fieldsOf document, entry.2.SoundThroughout types := by
  intro entry member
  obtain ⟨own, inDocument, rfl⟩ := List.mem_map.mp member
  exact .ofDocument (formed.entries own inDocument)

/-- The fields of a well-formed document are sound, inside an envelope and beside its root. -/
theorem EntityType.unwrap_sound {type : EntityType} {document : Mapping}
    (formed : (Document.mapping document).WellFormed) {fields : List (String × Value)}
    (unwrapped : type.unwrap document = .ok fields) :
    ∀ entry ∈ fields, entry.2.SoundThroughout types := by
  rcases EntityType.unwrap_eq_ok_iff.mp unwrapped with ⟨_, rfl⟩ | ⟨root, body, _, found, _, rfl⟩
  · exact EntityType.fieldsOf_sound formed
  · have inner : (Document.mapping body).WellFormed :=
      formed.entries (root, .mapping body) (Entries.mem_of_find? found)
    intro entry member
    rcases List.mem_append.mp member with outside | inside
    · exact EntityType.fieldsOf_sound (formed.filter _) entry outside
    · exact EntityType.fieldsOf_sound inner entry inside

theorem EntityType.read_sound {type : EntityType} (registry : Registry types)
    (known : type ∈ types) (coerces : ∀ field ∈ type.attributes, field.CoercesSoundly types) :
    type.ReadsSoundly types := by
  intro document entity formed taken
  rw [EntityType.read_eq] at taken
  obtain ⟨fields, unwrapped, populated⟩ := Success.bind_eq_ok.mp taken
  exact EntityType.populate_sound registry known coerces
    (EntityType.unwrap_sound formed unwrapped) populated

end NetworkAutomation
