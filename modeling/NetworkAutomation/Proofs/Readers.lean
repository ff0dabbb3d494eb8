/-
This file says what a type finds in the document of an entity of another type, such as one of its
descendants. A reader sees its own fields and whatever is left over for its catch-all.
-/

import NetworkAutomation.Proofs.Agreement
import NetworkAutomation.Proofs.RoundTrip

namespace NetworkAutomation

/-- Every name of the reader means the same to the type, and so do catch-all and envelope. -/
structure EntityType.Keeps (type reader : EntityType) : Prop where
  fields : ∀ name field, reader.field? name = some field → type.field? name = some field
  catchAll : type.catchAll = reader.catchAll
  envelope : type.envelope = reader.envelope

/-- A field is written as its document, or not at all. -/
def Attribute.written (field : Attribute) (value : Value) : Option Document :=
  if field.policy.emits value.toDocument then some value.toDocument else none

namespace EntityType

theorem keeps_self (type : EntityType) : type.Keeps type :=
  ⟨fun _ _ found => found, rfl, rfl⟩

theorem field?_eq_some_iff {type : EntityType} {name : String} {field : Attribute} :
    type.field? name = some field ↔
      ∃ slot, type.slot? name = some slot ∧ type.attributes[slot]? = some field :=
  Option.bind_eq_some_iff

theorem field?_name {type : EntityType} (distinct : type.fieldNames.Nodup) {slot : Nat}
    {field : Attribute} (placed : type.attributes[slot]? = some field) :
    type.field? field.name = some field :=
  field?_eq_some_iff.mpr ⟨slot, slot?_name distinct placed, placed⟩

theorem hasAttribute_iff_field? {type : EntityType} {name : String} :
    type.hasAttribute name = true ↔ ∃ field, type.field? name = some field := by
  rw [hasAttribute_iff]
  constructor
  · rintro ⟨slot, found⟩
    obtain ⟨field, placed⟩ := exists_field_of_slot? found
    exact ⟨field, field?_eq_some_iff.mpr ⟨slot, found, placed⟩⟩
  · rintro ⟨field, found⟩
    obtain ⟨slot, located, _⟩ := field?_eq_some_iff.mp found
    exact ⟨slot, located⟩

theorem Keeps.mem_fieldNames {type reader : EntityType} (keeps : type.Keeps reader)
    (distinct : reader.fieldNames.Nodup) {name : String} (own : name ∈ reader.fieldNames) :
    name ∈ type.fieldNames := by
  obtain ⟨field, member, rfl⟩ := List.mem_map.mp own
  obtain ⟨slot, placed⟩ := List.mem_iff_getElem?.mp member
  obtain ⟨_, _, kept⟩ :=
    field?_eq_some_iff.mp (keeps.fields field.name field (field?_name distinct placed))
  exact List.mem_map_of_mem (List.mem_of_getElem? kept)

theorem slot_eq_of_field {type : EntityType} (distinct : type.fieldNames.Nodup)
    {first second : Nat} {field : Attribute} (firstPlaced : type.attributes[first]? = some field)
    (secondPlaced : type.attributes[second]? = some field) : first = second := by
  have found := slot?_name distinct firstPlaced
  rw [slot?_name distinct secondPlaced] at found
  exact (Option.some.inj found).symm

/-- The flattened catch-all is the field that the catch-all names. -/
theorem flattenedSlot?_eq_some_iff {type : EntityType} {slot : Nat} :
    type.flattenedSlot? = some slot ↔ ∃ catchAll, type.catchAll = some catchAll ∧
      catchAll.mode = .flatten ∧ type.slot? catchAll.field = some slot := by
  unfold flattenedSlot?
  rw [Option.bind_eq_some_iff]
  constructor
  · rintro ⟨catchAll, declared, located⟩
    split at located
    next flat => exact ⟨catchAll, declared, flat, located⟩
    next => contradiction
  · rintro ⟨catchAll, declared, flat, located⟩
    exact ⟨catchAll, declared, by rw [if_pos flat, located]⟩

end EntityType

/-! ## The slots of a reader -/

namespace Entity

/-- The reader finds the value in one of its own slots, which is no flattened catch-all. -/
structure Shows (entity : Entity) (reader : EntityType) (slot : Nat) (field : Attribute)
    (value : Value) : Prop where
  placed : reader.attributes[slot]? = some field
  apart : reader.flattenedSlot? ≠ some slot
  held : ∃ place, entity.Slot place field value

/-- A sound entity is seen by a type whose fields its own type keeps. -/
structure SeenBy (types : List EntityType) (entity : Entity) (reader : EntityType) : Prop where
  registry : Registry types
  sound : entity.SoundThroughout types
  known : reader ∈ types
  keeps : entity.type.Keeps reader

theorem SoundThroughout.seenBy_self {types : List EntityType} (registry : Registry types)
    {entity : Entity} (sound : entity.SoundThroughout types) : entity.SeenBy types entity.type :=
  ⟨registry, sound, sound.here.known, entity.type.keeps_self⟩

theorem Shows.mem_body {entity : Entity} {reader : EntityType} {slot : Nat} {field : Attribute}
    {value : Value} (shows : entity.Shows reader slot field value)
    (emitted : field.policy.emits value.toDocument = true) :
    (field.name, value.toDocument) ∈ entity.body := by
  obtain ⟨place, held⟩ := shows.held
  exact mem_body_iff.mpr (.inl ⟨place, field, value, held, emitted, rfl⟩)

theorem Shows.mem_values {entity : Entity} {reader : EntityType} {slot : Nat} {field : Attribute}
    {value : Value} (shows : entity.Shows reader slot field value) : value ∈ entity.values := by
  obtain ⟨place, held⟩ := shows.held
  exact List.mem_of_getElem? held.stored

/-- The body of a sound entity is a well-formed mapping, inside an envelope or without one. -/
theorem SoundThroughout.body_wellFormed {types : List EntityType} (registry : Registry types)
    {entity : Entity} (sound : entity.SoundThroughout types) :
    (Document.mapping entity.body).WellFormed := by
  have whole := sound.toDocument_wellFormed registry
  rw [Entity.toDocument, serialize_eq_wrap, EntityType.wrap] at whole
  split at whole
  next root _ => exact whole.entries (root, .mapping entity.body) (List.mem_singleton.mpr rfl)
  next => exact whole

namespace SeenBy

variable {types : List EntityType} {entity : Entity} {reader : EntityType}
  (seen : entity.SeenBy types reader)
include seen

theorem readerSound : reader.Sound types :=
  seen.registry.sound reader seen.known

theorem typeSound : entity.type.Sound types :=
  seen.registry.sound entity.type seen.sound.here.known

theorem bodyDistinct : (Entries.keys entity.body).Nodup :=
  (seen.sound.body_wellFormed seen.registry).keys

/-- The same field is flattened by the type and by its reader. -/
theorem flattened_iff {slot place : Nat} {field : Attribute}
    (placed : reader.attributes[slot]? = some field)
    (held : entity.type.attributes[place]? = some field) :
    entity.type.flattenedSlot? = some place ↔ reader.flattenedSlot? = some slot := by
  rw [EntityType.flattenedSlot?_eq_some_iff, EntityType.flattenedSlot?_eq_some_iff,
    seen.keeps.catchAll]
  refine exists_congr fun catchAll => and_congr_right fun declared => and_congr_right fun _ => ?_
  obtain ⟨own, ownField, located, ownPlaced, _⟩ := seen.readerSound.catchAll catchAll declared
  have kept := seen.keeps.fields _ _
    (EntityType.field?_eq_some_iff.mpr ⟨own, located, ownPlaced⟩)
  obtain ⟨kind, kindLocated, kindPlaced⟩ := EntityType.field?_eq_some_iff.mp kept
  rw [located, kindLocated, Option.some.injEq, Option.some.injEq]
  constructor
  · rintro rfl
    obtain rfl := Option.some.inj (kindPlaced.symm.trans held)
    exact EntityType.slot_eq_of_field seen.readerSound.distinct ownPlaced placed
  · rintro rfl
    obtain rfl := Option.some.inj (ownPlaced.symm.trans placed)
    exact EntityType.slot_eq_of_field seen.typeSound.distinct kindPlaced held

theorem exists_shows {slot : Nat} {field : Attribute}
    (placed : reader.attributes[slot]? = some field) (apart : reader.flattenedSlot? ≠ some slot) :
    ∃ value, entity.Shows reader slot field value ∧ field.Holds value := by
  have kept := seen.keeps.fields _ _ (EntityType.field?_name seen.readerSound.distinct placed)
  obtain ⟨place, _, held⟩ := EntityType.field?_eq_some_iff.mp kept
  obtain ⟨value, stored, holds⟩ := exists_related seen.sound.here.slots held
  refine ⟨value, ⟨placed, apart, place, held, stored, fun flattened => apart ?_⟩, holds⟩
  exact (seen.flattened_iff placed held).mp flattened

theorem unique {slot : Nat} {field other : Attribute} {value second : Value}
    (shows : entity.Shows reader slot field value) (again : entity.Shows reader slot other second) :
    other = field ∧ second = value := by
  obtain rfl := Option.some.inj (shows.placed.symm.trans again.placed)
  obtain ⟨place, held⟩ := shows.held
  obtain ⟨own, alsoHeld⟩ := again.held
  obtain rfl := EntityType.slot_eq_of_field seen.typeSound.distinct held.placed alsoHeld.placed
  exact ⟨rfl, (Option.some.inj (held.stored.symm.trans alsoHeld.stored)).symm⟩

theorem holds {slot : Nat} {field : Attribute} {value : Value}
    (shows : entity.Shows reader slot field value) : field.Holds value := by
  obtain ⟨own, again, holds⟩ := seen.exists_shows shows.placed shows.apart
  rwa [(seen.unique shows again).2] at holds

/-! ## What stands under the names of a reader -/

/-- An entry under a name of the reader is what one of its slots holds. -/
theorem shows_of_mem_body {entry : String × Document} (member : entry ∈ entity.body) {slot : Nat}
    (found : reader.slot? entry.1 = some slot) : ∃ field value,
      entity.Shows reader slot field value ∧ field.policy.emits value.toDocument = true ∧
        entry = (field.name, value.toDocument) := by
  obtain ⟨field, placed⟩ := EntityType.exists_field_of_slot? found
  have kept := seen.keeps.fields entry.1 field
    (EntityType.field?_eq_some_iff.mpr ⟨slot, found, placed⟩)
  rcases mem_body_iff.mp member with ⟨place, own, value, held, emitted, rfl⟩ | captured
  · have ownFound := EntityType.field?_name seen.typeSound.distinct held.placed
    obtain rfl := Option.some.inj (kept.symm.trans ownFound)
    have apart : reader.flattenedSlot? ≠ some slot := fun flattened =>
      held.apart ((seen.flattened_iff placed held.placed).mpr flattened)
    exact ⟨field, value, ⟨placed, apart, place, held⟩, emitted, rfl⟩
  · have undeclared := (EntityType.mem_capturedEntries captured).1
    rw [EntityType.hasAttribute_iff_field?.mpr ⟨field, kept⟩] at undeclared
    contradiction

theorem find?_body_name {slot : Nat} {field : Attribute} {value : Value}
    (shows : entity.Shows reader slot field value) :
    Entries.find? entity.body field.name = field.written value := by
  apply Option.ext
  intro document
  rw [Entries.find?_eq_some_iff seen.bodyDistinct, Attribute.written,
    Option.ite_none_right_eq_some, Option.some.injEq]
  constructor
  · intro member
    have located := EntityType.slot?_name seen.readerSound.distinct shows.placed
    obtain ⟨own, found, again, emitted, same⟩ := seen.shows_of_mem_body member located
    obtain ⟨rfl, rfl⟩ := seen.unique shows again
    exact ⟨emitted, (Prod.mk.inj same).2.symm⟩
  · rintro ⟨emitted, rfl⟩
    exact shows.mem_body emitted

/-- Nothing stands under an alias, nor under the name of a flattened catch-all. -/
theorem find?_body_eq_none {name : String} (declared : reader.hasAttribute name = true)
    (hidden : ∀ slot field value, entity.Shows reader slot field value → field.name ≠ name) :
    Entries.find? entity.body name = none := by
  rw [Option.eq_none_iff_forall_ne_some]
  intro document found
  obtain ⟨slot, located⟩ := EntityType.hasAttribute_iff.mp declared
  obtain ⟨field, value, shows, _, same⟩ :=
    seen.shows_of_mem_body (Entries.mem_of_find? found) located
  exact hidden slot field value shows (Prod.mk.inj same).1.symm

/-- Two bodies agree for a reader where its slots and everything undeclared are held alike. -/
theorem body_agrees_iff {other : Entity} (alsoSeen : other.SeenBy types reader) :
    (Document.mapping entity.body).agrees (.mapping other.body) = true ↔
      (∀ slot field value second, entity.Shows reader slot field value →
        other.Shows reader slot field second →
        HeldAlike (field.written value) (field.written second)) ∧
      ∀ name, reader.hasAttribute name = false →
        HeldAlike (Entries.find? entity.body name) (Entries.find? other.body name) := by
  rw [Document.mapping_agrees_iff_find? seen.bodyDistinct alsoSeen.bodyDistinct]
  constructor
  · intro each
    constructor
    · intro slot field value second shows otherShows
      have alike := each field.name
      rwa [seen.find?_body_name shows, alsoSeen.find?_body_name otherShows] at alike
    · exact fun name _ => each name
  · rintro ⟨slots, undeclared⟩ name
    cases declared : reader.hasAttribute name with
    | false => exact undeclared name declared
    | true =>
        by_cases visible : ∃ slot field, reader.attributes[slot]? = some field ∧
            reader.flattenedSlot? ≠ some slot ∧ field.name = name
        · obtain ⟨slot, field, placed, apart, rfl⟩ := visible
          obtain ⟨value, shows, _⟩ := seen.exists_shows placed apart
          obtain ⟨second, otherShows, _⟩ := alsoSeen.exists_shows placed apart
          rw [seen.find?_body_name shows, alsoSeen.find?_body_name otherShows]
          exact slots slot field value second shows otherShows
        · have hidden {owner : Entity} : ∀ slot field value,
              owner.Shows reader slot field value → field.name ≠ name :=
            fun slot field _ shows same => visible ⟨slot, field, shows.placed, shows.apart, same⟩
          rw [seen.find?_body_eq_none declared hidden,
            alsoSeen.find?_body_eq_none declared hidden]
          exact .none

end SeenBy

end Entity

end NetworkAutomation
