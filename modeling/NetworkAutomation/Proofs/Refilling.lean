/-
This file proves that a reader fills its slots again from what is written of an entity. The entity
comes back exactly where the defaults make nothing up and what is inside comes back.
-/

import NetworkAutomation.Proofs.Restoring

namespace NetworkAutomation

/-! ## What is written of a field -/

theorem AttributeType.isContainer_of_item? {type : AttributeType} {item : EntityType}
    (element : type.item? = some item) : type.isContainer = true := by
  cases type <;> first | rfl | exact nomatch element

theorem Policy.emits_of_agrees (policy : Policy) {left right : Document}
    (agree : left.agrees right = true) : policy.emits left = policy.emits right := by
  cases policy with
  | present => exact Document.isPresent_of_agrees agree
  | _ => rfl

namespace Attribute

variable (field : Attribute) {value second : Value}

theorem written_of_unwritten (unwritten : field.policy.emits value.toDocument = false) :
    field.written value = none := by
  rw [written, unwritten]
  rfl

theorem written_alike_none_iff :
    HeldAlike (field.written second) none ↔ field.policy.emits second.toDocument = false := by
  unfold written
  cases field.policy.emits second.toDocument with
  | true => exact ⟨nofun, nofun⟩
  | false => exact ⟨fun _ => rfl, fun _ => .none⟩

theorem written_alike_iff (emitted : field.policy.emits value.toDocument = true) :
    HeldAlike (field.written second) (field.written value) ↔
      second.toDocument.agrees value.toDocument = true := by
  have present : field.written value = some value.toDocument := if_pos emitted
  rw [present]
  constructor
  · intro alike
    unfold written at alike
    split at alike
    next =>
      cases alike with
      | some agree => exact agree
    next => exact nomatch alike
  · intro agree
    rw [written, field.policy.emits_of_agrees agree, if_pos emitted]
    exact .some agree

/-- Values with agreeing documents are written alike. -/
theorem written_alike (agree : second.toDocument.agrees value.toDocument = true) :
    HeldAlike (field.written second) (field.written value) := by
  by_cases emitted : field.policy.emits value.toDocument = true
  · exact (field.written_alike_iff emitted).mpr agree
  · have unwritten := Bool.not_eq_true _ ▸ emitted
    rw [field.written_of_unwritten unwritten, field.written_alike_none_iff,
      field.policy.emits_of_agrees agree]
    exact unwritten

/-- The default of a slot that is left out is left out as well, unless it makes up a container. -/
theorem Accepts.default_unwritten_iff {field : Attribute} (accepts : field.Accepts value)
    (unwritten : field.policy.emits value.toDocument = false) :
    field.policy.emits field.default.toDocument = false ↔
      (field.policy = .present → field.type.isContainer = true → value.isPresent = false →
        field.default.isPresent = false) := by
  cases policy : field.policy with
  | always =>
      rw [policy] at unwritten
      contradiction
  | never =>
      constructor
      · intro _ isPresent
        contradiction
      · intro _
        rfl
  | present =>
      rw [policy] at unwritten
      constructor
      · exact fun absent _ _ _ => absent
      · intro restorable
        cases container : field.type.isContainer with
        | true => exact restorable rfl container unwritten
        | false => exact accepts.default_of_scalar container unwritten

end Attribute

namespace Entity

variable {types : List EntityType} {entity rebuilt : Entity} {reader : EntityType}

/-! ## Taking what is written of a slot -/

/-- The result stands for the value, and it agrees where everything inside is restored. -/
structure Retakes (field : Attribute) (value result : Value) : Prop where
  coerced : field.coerce (Value.ofDocument value.toDocument) = .ok result
  required : field.required = true → result ≠ .null
  agrees : result.toDocument.agrees value.toDocument = true ↔
    ∀ item, field.type.item? = some item →
      ∀ child ∈ value.entities, child.RestoredThroughout item
  scalar : field.type.isContainer = false → result = value

/-- What is written of a slot is taken back, and so is what a scalar holds in any case. -/
def Offered (field : Attribute) (value : Value) : Prop :=
  field.policy.emits value.toDocument = true ∨ field.type.isContainer = false

theorem SeenBy.exists_retaken (seen : entity.SeenBy types reader)
    (legible : entity.Legible reader)
    (below : ∀ item child, entity.ShowsChild reader item child → child.ReadsAs item)
    {slot : Nat} {field : Attribute} {value : Value}
    (shows : entity.Shows reader slot field value) (offered : Offered field value) :
    ∃ result, Retakes field value result := by
  have holds := seen.holds shows
  have fieldSound := seen.readerSound.attributes field (List.mem_of_getElem? shows.placed)
  have sound := seen.sound.values value shows.mem_values
  -- Plain values come back as they are, and values of entities as far as these come back.
  cases nested : value.itemType? with
  | none =>
      have same := (sound.toDocument_wellFormed seen.registry).agrees_refl
      refine ⟨value, holds.coerce_toDocument fieldSound nested, holds.required, ?_, fun _ => rfl⟩
      rw [Value.entities_eq_nil nested]
      simp [same]
  | some own =>
      have fits := holds.accepts.fits (by
        rintro rfl
        exact nomatch nested)
      have container := fits.isContainer nested
      obtain ⟨item, element⟩ := fits.exists_element nested
      have emitted := offered.resolve_right (by simp [container])
      have keyed : ∀ keyField collection, field.type = .map item keyField →
          value = .map collection →
          ∀ entry ∈ collection.entries, entry.2.KeyedFor item keyField entry.1 := by
        rintro keyField collection isMap rfl
        exact legible.keyed slot field collection item keyField shows isMap emitted
      obtain ⟨result, coerced, required, made⟩ := holds.exists_coerce_agreeing fieldSound
        sound.here element keyed fun child inside =>
          below item child ⟨slot, field, value, shows, emitted, element, inside⟩
      refine ⟨result, coerced, required, ?_, fun scalar => ?_⟩
      · rcases made with ⟨plain, _⟩ | agrees
        · exact nomatch nested.symm.trans plain
        · rw [agrees, element]
          simp
      · rw [container] at scalar
        contradiction

/-- All slots that a reader sees are taken back at once. -/
theorem SeenBy.exists_targets (seen : entity.SeenBy types reader)
    (legible : entity.Legible reader)
    (below : ∀ item child, entity.ShowsChild reader item child → child.ReadsAs item) :
    ∃ target : Nat → Value, ∀ slot field value, entity.Shows reader slot field value →
      Offered field value → Retakes field value (target slot) := by
  have each : ∀ slot : Nat, ∃ result, ∀ field value, entity.Shows reader slot field value →
      Offered field value → Retakes field value result := by
    intro slot
    by_cases some : ∃ field value, entity.Shows reader slot field value ∧ Offered field value
    · obtain ⟨field, value, shows, offered⟩ := some
      obtain ⟨result, retaken⟩ := seen.exists_retaken legible below shows offered
      refine ⟨result, fun other second again _ => ?_⟩
      obtain ⟨rfl, rfl⟩ := seen.unique shows again
      exact retaken
    · refine ⟨.null, fun field value shows offered => ?_⟩
      exact absurd ⟨field, value, shows, offered⟩ some
  choose target retaken using each
  exact ⟨target, retaken⟩

/-! ## Offering a document -/

/-- The entries offer the reader what is written of the entity, and nothing else. -/
structure Offers (entity : Entity) (reader : EntityType) (entries : Mapping) : Prop where
  assigned : ∀ entry ∈ entries, ∀ slot, reader.slot? entry.1 = some slot → ∃ field value,
    entity.Shows reader slot field value ∧ Offered field value ∧ entry.2 = value.toDocument
  written : ∀ slot field value, entity.Shows reader slot field value →
    field.policy.emits value.toDocument = true → ∃ entry ∈ entries,
      reader.slot? entry.1 = some slot
  left : (entries.filter fun entry => !reader.hasAttribute entry.1) =
    entity.body.filter fun entry => !reader.hasAttribute entry.1

theorem SeenBy.offers_body (seen : entity.SeenBy types reader) :
    entity.Offers reader entity.body where
  assigned entry member slot found := by
    obtain ⟨field, value, shows, emitted, same⟩ := seen.shows_of_mem_body member found
    exact ⟨field, value, shows, .inl emitted, congrArg Prod.snd same⟩
  written slot field value shows emitted :=
    ⟨_, shows.mem_body emitted, EntityType.slot?_name seen.readerSound.distinct shows.placed⟩
  left := rfl

namespace Offers

variable {entries : Mapping} (offers : entity.Offers reader entries)
include offers

theorem mem_body_of_undeclared {entry : String × Document} (member : entry ∈ entries)
    (undeclared : reader.hasAttribute entry.1 = false) : entry ∈ entity.body := by
  have kept : entry ∈ entries.filter fun entry => !reader.hasAttribute entry.1 :=
    List.mem_filter.mpr ⟨member, by rw [undeclared]; rfl⟩
  rw [offers.left] at kept
  exact (List.mem_filter.mp kept).1

theorem wellFormed (seen : entity.SeenBy types reader) {entry : String × Document}
    (member : entry ∈ entries) : entry.2.WellFormed := by
  cases found : reader.slot? entry.1 with
  | some slot =>
      obtain ⟨field, value, shows, _, same⟩ := offers.assigned entry member slot found
      rw [same]
      exact (seen.sound.values value shows.mem_values).toDocument_wellFormed seen.registry
  | none =>
      have undeclared : reader.hasAttribute entry.1 = false := by
        rw [EntityType.hasAttribute, found]
        rfl
      have inBody := offers.mem_body_of_undeclared member undeclared
      exact (seen.sound.body_wellFormed seen.registry).entries entry inBody

theorem captured_eq : reader.captured (EntityType.fieldsOf entries) =
    entity.body.filter fun entry => !reader.hasAttribute entry.1 := by
  rw [← offers.left, EntityType.captured, EntityType.fieldsOf, List.filter_map, List.map_map]
  simp [Function.comp_def, Value.toDocument_ofDocument]

end Offers

/-! ## Filling a reader -/

/-- The reader holds what it took of the entity, and its defaults where it was given nothing. -/
structure Refills (rebuilt entity : Entity) (types : List EntityType) (reader : EntityType) :
    Prop where
  seen : rebuilt.SeenBy types reader
  type : rebuilt.type = reader
  slots : ∀ slot field value second, entity.Shows reader slot field value →
    rebuilt.Shows reader slot field second →
    (Offered field value ∧ Retakes field value second) ∨
      field.policy.emits value.toDocument = false ∧ second = field.default
  captured : ∀ slot field entries, reader.flattenedSlot? = some slot →
    reader.attributes[slot]? = some field → field.default = .dict entries →
    ∀ name, reader.hasAttribute name = false → Entries.find? rebuilt.body name =
      (Entries.find? entity.body name).or (Entries.find? entries name)
  closed : reader.flattenedSlot? = none → ∀ name, reader.hasAttribute name = false →
    Entries.find? rebuilt.body name = none

theorem find?_body_of_undeclared (distinct : entity.type.fieldNames.Nodup) {name : String}
    (undeclared : entity.type.hasAttribute name = false) : Entries.find? entity.body name =
      Entries.find? (entity.type.capturedEntries (entity.values.map Value.toDocument)) name := by
  rw [← filter_body distinct]
  symm
  exact Mapping.find?_filter (fun name => !entity.type.hasAttribute name) (by rw [undeclared]; rfl)

/-- What a flattened catch-all holds under a name that is not declared is found in the body. -/
theorem find?_body_of_flattened (distinct : entity.type.fieldNames.Nodup) {slot : Nat}
    (flattened : entity.type.flattenedSlot? = some slot) {entries : Mapping}
    (stored : entity.values[slot]? = some (.dict entries)) {name : String}
    (undeclared : entity.type.hasAttribute name = false) :
    Entries.find? entity.body name = Entries.find? entries name := by
  have captured : entity.type.capturedEntries (entity.values.map Value.toDocument) =
      entries.filter fun entry => !entity.type.hasAttribute entry.1 := by
    rw [EntityType.capturedEntries, flattened, Option.bind_some, List.getElem?_map, stored]
    rfl
  rw [find?_body_of_undeclared distinct undeclared, captured]
  exact Mapping.find?_filter (fun name => !entity.type.hasAttribute name) (by rw [undeclared]; rfl)

/-- Without a flattened catch-all nothing undeclared is written. -/
theorem find?_body_of_closed (distinct : entity.type.fieldNames.Nodup)
    (closed : entity.type.flattenedSlot? = none) {name : String}
    (undeclared : entity.type.hasAttribute name = false) :
    Entries.find? entity.body name = none := by
  rw [find?_body_of_undeclared distinct undeclared, EntityType.capturedEntries, closed]
  rfl

namespace Offers

variable {entries : Mapping} {target : Nat → Value} {values : List Value}
  (offers : entity.Offers reader entries) (seen : entity.SeenBy types reader)
  (retaken : ∀ slot field value, entity.Shows reader slot field value →
    Offered field value → Retakes field value (target slot))
  (filled : reader.FilledFrom target (EntityType.fieldsOf entries) values)

include offers seen retaken filled

/-- A slot holds what it took, or its default where nothing was written. -/
theorem slot_filled {slot : Nat} {field : Attribute} {value second : Value}
    (shows : entity.Shows reader slot field value) (stored : values[slot]? = some second) :
    (Offered field value ∧ Retakes field value second) ∨
      field.policy.emits value.toDocument = false ∧ second = field.default := by
  rcases filled.slots slot field shows.placed shows.apart with
    ⟨entry, member, found, given⟩ | ⟨missed, given⟩
  · obtain ⟨own, inEntries, rfl⟩ := List.mem_map.mp member
    obtain ⟨other, held, again, offered, _⟩ := offers.assigned own inEntries slot found
    obtain ⟨rfl, rfl⟩ := seen.unique shows again
    obtain rfl := Option.some.inj (given.symm.trans stored)
    exact .inl ⟨offered, retaken slot other held shows offered⟩
  · obtain rfl := Option.some.inj (given.symm.trans stored)
    refine .inr ⟨?_, rfl⟩
    rw [← Bool.not_eq_true]
    intro emitted
    obtain ⟨entry, member, found⟩ := offers.written slot field value shows emitted
    exact missed _ (List.mem_map_of_mem member) found

theorem complete : reader.checkRequired values = .ok () := by
  rw [EntityType.checkRequired_eq_ok_iff]
  rintro ⟨field, second⟩ member required
  obtain ⟨slot, paired⟩ := List.mem_iff_getElem?.mp member
  obtain ⟨placed, stored⟩ := List.getElem?_zip_eq_some.mp paired
  by_cases flattened : reader.flattenedSlot? = some slot
  · obtain ⟨other, standing, otherPlaced, dict⟩ := seen.readerSound.exists_defaultDict flattened
    have merged := filled.captured slot other standing flattened otherPlaced dict
    obtain rfl := Option.some.inj (merged.symm.trans stored)
    exact Value.noConfusion
  · obtain ⟨value, shows, _⟩ := seen.exists_shows placed flattened
    rcases offers.slot_filled seen retaken filled shows stored with ⟨_, retaken⟩ | ⟨unwritten, _⟩
    · exact retaken.required required
    · have fieldSound := seen.readerSound.attributes field (List.mem_of_getElem? placed)
      rw [fieldSound.always required] at unwritten
      contradiction

theorem refills (sound : Entity.SoundThroughout types ⟨reader, values⟩) :
    Refills ⟨reader, values⟩ entity types reader where
  seen := ⟨seen.registry, sound, seen.known, reader.keeps_self⟩
  type := rfl
  slots slot field value second shows again := by
    obtain ⟨place, held⟩ := again.held
    obtain rfl := EntityType.slot_eq_of_field seen.readerSound.distinct held.placed again.placed
    exact offers.slot_filled seen retaken filled shows held.stored
  captured slot field standing flattened placed dict name undeclared := by
    have stored := filled.captured slot field standing flattened placed dict
    have distinct : (Entries.keys (reader.captured (EntityType.fieldsOf entries))).Nodup := by
      rw [offers.captured_eq]
      exact ((seen.sound.body_wellFormed seen.registry).filter _).keys
    rw [find?_body_of_flattened seen.readerSound.distinct flattened stored undeclared,
      Mapping.find?_merge distinct, offers.captured_eq,
      Mapping.find?_filter (fun name => !reader.hasAttribute name) (by rw [undeclared]; rfl)]
  closed closed name undeclared :=
    find?_body_of_closed seen.readerSound.distinct closed undeclared

end Offers

namespace Offers

variable {entries : Mapping} (offers : entity.Offers reader entries)
  (seen : entity.SeenBy types reader) (legible : entity.Legible reader)
  (below : ∀ item child, entity.ShowsChild reader item child → child.ReadsAs item)
include offers seen legible below

/-- A reader that has a place for everything is filled over the defaults of what is not offered. -/
theorem exists_filled {start : List Value} (sized : start.length = reader.attributes.length)
    (default : ∀ (slot : Nat) field, reader.attributes[slot]? = some field →
      (∀ entry ∈ entries, reader.slot? entry.1 ≠ some slot) → start[slot]? = some field.default) :
    ∃ population, (EntityType.fieldsOf entries).foldlM
        (reader.populateField reader.coerceAt .document) ⟨start, []⟩ = .ok population ∧
      reader.checkRequired (reader.captureExtras population) = .ok () ∧
      (Entity.SoundThroughout types ⟨reader, reader.captureExtras population⟩ →
        Refills ⟨reader, reader.captureExtras population⟩ entity types reader) := by
  obtain ⟨target, retaken⟩ := seen.exists_targets legible below
  have flattened : ∀ entry ∈ EntityType.fieldsOf entries, reader.slot? entry.1 = none →
      ∃ slot, reader.flattenedSlot? = some slot := by
    intro entry member absent
    obtain ⟨own, inEntries, rfl⟩ := List.mem_map.mp member
    have undeclared : reader.hasAttribute own.1 = false := by
      rw [EntityType.hasAttribute, absent]
      rfl
    exact legible.added own (offers.mem_body_of_undeclared inEntries undeclared) undeclared
  have assigned : ∀ entry ∈ EntityType.fieldsOf entries, ∀ slot,
      reader.slot? entry.1 = some slot → reader.flattenedSlot? ≠ some slot ∧
        reader.assign reader.coerceAt slot entry.2 = .ok (target slot) := by
    intro entry member slot found
    obtain ⟨own, inEntries, rfl⟩ := List.mem_map.mp member
    obtain ⟨field, value, shows, offered, same⟩ := offers.assigned own inEntries slot found
    have taken := retaken slot field value shows offered
    refine ⟨shows.apart, (EntityType.assign_eq_ok_iff shows.placed).mpr ?_⟩
    rw [same]
    exact ⟨taken.coerced, taken.required⟩
  obtain ⟨population, folded, filled⟩ := EntityType.exists_filled_from seen.readerSound sized
    (fun slot field placed missed => default slot field placed fun entry member =>
      missed _ (List.mem_map_of_mem member)) flattened assigned
  exact ⟨population, folded, offers.complete seen retaken filled,
    offers.refills seen retaken filled⟩

omit legible below in
theorem fields_sound : ∀ entry ∈ EntityType.fieldsOf entries, entry.2.SoundThroughout types := by
  intro entry member
  obtain ⟨own, inEntries, rfl⟩ := List.mem_map.mp member
  exact .ofDocument (offers.wellFormed seen inEntries)

theorem exists_refilled : ∃ rebuilt,
    reader.populate reader.coerceAt .document (EntityType.fieldsOf entries) = .ok rebuilt ∧
      rebuilt.Refills entity types reader := by
  obtain ⟨population, folded, complete, refills⟩ := offers.exists_filled seen legible below
    (List.length_map _) fun _ _ placed _ => EntityType.getElem?_defaults placed
  have populated := EntityType.populate_eq_ok_iff.mpr ⟨population, folded, complete, rfl⟩
  have sound := (EntityType.populate_sound seen.registry seen.known
    (seen.registry.attributes_coerceSoundly seen.known) (offers.fields_sound seen) populated).1
  exact ⟨_, populated, refills sound⟩

/-- A field that comes before what is offered does not matter when its slot is offered as well. -/
theorem exists_refilled_after {name : String} {document : Document} {slot : Nat} {result : Value}
    (located : reader.slot? name = some slot) (formed : document.WellFormed)
    (assigned : reader.assign reader.coerceAt slot (Value.ofDocument document) = .ok result)
    (overridden : ∃ entry ∈ entries, reader.slot? entry.1 = some slot) : ∃ rebuilt,
    reader.populate reader.coerceAt .document
        (EntityType.fieldsOf ((name, document) :: entries)) = .ok rebuilt ∧
      rebuilt.Refills entity types reader := by
  -- Only the slot of the first field is no longer at its default, and it is filled once more.
  have default : ∀ (own : Nat) field, reader.attributes[own]? = some field →
      (∀ entry ∈ entries, reader.slot? entry.1 ≠ some own) →
      (reader.defaults.set slot result)[own]? = some field.default := by
    intro own field placed missed
    obtain ⟨entry, member, found⟩ := overridden
    have differs : slot ≠ own := by
      rintro rfl
      exact missed entry member found
    rw [List.getElem?_set_ne differs]
    exact EntityType.getElem?_defaults placed
  have sized : (reader.defaults.set slot result).length = reader.attributes.length :=
    List.length_set.trans (List.length_map _)
  obtain ⟨population, folded, complete, refills⟩ :=
    offers.exists_filled seen legible below sized default
  have first := EntityType.populateField_of_assigned .document ⟨reader.defaults, []⟩
    (show reader.slot? (name, Value.ofDocument document).1 = some slot from located) assigned
  have whole : (EntityType.fieldsOf ((name, document) :: entries)).foldlM
      (reader.populateField reader.coerceAt .document) ⟨reader.defaults, []⟩ =
        .ok population := by
    rw [EntityType.fieldsOf, List.map_cons, List.foldlM_cons, first, Success.bind_ok]
    exact folded
  have populated := EntityType.populate_eq_ok_iff.mpr ⟨population, whole, complete, rfl⟩
  have given : ∀ entry ∈ EntityType.fieldsOf ((name, document) :: entries),
      entry.2.SoundThroughout types := by
    rw [EntityType.fieldsOf, List.map_cons, List.forall_mem_cons]
    exact ⟨.ofDocument formed, offers.fields_sound seen⟩
  have sound := (EntityType.populate_sound seen.registry seen.known
    (seen.registry.attributes_coerceSoundly seen.known) given populated).1
  exact ⟨_, populated, refills sound⟩

end Offers

/-! ## Coming back -/

namespace Refills

variable (refills : rebuilt.Refills entity types reader) (seen : entity.SeenBy types reader)
include refills seen

/-- A slot is written alike where what is inside comes back and no default is made up. -/
theorem slot_alike_iff {slot : Nat} {field : Attribute} {value second : Value}
    (shows : entity.Shows reader slot field value)
    (again : rebuilt.Shows reader slot field second) :
    HeldAlike (field.written second) (field.written value) ↔
      (field.policy.emits value.toDocument = true → ∀ item, field.type.item? = some item →
        ∀ child ∈ value.entities, child.RestoredThroughout item) ∧
      (field.policy = .present → field.type.isContainer = true → value.isPresent = false →
        field.default.isPresent = false) := by
  have accepts := (seen.holds shows).accepts
  -- A slot that was written holds what it took, and any other slot a scalar or its default.
  cases emitted : field.policy.emits value.toDocument with
  | true =>
      have restorable : field.policy = .present → field.type.isContainer = true →
          value.isPresent = false → field.default.isPresent = false := by
        intro policy _ absent
        rw [policy] at emitted
        exact nomatch emitted.symm.trans absent
      rcases refills.slots slot field value second shows again with
        ⟨_, retaken⟩ | ⟨unwritten, _⟩
      · rw [field.written_alike_iff emitted, retaken.agrees, and_iff_left restorable]
        exact ⟨fun each _ => each, fun each => each rfl⟩
      · exact nomatch emitted.symm.trans unwritten
  | false =>
      rw [field.written_of_unwritten emitted, field.written_alike_none_iff, and_iff_right nofun]
      rcases refills.slots slot field value second shows again with
        ⟨offered, retaken⟩ | ⟨_, rfl⟩
      · have scalar := offered.resolve_left (by simp [emitted])
        simp [retaken.scalar scalar, emitted, scalar]
      · exact accepts.default_unwritten_iff emitted

/-- Scalars always come back. -/
theorem scalar_alike {slot : Nat} {field : Attribute} {value second : Value}
    (shows : entity.Shows reader slot field value)
    (again : rebuilt.Shows reader slot field second) (scalar : field.type.isContainer = false) :
    HeldAlike (field.written second) (field.written value) := by
  rw [refills.slot_alike_iff seen shows again]
  constructor
  · intro _ item element
    rw [AttributeType.isContainer_of_item? element] at scalar
    contradiction
  · intro _ container
    rw [scalar] at container
    contradiction

/-- What is not declared comes back where the defaults of the catch-all add no further keys. -/
theorem undeclared_alike_iff (legible : entity.Legible reader) :
    (∀ name, reader.hasAttribute name = false →
      HeldAlike (Entries.find? rebuilt.body name) (Entries.find? entity.body name)) ↔
    ∀ slot field entries, reader.flattenedSlot? = some slot →
      reader.attributes[slot]? = some field → field.default = .dict entries →
      ∀ key ∈ Entries.keys entries, reader.hasAttribute key = false →
        key ∈ Entries.keys entity.body := by
  have formed := seen.sound.body_wellFormed seen.registry
  constructor
  · intro alike slot field entries flattened placed dict key member undeclared
    have held := alike key undeclared
    rw [refills.captured slot field entries flattened placed dict key undeclared] at held
    rw [← Entries.find?_isSome_iff, ← held.isSome_iff, Option.isSome_or,
      Entries.find?_isSome_iff.mpr member, Bool.or_true]
  · intro captured name undeclared
    cases flattened : reader.flattenedSlot? with
    | none =>
        have missing : Entries.find? entity.body name = none := by
          rw [Option.eq_none_iff_forall_ne_some]
          intro document found
          obtain ⟨slot, located⟩ :=
            legible.added (name, document) (Entries.mem_of_find? found) undeclared
          exact nomatch flattened.symm.trans located
        rw [refills.closed flattened name undeclared, missing]
        exact .none
    | some slot =>
        obtain ⟨field, entries, placed, dict⟩ := seen.readerSound.exists_defaultDict flattened
        rw [refills.captured slot field entries flattened placed dict name undeclared]
        cases found : Entries.find? entity.body name with
        | some document =>
            exact .some (formed.entries _ (Entries.mem_of_find? found)).agrees_refl
        | none =>
            have fresh : Entries.find? entries name = none := by
              rw [Entries.find?_eq_none_iff] at found ⊢
              intro member
              exact found (captured slot field entries flattened placed dict name member undeclared)
            rw [fresh]
            exact .none

/-- The body comes back exactly where nothing is made up at any depth. -/
theorem body_agrees_iff (legible : entity.Legible reader) :
    (Document.mapping rebuilt.body).agrees (.mapping entity.body) = true ↔
      entity.RestoredThroughout reader := by
  rw [refills.seen.body_agrees_iff seen, refills.undeclared_alike_iff seen legible,
    restoredThroughout_iff]
  constructor
  · rintro ⟨slots, captured⟩
    have alike {slot : Nat} {field : Attribute} {value : Value}
        (shows : entity.Shows reader slot field value) :=
      have ⟨second, again, _⟩ := refills.seen.exists_shows shows.placed shows.apart
      (refills.slot_alike_iff seen shows again).mp (slots slot field second value again shows)
    refine ⟨⟨fun slot field value shows => (alike shows).2, captured⟩, ?_⟩
    rintro item child ⟨slot, field, value, shows, emitted, element, inside⟩
    exact (alike shows).1 emitted item element child inside
  · rintro ⟨here, below⟩
    refine ⟨fun slot field second value again shows => ?_, here.captured⟩
    rw [refills.slot_alike_iff seen shows again]
    refine ⟨fun emitted item element child inside => ?_, here.absent slot field value shows⟩
    exact below item child ⟨slot, field, value, shows, emitted, element, inside⟩

end Refills

end Entity

end NetworkAutomation
