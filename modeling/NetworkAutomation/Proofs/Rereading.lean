/-
This file proves that a reader reads the document of an entity again, at any depth and under keys.
-/

import NetworkAutomation.Proofs.Refilling

namespace NetworkAutomation

/-! ## Envelopes -/

namespace EntityType

theorem Keeps.wrap_eq {type reader : EntityType} (keeps : type.Keeps reader) (body : Mapping) :
    type.wrap body = reader.wrap body := by
  rw [wrap, wrap, keeps.envelope]

theorem wrap_agrees_iff (type : EntityType) {left right : Mapping} :
    (Document.mapping (type.wrap left)).agrees (.mapping (type.wrap right)) = true ↔
      (Document.mapping left).agrees (.mapping right) = true := by
  unfold wrap
  split
  next root _ =>
    have same : Entries.keys [(root, Document.mapping left)] =
        Entries.keys [(root, Document.mapping right)] := rfl
    have alone : (Entries.keys [(root, Document.mapping left)]).Nodup := List.nodup_singleton root
    rw [Document.mapping_agrees_iff_forall₂ same alone]
    simp
  next => rfl

/-- A name beside the root is not touched by the envelope. -/
theorem without_wrap {type : EntityType} {root name : String} (envelope : type.envelope = some root)
    (differs : root ≠ name) (body : Mapping) :
    Mapping.without (type.wrap body) name = type.wrap body := by
  rw [wrap, envelope]
  simp [Mapping.without, differs]

/-- An open type reads what stands beside its envelope before the body. -/
theorem unwrap_beside {type : EntityType} {root name : String}
    (envelope : type.envelope = some root) (differs : root ≠ name) (isOpen : type.isOpen = true)
    (body : Mapping) (document : Document) :
    type.unwrap (type.wrap body ++ [(name, document)]) =
      .ok (fieldsOf ((name, document) :: body)) := by
  have wrapped : type.wrap body = [(root, .mapping body)] := by
    rw [wrap, envelope]
  have found : Mapping.lookup? [(root, .mapping body), (name, document)] root =
      some (.mapping body) := by
    simp [Mapping.lookup?]
  have outside : Mapping.without [(root, .mapping body), (name, document)] root =
      [(name, document)] := by
    simp [Mapping.without, differs.symm]
  rw [wrapped, List.singleton_append, unwrap_eq_ok_iff]
  refine .inr ⟨root, body, envelope, found, fun _ => isOpen, ?_⟩
  rw [outside]
  rfl

end EntityType

namespace Entity

variable {types : List EntityType} {entity other rebuilt : Entity} {reader : EntityType}

theorem Refills.serialize_eq (refills : rebuilt.Refills entity types reader) :
    rebuilt.serialize = reader.wrap rebuilt.body := by
  rw [serialize_eq_wrap, refills.type]

theorem SeenBy.serialize_eq (seen : entity.SeenBy types reader) :
    entity.serialize = reader.wrap entity.body := by
  rw [serialize_eq_wrap, seen.keeps.wrap_eq]

/-- The document of an entity is read again by a type that has a place for everything in it. -/
theorem SeenBy.exists_read (seen : entity.SeenBy types reader) (legible : entity.Legible reader)
    (below : ∀ item child, entity.ShowsChild reader item child → child.ReadsAs item) :
    ∃ rebuilt, reader.read entity.serialize = .ok rebuilt ∧
      (rebuilt.toDocument.agrees entity.toDocument = true ↔ entity.RestoredThroughout reader) := by
  obtain ⟨rebuilt, populated, refills⟩ := seen.offers_body.exists_refilled seen legible below
  refine ⟨rebuilt, ?_, ?_⟩
  · rw [EntityType.read_eq, seen.serialize_eq, EntityType.unwrap_wrap]
    exact populated
  · rw [Entity.toDocument, Entity.toDocument, seen.serialize_eq, refills.serialize_eq,
      EntityType.wrap_agrees_iff]
    exact refills.body_agrees_iff seen legible

/-! ## Elements under keys -/

/-- For the reader the two entities differ in scalars only. -/
structure AlikeBesideScalars (entity other : Entity) (reader : EntityType) : Prop where
  containers : ∀ slot field value, field.type.isContainer = true →
    (other.Shows reader slot field value ↔ entity.Shows reader slot field value)
  undeclared : ∀ entry, reader.hasAttribute entry.1 = false →
    (entry ∈ other.body ↔ entry ∈ entity.body)

namespace AlikeBesideScalars

variable (alike : entity.AlikeBesideScalars other reader)
include alike

theorem symm : other.AlikeBesideScalars entity reader where
  containers slot field value container := (alike.containers slot field value container).symm
  undeclared entry undeclared := (alike.undeclared entry undeclared).symm

theorem showsChild {item : EntityType} {child : Entity}
    (shown : other.ShowsChild reader item child) : entity.ShowsChild reader item child := by
  obtain ⟨slot, field, value, shows, emitted, element, inside⟩ := shown
  have container := AttributeType.isContainer_of_item? element
  exact ⟨slot, field, value, (alike.containers slot field value container).mp shows, emitted,
    element, inside⟩

theorem legible (legible : entity.Legible reader) (sameType : other.type = entity.type) :
    other.Legible reader where
  keeps := sameType ▸ legible.keeps
  added entry member undeclared :=
    legible.added entry ((alike.undeclared entry undeclared).mp member) undeclared
  keyed slot field collection item keyField shows isMap := by
    have container : field.type.isContainer = true := by
      rw [isMap]
      rfl
    exact legible.keyed slot field collection item keyField
      ((alike.containers slot field _ container).mp shows) isMap

theorem restoredBy (restored : entity.RestoredBy reader) : other.RestoredBy reader where
  absent slot field value shows policy container :=
    restored.absent slot field value ((alike.containers slot field value container).mp shows)
      policy container
  captured slot field entries flattened placed dict key member undeclared := by
    obtain ⟨entry, inBody, rfl⟩ := List.mem_map.mp
      (restored.captured slot field entries flattened placed dict key member undeclared)
    exact Entries.mem_keys_of_mem ((alike.undeclared entry undeclared).mpr inBody)

theorem restoredThroughout (restored : entity.RestoredThroughout reader) :
    other.RestoredThroughout reader := by
  obtain ⟨here, below⟩ := restoredThroughout_iff.mp restored
  apply restoredThroughout_iff.mpr
  constructor
  · exact alike.restoredBy here
  · intro item child shown
    exact below item child (alike.showsChild shown)

theorem restoredThroughout_iff :
    other.RestoredThroughout reader ↔ entity.RestoredThroughout reader :=
  ⟨alike.symm.restoredThroughout, alike.restoredThroughout⟩

end AlikeBesideScalars

/-- What is stored under a name of the reader is what the reader shows there. -/
theorem SeenBy.shows_of_stores (seen : entity.SeenBy types reader) {name : String} {slot : Nat}
    {field : Attribute} (located : reader.slot? name = some slot)
    (placed : reader.attributes[slot]? = some field) (apart : reader.flattenedSlot? ≠ some slot)
    {value : Value} (stores : entity.Stores name value) : entity.Shows reader slot field value := by
  obtain ⟨place, found, stored⟩ := stores
  have kept := seen.keeps.fields name field
    (EntityType.field?_eq_some_iff.mpr ⟨slot, located, placed⟩)
  obtain ⟨own, ownFound, held⟩ := EntityType.field?_eq_some_iff.mp kept
  obtain rfl := Option.some.inj (found.symm.trans ownFound)
  refine ⟨placed, apart, place, held, stored, fun flattened => apart ?_⟩
  exact (seen.flattened_iff placed held).mp flattened

/-- The key stands in a text slot of the reader, under the name of the field or an alias. -/
structure ShowsKey (entity : Entity) (reader : EntityType) (keyField key : String) (slot : Nat)
    (field : Attribute) : Prop where
  located : reader.slot? keyField = some slot
  shows : entity.Shows reader slot field (.text key)
  text : field.type = .text

namespace ShowsKey

variable {keyField key : String} {slot : Nat} {field : Attribute}
  (shown : entity.ShowsKey reader keyField key slot field)
include shown

theorem declared : reader.hasAttribute keyField = true :=
  EntityType.hasAttribute_iff.mpr ⟨slot, shown.located⟩

theorem scalar : field.type.isContainer = false := by
  rw [shown.text]
  rfl

/-- The key may be given beside the rest of the body. -/
theorem offers (seen : entity.SeenBy types reader) {entries : Mapping}
    (inside : ∀ entry ∈ entries, entry ∈ entity.body ∨ entry = (keyField, .text key))
    (given : (keyField, .text key) ∈ entries)
    (others : ∀ entry ∈ entity.body, entry.1 ≠ keyField → entry ∈ entries)
    (left : (entries.filter fun entry => !reader.hasAttribute entry.1) =
      entity.body.filter fun entry => !reader.hasAttribute entry.1) :
    entity.Offers reader entries where
  assigned entry member place found := by
    rcases inside entry member with inBody | rfl
    · exact seen.offers_body.assigned entry inBody place found
    · obtain rfl := Option.some.inj (found.symm.trans shown.located)
      exact ⟨field, .text key, shown.shows, .inr shown.scalar, rfl⟩
  written place own value shows emitted := by
    by_cases same : place = slot
    · subst same
      exact ⟨_, given, shown.located⟩
    · have ownLocated := EntityType.slot?_name seen.readerSound.distinct shows.placed
      have apart : own.name ≠ keyField := by
        intro named
        rw [named, shown.located] at ownLocated
        exact same (Option.some.inj ownLocated).symm
      exact ⟨_, others _ (shows.mem_body emitted) apart, ownLocated⟩
  left := left

/-- The key comes back under its own name, and under an alias nothing stands. -/
theorem key_alike (seen : entity.SeenBy types reader)
    (refills : rebuilt.Refills entity types reader) :
    HeldAlike (Entries.find? rebuilt.body keyField) (Entries.find? entity.body keyField) := by
  obtain ⟨second, again, _⟩ := refills.seen.exists_shows shown.shows.placed shown.shows.apart
  by_cases named : field.name = keyField
  · rw [← named, refills.seen.find?_body_name again, seen.find?_body_name shown.shows]
    exact refills.scalar_alike seen shown.shows again shown.scalar
  · have hidden {owner : Entity} : ∀ place own value,
        owner.Shows reader place own value → own.name ≠ keyField := by
      intro place own value shows same
      have ownLocated := EntityType.slot?_name seen.readerSound.distinct shows.placed
      rw [same, shown.located] at ownLocated
      obtain rfl := Option.some.inj ownLocated
      obtain rfl := Option.some.inj (shows.placed.symm.trans shown.shows.placed)
      exact named same
    rw [refills.seen.find?_body_eq_none shown.declared hidden,
      seen.find?_body_eq_none shown.declared hidden]
    exact .none

/-- Without an envelope the key is put at the end of the body. -/
theorem offers_last (seen : entity.SeenBy types reader) :
    entity.Offers reader (entity.body.without keyField ++ [(keyField, .text key)]) := by
  apply shown.offers seen
  · intro entry member
    rcases List.mem_append.mp member with kept | last
    · exact .inl (Mapping.mem_without.mp kept).1
    · exact .inr (List.mem_singleton.mp last)
  · exact List.mem_append_right _ (List.mem_singleton.mpr rfl)
  · intro entry inBody apart
    exact List.mem_append_left _ (Mapping.mem_without.mpr ⟨inBody, apart⟩)
  · have last : [(keyField, Document.text key)].filter
        (fun entry => !reader.hasAttribute entry.1) = [] := by
      simp [shown.declared]
    rw [List.filter_append, last, List.append_nil]
    exact Mapping.filter_without (fun name => !reader.hasAttribute name) (by simp [shown.declared])

/-- Beside an envelope the key is read before the body. -/
theorem offers_first (seen : entity.SeenBy types reader) :
    entity.Offers reader ((keyField, .text key) :: entity.body) := by
  apply shown.offers seen
  · intro entry member
    rcases List.mem_cons.mp member with first | inBody
    · exact .inr first
    · exact .inl inBody
  · exact List.mem_cons_self
  · intro entry inBody _
    exact List.mem_cons_of_mem _ inBody
  · exact List.filter_cons_of_neg (by simp [shown.declared])

/-- An element that holds its key is read again with the key put back. -/
theorem readsUnder_bare (seen : entity.SeenBy types reader) (legible : entity.Legible reader)
    (below : ∀ item child, entity.ShowsChild reader item child → child.ReadsAs item)
    (bare : reader.envelope = none) : entity.ReadsUnder reader keyField key := by
  have unwrapped (body : Mapping) : reader.wrap body = body := by
    rw [EntityType.wrap, bare]
  have serialized : entity.serialize = entity.body := by
    rw [seen.serialize_eq, unwrapped]
  obtain ⟨rebuilt, populated, refills⟩ :=
    (shown.offers_last seen).exists_refilled seen legible below
  refine ⟨rebuilt, ?_, ?_⟩
  · rw [serialized, Mapping.insert_eq_put,
      Entries.put_of_absent (Mapping.key_not_mem_without entity.body keyField), EntityType.read_eq,
      Success.bind_eq_ok]
    exact ⟨_, EntityType.unwrap_eq_ok_iff.mpr (.inl ⟨bare, rfl⟩), populated⟩
  · rw [refills.serialize_eq, unwrapped, serialized, ← refills.body_agrees_iff seen legible]
    exact Document.without_agrees_iff refills.seen.bodyDistinct seen.bodyDistinct
      (shown.key_alike seen refills)

end ShowsKey

/-- Exchanging what stands in a text slot of the reader does not change anything else for it. -/
theorem alikeBesideScalars_withValue {place slot : Nat} {field : Attribute} {keyField : String}
    (placed : entity.type.attributes[place]? = some field)
    (apart : entity.type.flattenedSlot? ≠ some place) (text : field.type = .text)
    (located : reader.slot? keyField = some slot) (named : field.name = keyField)
    (value : Value) : entity.AlikeBesideScalars (entity.withValue place value) reader where
  containers slot other held container := by
    have slots (own : Nat) : (entity.withValue place value).Slot own other held ↔
        entity.Slot own other held := by
      by_cases same : place = own
      · subst same
        have impossible : entity.type.attributes[place]? ≠ some other := by
          intro otherPlaced
          obtain rfl := Option.some.inj (placed.symm.trans otherPlaced)
          rw [text] at container
          contradiction
        exact ⟨fun changed => absurd changed.placed impossible,
          fun former => absurd former.placed impossible⟩
      · have kept : (entity.withValue place value).values[own]? = entity.values[own]? := by
          rw [withValue_values, List.getElem?_set_ne same]
        exact ⟨fun changed => ⟨changed.placed, kept ▸ changed.stored, changed.apart⟩,
          fun former => ⟨former.placed, kept.symm ▸ former.stored, former.apart⟩⟩
    constructor
    · rintro ⟨readerPlaced, readerApart, own, changed⟩
      exact ⟨readerPlaced, readerApart, own, (slots own).mp changed⟩
    · rintro ⟨readerPlaced, readerApart, own, former⟩
      exact ⟨readerPlaced, readerApart, own, (slots own).mpr former⟩
  undeclared entry undeclared := by
    have differs : entry.1 ≠ field.name := by
      intro same
      rw [same, named, EntityType.hasAttribute_iff.mpr ⟨slot, located⟩] at undeclared
      contradiction
    have others := withValue_body_without placed apart value
    constructor
    · intro member
      have kept := Mapping.mem_without.mpr ⟨member, differs⟩
      rw [others] at kept
      exact (Mapping.mem_without.mp kept).1
    · intro member
      have kept := Mapping.mem_without.mpr ⟨member, differs⟩
      rw [← others] at kept
      exact (Mapping.mem_without.mp kept).1

/-- An element is read again under any key that the field of this name accepts. -/
theorem SeenBy.readsUnder_rekeyed (seen : entity.SeenBy types reader)
    (legible : entity.Legible reader)
    (below : ∀ item child, entity.ShowsChild reader item child → child.ReadsAs item)
    {keyField key : String} (bare : reader.envelope = none) (own : keyField ∈ reader.fieldNames)
    (text : reader.checkKeyField keyField = .ok ())
    (accepts : entity.type.AcceptsKey keyField key) : entity.ReadsUnder reader keyField key := by
  obtain ⟨slot, field, located, placed, isText⟩ := EntityType.checkKeyField_eq_ok_iff.mp text
  have readerApart := seen.readerSound.flattenedSlot?_ne_of_text placed isText
  have declared := seen.keeps.mem_fieldNames seen.readerSound.distinct own
  obtain ⟨place, keyAttribute, keyPlaced, rfl, apart, holds⟩ :=
    exists_keySlot seen.typeSound declared accepts
  -- The element may hold another text, so it is read as the element with its key set.
  have keyText := (holds.accepts.fits Value.noConfusion).eq_text
  have textSound : Value.SoundThroughout types (.text key) := .ofDocument (.text key)
  have rekeyed : (entity.withValue place (.text key)).SeenBy types reader :=
    ⟨seen.registry, seen.sound.withValue keyPlaced textSound holds, seen.known, seen.keeps⟩
  have alike : entity.AlikeBesideScalars (entity.withValue place (.text key)) reader :=
    alikeBesideScalars_withValue keyPlaced apart keyText located rfl (.text key)
  have inRange : place < entity.values.length := by
    rw [← seen.sound.here.slots.length_eq]
    exact (List.getElem?_eq_some_iff.mp keyPlaced).1
  have stores : (entity.withValue place (.text key)).Stores keyAttribute.name (.text key) :=
    ⟨place, EntityType.slot?_name seen.typeSound.distinct keyPlaced, List.getElem?_set_self inRange⟩
  have shown : (entity.withValue place (.text key)).ShowsKey reader keyAttribute.name key slot
      field :=
    ⟨located, rekeyed.shows_of_stores located placed readerApart stores, isText⟩
  obtain ⟨rebuilt, taken, agrees⟩ := shown.readsUnder_bare rekeyed (alike.legible legible rfl)
    (fun item child shownChild => below item child (alike.showsChild shownChild)) bare
  -- Apart from the key, which is taken out anyway, both documents are the same.
  have same : Mapping.without (entity.withValue place (.text key)).serialize keyAttribute.name =
      Mapping.without entity.serialize keyAttribute.name := by
    rw [rekeyed.serialize_eq, seen.serialize_eq, EntityType.wrap, EntityType.wrap, bare]
    exact withValue_body_without keyPlaced apart (.text key)
  rw [same] at taken
  rw [alike.restoredThroughout_iff] at agrees
  refine ⟨rebuilt, taken, Iff.trans (Eq.to_iff ?_) agrees⟩
  exact congrArg (fun rest => (KeyedCollection.entryDocument keyAttribute.name
    rebuilt.serialize).agrees (.mapping rest) = true) same.symm

/-! ## Keys beside envelopes -/

/-- The key beside an envelope does not change what is written inside it. -/
theorem SeenBy.readsUnder_of_refilled (seen : entity.SeenBy types reader)
    (legible : entity.Legible reader) {root keyField key : String}
    (envelope : reader.envelope = some root) (differs : root ≠ keyField)
    (isOpen : reader.isOpen = true)
    (refilled : ∃ rebuilt, reader.populate reader.coerceAt .document
        (EntityType.fieldsOf ((keyField, .text key) :: entity.body)) = .ok rebuilt ∧
      rebuilt.Refills entity types reader) : entity.ReadsUnder reader keyField key := by
  obtain ⟨rebuilt, populated, refills⟩ := refilled
  have kept := EntityType.without_wrap envelope differs
  have absent := Mapping.key_not_mem_without entity.serialize keyField
  refine ⟨rebuilt, ?_, ?_⟩
  · rw [Mapping.insert_eq_put, Entries.put_of_absent absent, seen.serialize_eq, kept,
      EntityType.read_eq, EntityType.unwrap_beside envelope differs isOpen, Success.bind_ok]
    exact populated
  · change (Document.mapping (Mapping.without rebuilt.serialize keyField)).agrees
      (.mapping (Mapping.without entity.serialize keyField)) = true ↔ _
    rw [refills.serialize_eq, seen.serialize_eq, kept, kept, EntityType.wrap_agrees_iff]
    exact refills.body_agrees_iff seen legible

/-- What the element writes under its key field comes after the key, and takes its place. -/
theorem SeenBy.exists_refilled_written (seen : entity.SeenBy types reader)
    (legible : entity.Legible reader)
    (below : ∀ item child, entity.ShowsChild reader item child → child.ReadsAs item)
    {keyField key : String} (text : reader.checkKeyField keyField = .ok ())
    (accepts : entity.type.AcceptsKey keyField key) (writes : entity.Writes reader keyField) :
    ∃ rebuilt, reader.populate reader.coerceAt .document
        (EntityType.fieldsOf ((keyField, .text key) :: entity.body)) = .ok rebuilt ∧
      rebuilt.Refills entity types reader := by
  obtain ⟨slot, field, located, placed, isText⟩ := EntityType.checkKeyField_eq_ok_iff.mp text
  obtain ⟨place, own, value, shows, ownLocated, emitted⟩ := writes
  obtain rfl := Option.some.inj (ownLocated.symm.trans located)
  obtain ⟨kind, accepted, found, kindPlaced, _, judged⟩ := accepts
  have kept := seen.keeps.fields keyField field
    (EntityType.field?_eq_some_iff.mpr ⟨place, located, placed⟩)
  have same := EntityType.field?_eq_some_iff.mpr ⟨kind, found, kindPlaced⟩
  obtain rfl := Option.some.inj (kept.symm.trans same)
  have coerced : field.coerce (.text key) = .ok (.text key) := by
    rw [field.coerce_eq_ok_iff Value.noConfusion, isText]
    exact ⟨rfl, judged⟩
  apply seen.offers_body.exists_refilled_after seen legible below located (.text key)
  · exact (EntityType.assign_eq_ok_iff placed).mpr ⟨coerced, fun _ => Value.noConfusion⟩
  · exact ⟨_, shows.mem_body emitted,
      EntityType.slot?_name seen.readerSound.distinct shows.placed⟩

/-! ## At any depth -/

theorem SeenBy.readsUnder (seen : entity.SeenBy types reader) (legible : entity.Legible reader)
    (below : ∀ item child, entity.ShowsChild reader item child → child.ReadsAs item)
    {keyField key : String} (text : reader.checkKeyField keyField = .ok ())
    (accepts : entity.type.AcceptsKey keyField key) (keyed : entity.KeyedFor reader keyField key) :
    entity.ReadsUnder reader keyField key := by
  have shown (holds : entity.getText keyField = .ok (some key)) :
      ∃ slot field, entity.ShowsKey reader keyField key slot field := by
    obtain ⟨slot, field, located, placed, isText⟩ := EntityType.checkKeyField_eq_ok_iff.mp text
    have apart := seen.readerSound.flattenedSlot?_ne_of_text placed isText
    have stores := getText_eq_ok_some_iff.mp holds
    exact ⟨slot, field, located, seen.shows_of_stores located placed apart stores, isText⟩
  unfold KeyedFor at keyed
  split at keyed
  next bare =>
    rcases keyed with own | holds
    · exact seen.readsUnder_rekeyed legible below bare own text accepts
    · obtain ⟨slot, field, shown⟩ := shown holds
      exact shown.readsUnder_bare seen legible below bare
  next root envelope =>
    obtain ⟨differs, isOpen, keyed⟩ := keyed
    apply seen.readsUnder_of_refilled legible envelope differs isOpen
    rcases keyed with holds | writes
    · obtain ⟨slot, field, shown⟩ := shown holds
      exact (shown.offers_first seen).exists_refilled seen legible below
    · exact seen.exists_refilled_written legible below text accepts writes

/-- Every document is read again by a type that has a place for everything in it at any depth. -/
theorem readsAs (registry : Registry types) (sound : entity.SoundThroughout types)
    (known : reader ∈ types) (legible : entity.LegibleThroughout reader) :
    entity.ReadsAs reader := by
  induction entity using Entity.childInduction generalizing reader with
  | step entity inductionHypothesis =>
      -- Each child has the element type of its slot for a reader, so the reader is generalized.
      obtain ⟨here, inside⟩ := legibleThroughout_iff.mp legible
      have seen : entity.SeenBy types reader := ⟨registry, sound, known, here.keeps⟩
      have below : ∀ item child, entity.ShowsChild reader item child → child.ReadsAs item := by
        intro item child shown
        have ⟨slot, field, value, shows, _, element, inValue⟩ := shown
        have fieldSound := seen.readerSound.attributes field (List.mem_of_getElem? shows.placed)
        apply inductionHypothesis child
        · exact mem_children.mpr ⟨value, shows.mem_values, inValue⟩
        · exact (sound.values value shows.mem_values).below child inValue
        · exact fieldSound.item item element
        · exact inside item child shown
      constructor
      · exact seen.exists_read here below
      · intro keyField key
        exact seen.readsUnder here below

end Entity

end NetworkAutomation
