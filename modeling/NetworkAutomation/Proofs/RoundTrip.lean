/-
This file proves that a document that was written of an entity is read as one that is written alike.
-/

import NetworkAutomation.Proofs.Inventories
import NetworkAutomation.Proofs.Preservation
import NetworkAutomation.Proofs.ReadingBack

namespace NetworkAutomation

section Sound

variable {types : List EntityType}

/-- What is written of a slot is coerced to a value that is written alike. -/
theorem Attribute.Holds.exists_coerce_alike {field : Attribute} {value : Value}
    (holds : field.Holds value) (fieldSound : field.Sound types) (sound : value.Sound types)
    (keyed : ∀ item key, field.type = .map item key → key ∈ item.fieldNames ∧ item.envelope = none)
    (exact : ∀ item, field.type.item? = some item → ∀ child ∈ value.entities, child.type = item)
    (below : ∀ child ∈ value.entities, child.ReadsBack) :
    ∃ result, field.coerce (Value.ofDocument value.toDocument) = .ok result ∧
      (field.required = true → result ≠ .null) ∧ result.toDocument = value.toDocument := by
  have made := holds.exists_coerce fieldSound
    (fun child rebuilt => rebuilt.toDocument = child.toDocument)
    (fun keyField entry rebuilt => KeyedCollection.entryDocument keyField rebuilt.serialize =
      KeyedCollection.entryDocument keyField entry.2.serialize) ?_ ?_
  · obtain ⟨result, coerced, required, made⟩ := made
    refine ⟨result, coerced, required, ?_⟩
    rcases made with ⟨_, rfl⟩ | into
    · rfl
    · exact into.toDocument_eq (fun _ _ same => same) fun _ _ _ same => same
  · intro _ item element child inside
    obtain ⟨rebuilt, taken, same⟩ := (below child inside).plain
    rw [exact item element child inside] at taken
    exact ⟨rebuilt, taken, congrArg Document.mapping same⟩
  · rintro item collection isMap rfl entry member
    obtain ⟨declared, bare⟩ := keyed item collection.keyField isMap
    have inside : entry.2 ∈ (Value.map collection).entities := List.mem_map_of_mem member
    have sameType := exact item (by rw [isMap]; rfl) entry.2 inside
    rw [← sameType] at declared bare
    obtain ⟨rebuilt, taken, same⟩ := (below entry.2 inside).keyed collection.keyField entry.1
      declared bare (KeyedCollection.Sound.keys sound entry member)
    rw [sameType] at taken
    exact ⟨rebuilt, taken, congrArg Document.mapping same⟩

/-! ## Entities -/

namespace Entity

/-- The entries of the document inside the envelope. -/
def body (entity : Entity) : Mapping :=
  EntityType.declaredEntries entity.type.flattenedSlot? 0 entity.type.attributes
      (entity.values.map Value.toDocument) ++
    entity.type.capturedEntries (entity.values.map Value.toDocument)

theorem serialize_eq_wrap (entity : Entity) :
    entity.serialize = entity.type.wrap entity.body := by
  rw [serialize_eq]
  rfl

/-- A slot of the entity apart from a flattened catch-all, with what stands in it. -/
structure Slot (entity : Entity) (slot : Nat) (field : Attribute) (value : Value) : Prop where
  placed : entity.type.attributes[slot]? = some field
  stored : entity.values[slot]? = some value
  apart : entity.type.flattenedSlot? ≠ some slot

variable {entity : Entity}

theorem mem_declared_iff {entry : String × Document} :
    entry ∈ EntityType.declaredEntries entity.type.flattenedSlot? 0 entity.type.attributes
      (entity.values.map Value.toDocument) ↔
      ∃ slot field value, entity.Slot slot field value ∧
        field.policy.emits value.toDocument = true ∧ entry = (field.name, value.toDocument) := by
  rw [EntityType.mem_declaredEntries]
  constructor
  · rintro ⟨slot, field, document, placed, written, apart, emitted, rfl⟩
    rw [List.getElem?_map] at written
    obtain ⟨value, stored, rfl⟩ := Option.map_eq_some_iff.mp written
    rw [Nat.zero_add] at apart
    exact ⟨slot, field, value, ⟨placed, stored, apart⟩, emitted, rfl⟩
  · rintro ⟨slot, field, value, own, emitted, rfl⟩
    refine ⟨slot, field, value.toDocument, own.placed, ?_, ?_, emitted, rfl⟩
    · rw [List.getElem?_map, own.stored, Option.map_some]
    · rw [Nat.zero_add]
      exact own.apart

theorem mem_body_iff {entry : String × Document} :
    entry ∈ entity.body ↔
      (∃ slot field value, entity.Slot slot field value ∧
        field.policy.emits value.toDocument = true ∧ entry = (field.name, value.toDocument)) ∨
      entry ∈ entity.type.capturedEntries (entity.values.map Value.toDocument) := by
  rw [body, List.mem_append, mem_declared_iff]

/-- The names that are not declared are those of the captured entries. -/
theorem filter_body (distinct : entity.type.fieldNames.Nodup) :
    (entity.body.filter fun entry => !entity.type.hasAttribute entry.1) =
      entity.type.capturedEntries (entity.values.map Value.toDocument) := by
  have declared : (EntityType.declaredEntries entity.type.flattenedSlot? 0 entity.type.attributes
      (entity.values.map Value.toDocument)).filter
        (fun entry => !entity.type.hasAttribute entry.1) = [] := by
    rw [List.filter_eq_nil_iff]
    intro entry member
    obtain ⟨slot, field, value, held, _, rfl⟩ := mem_declared_iff.mp member
    rw [EntityType.hasAttribute_name distinct (List.mem_of_getElem? held.placed)]
    exact Bool.noConfusion
  have captured : (entity.type.capturedEntries (entity.values.map Value.toDocument)).filter
      (fun entry => !entity.type.hasAttribute entry.1) =
        entity.type.capturedEntries (entity.values.map Value.toDocument) := by
    rw [List.filter_eq_self]
    intro entry member
    rw [(EntityType.mem_capturedEntries member).1]
    rfl
  rw [body, List.filter_append, declared, captured, List.nil_append]

/-- Entries that are those of slots or captured carry the entity, in whatever order they stand. -/
theorem carriedBy_of_entries (distinct : entity.type.fieldNames.Nodup) {target : Nat → Value}
    (assigned : ∀ slot field value, entity.Slot slot field value →
      entity.type.assign entity.type.coerceAt slot (Value.ofDocument value.toDocument) =
        .ok (target slot))
    {entries : Mapping}
    (own : ∀ entry ∈ entries, entity.type.hasAttribute entry.1 = false ∨
      ∃ slot field value, entity.Slot slot field value ∧ entry = (field.name, value.toDocument))
    (written : ∀ slot field value, entity.Slot slot field value →
      field.policy.emits value.toDocument = true → (field.name, value.toDocument) ∈ entries)
    (captured : (entries.filter fun entry => !entity.type.hasAttribute entry.1) =
      entity.type.capturedEntries (entity.values.map Value.toDocument)) :
    entity.CarriedBy target (EntityType.fieldsOf entries) where
  assigned entry member slot found := by
    obtain ⟨⟨name, document⟩, inEntries, rfl⟩ := List.mem_map.mp member
    rcases own _ inEntries with undeclared | ⟨place, field, value, held, same⟩
    · rw [EntityType.hasAttribute_iff.mpr ⟨slot, found⟩] at undeclared
      exact Bool.noConfusion undeclared
    · obtain ⟨rfl, rfl⟩ := Prod.mk.inj same
      obtain rfl := Option.some.inj
        ((EntityType.slot?_name distinct held.placed).symm.trans found)
      exact ⟨held.apart, assigned place field value held⟩
  written slot field value placed stored apart emitted := by
    have member := written slot field value ⟨placed, stored, apart⟩ emitted
    exact ⟨_, List.mem_map_of_mem member, EntityType.slot?_name distinct placed⟩
  captured := by
    rw [← captured, EntityType.fieldsOf, EntityType.fieldsOf, List.filter_map]
    rfl

/-- The whole body carries the entity. -/
theorem carriedBy_body (distinct : entity.type.fieldNames.Nodup) {target : Nat → Value}
    (assigned : ∀ slot field value, entity.Slot slot field value →
      entity.type.assign entity.type.coerceAt slot (Value.ofDocument value.toDocument) =
        .ok (target slot)) :
    entity.CarriedBy target (EntityType.fieldsOf entity.body) := by
  refine carriedBy_of_entries distinct assigned (fun entry member => ?_)
    (fun slot field value held emitted => ?_) (filter_body distinct)
  · rcases mem_body_iff.mp member with ⟨slot, field, value, held, _, same⟩ | captured
    · exact .inr ⟨slot, field, value, held, same⟩
    · exact .inl (EntityType.mem_capturedEntries captured).1
  · exact mem_body_iff.mpr (.inl ⟨slot, field, value, held, emitted, rfl⟩)

/-- The body with the entry of one slot at its end carries the entity as well. -/
theorem carriedBy_moved (distinct : entity.type.fieldNames.Nodup) {target : Nat → Value}
    (assigned : ∀ slot field value, entity.Slot slot field value →
      entity.type.assign entity.type.coerceAt slot (Value.ofDocument value.toDocument) =
        .ok (target slot))
    {place : Nat} {moved : Attribute} {value : Value} (held : entity.Slot place moved value) :
    entity.CarriedBy target (EntityType.fieldsOf
      (entity.body.without moved.name ++ [(moved.name, value.toDocument)])) := by
  have declared := EntityType.hasAttribute_name distinct (List.mem_of_getElem? held.placed)
  refine carriedBy_of_entries distinct assigned (fun entry member => ?_)
    (fun slot field own other emitted => ?_) ?_
  · rcases List.mem_append.mp member with kept | last
    · rcases mem_body_iff.mp (Mapping.mem_without.mp kept).1 with
        ⟨slot, field, own, other, _, same⟩ | captured
      · exact .inr ⟨slot, field, own, other, same⟩
      · exact .inl (EntityType.mem_capturedEntries captured).1
    · exact .inr ⟨place, moved, value, held, List.mem_singleton.mp last⟩
  · by_cases same : field.name = moved.name
    · have located := EntityType.slot?_name distinct other.placed
      rw [same, EntityType.slot?_name distinct held.placed] at located
      obtain rfl := Option.some.inj located
      obtain rfl := Option.some.inj (held.stored.symm.trans other.stored)
      rw [same]
      exact List.mem_append_right _ (List.mem_singleton.mpr rfl)
    · have inBody := mem_body_iff.mpr (.inl ⟨slot, field, own, other, emitted, rfl⟩)
      exact List.mem_append_left _ (Mapping.mem_without.mpr ⟨inBody, same⟩)
  · have last : [(moved.name, value.toDocument)].filter
        (fun entry => !entity.type.hasAttribute entry.1) = [] := by
      simp [declared]
    rw [List.filter_append, last, List.append_nil, ← filter_body distinct]
    exact Mapping.filter_without (fun name => !entity.type.hasAttribute name) (by simp [declared])

/-- Every slot has a value that is coerced from its document and written alike. -/
theorem exists_targets (registry : Registry types) (sound : entity.SoundThroughout types)
    (lossless : entity.type.Lossless) (exact : entity.Exact)
    (below : ∀ child ∈ entity.children, child.ReadsBack) :
    ∃ target : Nat → Value, (∀ slot field value, entity.Slot slot field value →
        entity.type.assign entity.type.coerceAt slot (Value.ofDocument value.toDocument) =
          .ok (target slot)) ∧
      ∀ (slot : Nat) value, entity.values[slot]? = some value →
        (target slot).toDocument = value.toDocument := by
  have typeSound := registry.sound _ sound.here.known
  have each : ∀ slot : Nat, ∃ result, ∀ value, entity.values[slot]? = some value →
      entity.type.assign entity.type.coerceAt slot (Value.ofDocument value.toDocument) =
        .ok result ∧ result.toDocument = value.toDocument := by
    intro slot
    cases stored : entity.values[slot]? with
    | none => exact ⟨.null, nofun⟩
    | some value =>
        obtain ⟨field, placed, holds⟩ := exists_related sound.here.slots.flip stored
        have member := List.mem_of_getElem? placed
        have inValues := List.mem_of_getElem? stored
        obtain ⟨result, coerced, required, same⟩ := holds.exists_coerce_alike
          (typeSound.attributes field member) (sound.here.values value inValues)
          (lossless.keyed field member) (fun item => exact slot field value item placed stored)
          fun child inside => below child (mem_children.mpr ⟨value, inValues, inside⟩)
        refine ⟨result, fun other given => ?_⟩
        obtain rfl := Option.some.inj given
        exact ⟨(EntityType.assign_eq_ok_iff placed).mpr ⟨coerced, required⟩, same⟩
  choose target spec using each
  exact ⟨target, fun slot field value held => (spec slot value held.stored).1,
    fun slot value stored => (spec slot value stored).2⟩

/-- The document of an entity is read again when the documents of its children are. -/
theorem exists_read (registry : Registry types) (sound : entity.SoundThroughout types)
    (lossless : entity.type.Lossless) (exact : entity.Exact)
    (below : ∀ child ∈ entity.children, child.ReadsBack) :
    ∃ rebuilt, entity.type.read entity.serialize = .ok rebuilt ∧
      rebuilt.serialize = entity.serialize := by
  have distinct := (registry.sound _ sound.here.known).distinct
  obtain ⟨target, assigned, alike⟩ := exists_targets registry sound lossless exact below
  obtain ⟨rebuilt, populated, same⟩ :=
    (carriedBy_body distinct assigned).rebuild registry sound lossless alike
  refine ⟨rebuilt, ?_, same⟩
  rw [EntityType.read_eq, serialize_eq_wrap, EntityType.unwrap_wrap]
  exact populated

/-! ## Elements under keys -/

theorem withValue_children {slot : Nat} {text : String} :
    ∀ child ∈ (entity.withValue slot (.text text)).children, child ∈ entity.children := by
  intro child member
  obtain ⟨value, inValues, inside⟩ := mem_children.mp member
  rcases List.mem_or_eq_of_mem_set inValues with old | rfl
  · exact mem_children.mpr ⟨value, old, inside⟩
  · exact absurd inside List.not_mem_nil

theorem Exact.withText (exact : entity.Exact) (slot : Nat) (text : String) :
    (entity.withValue slot (.text text)).Exact := by
  intro own field value item placed stored element child inside
  rw [withValue_values] at stored
  by_cases same : slot = own
  · subst same
    have inRange := (List.getElem?_eq_some_iff.mp stored).1
    rw [List.length_set] at inRange
    rw [List.getElem?_set_self inRange] at stored
    obtain rfl := Option.some.inj stored
    exact absurd inside List.not_mem_nil
  · rw [List.getElem?_set_ne same] at stored
    exact exact own field value item placed stored element child inside

/-- Apart from its entry, the body does not depend on what stands in a slot. -/
theorem withValue_body_without {slot : Nat} {field : Attribute}
    (placed : entity.type.attributes[slot]? = some field)
    (apart : entity.type.flattenedSlot? ≠ some slot) (value : Value) :
    (entity.withValue slot value).body.without field.name = entity.body.without field.name := by
  have others {own : Nat} (differs : slot ≠ own) :
      ((entity.withValue slot value).values.map Value.toDocument)[own]? =
        (entity.values.map Value.toDocument)[own]? := by
    rw [List.getElem?_map, List.getElem?_map, withValue_values, List.getElem?_set_ne differs]
  have captured : entity.type.capturedEntries
      ((entity.withValue slot value).values.map Value.toDocument) =
        entity.type.capturedEntries (entity.values.map Value.toDocument) := by
    unfold EntityType.capturedEntries
    cases flattened : entity.type.flattenedSlot? with
    | none => rfl
    | some own =>
        have differs : slot ≠ own := fun same => apart (by rw [flattened, same])
        rw [Option.bind_some, Option.bind_some, others differs]
  rw [body, body, Mapping.without_append, Mapping.without_append, withValue_type, captured]
  congr 1
  refine EntityType.without_declaredEntries_congr (by simp) fun own other at_ named => ?_
  refine others fun same => named ?_
  subst same
  rw [Option.some.inj (placed.symm.trans at_)]

/-- A text that the key field accepts may stand in a slot of its own under the declared name. -/
theorem exists_keySlot (typeSound : entity.type.Sound types) {keyField key : String}
    (declared : keyField ∈ entity.type.fieldNames)
    (accepts : entity.type.AcceptsKey keyField key) : ∃ slot field,
      entity.type.attributes[slot]? = some field ∧ field.name = keyField ∧
      entity.type.flattenedSlot? ≠ some slot ∧ field.Holds (.text key) := by
  obtain ⟨slot, field, located, placed, text, accepted⟩ := accepts
  have named : field.name = keyField := by
    obtain ⟨own, member, named⟩ := List.mem_map.mp declared
    obtain ⟨place, ownPlaced⟩ := List.mem_iff_getElem?.mp member
    have ownLocated := EntityType.slot?_name typeSound.distinct ownPlaced
    rw [named, located] at ownLocated
    obtain rfl := Option.some.inj ownLocated
    obtain rfl := Option.some.inj (placed.symm.trans ownPlaced)
    exact named
  have apart := typeSound.flattenedSlot?_ne_of_text placed text
  have holds : field.Holds (.text key) := by
    refine ⟨⟨Value.noConfusion, fun _ => ?_, accepted⟩, fun _ => Value.noConfusion⟩
    rw [text]
    exact ⟨rfl, nofun, nofun⟩
  exact ⟨slot, field, placed, named, apart, holds⟩

/-- An element is read again under a key that its key field accepts, whatever stood in it before. -/
theorem exists_read_keyed (registry : Registry types) (sound : entity.SoundThroughout types)
    (lossless : entity.type.Lossless) (exact : entity.Exact)
    (below : ∀ child ∈ entity.children, child.ReadsBack) {keyField key : String}
    (declared : keyField ∈ entity.type.fieldNames) (bare : entity.type.envelope = none)
    (accepts : entity.type.AcceptsKey keyField key) : ∃ rebuilt,
      entity.type.read (Mapping.insert (Mapping.without entity.serialize keyField) keyField
        (.text key)) = .ok rebuilt ∧
      Mapping.without rebuilt.serialize keyField = Mapping.without entity.serialize keyField := by
  have typeSound := registry.sound _ sound.here.known
  obtain ⟨slot, field, placed, rfl, apart, holds⟩ := exists_keySlot typeSound declared accepts
  have textSound : Value.SoundThroughout types (.text key) :=
    ⟨trivial, fun _ member => absurd member List.not_mem_nil⟩
  have rekeyed := sound.withValue placed textSound holds
  have inRange : slot < entity.values.length := by
    rw [← sound.here.slots.length_eq]
    exact (List.getElem?_eq_some_iff.mp placed).1
  have held : (entity.withValue slot (.text key)).Slot slot field (.text key) :=
    ⟨placed, List.getElem?_set_self inRange, apart⟩
  obtain ⟨target, assigned, alike⟩ := exists_targets registry rekeyed lossless
    (exact.withText slot key) fun child member => below child (withValue_children child member)
  have distinct : (entity.withValue slot (.text key)).type.fieldNames.Nodup := typeSound.distinct
  obtain ⟨rebuilt, populated, same⟩ :=
    (carriedBy_moved distinct assigned held).rebuild registry rekeyed lossless alike
  have unwrapped (other : Entity) (sameType : other.type = entity.type) :
      other.serialize = other.body := by
    rw [serialize_eq_wrap, EntityType.wrap, sameType, bare]
  have others := withValue_body_without placed apart (.text key)
  refine ⟨rebuilt, ?_, ?_⟩
  · rw [unwrapped entity rfl, Mapping.insert_eq_put,
      Entries.put_of_absent (Mapping.key_not_mem_without _ _), EntityType.read_eq,
      Success.bind_eq_ok]
    refine ⟨_, EntityType.unwrap_eq_ok_iff.mpr (.inl ⟨bare, rfl⟩), ?_⟩
    rw [← others]
    exact populated
  · rw [same, unwrapped (entity.withValue slot (.text key)) rfl, unwrapped entity rfl, others]

/-- The types of exact children are element types of the fields. -/
theorem Exact.hasItem (exact : entity.Exact) (sound : entity.Sound types) {child : Entity}
    (member : child ∈ entity.children) : entity.type.HasItem child.type := by
  obtain ⟨value, inValues, inside⟩ := mem_children.mp member
  obtain ⟨slot, stored⟩ := List.mem_iff_getElem?.mp inValues
  obtain ⟨field, placed, holds⟩ := exists_related sound.slots.flip stored
  obtain ⟨item, element⟩ := (holds.accepts.fits (by
    rintro rfl
    exact absurd inside List.not_mem_nil)).exists_item inside
  have sameType := exact slot field value item placed stored element child inside
  exact ⟨field, List.mem_of_getElem? placed, sameType ▸ element⟩

/-- Every document of an exact entity is read again when its type loses nothing at any depth. -/
theorem readsBack (registry : Registry types) (sound : entity.SoundThroughout types)
    (lossless : ∀ inner, entity.type.Reaches inner → inner.Lossless)
    (exact : ∀ inner, entity.Contains inner → inner.Exact) : entity.ReadsBack := by
  induction entity using Entity.childInduction with
  | step entity ih =>
      have ownExact := exact entity entity.contains_self
      have ownLossless := lossless entity.type Relation.ReflTransGen.refl
      have below : ∀ child ∈ entity.children, child.ReadsBack := by
        intro child member
        have element := ownExact.hasItem sound.here member
        exact ih child member (fun inner contained => sound inner (.of_child member contained))
          (fun inner reached => lossless inner (.of_item element reached))
          fun inner contained => exact inner (.of_child member contained)
      exact ⟨exists_read registry sound ownLossless ownExact below,
        fun keyField key declared bare accepts =>
          exists_read_keyed registry sound ownLossless ownExact below declared bare accepts⟩

end Entity

end Sound

/-- What is read of a written document is written as the same document. -/
theorem Workspace.Reachable.readDocument_toDocument {space : Workspace}
    (reached : space.Reachable) {entity : Entity} (held : .entity entity ∈ space.targets)
    (lossless : ∀ inner, entity.type.Reaches inner → inner.Lossless)
    (exact : ∀ inner, entity.Contains inner → inner.Exact) :
    ∃ rebuilt, entity.type.readDocument entity.toDocument = .ok rebuilt ∧
      rebuilt.toDocument = entity.toDocument := by
  have sound := Value.SoundThroughout.object_iff.mp (reached.sound.targets _ held)
  obtain ⟨rebuilt, taken, same⟩ :=
    (Entity.readsBack reached.sound.registry sound lossless exact).plain
  exact ⟨rebuilt, EntityType.readMapping_eq_ok_iff.mpr ⟨entity.serialize, rfl, taken⟩,
    congrArg Document.mapping same⟩

namespace Catalogue

/-- The catalogue has the element types of all its fields. -/
theorem items_subset {type : EntityType} (known : type ∈ types) : type.items ⊆ types := by
  have leaves : ∀ type ∈ [base, task, role, host, importRole], type.items = [] := by
    simp only [List.forall_mem_cons]
    exact ⟨rfl, rfl, rfl, rfl, rfl, fun _ member => absurd member List.not_mem_nil⟩
  have playItems : play.items = [role, task] := rfl
  have childItems : child.items = [host] := rfl
  have inventoryItems : inventory.items = [host, child] := rfl
  simp only [types, List.mem_cons, List.not_mem_nil, or_false] at known
  rcases known with rfl | rfl | rfl | rfl | rfl | rfl | rfl | rfl
  · simp [leaves base (by simp)]
  · simp [leaves task (by simp)]
  · simp [leaves role (by simp)]
  · simp [playItems, types]
  · simp [leaves host (by simp)]
  · simp [childItems, types]
  · simp [inventoryItems, types]
  · simp [leaves importRole (by simp)]

theorem reaches_known {type inner : EntityType} (known : type ∈ types)
    (reached : type.Reaches inner) : inner ∈ types := by
  induction reached with
  | refl => exact known
  | tail _ below ih => exact items_subset ih (EntityType.hasItem_iff.mp below)

/-- Plays and inventories lose nothing when they are written, and neither does anything in them. -/
theorem reaches_lossless {type inner : EntityType} (known : type ∈ types)
    (reached : type.Reaches inner) : inner.Lossless := by
  have lossless : ∀ type ∈ types, type.Lossless := by decide
  exact lossless inner (reaches_known known reached)

theorem leaf_exact : leaf.Exact := by
  intro slot field value item placed stored element child inside
  have member := Entity.mem_children.mpr ⟨value, List.mem_of_getElem? stored, inside⟩
  rw [show leaf.children = [] from rfl] at member
  exact absurd member List.not_mem_nil

theorem inventoryOf_exact {hosts : List (String × Entity)}
    (each : ∀ entry ∈ hosts, entry.2.type = host) : (inventoryOf hosts).Exact := by
  have first : (inventory.attributes[0]?).bind (fun field => field.type.item?) = some host := rfl
  intro slot field value item placed stored element child inside
  have type : (inventoryOf hosts).type = inventory := rfl
  have values : (inventoryOf hosts).values =
      [.map ⟨host, "name", hosts⟩, .map ⟨Catalogue.child, "name", []⟩, .dict []] := rfl
  rw [type] at placed
  rw [values] at stored
  cases slot with
  | zero =>
      obtain rfl := Option.some.inj stored
      obtain ⟨entry, inHosts, rfl⟩ := List.mem_map.mp inside
      rw [placed, Option.bind_some, element] at first
      rw [each entry inHosts, Option.some.inj first]
  | succ slot =>
      rw [List.getElem?_cons_succ] at stored
      rcases List.mem_pair.mp (List.mem_of_getElem? stored) with rfl | rfl
      all_goals exact absurd inside List.not_mem_nil

theorem contained_exact : ∀ inner, (inventoryOf [("leaf", leaf)]).Contains inner → inner.Exact := by
  rw [Entity.forall_contains_iff]
  constructor
  · refine inventoryOf_exact fun entry member => ?_
    rw [List.mem_singleton.mp member]
    rfl
  · intro child member
    obtain rfl := List.mem_singleton.mp member
    rw [Entity.forall_contains_iff]
    refine ⟨leaf_exact, fun child below => ?_⟩
    rw [show leaf.children = [] from rfl] at below
    exact absurd below List.not_mem_nil

/-- The document of an inventory with a host is read as an inventory that is written alike. -/
theorem leaf_readsBack : ∃ rebuilt,
    inventory.readDocument (inventoryOf [("leaf", leaf)]).toDocument = .ok rebuilt ∧
      rebuilt.toDocument = (inventoryOf [("leaf", leaf)]).toDocument :=
  leaf_reachable.readDocument_toDocument List.mem_cons_self
    (fun _ reached => reaches_lossless (by simp [types, inventoryOf]) reached) contained_exact

end Catalogue

end NetworkAutomation
