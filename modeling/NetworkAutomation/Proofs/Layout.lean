/-
This file holds the laws of laying the documents of slots out as the document of an entity.
-/

import NetworkAutomation.Proofs.Soundness

namespace NetworkAutomation

theorem Value.documents_eq_map (values : List Value) :
    Value.documents values = values.map Value.toDocument := by
  induction values with
  | nil => rfl
  | cons value rest ih => rw [Value.documents, ih, List.map_cons]

theorem Entity.documents_eq_map (items : List Entity) :
    Entity.documents items = items.map Entity.toDocument := by
  induction items with
  | nil => rfl
  | cons item rest ih => rw [Entity.documents, ih, List.map_cons, Entity.toDocument]

theorem Entity.serialize_eq (entity : Entity) :
    entity.serialize = entity.type.layout (entity.values.map Value.toDocument) := by
  cases entity
  rw [Entity.serialize, Value.documents_eq_map]

theorem OrderedCollection.serialize_eq (collection : OrderedCollection) :
    collection.serialize = collection.items.map Entity.toDocument := by
  cases collection
  rw [OrderedCollection.serialize, Entity.documents_eq_map]

/-- Every element stands under its key without its key field, in the order of the entries. -/
theorem KeyedCollection.serialize_eq (collection : KeyedCollection) :
    collection.serialize = collection.entries.map fun entry =>
      (entry.1, KeyedCollection.entryDocument collection.keyField entry.2.serialize) := by
  obtain ⟨itemType, keyField, entries⟩ := collection
  rw [KeyedCollection.serialize]
  induction entries with
  | nil => rfl
  | cons entry rest ih => rw [KeyedCollection.entryDocuments, ih, List.map_cons]

theorem KeyedCollection.keys_serialize (collection : KeyedCollection) :
    Entries.keys collection.serialize = Entries.keys collection.entries := by
  rw [KeyedCollection.serialize_eq, Entries.keys, Entries.keys, List.map_map]
  rfl

namespace EntityType

/-- A declared entry is the name of a field and the document of its slot, where both are written. -/
theorem mem_declaredEntries {flattened : Option Nat} {start : Nat} {fields : List Attribute}
    {documents : List Document} {entry : String × Document} :
    entry ∈ declaredEntries flattened start fields documents ↔
      ∃ offset field document, fields[offset]? = some field ∧
        documents[offset]? = some document ∧ flattened ≠ some (start + offset) ∧
        field.policy.emits document = true ∧ entry = (field.name, document) := by
  induction fields generalizing start documents with
  | nil => simp [declaredEntries]
  | cons first fields ih =>
      cases documents with
      | nil => simp [declaredEntries]
      | cons document documents =>
          have later : entry ∈ declaredEntries flattened (start + 1) fields documents ↔
              ∃ offset field inner, (first :: fields)[offset + 1]? = some field ∧
                (document :: documents)[offset + 1]? = some inner ∧
                flattened ≠ some (start + (offset + 1)) ∧
                field.policy.emits inner = true ∧ entry = (field.name, inner) := by
            simp only [ih, List.getElem?_cons_succ, Nat.add_assoc, Nat.add_comm 1]
          rw [declaredEntries]
          constructor
          · intro member
            split at member
            next written =>
              rcases List.mem_cons.mp member with same | below
              · exact ⟨0, first, document, rfl, rfl, written.1, written.2, same⟩
              · obtain ⟨offset, rest⟩ := later.mp below
                exact ⟨offset + 1, rest⟩
            next =>
              obtain ⟨offset, rest⟩ := later.mp member
              exact ⟨offset + 1, rest⟩
          · rintro ⟨offset, field, inner, placed, stored, apart, written, same⟩
            cases offset with
            | zero =>
                obtain rfl := Option.some.inj placed
                obtain rfl := Option.some.inj stored
                rw [if_pos ⟨apart, written⟩]
                exact List.mem_cons.mpr (.inl same)
            | succ offset =>
                have below := later.mpr ⟨offset, field, inner, placed, stored, apart, written, same⟩
                split
                next => exact List.mem_cons_of_mem _ below
                next => exact below

/-- The declared fields are written in the order of their declaration. -/
theorem keys_declaredEntries_sublist (flattened : Option Nat) (start : Nat)
    (fields : List Attribute) (documents : List Document) :
    (Entries.keys (declaredEntries flattened start fields documents)).Sublist
      (fields.map Attribute.name) := by
  induction fields generalizing start documents with
  | nil => simp [declaredEntries]
  | cons first fields ih =>
      cases documents with
      | nil => simp [declaredEntries]
      | cons document documents =>
          rw [declaredEntries]
          split
          next => exact (ih (start + 1) documents).cons_cons first.name
          next => exact (ih (start + 1) documents).cons first.name

/-- Slots that are written alike, and with the same document where they are, are laid out alike. -/
theorem declaredEntries_congr {flattened : Option Nat} {start : Nat} {fields : List Attribute}
    {former latter : List Document} (sameLength : former.length = latter.length)
    (alike : ∀ offset field first second, fields[offset]? = some field →
      former[offset]? = some first → latter[offset]? = some second →
      flattened ≠ some (start + offset) →
      field.policy.emits first = field.policy.emits second ∧
        (field.policy.emits first = true → first = second)) :
    declaredEntries flattened start fields former =
      declaredEntries flattened start fields latter := by
  induction fields generalizing start former latter with
  | nil => simp [declaredEntries]
  | cons field fields ih =>
      match former, latter, sameLength with
      | [], [], _ => rfl
      | first :: formers, second :: latters, sameLength =>
          have later : declaredEntries flattened (start + 1) fields formers =
              declaredEntries flattened (start + 1) fields latters := by
            refine ih (Nat.succ.inj sameLength) fun offset other one two placed left right => ?_
            have shifted := alike (offset + 1) other one two placed left right
            rwa [← Nat.add_assoc, Nat.add_right_comm] at shifted
          rw [declaredEntries, declaredEntries, later]
          by_cases apart : flattened ≠ some start
          · obtain ⟨written, same⟩ := alike 0 field first second rfl rfl rfl apart
            rw [← written]
            by_cases emitted : field.policy.emits first = true
            · rw [same emitted]
            · rw [if_neg (fun both => emitted both.2), if_neg (fun both => emitted both.2)]
          · rw [if_neg (fun both => apart both.1), if_neg (fun both => apart both.1)]

/-- The entries apart from those of one name do not depend on the slot of this name. -/
theorem without_declaredEntries_congr {flattened : Option Nat} {start : Nat}
    {fields : List Attribute} {former latter : List Document} {name : String}
    (sameLength : former.length = latter.length)
    (alike : ∀ (offset : Nat) (field : Attribute), fields[offset]? = some field →
      field.name ≠ name → former[offset]? = latter[offset]?) :
    Mapping.without (declaredEntries flattened start fields former) name =
      Mapping.without (declaredEntries flattened start fields latter) name := by
  induction fields generalizing start former latter with
  | nil => simp [declaredEntries]
  | cons field fields ih =>
      match former, latter, sameLength with
      | [], [], _ => rfl
      | first :: formers, second :: latters, sameLength =>
          have later : Mapping.without (declaredEntries flattened (start + 1) fields formers) name =
              Mapping.without (declaredEntries flattened (start + 1) fields latters) name :=
            ih (Nat.succ.inj sameLength) fun offset other placed apart =>
              alike (offset + 1) other placed apart
          rw [declaredEntries, declaredEntries]
          unfold Mapping.without at later ⊢
          by_cases same : field.name = name
          · split <;> split <;> simpa [same] using later
          · obtain rfl := Option.some.inj (alike 0 field rfl same)
            split
            next => rw [List.filter_cons, List.filter_cons, later]
            next => exact later

theorem mem_capturedEntries {type : EntityType} {documents : List Document}
    {entry : String × Document} (member : entry ∈ type.capturedEntries documents) :
    type.hasAttribute entry.1 = false ∧
      ∃ entries, Document.mapping entries ∈ documents ∧ entry ∈ entries := by
  unfold capturedEntries at member
  split at member
  next entries found =>
    obtain ⟨inEntries, undeclared⟩ := List.mem_filter.mp member
    obtain ⟨slot, _, stored⟩ := Option.bind_eq_some_iff.mp found
    refine ⟨by simpa using undeclared, entries, List.mem_of_getElem? stored, inEntries⟩
  next => exact absurd member List.not_mem_nil

/-- The captured entries keep the distinct keys of the dict that they were captured in. -/
theorem nodup_capturedEntries {type : EntityType} {documents : List Document}
    (formed : ∀ document ∈ documents, document.WellFormed) :
    (Entries.keys (type.capturedEntries documents)).Nodup := by
  unfold capturedEntries
  split
  next entries found =>
    obtain ⟨slot, _, stored⟩ := Option.bind_eq_some_iff.mp found
    have whole := formed _ (List.mem_of_getElem? stored)
    exact (whole.filter _).keys
  next => exact List.nodup_nil

/-- Well-formed documents are laid out as a well-formed document. -/
theorem layout_wellFormed {type : EntityType} (distinct : type.fieldNames.Nodup)
    {documents : List Document} (formed : ∀ document ∈ documents, document.WellFormed) :
    (Document.mapping (type.layout documents)).WellFormed := by
  have body : (Document.mapping (declaredEntries type.flattenedSlot? 0 type.attributes documents ++
      type.capturedEntries documents)).WellFormed := by
    refine .mapping ?_ fun entry member => ?_
    · rw [Entries.keys_append, List.nodup_append]
      refine ⟨distinct.sublist (keys_declaredEntries_sublist _ _ _ _),
        nodup_capturedEntries formed, ?_⟩
      intro name declared other captured same
      obtain ⟨field, member, named⟩ := List.mem_map.mp
        ((keys_declaredEntries_sublist _ _ _ _).subset declared)
      obtain ⟨entry, inCaptured, rfl⟩ := List.mem_map.mp captured
      have undeclared := (mem_capturedEntries inCaptured).1
      rw [← same, ← named, hasAttribute_name distinct member] at undeclared
      exact Bool.noConfusion undeclared
    · rcases List.mem_append.mp member with declared | captured
      · obtain ⟨_, _, document, _, stored, _, _, rfl⟩ := mem_declaredEntries.mp declared
        exact formed document (List.mem_of_getElem? stored)
      · obtain ⟨_, entries, inDocuments, inEntries⟩ := mem_capturedEntries captured
        exact (formed _ inDocuments).entries entry inEntries
  unfold layout wrap
  split
  next root _ =>
    refine .mapping (List.nodup_singleton root) fun entry member => ?_
    obtain rfl := List.mem_singleton.mp member
    exact body
  next => exact body

/-- What an envelope wraps is unwrapped again. -/
theorem unwrap_wrap (type : EntityType) (body : Mapping) :
    type.unwrap (type.wrap body) = .ok (fieldsOf body) := by
  rw [wrap, unwrap_eq_ok_iff]
  cases envelope : type.envelope with
  | none => exact .inl ⟨rfl, rfl⟩
  | some root =>
      have found : Mapping.lookup? [(root, .mapping body)] root = some (.mapping body) := by
        simp [Mapping.lookup?]
      have alone : Mapping.without [(root, .mapping body)] root = [] := by
        simp [Mapping.without]
      refine .inr ⟨root, body, rfl, found, fun outside => absurd alone outside, ?_⟩
      rw [alone]
      rfl

end EntityType

/-- A sound value is written as a well-formed document when its entities are. -/
theorem Value.Sound.toDocument_wellFormed {types : List EntityType} {value : Value}
    (sound : value.Sound types)
    (below : ∀ entity ∈ value.entities, entity.toDocument.WellFormed) :
    value.toDocument.WellFormed := by
  cases value with
  | null => exact .null
  | text value => exact .text value
  | integer value => exact .number (.integer value.toInt)
  | boolean value => exact .boolean value
  | number value => exact .number value
  | list items => exact sound
  | dict entries => exact sound
  | object entity => exact below entity (List.mem_singleton.mpr rfl)
  | index collection =>
      rw [Value.toDocument, OrderedCollection.serialize_eq]
      refine .list fun document member => ?_
      obtain ⟨item, inItems, rfl⟩ := List.mem_map.mp member
      exact below item inItems
  | map collection =>
      rw [Value.toDocument]
      refine .mapping ?_ fun entry member => ?_
      · rw [KeyedCollection.keys_serialize]
        exact sound.distinct
      · rw [KeyedCollection.serialize_eq] at member
        obtain ⟨own, inEntries, rfl⟩ := List.mem_map.mp member
        have item := below own.2 (List.mem_map_of_mem inEntries)
        exact Document.WellFormed.filter item _

/-- What is written for a sound entity is a well-formed document. -/
theorem Entity.SoundThroughout.toDocument_wellFormed {types : List EntityType}
    (registry : Registry types) {entity : Entity} (sound : entity.SoundThroughout types) :
    entity.toDocument.WellFormed := by
  induction entity using Entity.childInduction with
  | step entity ih =>
      rw [Entity.toDocument, Entity.serialize_eq]
      refine EntityType.layout_wellFormed (registry.sound _ sound.here.known).distinct ?_
      intro document member
      obtain ⟨value, inValues, rfl⟩ := List.mem_map.mp member
      refine (sound.here.values value inValues).toDocument_wellFormed fun child inside => ?_
      exact ih child (Entity.mem_children.mpr ⟨value, inValues, inside⟩)
        ((sound.values value inValues).below child inside)

theorem Value.SoundThroughout.toDocument_wellFormed {types : List EntityType}
    (registry : Registry types) {value : Value} (sound : value.SoundThroughout types) :
    value.toDocument.WellFormed :=
  sound.here.toDocument_wellFormed fun entity member =>
    (sound.below entity member).toDocument_wellFormed registry

end NetworkAutomation
