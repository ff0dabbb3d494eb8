/-
This file proves that an open type keeps everything that a document says under undeclared keys.
-/

import NetworkAutomation.Proofs.Filling
import NetworkAutomation.Proofs.Inventories
import NetworkAutomation.Proofs.Refilling

namespace NetworkAutomation

/-- What a document says under a key, in the body of an envelope rather than beside its root. -/
def EntityType.given? (type : EntityType) (document : Mapping) (key : String) : Option Document :=
  match type.envelope with
  | none => document.lookup? key
  | some root =>
      match document.lookup? root with
      | some (.mapping body) =>
          (Mapping.lookup? body key).or (Mapping.lookup? (document.without root) key)
      | _ => none

variable {types : List EntityType} {type : EntityType} {key : String}

/-! ## Keys and fields -/

namespace EntityType

theorem lastOf?_fieldsOf {document : Mapping} (distinct : (Entries.keys document).Nodup)
    (key : String) : Entries.lastOf? (· == key) (fieldsOf document) =
      (Entries.find? document key).map Value.ofDocument := by
  rw [fieldsOf, Entries.lastOf?_map, Entries.lastOf?_eq_find? distinct]

/-- The last field under a key is what the document says there. -/
theorem lastOf?_unwrap {document : Mapping} (formed : (Document.mapping document).WellFormed)
    {fields : List (String × Value)} (unwrapped : type.unwrap document = .ok fields)
    (key : String) : Entries.lastOf? (· == key) fields =
      (type.given? document key).map Value.ofDocument := by
  rcases unwrap_eq_ok_iff.mp unwrapped with
    ⟨bare, rfl⟩ | ⟨root, body, enveloped, found, _, rfl⟩
  · rw [given?, bare]
    exact lastOf?_fieldsOf formed.keys key
  · have bodyFormed : (Document.mapping body).WellFormed :=
      formed.entries _ (Entries.mem_of_find? found)
    have outsideFormed : (Document.mapping (document.without root)).WellFormed := formed.filter _
    rw [given?, enveloped]
    dsimp only
    rw [found, Entries.lastOf?_append, lastOf?_fieldsOf bodyFormed.keys,
      lastOf?_fieldsOf outsideFormed.keys, ← Option.map_or]
    rfl

/-- The catch-all of an entity that was read holds what the document says under undeclared keys. -/
theorem exists_captured_of_read (sound : type.Sound types) {catchAll : CatchAll}
    (opened : type.catchAll = some catchAll) {document : Mapping}
    (formed : (Document.mapping document).WellFormed) {entity : Entity}
    (taken : type.read document = .ok entity) (undeclared : type.hasAttribute key = false)
    {value : Document} (given : type.given? document key = some value) :
    entity.type = type ∧ ∃ slot field entries, type.slot? catchAll.field = some slot ∧
      type.attributes[slot]? = some field ∧ entity.values[slot]? = some (.dict entries) ∧
      Entries.find? entries key = some value := by
  rw [read_eq] at taken
  obtain ⟨fields, unwrapped, populated⟩ := Success.bind_eq_ok.mp taken
  obtain ⟨sameType, fills⟩ := fills_of_populate sound populated
  obtain ⟨slot, _, located, _⟩ := sound.catchAll catchAll opened
  have catches : type.catchAllSlot? = some slot :=
    Option.bind_eq_some_iff.mpr ⟨catchAll, opened, located⟩
  obtain ⟨field, entries, placed, _, stored⟩ := fills.captured slot catches
  refine ⟨sameType, slot, field, _, located, placed, stored, ?_⟩
  rw [Mapping.find?_merge_last, lastOf?_captured, undeclared, lastOf?_unwrap formed unwrapped,
    given]
  simp [Value.toDocument_ofDocument]

end EntityType

/-! ## What is written -/

namespace Entity

/-- Every slot is written under the name of its field, whatever else is captured. -/
theorem Slot.find?_body (registry : Registry types) {entity : Entity}
    (sound : entity.SoundThroughout types) {slot : Nat} {field : Attribute} {value : Value}
    (held : entity.Slot slot field value) :
    Entries.find? entity.body field.name = field.written value :=
  (sound.seenBy_self registry).find?_body_name ⟨held.placed, held.apart, slot, held⟩

end Entity

/--
Nothing that a document says under undeclared keys is lost. The catch-all holds it, whatever else
the document says about the catch-all. A flattened catch-all is written beside the declared fields,
which keep their own values, and a nested one inside its own field unless that is never written.
-/
theorem Workspace.Reachable.undeclared_keys_kept {space : Workspace} (reached : space.Reachable)
    (known : type ∈ space.types) {catchAll : CatchAll} (opened : type.catchAll = some catchAll)
    {document : Mapping} (formed : (Document.mapping document).WellFormed) {entity : Entity}
    (taken : type.readDocument (.mapping document) = .ok entity)
    (undeclared : type.hasAttribute key = false) {value : Document}
    (given : type.given? document key = some value) :
    ∃ field entries, type.field? catchAll.field = some field ∧
      entity.getDict catchAll.field = .ok entries ∧ Mapping.lookup? entries key = some value ∧
      entity.serialize = type.wrap entity.body ∧ (Entries.keys entity.body).Nodup ∧
      (catchAll.mode = .flatten → Mapping.lookup? entity.body key = some value ∧
        ∀ slot declared own, entity.Slot slot declared own →
          Mapping.lookup? entity.body declared.name = declared.written own) ∧
      (catchAll.mode = .nested → field.policy ≠ .never →
        Mapping.lookup? entity.body field.name = some (.mapping entries)) := by
  have registry := reached.sound.registry
  obtain ⟨sound, _⟩ := registry.readDocument_sound known formed taken
  obtain ⟨rfl, slot, field, entries, located, placed, stored, found⟩ :=
    EntityType.exists_captured_of_read (registry.sound type known) opened formed taken undeclared
      given
  refine ⟨field, entries, EntityType.field?_eq_some_iff.mpr ⟨slot, located, placed⟩,
    Entity.getDict_eq_ok_iff.mpr ⟨slot, located, stored⟩, found, entity.serialize_eq_wrap,
    (sound.body_wellFormed registry).keys, fun flat => ⟨?_, ?_⟩, fun nested written => ?_⟩
  · have distinct := (registry.sound entity.type known).distinct
    have flattened := EntityType.flattenedSlot?_eq_some_iff.mpr ⟨catchAll, opened, flat, located⟩
    exact (Entity.find?_body_of_flattened distinct flattened stored undeclared).trans found
  · exact fun _ _ _ held => held.find?_body registry sound
  · have apart : entity.type.flattenedSlot? ≠ some slot := by
      intro flattened
      obtain ⟨own, ownOpened, flat, _⟩ := EntityType.flattenedSlot?_eq_some_iff.mp flattened
      obtain rfl := Option.some.inj (opened.symm.trans ownOpened)
      exact nomatch nested.symm.trans flat
    refine (Entity.Slot.find?_body registry sound ⟨placed, stored, apart⟩).trans ?_
    have nonempty : entries ≠ [] := by
      rintro rfl
      exact nomatch found
    have emitted : field.policy.emits (.mapping entries) = true := by
      cases policy : field.policy with
      | always => rfl
      | present => simpa [Policy.emits, Document.isPresent] using nonempty
      | never => exact absurd policy written
    exact if_pos emitted

/-- A rack number that is no signed word overrides the one among the variables of the host. -/
theorem Catalogue.rack_kept :
    let rack : Document := .integer 18446744073709551615
    let document : Mapping := [("rack", rack), ("name", .text "leaf"),
      ("vars", .mapping [("rack", .integer 1)])]
    ∃ entity entries, host.readDocument (.mapping document) = .ok entity ∧
      entity.getDict "vars" = .ok entries ∧ Mapping.lookup? entries "rack" = some rack ∧
      Mapping.lookup? entity.body "rack" = some rack := by
  intro rack document
  have known : host ∈ types.reverse := by simp [types]
  have formed : (Document.mapping document).WellFormed := by
    simp [document, rack, Document.WellFormed.mapping_iff, Document.WellFormed.text,
      Document.WellFormed.number, Document.integer]
  have taken : host.readDocument (.mapping document) = .ok
      ⟨host, [.text "leaf", .null, .null, .null, .null, .dict [("rack", rack)]]⟩ := rfl
  obtain ⟨_, entries, _, held, found, _, _, flat, _⟩ :=
    Workspace.catalogue_declared.reached.undeclared_keys_kept known rfl formed taken rfl
      (show host.given? document "rack" = some rack from rfl)
  exact ⟨_, entries, taken, held, found, (flat rfl).1⟩

end NetworkAutomation
