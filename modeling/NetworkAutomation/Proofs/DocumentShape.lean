/-
This file proves that the document of an entity has just the entries that the policies of its type
ask for, in the order of declaration and without repetition.
-/

import NetworkAutomation.Proofs.CapturedKeys

namespace NetworkAutomation

/-! ## What a policy asks for -/

/-- Null is blank, and so is a list, dict, object or collection that nothing is written of. -/
def Value.isBlank : Value → Bool
  | .null => true
  | .list items => items.isEmpty
  | .dict entries => entries.isEmpty
  | .object entity => entity.serialize.isEmpty
  | .index collection => collection.serialize.isEmpty
  | .map collection => collection.serialize.isEmpty
  | _ => false

theorem Value.isPresent_eq (value : Value) : value.toDocument.isPresent = !value.isBlank := by
  cases value <;> rfl

/-- A field of presence is shown unless its value is blank. -/
def Attribute.isShown (field : Attribute) (value : Value) : Bool :=
  match field.policy with
  | .always => true
  | .present => !value.isBlank
  | .never => false

theorem Attribute.emits_eq_isShown (field : Attribute) (value : Value) :
    field.policy.emits value.toDocument = field.isShown value := by
  unfold Policy.emits isShown
  cases field.policy with
  | always => rfl
  | present => exact value.isPresent_eq
  | never => rfl

namespace Entity

/-- The shown fields with their values, in the order of declaration and apart from one slot. -/
def shownApart (apart : Option Nat) (start : Nat) (fields : List Attribute) (values : List Value) :
    List (Attribute × Value) :=
  (((fields.zip values).zipIdx start).filter fun entry =>
    !(apart == some entry.2) && entry.1.1.isShown entry.1.2).map Prod.fst

/-- The fields that are shown beside a flattened catch-all, with their values. -/
def shownFields (entity : Entity) : List (Attribute × Value) :=
  shownApart entity.type.flattenedSlot? 0 entity.type.attributes entity.values

theorem declaredEntries_eq_shownApart (apart : Option Nat) (start : Nat) (fields : List Attribute)
    (values : List Value) :
    EntityType.declaredEntries apart start fields (values.map Value.toDocument) =
      (shownApart apart start fields values).map fun entry =>
        (entry.1.name, entry.2.toDocument) := by
  induction fields generalizing start values with
  | nil => simp [EntityType.declaredEntries, shownApart]
  | cons field fields ih =>
      cases values with
      | nil => simp [EntityType.declaredEntries, shownApart]
      | cons value values =>
          rw [List.map_cons, EntityType.declaredEntries, ih (start + 1) values,
            field.emits_eq_isShown]
          unfold shownApart
          rw [List.zip_cons_cons, List.zipIdx_cons, List.filter_cons]
          by_cases shown : apart ≠ some start ∧ field.isShown value = true
          · rw [if_pos shown, if_pos (by simpa using shown)]
            rfl
          · rw [if_neg shown, if_neg (by simpa using shown)]

/-- A flattened catch-all always holds a dict. -/
theorem SoundThroughout.exists_flattened {types : List EntityType} (registry : Registry types)
    {entity : Entity} (sound : entity.SoundThroughout types) {slot : Nat}
    (flattened : entity.type.flattenedSlot? = some slot) :
    ∃ entries, entity.values[slot]? = some (.dict entries) := by
  have typeSound := registry.sound _ sound.here.known
  obtain ⟨field, _, placed, default⟩ := typeSound.exists_defaultDict flattened
  obtain ⟨own, ownPlaced, _, dict⟩ :=
    typeSound.exists_catchAllSlot (EntityType.catchAllSlot?_of_flattenedSlot? flattened)
  obtain rfl := Option.some.inj (placed.symm.trans ownPlaced)
  obtain ⟨value, stored, holds⟩ := exists_related sound.here.slots placed
  have given : value ≠ .null := fun isNull =>
    nomatch default.symm.trans (holds.accepts.null isNull)
  have kind := (holds.accepts.fits given).kind
  rw [dict] at kind
  cases value with
  | dict entries => exact ⟨entries, stored⟩
  | _ => exact nomatch kind

/--
The document holds the shown fields and then what was captured. No name is written twice, and the
only name that a field is written under is its own.
-/
structure ShapedByPolicies (entity : Entity) (body captured : Mapping) : Prop where
  bare : entity.type.envelope = none → entity.serialize = body
  enveloped : ∀ root, entity.type.envelope = some root →
    entity.serialize = [(root, .mapping body)]
  entries : body =
    (entity.shownFields.map fun entry => (entry.1.name, entry.2.toDocument)) ++ captured
  uncaptured : entity.type.flattenedSlot? = none → captured = []
  flattened : ∀ slot, entity.type.flattenedSlot? = some slot → ∃ caught,
    entity.values[slot]? = some (.dict caught) ∧
    captured = caught.filter fun entry => !entity.type.hasAttribute entry.1
  distinct : (Entries.keys body).Nodup
  inserted : Mapping.ofEntries body = body
  canonical : ∀ key ∈ Entries.keys body, ∀ field, entity.type.field? key = some field →
    key = field.name
  declared : ∀ slot field value, entity.Slot slot field value →
    Mapping.lookup? body field.name =
      if field.isShown value then some value.toDocument else none

theorem SoundThroughout.shapedByPolicies {types : List EntityType} (registry : Registry types)
    {entity : Entity} (sound : entity.SoundThroughout types) :
    entity.ShapedByPolicies entity.body
      (entity.type.capturedEntries (entity.values.map Value.toDocument)) where
  bare bare := by
    rw [serialize_eq_wrap, EntityType.wrap, bare]
  enveloped root enveloped := by
    rw [serialize_eq_wrap, EntityType.wrap, enveloped]
  entries := by
    rw [body, declaredEntries_eq_shownApart]
    rfl
  uncaptured absent := by
    rw [EntityType.capturedEntries, absent]
    rfl
  flattened slot flattened := by
    obtain ⟨caught, stored⟩ := sound.exists_flattened registry flattened
    refine ⟨caught, stored, ?_⟩
    rw [EntityType.capturedEntries, flattened, Option.bind_some, List.getElem?_map, stored]
    rfl
  distinct := (sound.body_wellFormed registry).keys
  inserted := Mapping.ofEntries_of_nodup (sound.body_wellFormed registry).keys
  canonical key member field known := by
    obtain ⟨entry, inBody, rfl⟩ := List.mem_map.mp member
    obtain ⟨slot, found, placed⟩ := EntityType.field?_eq_some_iff.mp known
    obtain ⟨own, value, shows, _, same⟩ :=
      (sound.seenBy_self registry).shows_of_mem_body inBody found
    obtain rfl := Option.some.inj (placed.symm.trans shows.placed)
    exact (Prod.mk.inj same).1
  declared slot field value held := by
    rw [← field.emits_eq_isShown]
    exact held.find?_body registry sound

end Entity

/-- The document of every entity is what the policies of its type ask for. -/
theorem Workspace.Reachable.documents_shaped {space : Workspace} (reached : space.Reachable)
    {entity : Entity} (held : .entity entity ∈ space.targets) :
    ∃ body captured, entity.ShapedByPolicies body captured := by
  have sound := Value.SoundThroughout.object_iff.mp (reached.sound.targets _ held)
  exact ⟨_, _, sound.shapedByPolicies reached.sound.registry⟩

namespace Catalogue

/-- The catch-all is given by an alias, and it is never written under a name of its own. -/
def device : EntityType :=
  (TypeDeclaration.build firstFreeIdentity {
    name := "device"
    declared := [("name", { type := .text, aliases := ["hostname"] }),
      ("vars", { type := .dict, aliases := ["extra"], policy := .never }),
      ("groups", { type := .list, policy := .present }),
      ("secret", { type := .text, policy := .never })]
    catchAll := some ⟨"extra", .flatten⟩
    envelope := some "device" }).value rfl

/-- One of the variables is named like an alias. -/
def deviceVars : Mapping :=
  [("hostname", .text "spine"), ("rack", .text "left")]

def leafDevice : Entity :=
  ⟨device, [.text "leaf", .dict deviceVars, .list [], .text "red"]⟩

theorem leafDevice_reachable : ∃ space : Workspace,
    space.Reachable ∧ .entity leafDevice ∈ space.targets := by
  have start : Workspace.Declared [] firstFreeIdentity := ⟨.start, List.forall_mem_nil _⟩
  have devices : Workspace.Declared [device] (firstFreeIdentity + 1) :=
    start.declare rfl (.plain (List.forall_mem_nil _) rfl)
  have created : device.create [("name", .text "leaf"), ("extra", .dict deviceVars),
      ("secret", .text "red")] = .ok leafDevice := rfl
  have formed : (Document.mapping deviceVars).WellFormed := by
    simp [deviceVars, Document.WellFormed.mapping_iff, Document.WellFormed.text]
  have supplied : Workspace.SuppliesFields ⟨[device], []⟩ [("name", .text "leaf"),
      ("extra", .dict deviceVars), ("secret", .text "red")] := by
    simp only [Workspace.SuppliesFields, List.forall_mem_cons]
    exact ⟨Workspace.supplies_text _, formed, Workspace.supplies_text _, List.forall_mem_nil _⟩
  exact ⟨_, devices.reached.step (.create List.mem_cons_self supplied created),
    List.mem_cons_self⟩

/-- Nothing is written of an empty list, of a secret and of what the alias captured. -/
theorem leafDevice_shaped : ∃ space : Workspace, space.Reachable ∧
    .entity leafDevice ∈ space.targets ∧ ∃ captured,
      leafDevice.ShapedByPolicies [("name", .text "leaf"), ("rack", .text "left")] captured := by
  obtain ⟨space, reached, held⟩ := leafDevice_reachable
  obtain ⟨body, captured, shaped⟩ := reached.documents_shaped held
  have wrapped : leafDevice.serialize = [("device", .mapping body)] := shaped.enveloped "device" rfl
  have written : leafDevice.serialize =
      [("device", .mapping [("name", .text "leaf"), ("rack", .text "left")])] := rfl
  obtain rfl : body = [("name", .text "leaf"), ("rack", .text "left")] := by
    simpa using wrapped.symm.trans written
  exact ⟨space, reached, held, captured, shaped⟩

end Catalogue

end NetworkAutomation
