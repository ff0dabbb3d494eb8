/-
This file proves that writing a field at the end of a path changes nothing beside the path.
-/

import NetworkAutomation.Proofs.Inventories
import NetworkAutomation.Proofs.KeysInPlace
import NetworkAutomation.Proofs.Readers

namespace NetworkAutomation

/-! ## Everything beside one segment -/

/-- Every slot holds what it held, apart from the slot of the field. -/
structure Entity.SameBeside (owner : Entity) (field : String) (changed : Entity) : Prop where
  sameType : changed.type = owner.type
  length : changed.values.length = owner.values.length
  slots : ∀ slot, owner.type.slot? field ≠ some slot → changed.values[slot]? = owner.values[slot]?

/-- Every element stands where it stood, apart from the one at the place. -/
structure OrderedCollection.SameBeside (collection : OrderedCollection) (place : Nat)
    (changed : OrderedCollection) : Prop where
  itemType : changed.itemType = collection.itemType
  length : changed.items.length = collection.items.length
  items : ∀ other, other ≠ place → changed.items[other]? = collection.items[other]?

/-- The keys stand where they stood, each with its element, apart from the one of the given key. -/
structure KeyedCollection.SameBeside (collection : KeyedCollection) (key : String)
    (changed : KeyedCollection) : Prop where
  itemType : changed.itemType = collection.itemType
  keyField : changed.keyField = collection.keyField
  keys : changed.keys = collection.keys
  entries : ∀ (place : Nat) (entry : String × Entity), collection.entries[place]? = some entry →
    entry.1 ≠ key → changed.entries[place]? = some entry

/-- Two targets differ in nothing but what the segment leads to. -/
def Target.SameBeside : Target → Segment → Target → Prop
  | .entity owner, .object field, .entity changed => owner.SameBeside field changed
  | .entity owner, .index field, .entity changed => owner.SameBeside field changed
  | .entity owner, .map field, .entity changed => owner.SameBeside field changed
  | .ordered collection, .position place, .ordered changed => collection.SameBeside place changed
  | .keyed collection, .key key, .keyed changed => collection.SameBeside key changed
  | _, _, _ => False

theorem Entity.sameBeside_withValue {owner : Entity} {field : String} {slot : Nat}
    (found : owner.type.slot? field = some slot) (value : Value) :
    owner.SameBeside field (owner.withValue slot value) where
  sameType := rfl
  length := List.length_set
  slots other apart := by
    rw [found] at apart
    exact List.getElem?_set_ne fun same => apart (congrArg some same)

theorem Entity.Stores.sameBeside {owner : Entity} {field : String} {former : Value}
    (stores : owner.Stores field former) (value : Value) :
    owner.SameBeside field (owner.replaceField field value) := by
  obtain ⟨slot, found, _⟩ := stores
  rw [replaceField_of_slot? found]
  exact sameBeside_withValue found value

theorem KeyedCollection.sameBeside_replaceItem {collection : KeyedCollection} {key : String}
    {former : Entity} (found : Entries.find? collection.entries key = some former)
    (item : Entity) : collection.SameBeside key (collection.replaceItem key item) := by
  have present : key ∈ Entries.keys collection.entries :=
    Entries.find?_isSome_iff.mp (by rw [found]; rfl)
  refine ⟨rfl, rfl, ?_, fun place entry placed apart => ?_⟩
  · change Entries.keys (upsert collection.entries key item) = Entries.keys collection.entries
    rw [upsert_eq_put, Entries.keys_put, if_pos present]
  · rw [replaceItem, upsert_eq_put]
    exact Entries.getElem?_put placed apart item

namespace Target

variable {target inner changed : Target} {segment : Segment} {path : List Segment}

/-- Putting something back after one step changes nothing beside this step. -/
theorem Leads.sameBeside (leads : target.Leads segment inner)
    (sort : changed.toValue.primitive? = inner.toValue.primitive?) :
    target.SameBeside segment (target.replace segment changed) := by
  cases leads with
  | object stores =>
      cases changed with
      | entity object => exact stores.sameBeside _
      | _ => exact nomatch sort
  | index stores =>
      cases changed with
      | ordered collection => exact stores.sameBeside _
      | _ => exact nomatch sort
  | map stores =>
      cases changed with
      | keyed collection => exact stores.sameBeside _
      | _ => exact nomatch sort
  | position stored =>
      cases changed with
      | entity item =>
          exact ⟨rfl, List.length_set, fun other apart => List.getElem?_set_ne (Ne.symm apart)⟩
      | _ => exact nomatch sort
  | key stored =>
      cases changed with
      | entity item => exact KeyedCollection.sameBeside_replaceItem stored item
      | _ => exact nomatch sort

/-- Exchanging the end of a path changes nothing beside any of its steps. -/
theorem sameBeside_replaceAt {before after : List Segment}
    (resolved : target.resolve (before ++ segment :: after) = .ok inner)
    (sort : changed.toValue.primitive? = inner.toValue.primitive?) : ∃ owner ownerLater,
      target.resolve before = .ok owner ∧
      (target.replaceAt (before ++ segment :: after) changed).resolve before = .ok ownerLater ∧
      owner.SameBeside segment ownerLater := by
  induction before generalizing target with
  | nil =>
      obtain ⟨middle, leads, later⟩ := resolve_cons_eq_ok_iff.mp resolved
      refine ⟨target, _, rfl, rfl, ?_⟩
      rw [List.nil_append, replaceAt, descend_eq_ok_iff.mpr leads]
      exact leads.sameBeside (resolve_replaceAt later sort).2
  | cons first before ih =>
      obtain ⟨middle, leads, later⟩ := resolve_cons_eq_ok_iff.mp resolved
      obtain ⟨owner, ownerLater, reached, reachedLater, same⟩ := ih later
      -- The step into the middle leads to the changed middle, so the rest of the way stays open.
      have leadsBack := (leads.replace_leads (resolve_replaceAt later sort).2).1
      refine ⟨owner, ownerLater, resolve_cons_eq_ok_iff.mpr ⟨middle, leads, reached⟩, ?_, same⟩
      rw [List.cons_append, replaceAt, descend_eq_ok_iff.mpr leads]
      exact resolve_cons_eq_ok_iff.mpr ⟨_, leadsBack, reachedLater⟩

end Target

/-! ## Writing one field -/

/-- The command puts a value through the field of the name, or returns the field to its default. -/
inductive EntityCommand.Writes (type : EntityType) (name : String) :
    EntityCommand → Value → Prop where
  | set {field : Attribute} {given written : Value} (declared : type.field? name = some field)
      (coerced : field.coerce given = .ok written) : Writes type name (.set name given) written
  | delete {field : Attribute} (declared : type.field? name = some field) :
      Writes type name (.delete name) field.default

/-- A field that was written reads as what was written, beside slots that are left alone. -/
theorem EntityCommand.exists_written {types : List EntityType} {owner changed : Entity}
    (sound : owner.SoundThroughout types) {command : EntityCommand} {name : String}
    (writes : command = .delete name ∨ ∃ given, command = .set name given)
    (ran : command.run owner = .ok changed) : ∃ written,
      command.Writes owner.type name written ∧ changed.get name = .ok written ∧
        owner.SameBeside name changed := by
  have inRange {slot : Nat} {field : Attribute}
      (placed : owner.type.attributes[slot]? = some field) : slot < owner.values.length := by
    obtain ⟨_, stored, _⟩ := exists_related sound.here.slots placed
    exact (List.getElem?_eq_some_iff.mp stored).1
  rcases writes with rfl | ⟨given, rfl⟩
  · obtain ⟨slot, field, found, placed, _, rfl⟩ := Entity.delete_eq_ok ran
    exact ⟨field.default, .delete (EntityType.field?_eq_some_iff.mpr ⟨slot, found, placed⟩),
      Entity.get_withValue found (inRange placed) _, Entity.sameBeside_withValue found _⟩
  · obtain ⟨slot, field, written, found, placed, coerced, _, rfl⟩ := Entity.set_eq_ok ran
    exact ⟨written, .set (EntityType.field?_eq_some_iff.mpr ⟨slot, found, placed⟩) coerced,
      Entity.get_withValue found (inRange placed) _, Entity.sameBeside_withValue found _⟩

/--
A field of a nested entity is written through any path. It reads through the same path as what was
written, and nothing is changed beside the field and beside any step of the path.
-/
theorem Workspace.Reachable.edit_stays_on_path {space : Workspace} (reached : space.Reachable)
    {root inner changed : Entity} (held : .entity root ∈ space.targets) {path : List Segment}
    (resolved : (Target.entity root).resolve path = .ok (.entity inner))
    {command : EntityCommand} {name : String}
    (writes : command = .delete name ∨ ∃ given, command = .set name given)
    (ran : command.run inner = .ok changed) : ∃ later written,
      (Target.entity root).edit (Command.run (.entity command)) path = .ok (none, .entity later) ∧
      command.Writes inner.type name written ∧
      (Target.entity later).resolve path = .ok (.entity changed) ∧
      changed.get name = .ok written ∧
      inner.SameBeside name changed ∧
      ∀ before segment after, path = before ++ segment :: after → ∃ owner ownerLater,
        (Target.entity root).resolve before = .ok owner ∧
        (Target.entity later).resolve before = .ok ownerLater ∧
        owner.SameBeside segment ownerLater := by
  have innerSound := Value.SoundThroughout.object_iff.mp
    (Target.resolve_sound (reached.sound.targets _ held) resolved)
  obtain ⟨written, wrote, reads, same⟩ := command.exists_written innerSound writes ran
  have sort : (Target.entity changed).toValue.primitive? =
      (Target.entity inner).toValue.primitive? := rfl
  obtain ⟨found, sameSort⟩ := Target.resolve_replaceAt resolved sort
  have edited : (Target.entity root).edit (Command.run (.entity command)) path =
      .ok (none, (Target.entity root).replaceAt path (.entity changed)) := by
    have along : (Target.entity root).edit (Command.run (.entity command)) (path ++ []) = _ :=
      Target.edit_append resolved []
    rw [List.append_nil, Target.edit_nil, Command.run, ran] at along
    exact along
  cases moved : (Target.entity root).replaceAt path (.entity changed) with
  | entity later =>
      rw [moved] at edited found
      refine ⟨later, written, edited, wrote, found, reads, same,
        fun before segment after split => ?_⟩
      subst split
      rw [← moved]
      exact Target.sameBeside_replaceAt resolved sort
  | _ collection =>
      rw [moved] at sameSort
      cases sameSort

namespace Catalogue

def bareHost (name : String) : Entity :=
  ⟨host, [.text name, .null, .null, .null, .null, .dict []]⟩

/-- An inventory with one group, which holds two hosts. -/
def fabric : Entity :=
  ⟨inventory, [.map ⟨host, "name", []⟩,
    .map ⟨child, "name", [("fabric", ⟨child, [.text "fabric", .map ⟨host, "name",
      [("leaf", bareHost "leaf"), ("spine", bareHost "spine")]⟩, .dict []]⟩)]⟩,
    .dict []]⟩

theorem fabric_reachable : Workspace.Reachable ⟨types.reverse, [.entity fabric]⟩ := by
  let document : Document := .mapping [("all", .mapping [("children", .mapping [("fabric",
    .mapping [("hosts", .mapping [("leaf", .mapping []), ("spine", .null)])])])])]
  have formed : document.WellFormed := by
    simp [document, Document.WellFormed.mapping_iff, Document.WellFormed.null]
  exact Workspace.catalogue_declared.reached.step (.read (by simp [types]) formed (show
    inventory.readDocument document = .ok fabric from rfl))

/-- The address of one host is set through the group, and the other host stays in its place. -/
theorem fabric_addressed :
    let hosts : List Segment := [.map "children", .key "fabric", .map "hosts"]
    let command : EntityCommand := .set "ansible_host" (.text "10.0.0.1")
    ∃ later leaf collection,
      (Target.entity fabric).edit (Command.run (.entity command)) (hosts ++ [.key "leaf"]) =
        .ok (none, .entity later) ∧
      (Target.entity later).resolve (hosts ++ [.key "leaf"]) = .ok (.entity leaf) ∧
      leaf.get "ansible_host" = .ok (.text "10.0.0.1") ∧
      (Target.entity later).resolve hosts = .ok (.keyed collection) ∧
      collection.entries[1]? = some ("spine", bareHost "spine") := by
  intro hosts command
  have ran : command.run (bareHost "leaf") =
      .ok ((bareHost "leaf").withValue 1 (.text "10.0.0.1")) := rfl
  obtain ⟨later, written, edited, _, found, reads, _, frame⟩ :=
    fabric_reachable.edit_stays_on_path List.mem_cons_self (show
      (Target.entity fabric).resolve (hosts ++ [.key "leaf"]) = .ok (.entity (bareHost "leaf"))
      from rfl) (.inr ⟨_, rfl⟩) ran
  obtain ⟨owner, ownerLater, reached, reachedLater, same⟩ := frame hosts (.key "leaf") [] rfl
  obtain rfl := Except.ok.inj reached
  cases ownerLater with
  | keyed collection =>
      exact ⟨later, _, collection, edited, found, rfl, reachedLater,
        same.entries 1 _ rfl (by decide)⟩
  | _ => exact same.elim

end Catalogue

end NetworkAutomation
