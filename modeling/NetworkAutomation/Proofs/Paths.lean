/-
This file holds the laws of reading single fields and of the segments that lead inside a target.
-/

import NetworkAutomation.Collection.Path
import NetworkAutomation.Proofs.Entries
import NetworkAutomation.Proofs.Success

namespace NetworkAutomation

namespace Entity

/-- The name leads to a slot that holds the value. -/
def Stores (entity : Entity) (name : String) (value : Value) : Prop :=
  ∃ slot, entity.type.slot? name = some slot ∧ entity.values[slot]? = some value

theorem slot_eq_ok_iff {entity : Entity} {name : String} {slot : Nat} :
    entity.slot name = .ok slot ↔ entity.type.slot? name = some slot := by
  unfold Entity.slot
  cases entity.type.slot? name <;> simp

theorem valueAt_eq_iff {entity : Entity} {slot : Nat} {value : Value} (given : value ≠ .null) :
    entity.valueAt slot = value ↔ entity.values[slot]? = some value := by
  unfold valueAt
  cases stored : entity.values[slot]? with
  | some other => simp
  | none => simpa using fun isNull => given isNull.symm

theorem get_eq_ok_iff {entity : Entity} {name : String} {value : Value} (given : value ≠ .null) :
    entity.get name = .ok value ↔ entity.Stores name value := by
  unfold Entity.get Stores
  rw [Success.bind_eq_ok]
  refine exists_congr fun slot => and_congr slot_eq_ok_iff ?_
  rw [Success.pure_eq_ok, Except.ok.injEq, valueAt_eq_iff given]

/-- A view of a field that succeeds for one kind of values only reads just these values. -/
theorem view_eq_ok_iff {α : Type} {entity : Entity} {name : String}
    {view : Value → Checked α} {wrap : α → Value} (given : ∀ content, wrap content ≠ .null)
    (views : ∀ value content, view value = .ok content ↔ value = wrap content) {content : α} :
    (entity.get name >>= view) = .ok content ↔ entity.Stores name (wrap content) := by
  rw [Success.bind_eq_ok, ← get_eq_ok_iff (given content)]
  constructor
  · rintro ⟨value, taken, viewed⟩
    rwa [(views value content).mp viewed] at taken
  · intro taken
    exact ⟨wrap content, taken, (views _ content).mpr rfl⟩

theorem requireObject_eq_ok_iff {entity object : Entity} {name : String} :
    entity.requireObject name = .ok object ↔ entity.Stores name (.object object) :=
  view_eq_ok_iff (fun _ => Value.noConfusion) fun value content => by
    cases value <;> simp [mismatch]

theorem getDict_eq_ok_iff {entity : Entity} {name : String} {entries : Mapping} :
    entity.getDict name = .ok entries ↔ entity.Stores name (.dict entries) :=
  view_eq_ok_iff (fun _ => Value.noConfusion) fun value content => by
    cases value <;> simp [mismatch]

theorem getIndex_eq_ok_iff {entity : Entity} {name : String} {collection : OrderedCollection} :
    entity.getIndex name = .ok collection ↔ entity.Stores name (.index collection) :=
  view_eq_ok_iff (fun _ => Value.noConfusion) fun value content => by
    cases value <;> simp [mismatch]

theorem getMap_eq_ok_iff {entity : Entity} {name : String} {collection : KeyedCollection} :
    entity.getMap name = .ok collection ↔ entity.Stores name (.map collection) :=
  view_eq_ok_iff (fun _ => Value.noConfusion) fun value content => by
    cases value <;> simp [mismatch]

theorem getText_eq_ok_some_iff {entity : Entity} {name text : String} :
    entity.getText name = .ok (some text) ↔ entity.Stores name (.text text) := by
  rw [← get_eq_ok_iff Value.noConfusion, Entity.getText]
  cases entity.get name with
  | error refusal => simp
  | ok value => cases value <;> simp [mismatch]

theorem replaceField_of_slot? {entity : Entity} {name : String} {slot : Nat}
    (found : entity.type.slot? name = some slot) (value : Value) :
    entity.replaceField name value = entity.withValue slot value := by
  rw [replaceField, found]

@[simp] theorem withValue_type (entity : Entity) (slot : Nat) (value : Value) :
    (entity.withValue slot value).type = entity.type := rfl

@[simp] theorem withValue_values (entity : Entity) (slot : Nat) (value : Value) :
    (entity.withValue slot value).values = entity.values.set slot value := rfl

theorem get_withValue {owner : Entity} {name : String} {slot : Nat}
    (found : owner.type.slot? name = some slot) (inRange : slot < owner.values.length)
    (value : Value) : (owner.withValue slot value).get name = .ok value := by
  have located := slot_eq_ok_iff.mpr (show (owner.withValue slot value).type.slot? name = _ from
    found)
  rw [Entity.get, located, Success.bind_ok, Success.pure_eq_ok, valueAt, withValue_values,
    List.getElem?_set_self inRange, Option.getD_some]

/-- A value that is put where it already stood changes nothing. -/
theorem withValue_of_stored {entity : Entity} {slot : Nat} {value : Value}
    (stored : entity.values[slot]? = some value) : entity.withValue slot value = entity := by
  cases entity
  obtain ⟨inRange, rfl⟩ := List.getElem?_eq_some_iff.mp stored
  rw [withValue, List.set_getElem_self]

theorem Stores.replaceField {entity : Entity} {name : String} {value : Value}
    (stores : entity.Stores name value) : entity.replaceField name value = entity := by
  obtain ⟨slot, found, stored⟩ := stores
  rw [replaceField_of_slot? found, withValue_of_stored stored]

end Entity

namespace Target

/-- A segment leads from a target to what stands in a slot, at a place or under a key. -/
inductive Leads : Target → Segment → Target → Prop where
  | object {owner inner : Entity} {field : String} (stores : owner.Stores field (.object inner)) :
      Leads (.entity owner) (.object field) (.entity inner)
  | index {owner : Entity} {field : String} {inner : OrderedCollection}
      (stores : owner.Stores field (.index inner)) :
      Leads (.entity owner) (.index field) (.ordered inner)
  | map {owner : Entity} {field : String} {inner : KeyedCollection}
      (stores : owner.Stores field (.map inner)) :
      Leads (.entity owner) (.map field) (.keyed inner)
  | position {collection : OrderedCollection} {index : Nat} {inner : Entity}
      (stored : collection.items[index]? = some inner) :
      Leads (.ordered collection) (.position index) (.entity inner)
  | key {collection : KeyedCollection} {key : String} {inner : Entity}
      (stored : Entries.find? collection.entries key = some inner) :
      Leads (.keyed collection) (.key key) (.entity inner)

theorem ofField_map_eq_ok_iff {α : Type} {wrap : α → Target} {checked : Checked α}
    {inner : Target} :
    ofField (checked.map wrap) = .ok inner ↔ ∃ content, checked = .ok content ∧
      inner = wrap content := by
  cases checked with
  | ok content =>
      simp only [Except.map, ofField, Except.ok.injEq, exists_eq_left']
      exact eq_comm
  | error refusal => simp [Except.map, ofField]

/-- One step along a path succeeds exactly where the segment leads somewhere. -/
theorem descend_eq_ok_iff {target inner : Target} {segment : Segment} :
    target.descend segment = .ok inner ↔ target.Leads segment inner := by
  constructor
  · intro descended
    unfold descend at descended
    split at descended
    next owner field =>
      obtain ⟨object, taken, rfl⟩ := ofField_map_eq_ok_iff.mp descended
      exact .object (Entity.requireObject_eq_ok_iff.mp taken)
    next owner field =>
      obtain ⟨collection, taken, rfl⟩ := ofField_map_eq_ok_iff.mp descended
      exact .index (Entity.getIndex_eq_ok_iff.mp taken)
    next owner field =>
      obtain ⟨collection, taken, rfl⟩ := ofField_map_eq_ok_iff.mp descended
      exact .map (Entity.getMap_eq_ok_iff.mp taken)
    next collection index =>
      split at descended
      next item stored =>
        obtain rfl := Except.ok.inj descended
        exact .position stored
      next => contradiction
    next collection key =>
      split at descended
      next item stored =>
        obtain rfl := Except.ok.inj descended
        exact .key stored
      next => contradiction
    next => contradiction
  · intro leads
    cases leads with
    | object stores =>
        exact ofField_map_eq_ok_iff.mpr ⟨_, Entity.requireObject_eq_ok_iff.mpr stores, rfl⟩
    | index stores => exact ofField_map_eq_ok_iff.mpr ⟨_, Entity.getIndex_eq_ok_iff.mpr stores, rfl⟩
    | map stores => exact ofField_map_eq_ok_iff.mpr ⟨_, Entity.getMap_eq_ok_iff.mpr stores, rfl⟩
    | @position collection index inner stored =>
        have found : collection.get? index = some inner := stored
        simp only [descend, found]
    | @key collection key inner stored =>
        have found : collection.get? key = some inner := stored
        simp only [descend, found]

/-- What a segment leads to is put back without any change. -/
theorem Leads.replace_self {target inner : Target} {segment : Segment}
    (leads : target.Leads segment inner) : target.replace segment inner = target := by
  cases leads with
  | object stores => rw [replace, stores.replaceField]
  | index stores => rw [replace, stores.replaceField]
  | map stores => rw [replace, stores.replaceField]
  | @position collection index inner stored =>
      cases collection
      obtain ⟨inRange, rfl⟩ := List.getElem?_eq_some_iff.mp stored
      rw [replace, List.set_getElem_self]
  | @key collection key inner stored =>
      cases collection
      rw [replace, KeyedCollection.replaceItem, KeyedCollection.upsert_eq_put,
        Entries.put_of_find? stored]

/-! ## Whole paths -/

section Edit

variable {α : Type} {operation : Target → Checked (α × Target)} {target : Target}

theorem edit_nil : target.edit operation [] =
    match operation target with
    | .ok result => .ok result
    | .error error => .error (.refused error) := rfl

theorem edit_cons (segment : Segment) (path : List Segment) :
    target.edit operation (segment :: path) = (do
      let inner ← target.descend segment
      let (result, changed) ← inner.edit operation path
      return (result, target.replace segment changed)) := rfl

theorem edit_nil_eq_ok_iff {result : α × Target} :
    target.edit operation [] = .ok result ↔ operation target = .ok result := by
  rw [edit_nil]
  cases operation target <;> simp

theorem edit_cons_eq_ok_iff {segment : Segment} {path : List Segment} {result : α}
    {final : Target} :
    target.edit operation (segment :: path) = .ok (result, final) ↔
      ∃ inner changed, target.Leads segment inner ∧
        inner.edit operation path = .ok (result, changed) ∧
        final = target.replace segment changed := by
  rw [edit_cons, Success.bind_eq_ok]
  constructor
  · rintro ⟨inner, descended, rest⟩
    obtain ⟨⟨own, changed⟩, edited, same⟩ := Success.bind_eq_ok.mp rest
    obtain ⟨rfl, rfl⟩ := Prod.mk.inj (Except.ok.inj same)
    exact ⟨inner, changed, descend_eq_ok_iff.mp descended, edited, rfl⟩
  · rintro ⟨inner, changed, leads, edited, rfl⟩
    exact ⟨inner, descend_eq_ok_iff.mpr leads,
      Success.bind_eq_ok.mpr ⟨(result, changed), edited, rfl⟩⟩

end Edit

end Target

end NetworkAutomation
