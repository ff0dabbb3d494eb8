/-
This file describes keyed collections by maps that keep their keys in the order of insertion.
-/

import NetworkAutomation.Proofs.Collections
import NetworkAutomation.Proofs.InPlace

namespace NetworkAutomation

/-- The content is a function, so no key can stand for two elements. -/
structure InsertionMap where
  order : List String
  content : String → Option Entity

/-- A keyed collection is changed as a whole, or inside one of its elements. -/
inductive KeyedUse where
  | whole (command : KeyedCommand)
  | element (key : String) (path : List Segment) (command : Command)

/-- An edit leads from an entity to an entity. -/
def Target.entityOr (former : Entity) : Target → Entity
  | .entity changed => changed
  | _ => former

namespace InsertionMap

def empty : InsertionMap :=
  ⟨[], fun _ => none⟩

/-- A present key keeps its place, and an absent key comes last. -/
def put (map : InsertionMap) (key : String) (item : Entity) : InsertionMap where
  order := if key ∈ map.order then map.order else map.order ++ [key]
  content := Function.update map.content key (some item)

def erase (map : InsertionMap) (key : String) : InsertionMap where
  order := map.order.erase key
  content := Function.update map.content key none

def ofEntries (entries : List (String × Entity)) : InsertionMap :=
  entries.foldl (fun map entry => map.put entry.1 entry.2) empty

/-- The frame says which elements the map takes and which field of them holds the key. -/
def run (frame : KeyedCollection) (map : InsertionMap) :
    KeyedCommand → Checked (Option Entity × InsertionMap)
  | .add item => do
      frame.checkItem item
      let key ← frame.keyOf item
      return (map.content key, map.put key item)
  | .insert key item => do
      frame.checkItem item
      let keyed ← item.set frame.keyField (.text key)
      return (map.content key, map.put key keyed)
  | .create fields => do
      let item ← frame.itemType.create fields
      let key ← frame.keyOf item
      if (map.content key).isSome then .error (.duplicateKey key)
      else return (some item, map.put key item)
  | .remove key => return (map.content key, map.erase key)
  | .clear => return (none, empty)
  | .deserialize document => do
      let entries ← document.mapM
        (KeyedCollection.readEntry frame.itemType frame.keyField frame.itemType.read)
      return (none, ofEntries entries)

def use (frame : KeyedCollection) (map : InsertionMap) :
    KeyedUse → Except PathError (Option Entity × InsertionMap)
  | .whole command => (map.run frame command).mapError .refused
  | .element key path command =>
      match map.content key with
      | some item => do
          let (answer, changed) ← (Target.entity item).edit command.run path
          return (answer, map.put key (changed.entityOr item))
      | none => .error (.noElement (.key key))

/-- Only the element type and the key field of the frame count. -/
theorem use_congr {frame other : KeyedCollection} (items : frame.itemType = other.itemType)
    (keys : frame.keyField = other.keyField) (map : InsertionMap) (use : KeyedUse) :
    map.use frame use = map.use other use := by
  obtain ⟨itemType, keyField, _⟩ := frame
  obtain ⟨_, _, _⟩ := other
  cases items
  cases keys
  cases use with
  | element key path command => rfl
  | whole command => cases command <;> rfl

end InsertionMap

namespace KeyedUse

/-- A use of a keyed collection is a command at the end of a path. -/
def path : KeyedUse → List Segment
  | .whole _ => []
  | .element key path _ => .key key :: path

def toCommand : KeyedUse → Command
  | .whole command => .keyed command
  | .element _ _ command => command

def run (collection : KeyedCollection) :
    KeyedUse → Except PathError (Option Entity × KeyedCollection)
  | .whole command => (command.run collection).mapError .refused
  | .element key path command =>
      match collection.get? key with
      | some item => do
          let (answer, changed) ← (Target.entity item).edit command.run path
          return (answer, collection.withEntry key (changed.entityOr item))
      | none => .error (.noElement (.key key))

end KeyedUse

/-- What has no entity in it cannot be put back under a key. -/
theorem Target.replace_key {collection : KeyedCollection} {key : String} {item : Entity}
    (found : collection.get? key = some item) (changed : Target) :
    (Target.keyed collection).replace (.key key) changed =
      .keyed (collection.withEntry key (changed.entityOr item)) := by
  have same : collection.withEntry key item = collection := by
    cases collection
    rw [KeyedCollection.withEntry, Entries.put_of_find? found]
  cases changed with
  | entity element =>
      rw [replace, KeyedCollection.replaceItem, KeyedCollection.upsert_eq_put]
      rfl
  | ordered inner => exact congrArg Target.keyed same.symm
  | keyed inner => exact congrArg Target.keyed same.symm

/-- The uses are just the edits at their paths. -/
theorem KeyedUse.edit_eq_run (use : KeyedUse) (collection : KeyedCollection) :
    (Target.keyed collection).edit use.toCommand.run use.path =
      (use.run collection).map fun result => (result.1, .keyed result.2) := by
  cases use with
  | whole command =>
      rw [path, Target.edit_nil, toCommand, Command.run, run]
      cases command.run collection <;> rfl
  | element key path command =>
      rw [KeyedUse.path, Target.edit_cons, toCommand, Target.descend, run]
      cases found : collection.get? key with
      | none => rfl
      | some item =>
          simp only [Success.bind_ok, Target.replace_key found]
          cases (Target.entity item).edit command.run path <;> rfl

/-! ## Views -/

namespace KeyedCollection

/-- What the collection is as a map. -/
def view (collection : KeyedCollection) : InsertionMap :=
  ⟨collection.keys, collection.get?⟩

theorem view_withEntry (collection : KeyedCollection) (key : String) (item : Entity) :
    (collection.withEntry key item).view = collection.view.put key item := by
  have order := Entries.keys_put collection.entries key item
  have content := Entries.find?_put collection.entries key item
  exact congrArg₂ InsertionMap.mk order content

/-- Under distinct keys no second entry comes to light where the first one is erased. -/
theorem view_withoutEntry {collection : KeyedCollection} (distinct : collection.keys.Nodup)
    (key : String) : (collection.withoutEntry key).view = collection.view.erase key := by
  have order := Entries.keys_eraseP collection.entries key
  have content := Entries.find?_eraseP distinct key
  exact congrArg₂ InsertionMap.mk order content

/-- Entries under distinct keys make up the map that they are put into one by one. -/
theorem view_of_nodup {collection : KeyedCollection} (distinct : collection.keys.Nodup) :
    collection.view = InsertionMap.ofEntries collection.entries := by
  have folds (added start : List (String × Entity)) :
      added.foldl (fun map entry => map.put entry.1 entry.2)
          (InsertionMap.mk (Entries.keys start) (Entries.find? start)) =
        let filled := added.foldl (fun entries entry => Entries.put entries entry.1 entry.2) start
        ⟨Entries.keys filled, Entries.find? filled⟩ := by
    induction added generalizing start with
    | nil => rfl
    | cons entry rest ih =>
        rw [List.foldl_cons, List.foldl_cons, ← ih, Entries.keys_put, Entries.find?_put]
        rfl
  have filled := Entries.foldl_put_of_nodup collection.entries [] distinct
  have whole := folds collection.entries []
  rw [filled, List.nil_append] at whole
  exact whole.symm

theorem contains_eq_isSome (collection : KeyedCollection) (key : String) :
    collection.contains key = (collection.get? key).isSome := by
  rw [Bool.eq_iff_iff, contains_iff]
  exact Entries.find?_isSome_iff.symm

end KeyedCollection

namespace KeyedUse

/-- A new element comes last in the map as in the collection, or its key is taken in both. -/
theorem create_refines (collection : KeyedCollection) (fields : List (String × Value)) :
    collection.view.run collection (.create fields) =
      ((KeyedCommand.create fields).run collection).map fun result =>
        (result.1, result.2.view) := by
  rw [InsertionMap.run, KeyedCommand.run, KeyedCollection.create]
  cases collection.itemType.create fields with
  | error refusal => rfl
  | ok item =>
      simp only [Success.bind_ok]
      cases collection.keyOf item with
      | error refusal => rfl
      | ok key =>
          have present : (collection.view.content key).isSome = collection.contains key :=
            (collection.contains_eq_isSome key).symm
          simp only [Success.bind_ok, present]
          cases free : collection.contains key with
          | true => rfl
          | false =>
              have absent : key ∉ Entries.keys collection.entries := by
                rw [← KeyedCollection.contains_iff, free]
                exact Bool.false_ne_true
              have put := collection.view_withEntry key item
              rw [KeyedCollection.withEntry, Entries.put_of_absent absent] at put
              exact congrArg (fun map => Except.ok (some item, map)) put.symm

/-- A command has the effect on the map that it has on the collection. -/
theorem command_refines {collection : KeyedCollection} (distinct : collection.keys.Nodup)
    {command : KeyedCommand}
    (kept : ∀ answer changed, command.run collection = .ok (answer, changed) →
      changed.keys.Nodup) :
    collection.view.run collection command =
      (command.run collection).map fun result => (result.1, result.2.view) := by
  cases command with
  | add item =>
      rw [InsertionMap.run, KeyedCommand.run, KeyedCollection.add]
      cases collection.checkItem item with
      | error refusal => rfl
      | ok checked =>
          cases collection.keyOf item with
          | error refusal => rfl
          | ok key =>
              simp only [Success.bind_ok, Success.pure_eq_ok, KeyedCollection.put_eq, Except.map,
                KeyedCollection.view_withEntry]
              rfl
  | insert key item =>
      rw [InsertionMap.run, KeyedCommand.run, KeyedCollection.insert]
      cases collection.checkItem item with
      | error refusal => rfl
      | ok checked =>
          cases item.set collection.keyField (.text key) with
          | error refusal => rfl
          | ok keyed =>
              simp only [Success.bind_ok, Success.pure_eq_ok, KeyedCollection.put_eq, Except.map,
                KeyedCollection.view_withEntry]
              rfl
  | create fields => exact create_refines collection fields
  | remove key =>
      rw [InsertionMap.run, KeyedCommand.run, KeyedCollection.remove_eq]
      simp only [Success.pure_eq_ok, Except.map, KeyedCollection.view_withoutEntry distinct]
      rfl
  | clear => rfl
  | deserialize document =>
      rw [InsertionMap.run]
      rw [KeyedCommand.run, KeyedCollection.deserialize, KeyedCollection.readEntries] at kept ⊢
      cases taken : document.mapM (KeyedCollection.readEntry collection.itemType
          collection.keyField collection.itemType.read) with
      | error refusal => rfl
      | ok entries =>
          rw [taken] at kept
          have distinctEntries := kept _ _ rfl
          simp only [Success.bind_ok, Success.pure_eq_ok, Except.map,
            KeyedCollection.view_of_nodup distinctEntries]

/-- A use has the effect on the map that it has on the collection. -/
theorem refines {collection : KeyedCollection} (distinct : collection.keys.Nodup) {use : KeyedUse}
    (kept : ∀ answer changed, use.run collection = .ok (answer, changed) → changed.keys.Nodup) :
    collection.view.use collection use =
      (use.run collection).map fun result => (result.1, result.2.view) := by
  cases use with
  | whole command =>
      have performed : collection.view.run collection command =
          (command.run collection).map fun result => (result.1, result.2.view) := by
        apply command_refines distinct
        intro answer changed ran
        apply kept answer
        rw [run, ran]
        rfl
      rw [InsertionMap.use, performed, run]
      cases command.run collection <;> rfl
  | element key path command =>
      change (match collection.get? key with
        | some item => _
        | none => _) = _
      rw [run]
      cases collection.get? key with
      | none => rfl
      | some item =>
          dsimp only
          cases (Target.entity item).edit command.run path with
          | error refusal => rfl
          | ok result =>
              simp only [Success.bind_ok, Success.pure_eq_ok, Except.map,
                KeyedCollection.view_withEntry]

end KeyedUse

end NetworkAutomation
