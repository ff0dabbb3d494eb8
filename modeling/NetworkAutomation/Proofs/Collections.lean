/-
This file states what the operations on ordered and keyed collections come down to.
-/

import NetworkAutomation.Proofs.Command
import NetworkAutomation.Proofs.Paths

namespace NetworkAutomation

namespace OrderedCollection

variable {collection changed : OrderedCollection} {item : Entity} {index : Nat}

theorem checkItem_eq_ok_iff :
    collection.checkItem item = .ok () ↔ item.instanceOf collection.itemType = true := by
  unfold checkItem
  cases item.instanceOf collection.itemType <;> simp

theorem append_eq_ok_iff :
    collection.append item = .ok changed ↔ item.instanceOf collection.itemType = true ∧
      changed = { collection with items := collection.items ++ [item] } := by
  unfold append
  rw [Success.check_bind_eq_ok, ← checkItem_eq_ok_iff]
  simp only [Success.pure_eq_ok, Except.ok.injEq, @eq_comm _ changed]

theorem insert_eq_ok_iff :
    collection.insert index item = .ok changed ↔ item.instanceOf collection.itemType = true ∧
      changed = { collection with
        items := collection.items.take index ++ item :: collection.items.drop index } := by
  unfold insert
  rw [Success.check_bind_eq_ok, ← checkItem_eq_ok_iff]
  simp only [Success.pure_eq_ok, Except.ok.injEq, @eq_comm _ changed]

theorem replace_eq_ok_iff {previous : Entity} :
    collection.replace index item = .ok (previous, changed) ↔
      item.instanceOf collection.itemType = true ∧ collection.items[index]? = some previous ∧
        changed = { collection with items := collection.items.set index item } := by
  unfold replace get?
  rw [Success.check_bind_eq_ok, ← checkItem_eq_ok_iff]
  cases collection.items[index]? with
  | some found => simp [@eq_comm _ changed]
  | none => simp

theorem remove_eq_ok_iff {removed : Entity} :
    collection.remove index = .ok (removed, changed) ↔
      collection.items[index]? = some removed ∧
        changed = { collection with items := collection.items.eraseIdx index } := by
  unfold remove get?
  cases collection.items[index]? with
  | some found => simp [@eq_comm _ changed]
  | none => simp

theorem create_eq_ok_iff {fields : List (String × Value)} {created : Entity} :
    collection.create fields = .ok (created, changed) ↔
      collection.itemType.create fields = .ok created ∧
        changed = { collection with items := collection.items ++ [created] } := by
  unfold create
  rw [Success.bind_eq_ok]
  simp only [Success.pure_eq_ok, Except.ok.injEq, Prod.mk.injEq]
  constructor
  · rintro ⟨own, made, rfl, rfl⟩
    exact ⟨made, rfl⟩
  · rintro ⟨made, rfl⟩
    exact ⟨created, made, rfl, rfl⟩

end OrderedCollection

namespace KeyedCollection

variable {collection changed : KeyedCollection} {item : Entity} {key : String}

theorem checkItem_eq_ok_iff :
    collection.checkItem item = .ok () ↔ item.instanceOf collection.itemType = true := by
  unfold checkItem
  cases item.instanceOf collection.itemType <;> simp

/-- An element has a key where its key field holds a text. -/
theorem keyOf_eq_ok_iff :
    collection.keyOf item = .ok key ↔ item.Stores collection.keyField (.text key) := by
  rw [← Entity.getText_eq_ok_some_iff, keyOf]
  cases item.getText collection.keyField with
  | error refusal => simp
  | ok read => cases read <;> simp

theorem contains_iff : collection.contains key = true ↔ key ∈ Entries.keys collection.entries := by
  unfold contains Entries.keys
  simp only [List.any_eq_true, List.mem_map, beq_iff_eq]

/-- Under the key the element takes a present place or the place behind the last one. -/
def withEntry (collection : KeyedCollection) (key : String) (item : Entity) : KeyedCollection :=
  { collection with entries := Entries.put collection.entries key item }

theorem put_eq (collection : KeyedCollection) (key : String) (item : Entity) :
    collection.put key item =
      (Entries.find? collection.entries key, collection.withEntry key item) := by
  rw [put, withEntry, upsert_eq_put]
  rfl

theorem add_eq_ok_iff {result : Option Entity × KeyedCollection} :
    collection.add item = .ok result ↔ item.instanceOf collection.itemType = true ∧
      ∃ key, item.Stores collection.keyField (.text key) ∧
        result = (Entries.find? collection.entries key, collection.withEntry key item) := by
  unfold add
  rw [Success.check_bind_eq_ok, ← checkItem_eq_ok_iff]
  simp only [Success.bind_eq_ok, keyOf_eq_ok_iff, Success.pure_eq_ok, Except.ok.injEq, put_eq,
    @eq_comm _ result]

theorem insert_eq_ok_iff {result : Option Entity × KeyedCollection} :
    collection.insert key item = .ok result ↔ item.instanceOf collection.itemType = true ∧
      ∃ keyed, item.set collection.keyField (.text key) = .ok keyed ∧
        result = (Entries.find? collection.entries key, collection.withEntry key keyed) := by
  unfold insert
  rw [Success.check_bind_eq_ok, ← checkItem_eq_ok_iff]
  simp only [Success.bind_eq_ok, Success.pure_eq_ok, Except.ok.injEq, put_eq,
    @eq_comm _ result]

/-- A created element stands under a key that was free, behind all others. -/
theorem create_eq_ok_iff {fields : List (String × Value)} {created : Entity} :
    collection.create fields = .ok (created, changed) ↔
      collection.itemType.create fields = .ok created ∧
      ∃ key, created.Stores collection.keyField (.text key) ∧
        key ∉ Entries.keys collection.entries ∧ changed = collection.withEntry key created := by
  unfold create
  simp only [Success.bind_eq_ok, keyOf_eq_ok_iff, ← contains_iff, Bool.not_eq_true]
  constructor
  · rintro ⟨own, made, key, stores, rest⟩
    split at rest
    next => contradiction
    next free =>
      obtain ⟨rfl, rfl⟩ := Prod.mk.inj (Except.ok.inj rest)
      have absent := mt contains_iff.mpr free
      refine ⟨made, key, stores, by simpa using free, ?_⟩
      rw [withEntry, Entries.put_of_absent absent]
  · rintro ⟨made, key, stores, free, rfl⟩
    have absent : key ∉ Entries.keys collection.entries := by
      rw [← contains_iff, free]
      exact Bool.false_ne_true
    refine ⟨created, made, key, stores, ?_⟩
    rw [free, withEntry, Entries.put_of_absent absent]
    rfl

/-- The elements that are left when the entry of the key is gone. -/
def withoutEntry (collection : KeyedCollection) (key : String) : KeyedCollection :=
  { collection with entries := collection.entries.eraseP fun entry => entry.1 == key }

theorem remove_eq (collection : KeyedCollection) (key : String) :
    collection.remove key =
      (Entries.find? collection.entries key, collection.withoutEntry key) := rfl

end KeyedCollection

end NetworkAutomation
