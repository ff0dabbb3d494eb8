/-
This file proves that keyed collections behave as maps that keep the order of insertion.
-/

import NetworkAutomation.Proofs.InsertionMap
import NetworkAutomation.Proofs.Inventories
import NetworkAutomation.Proofs.Layout
import NetworkAutomation.Proofs.Preservation

namespace NetworkAutomation

/-! ## Sequences of uses -/

section Sequence

variable {ε υ α σ τ : Type}

/-- The answers to all uses and the state behind the last one, where a failure changes nothing. -/
def performAll (step : σ → υ → Except ε (α × σ)) : List υ → σ → List (Except ε α) × σ
  | [], state => ([], state)
  | use :: rest, state =>
      let (answer, next) := InPlace.settle (step state use) state
      let (answers, final) := performAll step rest next
      (answer :: answers, final)

/-- Where every step shows in the view, every sequence of steps does. -/
theorem performAll_simulates {step : σ → υ → Except ε (α × σ)} {shown : τ → υ → Except ε (α × τ)}
    {view : σ → τ} {Keeps : σ → Prop} {uses : List υ}
    (follows : ∀ use ∈ uses, ∀ state, Keeps state →
      shown (view state) use = (step state use).map (fun result => (result.1, view result.2)) ∧
        ∀ answer next, step state use = .ok (answer, next) → Keeps next)
    {state : σ} (keeps : Keeps state) :
    performAll shown uses (view state) =
        ((performAll step uses state).1, view (performAll step uses state).2) ∧
      Keeps (performAll step uses state).2 := by
  induction uses generalizing state with
  | nil => exact ⟨rfl, keeps⟩
  | cons use rest ih =>
      have later {next : σ} (nextKeeps : Keeps next) :=
        ih (fun other member => follows other (List.mem_cons_of_mem _ member)) nextKeeps
      obtain ⟨first, kept⟩ := follows use List.mem_cons_self state keeps
      rw [performAll, performAll, first]
      cases taken : step state use with
      | error refusal =>
          obtain ⟨same, final⟩ := later keeps
          refine ⟨?_, final⟩
          simp only [Except.map, InPlace.settle_error, same]
      | ok result =>
          obtain ⟨answer, next⟩ := result
          obtain ⟨same, final⟩ := later (kept answer next taken)
          refine ⟨?_, final⟩
          simp only [Except.map, InPlace.settle_ok, same]

end Sequence

/-! ## Laws of maps -/

namespace KeyedCollection

/-- All that callers can ask the collection for is what the map holds. -/
structure Shows (collection : KeyedCollection) (map : InsertionMap) : Prop where
  keys : collection.keys = map.order
  length : collection.length = map.order.length
  found : ∀ key, collection.get? key = map.content key
  contained : ∀ key, collection.contains key = (map.content key).isSome
  written : collection.serialize = map.order.filterMap fun key =>
    (map.content key).map fun item => (key, entryDocument collection.keyField item.serialize)

/--
The element has come under the key that it reads, in the place of the previous element or behind
all others, and nothing else has changed.
-/
structure Puts (collection : KeyedCollection) (key : String) (item : Entity)
    (previous : Option Entity) (changed : KeyedCollection) : Prop where
  returned : previous = collection.get? key
  placed : changed.keys =
    if key ∈ collection.keys then collection.keys else collection.keys ++ [key]
  found : changed.get? key = some item
  reads : item.getText collection.keyField = .ok (some key)
  others : ∀ other, other ≠ key → changed.get? other = collection.get? other

/-- What holds of a collection at all times, and what the commands do to it. -/
structure Lawful (space : Workspace) (collection : KeyedCollection) : Prop where
  distinct : collection.keys.Nodup
  instances : ∀ entry ∈ collection.entries, entry.2.instanceOf collection.itemType = true
  add : ∀ item answer changed, collection.add item = .ok (answer, changed) →
    ∃ key, collection.Puts key item answer changed
  insert : ∀ key item answer changed, .entity item ∈ space.targets →
    collection.insert key item = .ok (answer, changed) →
    ∃ keyed, item.set collection.keyField (.text key) = .ok keyed ∧
      collection.Puts key keyed answer changed
  create : ∀ fields item changed, collection.create fields = .ok (item, changed) →
    ∃ key, key ∉ collection.keys ∧ collection.Puts key item none changed
  duplicate : ∀ fields item key, collection.itemType.create fields = .ok item →
    item.getText collection.keyField = .ok (some key) → key ∈ collection.keys →
    collection.create fields = .error (.duplicateKey key)
  remove : ∀ key, collection.remove key = (collection.get? key,
    { collection with entries := collection.entries.filter fun entry => entry.1 != key })
  whole : Mapping.ofEntries collection.serialize = collection.serialize ∧
    Entries.keys collection.serialize = collection.keys

variable {collection changed : KeyedCollection} {key : String} {item : Entity}

/-- The entries are what is found under the keys, in their order. -/
theorem entries_eq_filterMap (distinct : collection.keys.Nodup) :
    collection.entries = collection.keys.filterMap fun key =>
      (collection.get? key).map fun item => (key, item) := by
  have each : ∀ entry ∈ collection.entries,
      ((collection.get? entry.1).map fun item => (entry.1, item)) = some entry := by
    intro entry member
    have found : collection.get? entry.1 = some entry.2 :=
      (Entries.find?_eq_some_iff distinct).mpr member
    rw [found, Option.map_some]
  rw [keys, List.filterMap_map]
  refine List.filterMap_some.symm.trans (List.filterMap_congr fun entry member => ?_)
  exact (each entry member).symm

theorem shows_view (distinct : collection.keys.Nodup) : collection.Shows collection.view where
  keys := rfl
  length := (List.length_map Prod.fst).symm
  found key := rfl
  contained := collection.contains_eq_isSome
  written := by
    have written := serialize_eq collection
    rw [entries_eq_filterMap distinct, List.map_filterMap] at written
    simp only [Option.map_map, Function.comp_def] at written
    exact written

/-- An element that reads its key can be put under it. -/
theorem withEntry_puts (reads : item.getText collection.keyField = .ok (some key)) :
    collection.Puts key item (collection.get? key) (collection.withEntry key item) where
  returned := rfl
  placed := Entries.keys_put collection.entries key item
  found := by
    have found := congrFun (Entries.find?_put collection.entries key item) key
    rwa [Function.update_self] at found
  reads := reads
  others other different := by
    have found := congrFun (Entries.find?_put collection.entries key item) other
    rwa [Function.update_of_ne different] at found

/-- Sound collections obey the laws of maps. -/
theorem lawful {space : Workspace} (spaceSound : space.Sound)
    (sound : Value.SoundThroughout space.types (.map collection)) : collection.Lawful space where
  distinct := sound.here.distinct
  instances := sound.here.items
  add item answer changed added := by
    obtain ⟨_, key, stores, same⟩ := add_eq_ok_iff.mp added
    obtain ⟨rfl, rfl⟩ := Prod.mk.inj same
    exact ⟨key, withEntry_puts (Entity.getText_eq_ok_some_iff.mpr stores)⟩
  insert key item answer changed given inserted := by
    obtain ⟨_, keyed, set, same⟩ := insert_eq_ok_iff.mp inserted
    obtain ⟨rfl, rfl⟩ := Prod.mk.inj same
    have stores := Entity.stores_of_set_text (spaceSound.suppliedItem given) set
    exact ⟨keyed, set, withEntry_puts (Entity.getText_eq_ok_some_iff.mpr stores)⟩
  create fields item changed created := by
    obtain ⟨_, key, stores, absent, rfl⟩ := create_eq_ok_iff.mp created
    have puts := withEntry_puts (Entity.getText_eq_ok_some_iff.mpr stores)
    have missing : collection.get? key = none := Entries.find?_eq_none_iff.mpr absent
    rw [missing] at puts
    exact ⟨key, absent, puts⟩
  duplicate fields item key made reads present := by
    have keyed : collection.keyOf item = .ok key :=
      keyOf_eq_ok_iff.mpr (Entity.getText_eq_ok_some_iff.mp reads)
    have taken : collection.contains key = true := contains_iff.mpr present
    rw [KeyedCollection.create, made]
    simp only [Success.bind_ok, keyed, taken, if_true]
  remove key := by
    rw [remove_eq, withoutEntry, Entries.eraseP_eq_filter sound.here.distinct]
    rfl
  whole := by
    have keys := collection.keys_serialize
    refine ⟨Mapping.ofEntries_of_nodup ?_, keys⟩
    rw [keys]
    exact sound.here.distinct

end KeyedCollection

/-! ## Collections in use -/

/-- A collection in use stays sound, and it keeps its element type and its key field. -/
structure KeyedCollection.Keeps (space : Workspace) (start collection : KeyedCollection) :
    Prop where
  sound : Value.SoundThroughout space.types (.map collection)
  framed : (Value.map start).SameFrame (.map collection)

theorem KeyedUse.run_keeps {space : Workspace} (spaceSound : space.Sound)
    {start collection next : KeyedCollection} (keeps : start.Keeps space collection)
    {use : KeyedUse} (supplied : space.SuppliesCommand use.toCommand) {answer : Option Entity}
    (ran : use.run collection = .ok (answer, next)) : start.Keeps space next := by
  have edited := use.edit_eq_run collection
  rw [ran] at edited
  have targetSound : (Target.keyed collection).toValue.SoundThroughout space.types := keeps.sound
  obtain ⟨sound, framed⟩ := Target.edit_sound spaceSound.registry
    (fun target answer changed held taken => spaceSound.command supplied held taken)
    targetSound edited
  exact ⟨sound, framed.kind.trans keeps.framed.kind, framed.item.trans keeps.framed.item,
    framed.key.trans keeps.framed.key⟩

/--
However a keyed collection is used, it answers as a map that keeps its keys in the order of
insertion, it shows what this map holds, and it obeys the laws of maps.
-/
theorem KeyedCollection.refines_insertionMap {space : Workspace} (reached : space.Reachable)
    {itemType : EntityType} (known : itemType ∈ space.types) {keyField : String}
    {start : KeyedCollection} (opened : withKey itemType keyField = .ok start)
    {uses : List KeyedUse} (supplied : ∀ use ∈ uses, space.SuppliesCommand use.toCommand) :
    let used := performAll KeyedUse.run uses start
    let map := performAll (InsertionMap.use start) uses .empty
    used.1 = map.1 ∧ used.2.Shows map.2 ∧ used.2.Lawful space ∧
      used.2.itemType = itemType ∧ used.2.keyField = keyField := by
  intro used map
  have spaceSound := reached.sound
  obtain ⟨startSound, isStart⟩ := withKey_sound known opened
  have follows : ∀ use ∈ uses, ∀ collection, start.Keeps space collection →
      collection.view.use start use =
          (use.run collection).map (fun result => (result.1, result.2.view)) ∧
        ∀ answer next, use.run collection = .ok (answer, next) → start.Keeps space next := by
    intro use member collection keeps
    have kept (answer : Option Entity) (next : KeyedCollection)
        (ran : use.run collection = .ok (answer, next)) : start.Keeps space next :=
      KeyedUse.run_keeps spaceSound keeps (supplied use member) ran
    refine ⟨?_, kept⟩
    have items := Option.some.inj keeps.framed.item
    have keys := Option.some.inj keeps.framed.key
    rw [InsertionMap.use_congr items.symm keys.symm]
    exact KeyedUse.refines keeps.sound.here.distinct
      fun answer next ran => (kept answer next ran).sound.here.distinct
  have blank : start.view = .empty := by
    rw [isStart]
    rfl
  have simulated := performAll_simulates follows ⟨startSound, rfl, rfl, rfl⟩
  rw [blank] at simulated
  obtain ⟨same, keeps⟩ := simulated
  have items : used.2.itemType = start.itemType := Option.some.inj keeps.framed.item
  have keys : used.2.keyField = start.keyField := Option.some.inj keeps.framed.key
  have shows := shows_view keeps.sound.here.distinct
  have answers : used.1 = map.1 := (congrArg Prod.fst same).symm
  have final : map.2 = used.2.view := congrArg Prod.snd same
  refine ⟨answers, final ▸ shows, lawful spaceSound keeps.sound, ?_, ?_⟩
  · rw [items, isStart]
  · rw [keys, isStart]

/-- A host is added, changed, refused under its own name, stored under another name and removed. -/
theorem Catalogue.leaf_mapped :
    let uses : List KeyedUse := [
      .whole (.add leaf),
      .element "leaf" [] (.entity (.set "ansible_host" (.text "10.0.0.1"))),
      .whole (.create [("name", .text "leaf")]),
      .whole (.insert "spine" leaf),
      .whole (.remove "leaf")]
    let start : KeyedCollection := ⟨host, "name", []⟩
    let used := performAll KeyedUse.run uses start
    let map := performAll (InsertionMap.use start) uses .empty
    map.2.order = ["spine"] ∧ used.1 = map.1 ∧ used.2.Shows map.2 ∧
      used.2.Lawful ⟨types.reverse,
        [.entity (inventoryOf [("leaf", leaf)]), .entity (inventoryOf []), .entity leaf]⟩ := by
  intro uses start used map
  have known : host ∈ types.reverse := by simp [types]
  have opened : KeyedCollection.withKey host "name" = .ok start := rfl
  have supplied : ∀ use ∈ uses, Workspace.SuppliesCommand ⟨types.reverse,
      [.entity (inventoryOf [("leaf", leaf)]), .entity (inventoryOf []), .entity leaf]⟩
      use.toCommand := by
    simp only [uses, List.forall_mem_cons]
    refine ⟨?_, Workspace.supplies_text _, ?_, ?_, trivial, List.forall_mem_nil _⟩
    · simp [KeyedUse.toCommand, Workspace.SuppliesCommand, Workspace.SuppliesKeyedCommand]
    · exact List.forall_mem_singleton.mpr (Workspace.supplies_text "leaf")
    · simp [KeyedUse.toCommand, Workspace.SuppliesCommand, Workspace.SuppliesKeyedCommand]
  obtain ⟨answers, shows, lawful, _⟩ :=
    KeyedCollection.refines_insertionMap leaf_reachable known opened supplied
  exact ⟨rfl, answers, shows, lawful⟩

end NetworkAutomation
