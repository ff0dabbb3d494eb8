/-
This file holds the laws of lists of keyed entries, which mappings and keyed collections share.
-/

import Mathlib.Data.List.Forall2
import Mathlib.Data.List.Nodup
import Mathlib.Logic.Function.Basic
import NetworkAutomation.Collection.Path

namespace NetworkAutomation

/-- A name at the end adds nothing to the distinct names when it stands there already. -/
theorem eraseDups_concat (names : List String) (name : String) :
    (names ++ [name]).eraseDups =
      if name ∈ names then names.eraseDups else names.eraseDups ++ [name] := by
  rw [List.eraseDups_append]
  by_cases present : name ∈ names <;> simp [present, List.removeAll, List.eraseDups_cons]

namespace Entries

variable {α : Type}

def keys (entries : List (String × α)) : List String :=
  entries.map Prod.fst

/-- The first entry of a key decides what is found under it. -/
def find? (entries : List (String × α)) (key : String) : Option α :=
  (entries.find? fun entry => entry.1 == key).map Prod.snd

/-- A present key keeps its place and takes the new value, and an absent key is appended. -/
def put (entries : List (String × α)) (key : String) (value : α) : List (String × α) :=
  match entries with
  | [] => [(key, value)]
  | (present, previous) :: rest =>
      if present = key then (key, value) :: rest else (present, previous) :: put rest key value

@[simp] theorem keys_nil : keys ([] : List (String × α)) = [] := rfl

@[simp] theorem keys_cons (entry : String × α) (rest : List (String × α)) :
    keys (entry :: rest) = entry.1 :: keys rest := rfl

@[simp] theorem keys_append (first second : List (String × α)) :
    keys (first ++ second) = keys first ++ keys second :=
  List.map_append

theorem mem_keys_of_mem {entries : List (String × α)} {entry : String × α}
    (member : entry ∈ entries) : entry.1 ∈ keys entries :=
  List.mem_map_of_mem member

theorem find?_cons (entry : String × α) (rest : List (String × α)) (key : String) :
    find? (entry :: rest) key = if entry.1 = key then some entry.2 else find? rest key := by
  by_cases same : entry.1 = key
  · simp [find?, same]
  · simp [find?, same]

/-- A value is found exactly under the keys. -/
theorem find?_isSome_iff {entries : List (String × α)} {key : String} :
    (find? entries key).isSome = true ↔ key ∈ keys entries := by
  induction entries with
  | nil => simp [find?]
  | cons entry rest ih =>
      rw [find?_cons, keys_cons, List.mem_cons]
      by_cases same : entry.1 = key
      · simp [same]
      · rw [if_neg same, ih]
        simp [Ne.symm same]

theorem find?_eq_none_iff {entries : List (String × α)} {key : String} :
    find? entries key = none ↔ key ∉ keys entries := by
  rw [← find?_isSome_iff, Option.not_isSome_iff_eq_none]

theorem mem_of_find? {entries : List (String × α)} {key : String} {value : α}
    (found : find? entries key = some value) : (key, value) ∈ entries := by
  induction entries with
  | nil => simp [find?] at found
  | cons entry rest ih =>
      rw [find?_cons] at found
      split at found
      next same =>
        obtain rfl := Option.some.inj found
        subst same
        exact List.mem_cons_self
      next => exact List.mem_cons_of_mem _ (ih found)

/-- Under distinct keys every entry is found. -/
theorem find?_eq_some_iff {entries : List (String × α)} (distinct : (keys entries).Nodup)
    {key : String} {value : α} :
    find? entries key = some value ↔ (key, value) ∈ entries := by
  refine ⟨mem_of_find?, fun member => ?_⟩
  induction entries with
  | nil => simp at member
  | cons entry rest ih =>
      rw [keys_cons, List.nodup_cons] at distinct
      rw [find?_cons]
      rcases List.mem_cons.mp member with same | later
      · subst same
        rw [if_pos rfl]
      · have different : entry.1 ≠ key := by
          intro same
          exact distinct.1 (same ▸ mem_keys_of_mem later)
        rw [if_neg different, ih distinct.2 later]

/-- The order of entries under distinct keys does not matter for what is found. -/
theorem find?_perm {entries others : List (String × α)} (distinct : (keys entries).Nodup)
    (perm : others.Perm entries) (key : String) : find? others key = find? entries key := by
  apply Option.ext
  intro value
  have othersDistinct : (keys others).Nodup := (perm.map Prod.fst).nodup_iff.mpr distinct
  rw [find?_eq_some_iff othersDistinct, find?_eq_some_iff distinct]
  exact perm.mem_iff

/-- Entries under distinct keys are the same when they are found alike. -/
theorem perm_of_find? {left right : List (String × α)}
    (leftDistinct : (keys left).Nodup) (rightDistinct : (keys right).Nodup)
    (same : ∀ key, find? left key = find? right key) : left.Perm right := by
  refine (List.perm_ext_iff_of_nodup leftDistinct.of_map rightDistinct.of_map).mpr ?_
  rintro ⟨key, value⟩
  rw [← find?_eq_some_iff leftDistinct, ← find?_eq_some_iff rightDistinct, same key]

/-- Lists with the same keys are related where their entries under one key are. -/
theorem forall₂_of_keys {β : Type} {related : String × α → String × β → Prop}
    {left : List (String × α)} {right : List (String × β)} (same : keys left = keys right)
    (each : ∀ first ∈ left, ∀ second ∈ right, first.1 = second.1 → related first second) :
    List.Forall₂ related left right := by
  induction left generalizing right with
  | nil =>
      cases right with
      | nil => exact .nil
      | cons second others => contradiction
  | cons first rest inductionHypothesis =>
      cases right with
      | nil => contradiction
      | cons second others =>
          rw [keys_cons, keys_cons, List.cons.injEq] at same
          apply List.Forall₂.cons
          · exact each first List.mem_cons_self second List.mem_cons_self same.1
          · apply inductionHypothesis same.2
            intro entry member other found
            exact each entry (List.mem_cons_of_mem _ member) other (List.mem_cons_of_mem _ found)

theorem keys_put (entries : List (String × α)) (key : String) (value : α) :
    keys (put entries key value) =
      if key ∈ keys entries then keys entries else keys entries ++ [key] := by
  induction entries with
  | nil => simp [put]
  | cons entry rest ih =>
      obtain ⟨present, previous⟩ := entry
      by_cases same : present = key
      · simp [put, same]
      · have different : key ≠ present := fun equal => same equal.symm
        simp only [put, if_neg same, keys_cons, ih, List.mem_cons, different, false_or]
        split <;> rfl

theorem nodup_keys_put {entries : List (String × α)} (distinct : (keys entries).Nodup)
    (key : String) (value : α) : (keys (put entries key value)).Nodup := by
  rw [keys_put]
  split
  next => exact distinct
  next absent =>
    rw [List.nodup_append]
    refine ⟨distinct, List.nodup_singleton key, ?_⟩
    intro other member last lastMember same
    rw [List.mem_singleton] at lastMember
    exact absent (lastMember ▸ same ▸ member)

theorem put_of_absent {entries : List (String × α)} {key : String}
    (absent : key ∉ keys entries) (value : α) :
    put entries key value = entries ++ [(key, value)] := by
  induction entries with
  | nil => rfl
  | cons entry rest ih =>
      obtain ⟨present, previous⟩ := entry
      rw [keys_cons, List.mem_cons, not_or] at absent
      rw [put, if_neg (Ne.symm absent.1), ih absent.2, List.cons_append]

theorem mem_put {entries : List (String × α)} {key : String} {value : α} {entry : String × α}
    (member : entry ∈ put entries key value) : entry = (key, value) ∨ entry ∈ entries := by
  induction entries with
  | nil => exact .inl (List.mem_singleton.mp member)
  | cons first rest ih =>
      obtain ⟨present, previous⟩ := first
      rw [put] at member
      split at member
      next =>
        rcases List.mem_cons.mp member with same | later
        · exact .inl same
        · exact .inr (List.mem_cons_of_mem _ later)
      next =>
        rcases List.mem_cons.mp member with same | later
        · exact .inr (same ▸ List.mem_cons_self)
        · exact (ih later).imp id (List.mem_cons_of_mem _)

theorem mem_put_self (entries : List (String × α)) (key : String) (value : α) :
    (key, value) ∈ put entries key value := by
  induction entries with
  | nil => exact List.mem_singleton.mpr rfl
  | cons first rest ih =>
      obtain ⟨present, previous⟩ := first
      rw [put]
      split
      next => exact List.mem_cons_self
      next => exact List.mem_cons_of_mem _ ih

/-- What was put under a key is found there, and all else is found as before. -/
theorem find?_put (entries : List (String × α)) (key : String) (value : α) :
    find? (put entries key value) = Function.update (find? entries) key (some value) := by
  funext asked
  induction entries with
  | nil =>
      by_cases same : asked = key
      · subst same
        simp [put, find?]
      · simp [put, find?, Function.update_of_ne same, Ne.symm same]
  | cons first rest ih =>
      obtain ⟨present, previous⟩ := first
      by_cases same : asked = key
      · subst same
        rw [Function.update_self] at ih ⊢
        by_cases hit : present = asked
        · simp [put, hit, find?_cons]
        · simp [put, hit, find?_cons, ih]
      · rw [Function.update_of_ne same] at ih ⊢
        by_cases hit : present = key
        · have miss : key ≠ asked := Ne.symm same
          simp [put, hit, find?_cons, miss]
        · simp [put, hit, find?_cons, ih]

/-- Entries under other keys stay in their places. -/
theorem getElem?_put {entries : List (String × α)} {key : String} {place : Nat}
    {entry : String × α} (placed : entries[place]? = some entry) (apart : entry.1 ≠ key)
    (value : α) : (put entries key value)[place]? = some entry := by
  induction entries generalizing place with
  | nil => simp at placed
  | cons first rest ih =>
      obtain ⟨present, previous⟩ := first
      rw [put]
      cases place with
      | zero =>
          obtain rfl := Option.some.inj placed
          rw [if_neg apart]
          rfl
      | succ place =>
          split
          next => exact placed
          next => exact ih placed

/-- Putting back what was found changes nothing. -/
theorem put_of_find? {entries : List (String × α)} {key : String} {value : α}
    (found : find? entries key = some value) : put entries key value = entries := by
  induction entries with
  | nil => simp [find?] at found
  | cons first rest ih =>
      obtain ⟨present, previous⟩ := first
      rw [find?_cons] at found
      rw [put]
      split at found
      next same =>
        obtain rfl := Option.some.inj found
        rw [if_pos same, ← same]
      next different => rw [if_neg different, ih found]

theorem keys_eraseP (entries : List (String × α)) (key : String) :
    keys (entries.eraseP fun entry => entry.1 == key) = (keys entries).erase key := by
  induction entries with
  | nil => rfl
  | cons first rest ih =>
      by_cases same : first.1 = key
      · simp [same]
      · rw [List.eraseP_cons_of_neg (by simpa using same), keys_cons, ih, keys_cons,
          List.erase_cons_tail (by simpa using same)]

/-- Under distinct keys an erased key leads nowhere, and all else is found as before. -/
theorem find?_eraseP {entries : List (String × α)} (distinct : (keys entries).Nodup)
    (key : String) :
    find? (entries.eraseP fun entry => entry.1 == key) =
      Function.update (find? entries) key none := by
  funext asked
  by_cases same : asked = key
  · subst same
    rw [Function.update_self, find?_eq_none_iff, keys_eraseP]
    exact distinct.not_mem_erase
  · rw [Function.update_of_ne same]
    induction entries with
    | nil => rfl
    | cons first rest ih =>
        rw [keys_cons, List.nodup_cons] at distinct
        by_cases hit : first.1 = key
        · have miss : first.1 ≠ asked := fun equal => same (equal.symm.trans hit)
          rw [List.eraseP_cons_of_pos (by simpa using hit), find?_cons, if_neg miss]
        · rw [List.eraseP_cons_of_neg (by simpa using hit), find?_cons, find?_cons,
            ih distinct.2]

/-- Under distinct keys erasing one entry erases all entries of its key. -/
theorem eraseP_eq_filter {entries : List (String × α)} (distinct : (keys entries).Nodup)
    (key : String) :
    (entries.eraseP fun entry => entry.1 == key) = entries.filter fun entry => entry.1 != key := by
  induction entries with
  | nil => rfl
  | cons first rest ih =>
      rw [keys_cons, List.nodup_cons] at distinct
      by_cases hit : first.1 = key
      · have others : ∀ entry ∈ rest, (entry.1 != key) = true := by
          intro entry member
          rw [bne_iff_ne]
          intro same
          exact distinct.1 (hit.trans same.symm ▸ mem_keys_of_mem member)
        rw [List.eraseP_cons_of_pos (by simpa using hit),
          List.filter_cons_of_neg (by simpa using hit), List.filter_eq_self.mpr others]
      · rw [List.eraseP_cons_of_neg (by simpa using hit),
          List.filter_cons_of_pos (by simpa using hit), ih distinct.2]

/-- Entries under distinct keys can be put one after another, and none is lost or moved. -/
theorem foldl_put_of_nodup (added entries : List (String × α))
    (distinct : (keys (entries ++ added)).Nodup) :
    added.foldl (fun merged entry => put merged entry.1 entry.2) entries = entries ++ added := by
  induction added generalizing entries with
  | nil => simp
  | cons entry rest ih =>
      have absent : entry.1 ∉ keys entries := by
        rw [keys_append, List.nodup_append] at distinct
        exact fun member => distinct.2.2 entry.1 member entry.1 List.mem_cons_self rfl
      rw [List.foldl_cons, put_of_absent absent]
      rw [List.append_cons] at distinct
      rw [List.append_cons entries entry rest]
      exact ih (entries ++ [entry]) distinct

/-- The last entry that a search is for stands before none of its sort. -/
theorem findLast_eq_some_iff {entries : List (String × α)} {holds : String × α → Bool}
    {entry : String × α} :
    entries.reverse.find? holds = some entry ↔ holds entry = true ∧ ∃ before after,
      entries = before ++ entry :: after ∧ ∀ later ∈ after, holds later = false := by
  rw [List.find?_eq_some_iff_append]
  refine and_congr_right fun _ => ?_
  constructor
  · rintro ⟨before, after, split, later⟩
    refine ⟨after.reverse, before.reverse, ?_, fun other member => ?_⟩
    · rw [← List.reverse_reverse entries, split]
      simp
    · simpa using later other (List.mem_reverse.mp member)
  · rintro ⟨before, after, rfl, later⟩
    refine ⟨after.reverse, before.reverse, by simp, fun other member => ?_⟩
    simpa using later other (List.mem_reverse.mp member)

/-- Where there is an entry of a sort there is a last one. -/
theorem exists_last {entries : List (String × α)} (holds : String × α → Bool)
    {entry : String × α} (member : entry ∈ entries) (isHeld : holds entry = true) :
    ∃ before last after, entries = before ++ last :: after ∧ holds last = true ∧
      ∀ later ∈ after, holds later = false := by
  obtain ⟨last, found⟩ : ∃ last, entries.reverse.find? holds = some last := by
    rw [← Option.isSome_iff_exists, List.find?_isSome]
    exact ⟨entry, List.mem_reverse.mpr member, isHeld⟩
  obtain ⟨lastHeld, before, after, split, later⟩ := findLast_eq_some_iff.mp found
  exact ⟨before, last, after, split, lastHeld, later⟩

/-- Under distinct keys a present key only has its value exchanged. -/
theorem put_eq_map {entries : List (String × α)} (distinct : (keys entries).Nodup) {key : String}
    (present : key ∈ keys entries) (value : α) :
    put entries key value =
      entries.map fun entry => if entry.1 = key then (key, value) else entry := by
  induction entries with
  | nil => exact absurd present List.not_mem_nil
  | cons entry rest ih =>
      obtain ⟨own, previous⟩ := entry
      rw [keys_cons, List.nodup_cons] at distinct
      rw [put, List.map_cons]
      by_cases same : own = key
      · have others : ∀ other ∈ rest, (if other.1 = key then (key, value) else other) = other := by
          intro other member
          have inKeys := mem_keys_of_mem member
          refine if_neg fun equal => distinct.1 ?_
          rwa [equal.trans same.symm] at inKeys
        rw [if_pos same, if_pos same, List.map_congr_left others, List.map_id']
      · have later := (List.mem_cons.mp present).resolve_left (Ne.symm same)
        rw [if_neg same, if_neg same, ih distinct.2 later]

/--
The added values take the places of the values under their keys, and the entries of new keys follow
in their order.
-/
def overriddenBy (entries added : List (String × α)) : List (String × α) :=
  (entries.map fun entry => (entry.1, (find? added entry.1).getD entry.2)) ++
    added.filter fun entry => entry.1 ∉ keys entries

theorem overriddenBy_nil (entries : List (String × α)) : overriddenBy entries [] = entries := by
  simp [overriddenBy, find?]

theorem overriddenBy_cons {entries rest : List (String × α)} {entry : String × α}
    (distinct : (keys entries).Nodup) (fresh : entry.1 ∉ keys rest) :
    overriddenBy entries (entry :: rest) = overriddenBy (put entries entry.1 entry.2) rest := by
  obtain ⟨key, value⟩ := entry
  have missing : find? rest key = none := find?_eq_none_iff.mpr fresh
  by_cases present : key ∈ keys entries
  · have kept : keys (put entries key value) = keys entries := by rw [keys_put, if_pos present]
    unfold overriddenBy
    rw [kept, List.filter_cons_of_neg (by simpa using present), put_eq_map distinct present,
      List.map_map]
    congr 1
    refine List.map_congr_left fun own _ => ?_
    by_cases same : own.1 = key
    · simp [find?_cons, same, missing]
    · simp [find?_cons, same, Ne.symm same]
  · have others : ∀ own ∈ rest, (decide (own.1 ∉ keys (entries ++ [(key, value)]))) =
        decide (own.1 ∉ keys entries) := by
      intro own member
      have inKeys := mem_keys_of_mem member
      have different : own.1 ≠ key := fun same => fresh (same ▸ inKeys)
      simp [different]
    rw [put_of_absent present]
    unfold overriddenBy
    rw [List.filter_cons_of_pos (by simpa using present), List.filter_congr others,
      List.map_append, List.append_assoc]
    congr 1
    · refine List.map_congr_left fun own member => ?_
      have different : key ≠ own.1 := fun same => present (same ▸ mem_keys_of_mem member)
      rw [find?_cons, if_neg different]
    · simp [missing]

/-- Entries under distinct keys override others when they are put one after another. -/
theorem foldl_put_eq_overriddenBy {entries added : List (String × α)}
    (distinct : (keys entries).Nodup) (distinctAdded : (keys added).Nodup) :
    added.foldl (fun merged entry => put merged entry.1 entry.2) entries =
      overriddenBy entries added := by
  induction added generalizing entries with
  | nil => exact (overriddenBy_nil entries).symm
  | cons entry rest ih =>
      rw [keys_cons, List.nodup_cons] at distinctAdded
      rw [List.foldl_cons, overriddenBy_cons distinct distinctAdded.1]
      exact ih (nodup_keys_put distinct entry.1 entry.2) distinctAdded.2

end Entries

namespace Mapping

/-- All entries but that of the key. -/
def without (mapping : Mapping) (key : String) : Mapping :=
  mapping.filter fun entry => entry.1 != key

theorem mem_without {mapping : Mapping} {key : String} {entry : String × Document} :
    entry ∈ mapping.without key ↔ entry ∈ mapping ∧ entry.1 ≠ key := by
  rw [without, List.mem_filter, bne_iff_ne]

theorem without_append (first second : Mapping) (key : String) :
    without (first ++ second) key = first.without key ++ second.without key :=
  List.filter_append first second

theorem key_not_mem_without (mapping : Mapping) (key : String) :
    key ∉ Entries.keys (mapping.without key) := by
  intro member
  obtain ⟨entry, inMapping, same⟩ := List.mem_map.mp member
  exact (mem_without.mp inMapping).2 same

theorem insert_eq_put (mapping : Mapping) (key : String) (document : Document) :
    Mapping.insert mapping key document = Entries.put mapping key document := by
  induction mapping with
  | nil => rfl
  | cons entry rest ih =>
      obtain ⟨present, previous⟩ := entry
      rw [Mapping.insert, Entries.put, ih]

/-- Mappings under distinct keys are what their own entries make up. -/
theorem ofEntries_of_nodup {entries : Mapping} (distinct : (Entries.keys entries).Nodup) :
    Mapping.ofEntries entries = entries := by
  have folded := Entries.foldl_put_of_nodup entries [] distinct
  simpa only [Mapping.ofEntries, Mapping.merge, insert_eq_put, List.nil_append] using folded

/-- Merging lets the second mapping override the first one. -/
theorem merge_eq_overriddenBy {mapping added : Mapping} (distinct : (Entries.keys mapping).Nodup)
    (distinctAdded : (Entries.keys added).Nodup) :
    Mapping.merge mapping added = Entries.overriddenBy mapping added := by
  have folded := Entries.foldl_put_eq_overriddenBy distinct distinctAdded
  simpa only [Mapping.merge, insert_eq_put] using folded

/-- What was merged is found ahead of what was there. -/
theorem find?_merge {mapping added : Mapping} (distinct : (Entries.keys added).Nodup)
    (key : String) : Entries.find? (Mapping.merge mapping added) key =
      (Entries.find? added key).or (Entries.find? mapping key) := by
  induction added generalizing mapping with
  | nil => rfl
  | cons entry rest ih =>
      rw [Entries.keys_cons, List.nodup_cons] at distinct
      change Entries.find? (Mapping.merge (Mapping.insert mapping entry.1 entry.2) rest) key = _
      rw [ih distinct.2, insert_eq_put, Entries.find?_put, Entries.find?_cons]
      by_cases same : entry.1 = key
      · have missing : Entries.find? rest key = none :=
          Entries.find?_eq_none_iff.mpr (same ▸ distinct.1)
        simp [same, missing]
      · simp [same, Ne.symm same]

/-- A key that is sorted out anyway may be left out first. -/
theorem filter_without {mapping : Mapping} (kept : String → Bool) {key : String}
    (drops : kept key = false) : ((mapping.without key).filter fun entry => kept entry.1) =
      mapping.filter fun entry => kept entry.1 := by
  rw [without, List.filter_filter]
  apply List.filter_congr
  intro entry _
  by_cases same : entry.1 = key
  · simp [same, drops]
  · simp [same]

/-- Entries under a name that is kept are found as before. -/
theorem find?_filter {mapping : Mapping} (kept : String → Bool) {key : String}
    (keeps : kept key = true) :
    Entries.find? (mapping.filter fun entry => kept entry.1) key = Entries.find? mapping key := by
  induction mapping with
  | nil => rfl
  | cons entry rest ih =>
      rw [Entries.find?_cons]
      by_cases same : entry.1 = key
      · rw [List.filter_cons_of_pos (by rw [same]; exact keeps), Entries.find?_cons]
        simp [same]
      · rw [if_neg same, List.filter_cons]
        split
        · rw [Entries.find?_cons, if_neg same, ih]
        · exact ih

end Mapping

namespace KeyedCollection

theorem upsert_eq_put (entries : List (String × Entity)) (key : String) (item : Entity) :
    upsert entries key item = Entries.put entries key item := by
  induction entries with
  | nil => rfl
  | cons entry rest ih =>
      obtain ⟨present, previous⟩ := entry
      rw [upsert, Entries.put, ih]

end KeyedCollection

end NetworkAutomation
