/-
This file opens the agreement of documents. Two mappings agree where they hold agreeing documents
under each key, in whatever order the keys stand.
-/

import Mathlib.Data.List.Forall2
import Mathlib.Data.List.Perm.Subperm
import NetworkAutomation.Proofs.Success
import NetworkAutomation.Proofs.WellFormedDocuments

namespace NetworkAutomation

open NetworkAutomation.Decimal

/-! ## Numbers -/

theorem Decimal.Binary.agrees_iff {left right : Binary} :
    left.agrees right = true ↔
      left.magnitude = right.magnitude ∧
        (left.negative = right.negative ∨ left.magnitude = 0) := by
  simp [Binary.agrees]

namespace Number

theorem agrees_refl (number : Number) : number.agrees number = true := by
  cases number with
  | integer value => simp [agrees]
  | float value => exact Binary.agrees_iff.mpr ⟨rfl, .inl rfl⟩

end Number

/-! ## Lists and mappings -/

theorem listAgrees_iff {left right : List Document} :
    listAgrees left right = true ↔
      List.Forall₂ (fun first second => first.agrees second = true) left right := by
  induction left generalizing right with
  | nil => cases right <;> simp [listAgrees]
  | cons first rest inductionHypothesis =>
      cases right with
      | nil => simp [listAgrees]
      | cons second others =>
          rw [listAgrees, Bool.and_eq_true, inductionHypothesis, List.forall₂_cons]

theorem entriesAgree_iff {left right : Mapping} :
    entriesAgree left right = true ↔
      ∀ entry ∈ left, ∃ found, Entries.find? right entry.1 = some found ∧
        entry.2.agrees found = true := by
  induction left with
  | nil => simp [entriesAgree]
  | cons entry rest inductionHypothesis =>
      obtain ⟨key, document⟩ := entry
      rw [entriesAgree, Bool.and_eq_true, inductionHypothesis, List.forall_mem_cons]
      apply and_congr_left'
      rw [show Mapping.lookup? right key = Entries.find? right key from rfl]
      cases Entries.find? right key <;> simp

theorem Document.mapping_agrees_iff {left right : Mapping} :
    (Document.mapping left).agrees (.mapping right) = true ↔
      left.length = right.length ∧ ∀ entry ∈ left, ∃ found,
        Entries.find? right entry.1 = some found ∧ entry.2.agrees found = true := by
  rw [Document.agrees, Bool.and_eq_true, beq_iff_eq, entriesAgree_iff]

/-- Distinct keys that all stand in an equally long list of keys are the same keys. -/
theorem Entries.keys_subset_of_length {α β : Type} {left : List (String × α)}
    {right : List (String × β)} (distinct : (keys left).Nodup) (long : right.length ≤ left.length)
    (inside : keys left ⊆ keys right) : keys right ⊆ keys left := by
  have lengths : (keys right).length ≤ (keys left).length := by
    simpa [keys] using long
  have same := (List.subperm_of_subset distinct inside).perm_of_length_le lengths
  exact same.symm.subset

/-- Absence agrees with absence alone. -/
abbrev HeldAlike : Option Document → Option Document → Prop :=
  Option.Rel fun first second => first.agrees second = true

theorem HeldAlike.isSome_iff {left right : Option Document} (alike : HeldAlike left right) :
    left.isSome = true ↔ right.isSome = true := by
  cases alike with
  | some => simp
  | none => simp

/-- Mappings agree where they hold agreeing documents under each key. -/
theorem Document.mapping_agrees_iff_find? {left right : Mapping}
    (leftDistinct : (Entries.keys left).Nodup) (rightDistinct : (Entries.keys right).Nodup) :
    (Document.mapping left).agrees (.mapping right) = true ↔
      ∀ key, HeldAlike (Entries.find? left key) (Entries.find? right key) := by
  rw [Document.mapping_agrees_iff]
  constructor
  · rintro ⟨lengths, each⟩ key
    have inside : Entries.keys left ⊆ Entries.keys right := by
      intro key member
      obtain ⟨entry, present, rfl⟩ := List.mem_map.mp member
      obtain ⟨found, holds, _⟩ := each entry present
      exact Entries.find?_isSome_iff.mp (Option.isSome_of_eq_some holds)
    cases held : Entries.find? left key with
    | some document =>
        obtain ⟨found, holds, agree⟩ := each _ (Entries.mem_of_find? held)
        rw [holds]
        exact .some agree
    | none =>
        have outside := Entries.find?_eq_none_iff.mp held
        have covered :=
          Entries.keys_subset_of_length leftDistinct (Nat.le_of_eq lengths.symm) inside
        rw [Entries.find?_eq_none_iff.mpr fun member => outside (covered member)]
        exact .none
  · intro each
    have same : ∀ key, key ∈ Entries.keys left ↔ key ∈ Entries.keys right := by
      intro key
      rw [← Entries.find?_isSome_iff, ← Entries.find?_isSome_iff]
      exact (each key).isSome_iff
    constructor
    · have perm := (List.perm_ext_iff_of_nodup leftDistinct rightDistinct).mpr same
      simpa [Entries.keys] using perm.length_eq
    · intro entry member
      have alike := each entry.1
      rw [(Entries.find?_eq_some_iff leftDistinct).mpr member] at alike
      generalize Entries.find? right entry.1 = held at alike
      cases alike with
      | some agree => exact ⟨_, rfl, agree⟩

/-- Beside a key that both hold alike, mappings agree where they agree as a whole. -/
theorem Document.without_agrees_iff {left right : Mapping}
    (leftDistinct : (Entries.keys left).Nodup) (rightDistinct : (Entries.keys right).Nodup)
    {key : String} (alike : HeldAlike (Entries.find? left key) (Entries.find? right key)) :
    (Document.mapping (left.without key)).agrees (.mapping (right.without key)) = true ↔
      (Document.mapping left).agrees (.mapping right) = true := by
  have distinct {mapping : Mapping} (whole : (Entries.keys mapping).Nodup) :
      (Entries.keys (mapping.without key)).Nodup :=
    whole.sublist (List.filter_sublist.map Prod.fst)
  have missing (mapping : Mapping) : Entries.find? (mapping.without key) key = none :=
    Entries.find?_eq_none_iff.mpr (mapping.key_not_mem_without key)
  rw [Document.mapping_agrees_iff_find? (distinct leftDistinct) (distinct rightDistinct),
    Document.mapping_agrees_iff_find? leftDistinct rightDistinct]
  apply forall_congr'
  intro name
  by_cases same : name = key
  · subst same
    rw [missing, missing]
    exact iff_of_true .none alike
  · have kept (mapping : Mapping) :
        Entries.find? (mapping.without key) name = Entries.find? mapping name :=
      Mapping.find?_filter (fun name => name != key) (bne_iff_ne.mpr same)
    rw [kept, kept]

theorem Document.keys_perm_of_agrees {left right : Mapping}
    (leftDistinct : (Entries.keys left).Nodup) (rightDistinct : (Entries.keys right).Nodup)
    (agree : (Document.mapping left).agrees (.mapping right) = true) :
    (Entries.keys left).Perm (Entries.keys right) := by
  apply (List.perm_ext_iff_of_nodup leftDistinct rightDistinct).mpr
  intro key
  rw [← Entries.find?_isSome_iff, ← Entries.find?_isSome_iff]
  exact ((Document.mapping_agrees_iff_find? leftDistinct rightDistinct).mp agree key).isSome_iff

/-- Agreement does not depend on the order of the entries on either side. -/
theorem Document.mapping_agrees_perm {left right others more : Mapping}
    (leftDistinct : (Entries.keys left).Nodup) (rightDistinct : (Entries.keys right).Nodup)
    (leftPerm : others.Perm left) (rightPerm : more.Perm right) :
    (Document.mapping others).agrees (.mapping more) = true ↔
      (Document.mapping left).agrees (.mapping right) = true := by
  rw [Document.mapping_agrees_iff_find? ((leftPerm.map Prod.fst).nodup_iff.mpr leftDistinct)
      ((rightPerm.map Prod.fst).nodup_iff.mpr rightDistinct),
    Document.mapping_agrees_iff_find? leftDistinct rightDistinct]
  apply forall_congr'
  intro key
  rw [Entries.find?_perm leftDistinct leftPerm, Entries.find?_perm rightDistinct rightPerm]

/-- Under the same keys mappings agree place by place. -/
theorem Document.mapping_agrees_iff_forall₂ {left right : Mapping}
    (same : Entries.keys left = Entries.keys right) (distinct : (Entries.keys left).Nodup) :
    (Document.mapping left).agrees (.mapping right) = true ↔
      List.Forall₂ (fun first second => first.1 = second.1 ∧ first.2.agrees second.2 = true)
        left right := by
  have rightDistinct : (Entries.keys right).Nodup := same ▸ distinct
  constructor
  · intro agree
    apply Entries.forall₂_of_keys same
    intro first member second found sameKey
    have alike := (Document.mapping_agrees_iff_find? distinct rightDistinct).mp agree first.1
    rw [(Entries.find?_eq_some_iff distinct).mpr member, sameKey,
      (Entries.find?_eq_some_iff rightDistinct).mpr found] at alike
    cases alike with
    | some held => exact ⟨sameKey, held⟩
  · intro places
    rw [Document.mapping_agrees_iff]
    refine ⟨places.length_eq, fun entry member => ?_⟩
    obtain ⟨other, found, sameKey, agree⟩ := Success.exists_source places.flip member
    refine ⟨other.2, ?_, agree⟩
    rw [sameKey, Entries.find?_eq_some_iff rightDistinct]
    exact found

/-- Every document agrees with itself. -/
theorem Document.WellFormed.agrees_refl {document : Document} (formed : document.WellFormed) :
    document.agrees document = true := by
  induction formed with
  | null => rfl
  | boolean value => simp [Document.agrees]
  | number value => exact value.agrees_refl
  | text value => simp [Document.agrees]
  | list each eachAgrees =>
      apply listAgrees_iff.mpr
      exact List.forall₂_same.mpr eachAgrees
  | mapping distinct each eachAgrees =>
      apply Document.mapping_agrees_iff.mpr
      refine ⟨rfl, fun entry member => ?_⟩
      exact ⟨entry.2, (Entries.find?_eq_some_iff distinct).mpr member, eachAgrees entry member⟩

/-- Agreeing documents are present together. -/
theorem Document.isPresent_of_agrees {left right : Document}
    (agree : left.agrees right = true) : left.isPresent = right.isPresent := by
  cases left with
  | list items =>
      cases right with
      | list others =>
          have lengths := (listAgrees_iff.mp agree).length_eq
          cases items <;> cases others <;> simp_all [Document.isPresent]
      | _ => simp [Document.agrees] at agree
  | mapping entries =>
      cases right with
      | mapping others =>
          have lengths := (Document.mapping_agrees_iff.mp agree).1
          cases entries <;> cases others <;> simp_all [Document.isPresent]
      | _ => simp [Document.agrees] at agree
  | _ => cases right <;> simp_all [Document.agrees, Document.isPresent]

end NetworkAutomation
