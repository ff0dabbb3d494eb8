/-
This file holds the laws of descent among types whose identities tell them apart.
-/

import NetworkAutomation.Entity.Type
import NetworkAutomation.Proofs.Nesting

namespace NetworkAutomation

theorem anyIsA_iff {parents : List EntityType} {other : EntityType} :
    anyIsA parents other = true ↔ ∃ parent ∈ parents, parent.isA other = true := by
  induction parents with
  | nil => simp [anyIsA]
  | cons parent rest ih => simp [anyIsA, ih]

namespace EntityType

theorem isA_iff {type other : EntityType} :
    type.isA other = true ↔
      type.identity = other.identity ∨ ∃ parent ∈ type.parents, parent.isA other = true := by
  cases type
  rw [EntityType.isA, Bool.or_eq_true, beq_iff_eq, anyIsA_iff]

theorem isA_self (type : EntityType) : type.isA type = true :=
  isA_iff.mpr (.inl rfl)

/-- In a lineage an identity belongs to one type, and the parents of a type belong to it too. -/
structure Lineage (types : List EntityType) : Prop where
  unique : ∀ first ∈ types, ∀ second ∈ types, first.identity = second.identity → first = second
  parents : ∀ type ∈ types, ∀ parent ∈ type.parents, parent ∈ types

/-- Descent goes through a type in the middle, because its identity is its own. -/
theorem Lineage.isA_trans {types : List EntityType} (lineage : Lineage types)
    {lower middle upper : EntityType} (lowerKnown : lower ∈ types) (middleKnown : middle ∈ types)
    (first : lower.isA middle = true) (second : middle.isA upper = true) :
    lower.isA upper = true := by
  induction lower using parentInduction with
  | step lower ih =>
      rcases isA_iff.mp first with same | ⟨parent, member, descends⟩
      · obtain rfl := lineage.unique lower lowerKnown middle middleKnown same
        exact second
      · have parentKnown := lineage.parents lower lowerKnown parent member
        exact isA_iff.mpr (.inr ⟨parent, member, ih parent member parentKnown descends⟩)

end EntityType

end NetworkAutomation
