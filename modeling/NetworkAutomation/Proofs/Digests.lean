/-
This file proves that the hash of a document follows its value, up to the sign of zero. The marks
of a document end by themselves, and the numbers in it are told apart by their texts.
-/

import NetworkAutomation.Proofs.Agreement
import NetworkAutomation.Proofs.Conformance
import NetworkAutomation.Proofs.NumberTexts

namespace NetworkAutomation

open NetworkAutomation.Decimal

/-! ## Sorted entries -/

def keyAtMost (left right : String × Document) : Bool :=
  decide (left.1 ≤ right.1)

def sortedEntries (entries : Mapping) : Mapping :=
  entries.mergeSort keyAtMost

theorem sortedEntries_perm (entries : Mapping) : (sortedEntries entries).Perm entries :=
  List.mergeSort_perm entries keyAtMost

theorem mem_sortedEntries {entries : Mapping} {entry : String × Document} :
    entry ∈ sortedEntries entries ↔ entry ∈ entries :=
  (sortedEntries_perm entries).mem_iff

theorem pairwise_sortedEntries (entries : Mapping) :
    (Entries.keys (sortedEntries entries)).Pairwise (· ≤ ·) := by
  have transitive (first second third : String × Document) :
      keyAtMost first second = true → keyAtMost second third = true →
        keyAtMost first third = true := by
    simp only [keyAtMost, decide_eq_true_eq]
    exact String.le_trans
  have total (first second : String × Document) :
      (keyAtMost first second || keyAtMost second first) = true := by
    simp only [keyAtMost, Bool.or_eq_true, decide_eq_true_eq]
    exact String.le_total first.1 second.1
  have sorted := List.pairwise_mergeSort transitive total entries
  exact List.pairwise_map.mpr (sorted.imp of_decide_eq_true)

/-- Mappings agree where their sorted entries agree place by place. -/
theorem Document.mapping_agrees_iff_sorted {left right : Mapping}
    (leftDistinct : (Entries.keys left).Nodup) (rightDistinct : (Entries.keys right).Nodup) :
    (Document.mapping left).agrees (.mapping right) = true ↔
      List.Forall₂ (fun first second => first.1 = second.1 ∧ first.2.agrees second.2 = true)
        (sortedEntries left) (sortedEntries right) := by
  have leftKeys := (sortedEntries_perm left).map Prod.fst
  have rightKeys := (sortedEntries_perm right).map Prod.fst
  have sortedDistinct : (Entries.keys (sortedEntries left)).Nodup :=
    leftKeys.nodup_iff.mpr leftDistinct
  rw [← Document.mapping_agrees_perm leftDistinct rightDistinct (sortedEntries_perm left)
    (sortedEntries_perm right)]
  constructor
  · intro agree
    have sameKeys := Document.keys_perm_of_agrees sortedDistinct
      (rightKeys.nodup_iff.mpr rightDistinct) agree
    have same : Entries.keys (sortedEntries left) = Entries.keys (sortedEntries right) :=
      sameKeys.eq_of_pairwise (fun _ _ _ _ => String.le_antisymm)
        (pairwise_sortedEntries left) (pairwise_sortedEntries right)
    exact (Document.mapping_agrees_iff_forall₂ same sortedDistinct).mp agree
  · intro places
    have same : Entries.keys (sortedEntries left) = Entries.keys (sortedEntries right) :=
      (Success.map_eq_of_related places fun _ _ both => both.1.symm).symm
    exact (Document.mapping_agrees_iff_forall₂ same sortedDistinct).mpr places

/-! ## The marks of lists and mappings -/

theorem itemDigests_eq_flatMap (items : List Document) :
    itemDigests items = items.flatMap Document.digest := by
  induction items with
  | nil => rfl
  | cons item rest inductionHypothesis =>
      rw [itemDigests, inductionHypothesis, List.flatMap_cons]

theorem entryDigests_eq_map (entries : Mapping) :
    entryDigests entries = entries.map fun entry => (entry.1, entry.2.digest) := by
  induction entries with
  | nil => rfl
  | cons entry rest inductionHypothesis =>
      obtain ⟨key, document⟩ := entry
      rw [entryDigests, inductionHypothesis, List.map_cons]

/-- An entry is absorbed as its key and the marks of its document. -/
def entryMarks (entry : String × Document) : List Mark :=
  .text entry.1 :: entry.2.digest

/-- Sorting the digests sorts the entries, because the order looks at the keys alone. -/
theorem Mapping.digest_eq (entries : Mapping) :
    Mapping.digest entries =
      .size entries.length :: (sortedEntries entries).flatMap entryMarks := by
  have sorted : (sortedEntries entries).map (fun entry => (entry.1, entry.2.digest)) =
      (entryDigests entries).mergeSort fun left right => decide (left.1 ≤ right.1) := by
    rw [entryDigests_eq_map]
    exact List.map_mergeSort fun _ _ _ _ => rfl
  rw [Mapping.digest, keyedDigest, ← sorted, entryDigests_eq_map, List.length_map,
    List.flatMap_map]
  rfl

/-- Marks that end by themselves can be taken apart again, one member at a time. -/
theorem related_of_flatMap_append {α β : Type} {related : α → β → Prop} {left : List α}
    {right : List β} {leftMarks : α → List Mark} {rightMarks : β → List Mark}
    (lengths : left.length = right.length)
    (each : ∀ first ∈ left, ∀ second ∈ right, ∀ rest others,
      leftMarks first ++ rest = rightMarks second ++ others →
        related first second ∧ rest = others)
    {rest others : List Mark}
    (same : left.flatMap leftMarks ++ rest = right.flatMap rightMarks ++ others) :
    List.Forall₂ related left right ∧ rest = others := by
  induction left generalizing right with
  | nil =>
      cases right with
      | nil => exact ⟨.nil, same⟩
      | cons => contradiction
  | cons first later inductionHypothesis =>
      cases right with
      | nil => contradiction
      | cons second remaining =>
          rw [List.flatMap_cons, List.flatMap_cons, List.append_assoc, List.append_assoc] at same
          obtain ⟨firstRelated, tails⟩ := each first List.mem_cons_self second List.mem_cons_self
            _ _ same
          obtain ⟨laterRelated, ends⟩ := inductionHypothesis (Nat.succ.inj lengths)
            (fun entry member other found => each entry (List.mem_cons_of_mem _ member) other
              (List.mem_cons_of_mem _ found)) tails
          exact ⟨.cons firstRelated laterRelated, ends⟩

theorem flatMap_eq_of_related {α β : Type} {related : α → β → Prop} {left : List α}
    {right : List β} {leftMarks : α → List Mark} {rightMarks : β → List Mark}
    (all : List.Forall₂ related left right)
    (each : ∀ first ∈ left, ∀ second ∈ right, related first second →
      leftMarks first = rightMarks second) :
    left.flatMap leftMarks = right.flatMap rightMarks := by
  induction all with
  | nil => rfl
  | cons head _ inductionHypothesis =>
      rw [List.flatMap_cons, List.flatMap_cons,
        each _ List.mem_cons_self _ List.mem_cons_self head]
      congr 1
      apply inductionHypothesis
      intro first member second found
      exact each first (List.mem_cons_of_mem _ member) second (List.mem_cons_of_mem _ found)

/-! ## Changed numbers -/

mutual

/-- Every number inside the document is changed, and all else stays. -/
def Document.mapNumbers (change : Number → Number) : Document → Document
  | .number value => .number (change value)
  | .list items => .list (itemsMapNumbers change items)
  | .mapping entries => .mapping (entriesMapNumbers change entries)
  | document => document

def itemsMapNumbers (change : Number → Number) : List Document → List Document
  | [] => []
  | item :: rest => item.mapNumbers change :: itemsMapNumbers change rest

def entriesMapNumbers (change : Number → Number) : Mapping → Mapping
  | [] => []
  | (key, document) :: rest => (key, document.mapNumbers change) :: entriesMapNumbers change rest

end

section Changed

variable (change : Number → Number)

theorem itemsMapNumbers_eq_map (items : List Document) :
    itemsMapNumbers change items = items.map (Document.mapNumbers change) := by
  induction items with
  | nil => rfl
  | cons item rest inductionHypothesis =>
      rw [itemsMapNumbers, inductionHypothesis, List.map_cons]

theorem entriesMapNumbers_eq_map (entries : Mapping) :
    entriesMapNumbers change entries =
      entries.map fun entry => (entry.1, entry.2.mapNumbers change) := by
  induction entries with
  | nil => rfl
  | cons entry rest inductionHypothesis =>
      obtain ⟨key, document⟩ := entry
      rw [entriesMapNumbers, inductionHypothesis, List.map_cons]

theorem Document.digest_mapNumbers_list (items : List Document) :
    ((Document.list items).mapNumbers change).digest =
      .byte 4 :: .size items.length ::
        items.flatMap fun item => (item.mapNumbers change).digest := by
  rw [Document.mapNumbers, Document.digest, itemDigests_eq_flatMap, itemsMapNumbers_eq_map,
    List.length_map, List.flatMap_map]

/-- The marks of an entry with its numbers changed. -/
def changedMarks (entry : String × Document) : List Mark :=
  entryMarks (entry.1, entry.2.mapNumbers change)

theorem Document.digest_mapNumbers_mapping (entries : Mapping) :
    ((Document.mapping entries).mapNumbers change).digest =
      .byte 5 :: .size entries.length ::
        (sortedEntries entries).flatMap (changedMarks change) := by
  have sorted : (sortedEntries entries).map (fun entry => (entry.1, entry.2.mapNumbers change)) =
      sortedEntries (entriesMapNumbers change entries) := by
    rw [entriesMapNumbers_eq_map]
    exact List.map_mergeSort fun _ _ _ _ => rfl
  rw [Document.mapNumbers, Document.digest]
  change .byte 5 :: Mapping.digest (entriesMapNumbers change entries) = _
  rw [Mapping.digest_eq, ← sorted, entriesMapNumbers_eq_map, List.length_map, List.flatMap_map]
  rfl

variable {change}

/-- What stands behind the marks of two documents tells whether the documents agree. -/
theorem Document.WellFormed.agrees_of_digest_append
    (faithful : ∀ left right, (change left).text = (change right).text →
      left.agrees right = true)
    {left right : Document} (leftFormed : left.WellFormed) (rightFormed : right.WellFormed)
    {rest others : List Mark}
    (same : (left.mapNumbers change).digest ++ rest = (right.mapNumbers change).digest ++ others) :
    left.agrees right = true ∧ rest = others := by
  induction leftFormed generalizing right rest others with
  | null =>
      cases right with
      | null => exact ⟨rfl, (List.cons.inj same).2⟩
      | _ => simp [Document.mapNumbers, Document.digest] at same
  | boolean value =>
      cases right with
      | boolean other =>
          cases value <;> cases other <;>
            simp_all [Document.mapNumbers, Document.digest, Document.agrees]
      | _ => simp [Document.mapNumbers, Document.digest] at same
  | number value =>
      cases right with
      | number other =>
          simp only [Document.mapNumbers, Document.digest, List.cons_append, List.nil_append,
            List.cons.injEq, Mark.text.injEq, true_and] at same
          exact ⟨faithful value other same.1, same.2⟩
      | _ => simp [Document.mapNumbers, Document.digest] at same
  | text value =>
      cases right with
      | text other =>
          simp only [Document.mapNumbers, Document.digest, List.cons_append, List.nil_append,
            List.cons.injEq, Mark.text.injEq, true_and] at same
          rw [same.1]
          exact ⟨by simp [Document.agrees], same.2⟩
      | _ => simp [Document.mapNumbers, Document.digest] at same
  | list each eachAgrees =>
      cases right with
      | list items =>
          rw [Document.digest_mapNumbers_list, Document.digest_mapNumbers_list] at same
          simp only [List.cons_append, List.cons.injEq, Mark.size.injEq, true_and] at same
          obtain ⟨agree, ends⟩ := related_of_flatMap_append same.1
            (fun first member second found _ _ marks =>
              eachAgrees first member (rightFormed.items second found) marks) same.2
          exact ⟨listAgrees_iff.mpr agree, ends⟩
      | _ => simp [Document.mapNumbers, Document.digest] at same
  | mapping distinct each eachAgrees =>
      cases right with
      | mapping entries =>
          rw [Document.digest_mapNumbers_mapping, Document.digest_mapNumbers_mapping] at same
          simp only [List.cons_append, List.cons.injEq, Mark.size.injEq, true_and] at same
          have lengths := same.1
          rw [← (sortedEntries_perm _).length_eq, ← (sortedEntries_perm entries).length_eq]
            at lengths
          obtain ⟨places, ends⟩ := related_of_flatMap_append lengths (fun first member second
              found rest others marks => by
            simp only [changedMarks, entryMarks, List.cons_append, List.cons.injEq,
              Mark.text.injEq] at marks
            have inRight := rightFormed.entries second (mem_sortedEntries.mp found)
            obtain ⟨agree, ends⟩ :=
              eachAgrees first (mem_sortedEntries.mp member) inRight marks.2
            exact ⟨And.intro marks.1 agree, ends⟩) same.2
          exact ⟨(Document.mapping_agrees_iff_sorted distinct rightFormed.keys).mpr places, ends⟩
      | _ => simp [Document.mapNumbers, Document.digest] at same

/-- Agreeing documents leave the same marks once their agreeing numbers are made equal. -/
theorem Document.WellFormed.digest_eq_of_agrees
    (uniform : ∀ left right : Number, left.agrees right = true → change left = change right)
    {left right : Document} (leftFormed : left.WellFormed) (rightFormed : right.WellFormed)
    (agree : left.agrees right = true) :
    (left.mapNumbers change).digest = (right.mapNumbers change).digest := by
  induction leftFormed generalizing right with
  | null =>
      cases right with
      | null => rfl
      | _ => simp [Document.agrees] at agree
  | boolean value =>
      cases right with
      | boolean other =>
          simp only [Document.agrees, beq_iff_eq] at agree
          rw [agree]
      | _ => simp [Document.agrees] at agree
  | number value =>
      cases right with
      | number other => rw [Document.mapNumbers, Document.mapNumbers, uniform value other agree]
      | _ => simp [Document.agrees] at agree
  | text value =>
      cases right with
      | text other =>
          simp only [Document.agrees, beq_iff_eq] at agree
          rw [agree]
      | _ => simp [Document.agrees] at agree
  | list each eachSame =>
      cases right with
      | list items =>
          have places := listAgrees_iff.mp agree
          rw [Document.digest_mapNumbers_list, Document.digest_mapNumbers_list,
            places.length_eq]
          congr 2
          apply flatMap_eq_of_related places
          intro first member second found related
          exact eachSame first member (rightFormed.items second found) related
      | _ => simp [Document.agrees] at agree
  | mapping distinct each eachSame =>
      cases right with
      | mapping entries =>
          have places :=
            (Document.mapping_agrees_iff_sorted distinct rightFormed.keys).mp agree
          have lengths := (Document.mapping_agrees_iff.mp agree).1
          rw [Document.digest_mapNumbers_mapping, Document.digest_mapNumbers_mapping, lengths]
          congr 2
          apply flatMap_eq_of_related places
          intro first member second found related
          have inRight := rightFormed.entries second (mem_sortedEntries.mp found)
          rw [changedMarks, changedMarks, entryMarks, entryMarks, related.1,
            eachSame first (mem_sortedEntries.mp member) inRight related.2]
      | _ => simp [Document.agrees] at agree

end Changed

theorem Document.mapNumbers_id {document : Document} (formed : document.WellFormed) :
    document.mapNumbers id = document := by
  induction formed with
  | null => rfl
  | boolean value => rfl
  | number value => rfl
  | text value => rfl
  | list each eachSame =>
      rw [Document.mapNumbers, itemsMapNumbers_eq_map, List.map_congr_left eachSame, List.map_id']
  | mapping distinct each eachSame =>
      have kept : ∀ entry ∈ _, (entry.1, Document.mapNumbers id entry.2) = entry :=
        fun entry member => congrArg (entry.1, ·) (eachSame entry member)
      rw [Document.mapNumbers, entriesMapNumbers_eq_map, List.map_congr_left kept, List.map_id']

/-! ## Zeros -/

/-- The negative zero is equal to the positive one, and it is written with its sign. -/
def Decimal.Binary.withPlainZero (value : Binary) : Binary :=
  if value.isZero then .zero false else value

theorem Decimal.Binary.magnitude_withPlainZero (value : Binary) :
    value.withPlainZero.magnitude = value.magnitude := by
  unfold withPlainZero
  split
  next zero => exact (beq_iff_eq.mp zero).symm
  next => rfl

theorem Decimal.Binary.negative_withPlainZero (value : Binary) :
    value.withPlainZero.negative = if value.magnitude = 0 then false else value.negative := by
  by_cases zero : value.magnitude = 0
  · simp [withPlainZero, isZero, zero, Binary.zero]
  · simp [withPlainZero, isZero, zero]

def Number.withPlainZero : Number → Number
  | .float value => .float value.withPlainZero
  | number => number

theorem Number.withPlainZero_eq_iff {left right : Number} :
    left.withPlainZero = right.withPlainZero ↔ left.agrees right = true := by
  cases left with
  | integer left =>
      cases right with
      | integer right => simp [withPlainZero, agrees]
      | float right => simp [withPlainZero, agrees]
  | float left =>
      cases right with
      | integer right => simp [withPlainZero, agrees]
      | float right =>
          rw [agrees, Binary.agrees_iff, withPlainZero, withPlainZero, Number.float.injEq,
            Binary.eq_iff, Binary.magnitude_withPlainZero, Binary.magnitude_withPlainZero,
            Binary.negative_withPlainZero, Binary.negative_withPlainZero]
          apply and_congr_right
          intro magnitude
          rw [← magnitude]
          by_cases zero : left.magnitude = 0 <;> simp [zero]

def Document.withPlainZeros (document : Document) : Document :=
  document.mapNumbers Number.withPlainZero

namespace Document.WellFormed

variable {left right : Document} (leftFormed : left.WellFormed) (rightFormed : right.WellFormed)
include leftFormed rightFormed

theorem agrees_of_digest_eq (same : left.digest = right.digest) : left.agrees right = true := by
  have faithful (first second : Number) (texts : (id first).text = (id second).text) :
      first.agrees second = true := by
    obtain rfl : first = second := Number.text_injective texts
    exact first.agrees_refl
  rw [← Document.mapNumbers_id leftFormed, ← Document.mapNumbers_id rightFormed] at same
  exact (agrees_of_digest_append faithful leftFormed rightFormed (congrArg (· ++ []) same)).1

/-- Documents agree exactly where the marks are the same, apart from the signs of zeros. -/
theorem agrees_iff_digest_withPlainZeros :
    left.agrees right = true ↔ left.withPlainZeros.digest = right.withPlainZeros.digest := by
  constructor
  · apply digest_eq_of_agrees _ leftFormed rightFormed
    intro first second agree
    exact Number.withPlainZero_eq_iff.mpr agree
  · intro same
    have faithful (first second : Number)
        (texts : first.withPlainZero.text = second.withPlainZero.text) :
        first.agrees second = true :=
      Number.withPlainZero_eq_iff.mp (Number.text_injective texts)
    exact (agrees_of_digest_append faithful leftFormed rightFormed (congrArg (· ++ []) same)).1

end Document.WellFormed

/-! ## Hashes and equality -/

theorem Workspace.Reachable.toDocument_wellFormed {space : Workspace} (reached : space.Reachable)
    {entity : Entity} (held : .entity entity ∈ space.targets) : entity.toDocument.WellFormed := by
  have sound := Value.SoundThroughout.object_iff.mp (reached.sound.targets _ held)
  exact sound.toDocument_wellFormed reached.sound.registry

/-- The hash of an entity leaves out the byte that opens every mapping. -/
theorem Entity.digest_eq_iff {left right : Entity} :
    left.digest = right.digest ↔ left.toDocument.digest = right.toDocument.digest := by
  rw [toDocument, toDocument, Document.digest, Document.digest, List.cons.injEq]
  exact (and_iff_right rfl).symm

/--
Equal hashes stand for equal values. Equal values have equal hashes as soon as no zero in them
carries a sign, and entities of whatever types inherit this from their documents.
-/
theorem hash_follows_equality {first second : Workspace} (firstReached : first.Reachable)
    (secondReached : second.Reachable) :
    (∀ left right : Document, left.WellFormed → right.WellFormed →
      (left.digest = right.digest → left.agrees right = true) ∧
      (left.agrees right = true ↔
        left.withPlainZeros.digest = right.withPlainZeros.digest)) ∧
    ∀ left right : Entity, .entity left ∈ first.targets → .entity right ∈ second.targets →
      left.toDocument.withPlainZeros = left.toDocument →
      right.toDocument.withPlainZeros = right.toDocument →
      (left.agrees right = true ↔ left.digest = right.digest) := by
  constructor
  · intro left right leftFormed rightFormed
    constructor
    · exact leftFormed.agrees_of_digest_eq rightFormed
    · exact leftFormed.agrees_iff_digest_withPlainZeros rightFormed
  · intro left right leftHeld rightHeld leftPlain rightPlain
    have leftFormed := firstReached.toDocument_wellFormed leftHeld
    have rightFormed := secondReached.toDocument_wellFormed rightHeld
    have same := leftFormed.agrees_iff_digest_withPlainZeros rightFormed
    rw [leftPlain, rightPlain] at same
    rw [Entity.digest_eq_iff]
    exact same

/-- The two orders of one mapping hash alike, and a host and an empty inventory do not. -/
theorem Catalogue.leaf_hashed :
    (Document.mapping [("one", .integer 1), ("two", .integer 2)]).digest =
      (Document.mapping [("two", .integer 2), ("one", .integer 1)]).digest ∧
    leaf.digest ≠ (inventoryOf []).digest := by
  have formed (first second : String) (apart : first ≠ second) (left right : Int) :
      (Document.mapping [(first, .integer left), (second, .integer right)]).WellFormed := by
    apply Document.WellFormed.mapping
    · simp [Entries.keys, apart]
    · simp only [List.forall_mem_cons]
      exact ⟨.number _, .number _, List.forall_mem_nil _⟩
  obtain ⟨documents, entities⟩ := hash_follows_equality leaf_reachable leaf_reachable
  constructor
  · exact (documents _ _ (formed "one" "two" (by decide) 1 2)
      (formed "two" "one" (by decide) 2 1)).2.mp rfl
  · intro same
    have agree := (entities leaf (inventoryOf []) (by simp) (by simp) rfl rfl).mpr same
    exact Bool.noConfusion agree

/-- The two zeros are equal, and their hashes are not. -/
theorem signedZeros_hashed_apart :
    (Document.number (.float (.zero false))).agrees (.number (.float (.zero true))) = true ∧
      (Document.number (.float (.zero false))).digest ≠
        (Document.number (.float (.zero true))).digest := by
  decide

end NetworkAutomation
