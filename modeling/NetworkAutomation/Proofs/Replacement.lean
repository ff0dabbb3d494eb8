/-
This file proves that replacing reaches every occurrence of a pattern that no shift of it overlaps.
-/

import Mathlib.Data.List.Infix
import NetworkAutomation.Text.Replace

namespace NetworkAutomation.Text

/-! ## Occurrences -/

/-- The pattern stands in the text at this place. -/
def OccursAt (pattern text : List Char) (place : Nat) : Prop :=
  pattern <+: text.drop place

/-- No end of the pattern begins it, apart from the empty end and the whole pattern. -/
def Borderless (pattern : List Char) : Prop :=
  ∀ border, border <:+ pattern → border <+: pattern → border = [] ∨ border = pattern

/-- The pieces are what stands between the occurrences of the pattern, all of them counted. -/
structure SplitBy (pattern text : List Char) (pieces : List (List Char)) : Prop where
  nonempty : pieces ≠ []
  joined : pattern.intercalate pieces = text
  places : ∀ place, OccursAt pattern text place ↔ ∃ count, 0 < count ∧ count < pieces.length ∧
    place = (pattern.intercalate (pieces.take count)).length

/--
All occurrences of the pattern stand apart, there is one at least, and each of them gave way to the
replacement, but nothing else did.
-/
structure Rewritten (pattern replacement text result : List Char) : Prop where
  occurs : ∃ place, OccursAt pattern text place
  apart : ∀ first second, OccursAt pattern text first → OccursAt pattern text second →
    first < second → first + pattern.length ≤ second
  replaced : ∃ pieces, SplitBy pattern text pieces ∧ result = replacement.intercalate pieces
  single : ∀ before after, text = before ++ pattern ++ after →
    (∀ place, OccursAt pattern text place → place = before.length) →
    result = before ++ replacement ++ after

variable {pattern text rest : List Char}

theorem occursAt_cons_succ_iff {character : Char} {place : Nat} :
    OccursAt pattern (character :: rest) (place + 1) ↔ OccursAt pattern rest place :=
  Iff.rfl

theorem occursAt_append_iff {before : List Char} {place : Nat} :
    OccursAt pattern (before ++ rest) (before.length + place) ↔ OccursAt pattern rest place := by
  rw [OccursAt, OccursAt, ← List.drop_drop, List.drop_left]

/-- Behind an occurrence of a borderless pattern the next one begins at its end at the earliest. -/
theorem Borderless.not_occursAt (borderless : Borderless pattern) {place : Nat}
    (positive : 0 < place) (inside : place < pattern.length) :
    ¬OccursAt pattern (pattern ++ rest) place := by
  intro occurs
  rw [OccursAt, List.drop_append_of_le_length (Nat.le_of_lt inside)] at occurs
  have shorter : (pattern.drop place).length ≤ pattern.length := by simp
  have begins : pattern.drop place <+: pattern :=
    List.prefix_of_prefix_length_le (List.prefix_append _ _) occurs shorter
  rcases borderless _ (List.drop_suffix place pattern) begins with isEmpty | isWhole
  · rw [List.drop_eq_nil_iff] at isEmpty
    omega
  · have length := congrArg List.length isWhole
    rw [List.length_drop] at length
    omega

theorem Borderless.apart (borderless : Borderless pattern) {first second : Nat}
    (occurs : OccursAt pattern text first) (later : OccursAt pattern text second)
    (before : first < second) : first + pattern.length ≤ second := by
  by_contra overlap
  obtain ⟨rest, split⟩ := occurs
  have shifted : OccursAt pattern (pattern ++ rest) (second - first) := by
    rw [OccursAt, split, List.drop_drop, Nat.add_sub_cancel' (Nat.le_of_lt before)]
    exact later
  exact borderless.not_occursAt (by omega) (by omega) shifted

/-! ## Replacing -/

theorem stripLead?_eq_some_iff : stripLead? pattern text = some rest ↔ text = pattern ++ rest := by
  induction pattern generalizing text with
  | nil => simp [stripLead?]
  | cons expected pattern ih =>
      cases text with
      | nil => simp [stripLead?]
      | cons character text =>
          rw [stripLead?]
          by_cases same : expected = character
          · simp [same, ih]
          · simp [same, Ne.symm same]

/-- Counted characters are passed over. -/
theorem replaceFrom_eq_drop (replacement : List Char) (skipped : Nat) :
    replaceFrom pattern replacement skipped text =
      replaceFrom pattern replacement 0 (text.drop skipped) := by
  induction text generalizing skipped with
  | nil => cases skipped <;> simp [replaceFrom]
  | cons character rest ih =>
      cases skipped with
      | zero => rfl
      | succ skipped => rw [replaceFrom, ih, List.drop_succ_cons]

theorem replaceAll_append (replacement : List Char) (nonempty : pattern ≠ []) :
    replaceAll pattern replacement (pattern ++ rest) =
      replacement ++ replaceAll pattern replacement rest := by
  obtain ⟨first, others, rfl⟩ := List.exists_cons_of_ne_nil nonempty
  have found : stripLead? (first :: others) (first :: others ++ rest) = some rest :=
    stripLead?_eq_some_iff.mpr rfl
  rw [replaceAll, List.cons_append, replaceFrom, ← List.cons_append, found]
  dsimp only
  rw [replaceFrom_eq_drop, List.length_cons, Nat.add_sub_cancel, List.drop_left, replaceAll]

theorem replaceAll_cons (replacement : List Char) {character : Char}
    (absent : ¬pattern <+: character :: rest) :
    replaceAll pattern replacement (character :: rest) =
      character :: replaceAll pattern replacement rest := by
  rw [replaceAll, replaceFrom]
  split
  next found => exact absurd ⟨_, (stripLead?_eq_some_iff.mp found).symm⟩ absent
  next => rfl

/-! ## Pieces -/

theorem intercalate_cons_head (separator head : List Char) (character : Char)
    (pieces : List (List Char)) :
    separator.intercalate ((character :: head) :: pieces) =
      character :: separator.intercalate (head :: pieces) := by
  cases pieces with
  | nil => simp
  | cons next pieces => simp

namespace SplitBy

variable {head : List Char} {pieces : List (List Char)}

theorem nil (nonempty : pattern ≠ []) : SplitBy pattern [] [[]] where
  nonempty := List.cons_ne_nil _ _
  joined := List.intercalate_singleton
  places place := by
    simp only [OccursAt, List.drop_nil, List.prefix_nil, List.length_singleton]
    constructor
    · exact fun isEmpty => absurd isEmpty nonempty
    · rintro ⟨count, positive, below, _⟩
      omega

/-- A character at which the pattern does not stand joins the first piece. -/
theorem cons {character : Char} (split : SplitBy pattern rest (head :: pieces))
    (absent : ¬pattern <+: character :: rest) :
    SplitBy pattern (character :: rest) ((character :: head) :: pieces) where
  nonempty := List.cons_ne_nil _ _
  joined := by rw [intercalate_cons_head, split.joined]
  places place := by
    have shifted (count : Nat) (positive : 0 < count) :
        (pattern.intercalate (((character :: head) :: pieces).take count)).length =
          (pattern.intercalate ((head :: pieces).take count)).length + 1 := by
      obtain ⟨count, rfl⟩ := Nat.exists_eq_succ_of_ne_zero (Nat.ne_of_gt positive)
      rw [List.take_succ_cons, List.take_succ_cons, intercalate_cons_head, List.length_cons]
    cases place with
    | zero =>
        refine ⟨fun occurs => absurd occurs absent, ?_⟩
        rintro ⟨count, positive, _, same⟩
        rw [shifted count positive] at same
        omega
    | succ place =>
        rw [occursAt_cons_succ_iff, split.places place]
        refine exists_congr fun count => and_congr_right fun positive => ?_
        rw [shifted count positive, Nat.add_right_cancel_iff]
        rfl

/-- At an occurrence a new piece begins. -/
theorem append (split : SplitBy pattern rest (head :: pieces)) (borderless : Borderless pattern)
    (nonempty : pattern ≠ []) : SplitBy pattern (pattern ++ rest) ([] :: head :: pieces) where
  nonempty := List.cons_ne_nil _ _
  joined := by rw [List.intercalate_cons_cons, split.joined, List.nil_append]
  places place := by
    have positive : 0 < pattern.length := List.length_pos_iff.mpr nonempty
    -- The first occurrence stands at the beginning, and all others stand in the rest.
    have shifted (count : Nat) :
        (pattern.intercalate (([] :: head :: pieces).take (count + 2))).length =
          pattern.length + (pattern.intercalate ((head :: pieces).take (count + 1))).length := by
      simp only [List.take_succ_cons, List.intercalate_cons_cons, List.nil_append,
        List.length_append]
    have places_iff : (∃ count, 0 < count ∧ count < ([] :: head :: pieces).length ∧
        place = (pattern.intercalate (([] :: head :: pieces).take count)).length) ↔
        place = 0 ∨ ∃ earlier, place = pattern.length + earlier ∧
          OccursAt pattern rest earlier := by
      constructor
      · rintro ⟨count, _, below, rfl⟩
        match count with
        | 1 => exact .inl (by simp)
        | count + 2 =>
            refine .inr ⟨_, shifted count, (split.places _).mpr ⟨count + 1, ?_, ?_, rfl⟩⟩
            · omega
            · simpa using below
      · rintro (rfl | ⟨earlier, rfl, occurs⟩)
        · exact ⟨1, by omega, by simp, by simp⟩
        · obtain ⟨count, isPositive, below, rfl⟩ := (split.places earlier).mp occurs
          obtain ⟨count, rfl⟩ := Nat.exists_eq_succ_of_ne_zero (Nat.ne_of_gt isPositive)
          refine ⟨count + 2, by omega, by simpa using below, (shifted count).symm⟩
    rw [places_iff]
    constructor
    · intro occurs
      by_cases inside : place < pattern.length
      · by_cases isFirst : place = 0
        · exact .inl isFirst
        · exact absurd occurs (borderless.not_occursAt (Nat.pos_of_ne_zero isFirst) inside)
      · obtain ⟨earlier, rfl⟩ := Nat.exists_eq_add_of_le (Nat.le_of_not_lt inside)
        exact .inr ⟨earlier, rfl, occursAt_append_iff.mp occurs⟩
    · rintro (rfl | ⟨earlier, rfl, occurs⟩)
      · exact List.prefix_append _ _
      · exact occursAt_append_iff.mpr occurs

/-- Text with a single occurrence falls into what stands before it and what stands behind it. -/
theorem eq_pair {before after : List Char} (split : SplitBy pattern text pieces)
    (nonempty : pattern ≠ []) (whole : text = before ++ pattern ++ after)
    (single : ∀ place, OccursAt pattern text place → place = before.length) :
    pieces = [before, after] := by
  have positive : 0 < pattern.length := List.length_pos_iff.mpr nonempty
  have occurs : OccursAt pattern text before.length := by
    rw [whole, List.append_assoc, ← Nat.add_zero before.length, occursAt_append_iff]
    exact List.prefix_append _ _
  obtain ⟨count, isPositive, below, _⟩ := (split.places _).mp occurs
  match pieces, split with
  | [], split => exact absurd rfl split.nonempty
  | [piece], split =>
      rw [List.length_singleton] at below
      omega
  | [first, last], split =>
      have place := single first.length ((split.places _).mpr ⟨1, by simp, by simp, by simp⟩)
      have joined := split.joined
      rw [List.intercalate_cons_cons, List.intercalate_singleton, whole] at joined
      obtain ⟨lead, rfl⟩ := List.append_inj joined (by simp [place])
      rw [(List.append_inj lead place).1]
  | first :: second :: third :: others, split =>
      have one := single _ ((split.places _).mpr ⟨1, by simp, by simp, rfl⟩)
      have two := single _ ((split.places _).mpr ⟨2, by simp, by simp, rfl⟩)
      rw [← one] at two
      simp only [List.take_succ_cons, List.take_zero, List.intercalate_cons_cons,
        List.intercalate_singleton, List.length_append] at two
      omega

end SplitBy

/-- Whatever the replacement is, it comes to stand between the same pieces. -/
theorem exists_splitBy (borderless : Borderless pattern) (nonempty : pattern ≠ [])
    (text : List Char) : ∃ pieces, SplitBy pattern text pieces ∧
      ∀ replacement, replaceAll pattern replacement text = replacement.intercalate pieces := by
  induction length : text.length using Nat.strong_induction_on generalizing text with
  | _ length ih =>
      subst length
      cases text with
      | nil => exact ⟨[[]], .nil nonempty, fun replacement => by simp [replaceAll, replaceFrom]⟩
      | cons character rest =>
          by_cases occurs : pattern <+: character :: rest
          · obtain ⟨others, whole⟩ := occurs
            have shorter : others.length < (character :: rest).length := by
              rw [← whole, List.length_append]
              have := List.length_pos_iff.mpr nonempty
              omega
            obtain ⟨pieces, split, replaced⟩ := ih _ shorter others rfl
            obtain ⟨head, later, rfl⟩ := List.exists_cons_of_ne_nil split.nonempty
            rw [← whole]
            refine ⟨_, split.append borderless nonempty, fun replacement => ?_⟩
            rw [replaceAll_append replacement nonempty, replaced, List.intercalate_cons_cons,
              List.nil_append]
          · obtain ⟨pieces, split, replaced⟩ := ih _ (Nat.lt_succ_self _) rest rfl
            obtain ⟨head, later, rfl⟩ := List.exists_cons_of_ne_nil split.nonempty
            refine ⟨_, split.cons occurs, fun replacement => ?_⟩
            rw [replaceAll_cons replacement occurs, replaced, intercalate_cons_head]

/-- A borderless pattern that stands in the text is replaced wherever it stands. -/
theorem rewritten_replaceAll (borderless : Borderless pattern) (nonempty : pattern ≠ [])
    (contained : pattern <:+: text) (replacement : List Char) :
    Rewritten pattern replacement text (replaceAll pattern replacement text) := by
  obtain ⟨pieces, split, replaced⟩ := exists_splitBy borderless nonempty text
  refine ⟨?_, fun _ _ occurs later before => borderless.apart occurs later before,
    ⟨pieces, split, replaced replacement⟩, fun before after whole single => ?_⟩
  · obtain ⟨before, after, whole⟩ := contained
    refine ⟨before.length, ?_⟩
    rw [← whole, List.append_assoc, ← Nat.add_zero before.length, occursAt_append_iff]
    exact List.prefix_append _ _
  · rw [replaced, split.eq_pair nonempty whole single, List.intercalate_cons_cons,
      List.intercalate_singleton]

/-- Up to the first occurrence the text stays, and the replacement follows. -/
theorem Rewritten.exists_first {replacement result : List Char}
    (rewritten : Rewritten pattern replacement text result) : ∃ first rest later,
      text = first ++ pattern ++ rest ∧ result = first ++ replacement ++ later := by
  obtain ⟨⟨place, occurs⟩, _, ⟨pieces, split, rfl⟩, _⟩ := rewritten
  obtain ⟨count, positive, below, _⟩ := (split.places place).mp occurs
  match pieces, split, below with
  | [], _, below => exact absurd below (Nat.not_lt_zero count)
  | [_], _, below => exact absurd positive (Nat.not_lt.mpr (Nat.le_of_lt_succ below))
  | first :: second :: others, split, _ =>
      refine ⟨first, pattern.intercalate (second :: others),
        replacement.intercalate (second :: others), ?_, ?_⟩
      · rw [← split.joined, List.intercalate_cons_cons]
      · rw [List.intercalate_cons_cons]

end NetworkAutomation.Text
