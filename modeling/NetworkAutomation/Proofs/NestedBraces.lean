/-
This file tells the braces outside of strings from those inside, and says which text nests them.
-/

import NetworkAutomation.Proofs.ConfigObjects

namespace NetworkAutomation.PortConfig

variable {text rest part first second : List Char}

/-! ## Nested braces -/

/-- No brace is closed before it is opened, and none stays open. -/
structure Nests (text : List Char) : Prop where
  level : nesting text = 0
  above : ∀ lead, lead <+: text → 0 ≤ nesting lead

theorem nesting_cons (character : Char) (text : List Char) :
    nesting (character :: text) = nesting [character] + nesting text :=
  nesting_append [character] text

def Unbraced (text : List Char) : Prop :=
  ∀ character ∈ text, character ≠ '{' ∧ character ≠ '}'

instance : DecidablePred Unbraced := fun text => List.decidableBAll _ text

/-- Text without braces leaves the level where it is. -/
theorem Unbraced.nesting (unbraced : Unbraced text) : nesting text = 0 := by
  have noOpening : text.count '{' = 0 := List.count_eq_zero.mpr fun member =>
    (unbraced _ member).1 rfl
  have noClosing : text.count '}' = 0 := List.count_eq_zero.mpr fun member =>
    (unbraced _ member).2 rfl
  rw [PortConfig.nesting, noOpening, noClosing]
  rfl

theorem prefix_first_or_beyond {lead : List Char} (begins : lead <+: first ++ second) :
    lead <+: first ∨ ∃ later, lead = first ++ later ∧ later <+: second := by
  rcases List.prefix_or_prefix_of_prefix begins (List.prefix_append first second) with
    earlier | ⟨later, rfl⟩
  · exact .inl earlier
  · exact .inr ⟨later, rfl, (List.prefix_append_right_inj first).mp begins⟩

namespace Nests

theorem of_unbraced (unbraced : Unbraced text) : Nests text where
  level := unbraced.nesting
  above lead begins := by
    have also : Unbraced lead := fun character member => unbraced character (begins.mem member)
    exact Int.le_of_eq also.nesting.symm

theorem append (nests : Nests first) (also : Nests second) : Nests (first ++ second) where
  level := by rw [nesting_append, nests.level, also.level, Int.add_zero]
  above lead begins := by
    rcases prefix_first_or_beyond begins with earlier | ⟨later, rfl, beginsSecond⟩
    · exact nests.above lead earlier
    · rw [nesting_append, nests.level, Int.zero_add]
      exact also.above later beginsSecond

/-- Braces around nested ones make an object. -/
theorem balanced (nests : Nests part) : Balanced ('{' :: part ++ ['}']) where
  opens := rfl
  closes := List.getLast?_concat
  balanced := by
    rw [nesting_append, nesting_cons, nests.level]
    rfl
  inside lead begins nonempty proper := by
    rcases List.prefix_concat_iff.mp begins with isWhole | earlier
    · exact absurd isWhole proper
    · obtain ⟨later, rfl, inPart⟩ := (List.prefix_cons_iff.mp earlier).resolve_left nonempty
      have above := nests.above later inPart
      rw [nesting_cons, show nesting ['{'] = 1 from rfl]
      omega

end Nests

theorem Balanced.nests (whole : Balanced text) : Nests text where
  level := whole.balanced
  above lead begins := by
    by_cases isEmpty : lead = []
    · rw [isEmpty]
      decide
    · by_cases isWhole : lead = text
      · exact Int.le_of_eq (isWhole ▸ whole.balanced.symm)
      · exact Int.le_of_lt (whole.inside lead begins isEmpty isWhole)

/-! ## Strings -/

/-- A character stands outside of strings, inside of one, or behind a backslash in it. -/
inductive Place where
  | outside
  | inside
  | escaped
  deriving DecidableEq

def Place.next : Place → Char → Place
  | .outside, '"' => .inside
  | .outside, _ => .outside
  | .inside, '"' => .outside
  | .inside, '\\' => .escaped
  | .inside, _ => .inside
  | .escaped, _ => .inside

/-- The characters of the text that stand at wanted places. -/
def placed (wanted : Place → Bool) (place : Place) : List Char → List Char
  | [] => []
  | character :: rest =>
      let later := placed wanted (place.next character) rest
      if wanted place then character :: later else later

/-- What stands outside of strings, together with the quotes that open them. -/
def outer (text : List Char) : List Char :=
  placed (· == .outside) .outside text

/-- What stands inside of strings, together with the quotes that close them. -/
def inner (text : List Char) : List Char :=
  placed (· != .outside) .outside text

theorem placed_append (wanted : Place → Bool) (place : Place) (first second : List Char) :
    placed wanted place (first ++ second) =
      placed wanted place first ++ placed wanted (first.foldl Place.next place) second := by
  induction first generalizing place with
  | nil => rfl
  | cons character rest ih =>
      rw [List.cons_append, placed, placed, ih, List.foldl_cons]
      split <;> rfl

theorem placed_isPrefix (wanted : Place → Bool) (place : Place) (begins : first <+: second) :
    placed wanted place first <+: placed wanted place second := by
  obtain ⟨rest, rfl⟩ := begins
  rw [placed_append]
  exact List.prefix_append _ _

theorem outer_ne_nil (nonempty : text ≠ []) : outer text ≠ [] := by
  obtain ⟨first, others, rfl⟩ := List.exists_cons_of_ne_nil nonempty
  exact List.cons_ne_nil _ _

/-- Every brace stands either outside of strings or inside of one. -/
theorem nesting_eq_add (text : List Char) :
    nesting text = nesting (outer text) + nesting (inner text) := by
  have each (place : Place) : nesting text = nesting (placed (· == .outside) place text) +
      nesting (placed (· != .outside) place text) := by
    induction text generalizing place with
    | nil => rfl
    | cons character rest ih =>
        rw [nesting_cons, ih (place.next character), placed, placed]
        by_cases isOutside : place = .outside
        · simp only [isOutside, beq_self_eq_true, if_true, bne_self_eq_false, Bool.false_eq_true,
            if_false]
          rw [nesting_cons character (placed _ _ _)]
          omega
        · simp only [beq_eq_false_iff_ne.mpr isOutside, Bool.false_eq_true, if_false,
            bne_iff_ne.mpr isOutside, if_true]
          rw [nesting_cons character (placed _ _ _)]
          omega
  exact each .outside

/-- What stands between the quotes of a string. -/
inductive StringBody : List Char → Prop where
  | nil : StringBody []
  | plain {character : Char} {rest : List Char} (noQuote : character ≠ '"')
      (noBackslash : character ≠ '\\') (later : StringBody rest) : StringBody (character :: rest)
  | escaped (character : Char) {rest : List Char} (later : StringBody rest) :
      StringBody ('\\' :: character :: rest)

theorem Place.next_outside {character : Char} (noQuote : character ≠ '"') :
    outside.next character = .outside := by
  unfold next
  split <;> simp_all

theorem Place.next_inside {character : Char} (noQuote : character ≠ '"')
    (noBackslash : character ≠ '\\') : inside.next character = .inside := by
  unfold next
  split <;> simp_all

/-- A string ends at its closing quote, and nothing of it stands outside. -/
theorem StringBody.stays_inside (body : StringBody text) :
    text.foldl Place.next .inside = .inside ∧ placed (· == .outside) .inside text = [] := by
  induction body with
  | nil => exact ⟨rfl, rfl⟩
  | plain noQuote noBackslash _ ih =>
      rw [List.foldl_cons, placed, Place.next_inside noQuote noBackslash]
      exact ih
  | escaped _ _ ih => exact ih

/-! ## Texts of documents -/

/--
Between the two texts strings are whole, and braces outside of strings are closed in the order in
which they were opened.
-/
inductive Passes : List Char → List Char → Prop where
  | stop (text : List Char) : Passes text text
  | plain {character : Char} {text rest : List Char} (noQuote : character ≠ '"')
      (noOpening : character ≠ '{') (noClosing : character ≠ '}') (later : Passes text rest) :
      Passes (character :: text) rest
  | quoted {body text rest : List Char} (string : StringBody body) (later : Passes text rest) :
      Passes ('"' :: (body ++ '"' :: text)) rest
  | braces {inside text rest : List Char} (deeper : Passes inside ('}' :: text))
      (later : Passes text rest) : Passes ('{' :: inside) rest

namespace Passes

theorem trans {middle : List Char} (passes : Passes text middle) (further : Passes middle rest) :
    Passes text rest := by
  induction passes with
  | stop => exact further
  | plain noQuote noOpening noClosing _ ih => exact .plain noQuote noOpening noClosing (ih further)
  | quoted string _ ih => exact .quoted string (ih further)
  | braces deeper _ _ ih => exact .braces deeper (ih further)

theorem plain_append
    (plain : ∀ character ∈ part, character ≠ '"' ∧ character ≠ '{' ∧ character ≠ '}')
    (rest : List Char) : Passes (part ++ rest) rest := by
  induction part with
  | nil => exact .stop rest
  | cons character others ih =>
      obtain ⟨⟨noQuote, noOpening, noClosing⟩, later⟩ := List.forall_mem_cons.mp plain
      exact .plain noQuote noOpening noClosing (ih later)

/-- What is passed begins and ends outside of strings, and the braces out there nest. -/
theorem exists_part (passes : Passes text rest) : ∃ part, text = part ++ rest ∧
    part.foldl Place.next .outside = .outside ∧ Nests (outer part) := by
  induction passes with
  | stop text => exact ⟨[], rfl, rfl, .of_unbraced nofun⟩
  | @plain character _ _ noQuote noOpening noClosing _ ih =>
      obtain ⟨part, rfl, outside, nests⟩ := ih
      have single : Nests [character] := .of_unbraced (by simp [Unbraced, noOpening, noClosing])
      refine ⟨character :: part, rfl, ?_, ?_⟩
      · rw [List.foldl_cons, Place.next_outside noQuote, outside]
      · rw [outer, placed, Place.next_outside noQuote]
        exact single.append nests
  | @quoted body _ _ string _ ih =>
      obtain ⟨part, rfl, outside, nests⟩ := ih
      have quote : Nests ['"'] := .of_unbraced (by simp [Unbraced])
      obtain ⟨stays, nothing⟩ := string.stays_inside
      refine ⟨'"' :: (body ++ '"' :: part), by simp, ?_, ?_⟩
      · rw [List.foldl_cons, List.foldl_append, Place.next, stays]
        exact outside
      · rw [outer, placed, placed_append, Place.next, nothing, stays]
        exact quote.append nests
  | braces _ _ ihDeeper ih =>
      obtain ⟨part, rfl, outside, nests⟩ := ih
      obtain ⟨deeper, rfl, deeperOutside, deeperNests⟩ := ihDeeper
      refine ⟨'{' :: deeper ++ '}' :: part, by simp, ?_, ?_⟩
      · have opened : List.foldl Place.next .outside ('{' :: deeper) = .outside := deeperOutside
        rw [List.foldl_append, opened, List.foldl_cons]
        exact outside
      · have whole : outer ('{' :: deeper ++ '}' :: part) =
            ('{' :: outer deeper ++ ['}']) ++ outer part := by
          have opened : List.foldl Place.next .outside ('{' :: deeper) = .outside := deeperOutside
          rw [outer, placed_append, opened, List.append_assoc]
          rfl
        rw [whole]
        exact deeperNests.balanced.nests.append nests

end Passes

end NetworkAutomation.PortConfig
