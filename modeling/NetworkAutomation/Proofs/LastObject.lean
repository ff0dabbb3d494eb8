/-
This file proves that the scan for braces finds the last span that is complete, and that it reports
the open span of a text that ends inside one.
-/

import NetworkAutomation.Proofs.NestedBraces

namespace NetworkAutomation.PortConfig

/-! ## Spans -/

/-- The depth behind a character, where a closing brace at depth zero counts for nothing. -/
def depthBehind (depth : Nat) (character : Char) : Nat :=
  if character = '{' then depth + 1 else if character = '}' then depth - 1 else depth

/-- The depth at the end of the text. -/
def finalDepth (text : List Char) : Nat :=
  text.foldl depthBehind 0

/-- Behind the text before it, the span begins with a brace at depth zero and stays above that. -/
structure StaysOpen (before span : List Char) : Prop where
  top : finalDepth before = 0
  opens : span.head? = some '{'
  above : ∀ lead, lead <+: span → lead ≠ [] → 0 < finalDepth (before ++ lead)

/-- An object begins with a brace at depth zero, and the first brace that returns there ends it. -/
def Completes (before object : List Char) : Prop :=
  ∃ span, object = span ++ ['}'] ∧ StaysOpen before span ∧ finalDepth (before ++ object) = 0

/-- The final depth and the spans of a text tell what the scan gives. -/
structure FindsLastObject (text : List Char) : Prop where
  unbalanced : (∃ fragment, lastObject text = .error (.unbalanced fragment)) ↔ 0 < finalDepth text
  fragment : ∀ fragment, lastObject text = .error (.unbalanced fragment) ↔
    ∃ before, text = before ++ fragment ∧ StaysOpen before fragment
  missing : lastObject text = .error .missing ↔ finalDepth text = 0 ∧
    ∀ before object after, text = before ++ object ++ after → ¬Completes before object
  found : ∀ object, lastObject text = .ok object ↔ finalDepth text = 0 ∧
    ∃ before after, text = before ++ object ++ after ∧ Completes before object ∧ '{' ∉ after
  balanced : ∀ object, lastObject text = .ok object → Balanced object
  reported : ∀ error, lastObject text = .error error →
    ∀ system, format (String.ofList text) system = .error (ofSpanError error)

variable {text before object after : List Char}

/-! ## Depths -/

theorem finalDepth_concat (text : List Char) (character : Char) :
    finalDepth (text ++ [character]) = depthBehind (finalDepth text) character := by
  rw [finalDepth, List.foldl_concat, finalDepth]

/-- At depth zero only an opening brace counts. -/
theorem depthBehind_zero {character : Char} (noOpening : character ≠ '{') :
    depthBehind 0 character = 0 := by
  unfold depthBehind
  rw [if_neg noOpening]
  split <;> rfl

/-- Above depth zero every brace counts. -/
theorem depthBehind_of_pos {depth : Nat} (positive : 0 < depth) (character : Char) :
    (depthBehind depth character : Int) = depth + nesting [character] := by
  unfold depthBehind
  split
  next isOpening =>
    rw [isOpening]
    rfl
  next notOpening =>
    split
    next isClosing =>
      rw [isClosing, show nesting ['}'] = -1 from rfl]
      omega
    next notClosing => rw [nesting_singleton_of_ne notOpening notClosing, Int.add_zero]

namespace StaysOpen

variable {span other others lead : List Char}

theorem nonempty (isOpen : StaysOpen before span) : span ≠ [] := by
  rintro rfl
  exact nomatch isOpen.opens

theorem finalDepth_pos (isOpen : StaysOpen before span) : 0 < finalDepth (before ++ span) :=
  isOpen.above span List.prefix_rfl isOpen.nonempty

/-- A brace at depth zero opens a span. -/
theorem single (top : finalDepth before = 0) : StaysOpen before ['{'] where
  top := top
  opens := rfl
  above lead begins nonempty := by
    have begins : lead <+: [] ++ ['{'] := begins
    rcases List.prefix_concat_iff.mp begins with rfl | isEmpty
    · rw [List.nil_append, finalDepth_concat, top]
      decide
    · exact absurd (List.prefix_nil.mp isEmpty) nonempty

theorem concat (isOpen : StaysOpen before span) {character : Char}
    (positive : 0 < finalDepth (before ++ span ++ [character])) :
    StaysOpen before (span ++ [character]) where
  top := isOpen.top
  opens := by rw [List.head?_append, isOpen.opens, Option.some_or]
  above lead begins nonempty := by
    rcases List.prefix_concat_iff.mp begins with rfl | earlier
    · rwa [← List.append_assoc]
    · exact isOpen.above lead earlier nonempty

/-- A span that begins later would begin at depth zero inside of this one. -/
theorem eq_of_append (isOpen : StaysOpen before span) (also : StaysOpen (before ++ lead) others)
    (same : span = lead ++ others) : span = others := by
  by_cases isEmpty : lead = []
  · rw [same, isEmpty, List.nil_append]
  · have above := isOpen.above lead (same ▸ List.prefix_append _ _) isEmpty
    rw [also.top] at above
    exact absurd above (Nat.lt_irrefl 0)

/-- Two spans that stay open to the end of one text are the same. -/
theorem unique (isOpen : StaysOpen before span) (also : StaysOpen other others)
    (same : before ++ span = other ++ others) : span = others := by
  rcases List.append_eq_append_iff.mp same with ⟨lead, rfl, split⟩ | ⟨lead, rfl, split⟩
  · exact isOpen.eq_of_append also split
  · exact (also.eq_of_append isOpen split).symm

end StaysOpen

namespace Completes

variable {other later lead : List Char}

theorem begins_top (completes : Completes before object) : finalDepth before = 0 := by
  obtain ⟨_, _, isOpen, _⟩ := completes
  exact isOpen.top

theorem ends_top (completes : Completes before object) : finalDepth (before ++ object) = 0 := by
  obtain ⟨_, _, _, top⟩ := completes
  exact top

theorem opening_mem (completes : Completes before object) : '{' ∈ object := by
  obtain ⟨span, rfl, isOpen, _⟩ := completes
  exact List.mem_append_left _ (List.mem_of_mem_head? isOpen.opens)

theorem nonempty (completes : Completes before object) : object ≠ [] :=
  List.ne_nil_of_mem completes.opening_mem

/-- Behind its beginning depth zero is not reached before the object ends. -/
theorem isPrefix_of_top (completes : Completes before object) (nonempty : lead ≠ [])
    (begins : lead <+: object ++ after) (top : finalDepth (before ++ lead) = 0) :
    object <+: lead := by
  rcases prefix_first_or_beyond begins with inside | ⟨rest, beyond, _⟩
  · obtain ⟨span, rfl, isOpen, _⟩ := completes
    rcases List.prefix_concat_iff.mp inside with isWhole | earlier
    · rw [isWhole]
    · have above := isOpen.above lead earlier nonempty
      omega
  · exact ⟨rest, beyond.symm⟩

/-- An object without an opening brace behind it is the last one of its text. -/
theorem eq_of_append (completes : Completes before object)
    (also : Completes (before ++ lead) other) (same : object ++ after = lead ++ other ++ later)
    (last : '{' ∉ after) : object = other := by
  by_cases isEmpty : lead = []
  · subst isEmpty
    rw [List.append_nil] at also
    rw [List.nil_append] at same
    have shorter : object <+: other := by
      have begins : other <+: object ++ after := same ▸ List.prefix_append _ _
      exact completes.isPrefix_of_top also.nonempty begins also.ends_top
    have longer : other <+: object := by
      have begins : object <+: other ++ later := same ▸ List.prefix_append _ _
      exact also.isPrefix_of_top completes.nonempty begins completes.ends_top
    exact shorter.eq_of_length_le longer.length_le
  · have begins : lead <+: object ++ after := by
      rw [same, List.append_assoc]
      exact List.prefix_append _ _
    obtain ⟨rest, rfl⟩ := completes.isPrefix_of_top isEmpty begins also.begins_top
    -- The other object stands behind this one, where no brace opens it.
    rw [List.append_assoc, List.append_assoc, List.append_cancel_left_eq] at same
    refine absurd ?_ last
    rw [same]
    exact List.mem_append_right _ (List.mem_append_left _ also.opening_mem)

theorem unique (completes : Completes before object) (also : Completes other lead)
    (same : before ++ object ++ after = other ++ lead ++ later) (last : '{' ∉ after)
    (alsoLast : '{' ∉ later) : object = lead := by
  rw [List.append_assoc, List.append_assoc] at same
  rcases List.append_eq_append_iff.mp same with ⟨part, rfl, split⟩ | ⟨part, rfl, split⟩
  · exact completes.eq_of_append also (by rw [split, List.append_assoc]) last
  · exact (also.eq_of_append completes (by rw [split, List.append_assoc]) alsoLast).symm

end Completes

/-! ## The scan -/

/-- The open span ends the text so far, and the closed object is the last one completed in it. -/
structure Scan.Finds (text : List Char) (scan : Scan) : Prop where
  depth : scan.depth = finalDepth text
  opened : 0 < scan.depth →
    ∃ before, text = before ++ scan.opened.reverse ∧ StaysOpen before scan.opened.reverse
  closed : ∀ object, scan.closed = some object → ∃ before after,
    text = before ++ object ++ after ∧ Completes before object ∧ (scan.depth = 0 → '{' ∉ after)
  nothing : scan.closed = none → scan.depth = 0 → '{' ∉ text

namespace Scan.Finds

variable {scan : Scan}

theorem start : Finds [] Scan.start where
  depth := rfl
  opened inside := absurd inside (Nat.lt_irrefl 0)
  closed _ isClosed := nomatch isClosed
  nothing _ _ := List.not_mem_nil

/-- Only a brace that opens a span at depth zero makes the closed object not the last one. -/
theorem closed_concat (finds : Finds text scan) {character : Char} {depth : Nat}
    (last : depth = 0 → scan.depth = 0 ∧ character ≠ '{') {object : List Char}
    (isClosed : scan.closed = some object) : ∃ before after,
      text ++ [character] = before ++ object ++ after ∧ Completes before object ∧
        (depth = 0 → '{' ∉ after) := by
  obtain ⟨before, after, rfl, completes, noOpening⟩ := finds.closed object isClosed
  refine ⟨before, after ++ [character], by simp, completes, fun top => ?_⟩
  obtain ⟨outside, other⟩ := last top
  simpa using ⟨noOpening outside, other.symm⟩

theorem opening (finds : Finds text scan) (outside : scan.depth = 0) :
    Finds (text ++ ['{']) { scan with depth := 1, opened := ['{'] } where
  depth := by
    rw [finalDepth_concat, ← finds.depth, outside]
    rfl
  opened _ := ⟨text, rfl, .single (finds.depth ▸ outside)⟩
  closed _ := finds.closed_concat fun top => absurd top Nat.one_ne_zero
  nothing _ top := nomatch top

theorem passing (finds : Finds text scan) {character : Char} (outside : scan.depth = 0)
    (noOpening : character ≠ '{') : Finds (text ++ [character]) scan where
  depth := by rw [finalDepth_concat, ← finds.depth, outside, depthBehind_zero noOpening]
  opened inside := absurd inside (by omega)
  closed _ := finds.closed_concat fun top => ⟨top, noOpening⟩
  nothing isNone top := by simpa using ⟨finds.nothing isNone top, noOpening.symm⟩

theorem taking (finds : Finds text scan) {character : Char} {depth : Nat}
    (inside : 0 < scan.depth) (nested : scan.depth + nesting [character] = depth)
    (stays : 0 < depth) : Finds (text ++ [character])
      { scan with depth := depth, opened := character :: scan.opened } := by
  have deeper : finalDepth (text ++ [character]) = depth := by
    have counted := depthBehind_of_pos inside character
    rw [finalDepth_concat, ← finds.depth]
    omega
  refine ⟨deeper.symm, fun _ => ?_,
    fun _ => finds.closed_concat fun top => absurd top (Nat.ne_of_gt stays),
    fun _ top => absurd top (Nat.ne_of_gt stays)⟩
  obtain ⟨before, split, isOpen⟩ := finds.opened inside
  rw [List.reverse_cons]
  refine ⟨before, by rw [← List.append_assoc, ← split], isOpen.concat ?_⟩
  rw [← split, deeper]
  exact stays

theorem closing (finds : Finds text scan) (deepest : scan.depth = 1) :
    Finds (text ++ ['}'])
      { depth := 0, opened := [], closed := some ('}' :: scan.opened).reverse } := by
  have top : finalDepth (text ++ ['}']) = 0 := by
    rw [finalDepth_concat, ← finds.depth, deepest]
    rfl
  refine ⟨top.symm, fun inside => absurd inside (Nat.lt_irrefl 0), fun object isClosed => ?_, nofun⟩
  obtain rfl := Option.some.inj isClosed
  obtain ⟨before, split, isOpen⟩ := finds.opened (by omega)
  have whole : text ++ ['}'] = before ++ ('}' :: scan.opened).reverse := by
    rw [List.reverse_cons, ← List.append_assoc, ← split]
  exact ⟨before, [], by rw [whole, List.append_nil], ⟨_, List.reverse_cons, isOpen, whole ▸ top⟩,
    fun _ => List.not_mem_nil⟩

theorem step {character : Char} {next : Scan} (finds : Finds text scan)
    (stepped : scan.Stepped character next) : Finds (text ++ [character]) next := by
  cases stepped with
  | opening outside => exact finds.opening outside
  | passing outside noOpening => exact finds.passing outside noOpening
  | taking inside nested stays => exact finds.taking inside nested stays
  | closing deepest => exact finds.closing deepest

theorem run (text : List Char) : Finds text (Scan.run text) :=
  Scan.run_induction start step text

end Scan.Finds

/-! ## The last object -/

/-- A text ends inside a span, or at depth zero without any object, or behind its last object. -/
inductive Scanned (text : List Char) : Except SpanError (List Char) → Prop where
  | unbalanced {before fragment : List Char} (inside : 0 < finalDepth text)
      (split : text = before ++ fragment) (isOpen : StaysOpen before fragment) :
      Scanned text (.error (.unbalanced fragment))
  | missing (top : finalDepth text = 0)
      (nothing : ∀ before object after, text = before ++ object ++ after →
        ¬Completes before object) : Scanned text (.error .missing)
  | found {before object after : List Char} (top : finalDepth text = 0)
      (split : text = before ++ object ++ after) (completes : Completes before object)
      (last : '{' ∉ after) : Scanned text (.ok object)

theorem Scanned.unique {outcome other : Except SpanError (List Char)}
    (scanned : Scanned text outcome) (also : Scanned text other) : outcome = other := by
  cases scanned with
  | unbalanced inside split isOpen =>
    cases also with
    | unbalanced _ whole alsoOpen => rw [isOpen.unique alsoOpen (split.symm.trans whole)]
    | missing top => omega
    | found top => omega
  | missing top nothing =>
    cases also with
    | unbalanced inside => omega
    | missing => rfl
    | found _ split completes => exact absurd completes (nothing _ _ _ split)
  | found top split completes last =>
    cases also with
    | unbalanced inside => omega
    | missing _ nothing => exact absurd completes (nothing _ _ _ split)
    | found _ whole alsoCompletes alsoLast =>
      rw [completes.unique alsoCompletes (split.symm.trans whole) last alsoLast]

theorem scanned_lastObject (text : List Char) : Scanned text (lastObject text) := by
  have finds := Scan.Finds.run text
  unfold lastObject
  dsimp only
  split
  next inside =>
    have inside : 0 < (Scan.run text).depth := Nat.pos_of_ne_zero inside
    obtain ⟨before, split, isOpen⟩ := finds.opened inside
    exact .unbalanced (finds.depth ▸ inside) split isOpen
  next outside =>
    have outside := not_not.mp outside
    have top : finalDepth text = 0 := finds.depth ▸ outside
    split
    next object isClosed =>
      obtain ⟨before, after, split, completes, last⟩ := finds.closed object isClosed
      exact .found top split completes (last outside)
    next isNone =>
      -- Every object would have a brace that opens it.
      refine .missing top fun before object after split completes => ?_
      have noOpening := finds.nothing isNone outside
      rw [split] at noOpening
      exact noOpening (List.mem_append_left _ (List.mem_append_right _ completes.opening_mem))

theorem lastObject_eq_iff {outcome : Except SpanError (List Char)} :
    lastObject text = outcome ↔ Scanned text outcome :=
  ⟨fun same => same ▸ scanned_lastObject text, (scanned_lastObject text).unique⟩

/-- Only a text that ends above depth zero is left with an open span. -/
theorem exists_unbalanced_iff :
    (∃ fragment, lastObject text = .error (.unbalanced fragment)) ↔ 0 < finalDepth text := by
  simp only [lastObject_eq_iff]
  refine ⟨fun ⟨_, .unbalanced inside _ _⟩ => inside, fun inside => ?_⟩
  have scanned := scanned_lastObject text
  generalize lastObject text = outcome at scanned
  cases scanned with
  | unbalanced _ split isOpen => exact ⟨_, .unbalanced inside split isOpen⟩
  | missing top => omega
  | found top => omega

/-- The scan gives the last object of every text that ends at depth zero, if there is one. -/
theorem lastObject_finds (text : List Char) : FindsLastObject text where
  unbalanced := exists_unbalanced_iff
  fragment fragment := by
    rw [lastObject_eq_iff]
    refine ⟨fun (.unbalanced _ split isOpen) => ⟨_, split, isOpen⟩, ?_⟩
    rintro ⟨before, split, isOpen⟩
    exact .unbalanced (split ▸ isOpen.finalDepth_pos) split isOpen
  missing := by
    rw [lastObject_eq_iff]
    exact ⟨fun (.missing top nothing) => ⟨top, nothing⟩, fun ⟨top, nothing⟩ => .missing top nothing⟩
  found object := by
    rw [lastObject_eq_iff]
    refine ⟨fun (.found top split completes last) => ⟨top, _, _, split, completes, last⟩, ?_⟩
    rintro ⟨top, before, after, split, completes, last⟩
    exact .found top split completes last
  balanced object found := (balanced_of_lastObject found).1
  reported error refused system := by
    rw [format, String.toList_ofList, refused]

/-- The first and the last brace close nothing, and the first object is passed over. -/
example : lastObject "\x7d \x7ba\x7d \x7bb\x7bc\x7d\x7d \x7d".toList =
    .ok "\x7bb\x7bc\x7d\x7d".toList := by
  decide

end NetworkAutomation.PortConfig
