/-
This file proves that the scan for braces ends with a balanced object, so that no two of its
occurrences overlap and normalizing replaces all of them.
-/

import NetworkAutomation.PortConfig.Format
import NetworkAutomation.Proofs.Replacement
import NetworkAutomation.Proofs.Success

namespace NetworkAutomation.PortConfig

open NetworkAutomation.Success
open NetworkAutomation.Text

/-! ## Balanced objects -/

/-- The number of braces that a text leaves open, or a negative one where it closes too many. -/
def nesting (text : List Char) : Int :=
  text.count '{' - text.count '}'

theorem nesting_append (first second : List Char) :
    nesting (first ++ second) = nesting first + nesting second := by
  unfold nesting
  rw [List.count_append, List.count_append]
  omega

theorem nesting_singleton_of_ne {character : Char} (notOpening : character ≠ '{')
    (notClosing : character ≠ '}') : nesting [character] = 0 := by
  simp [nesting, notOpening, notClosing]

/-- An object is what stands from an opening brace to the brace that closes it. -/
structure Balanced (object : List Char) : Prop where
  opens : object.head? = some '{'
  closes : object.getLast? = some '}'
  balanced : nesting object = 0
  inside : ∀ lead, lead <+: object → lead ≠ [] → lead ≠ object → 0 < nesting lead

theorem Balanced.nonempty {object : List Char} (whole : Balanced object) : object ≠ [] := by
  rintro rfl
  exact nomatch whole.opens

/-- What begins an object leaves a brace open, and what ends it closes one too many. -/
theorem Balanced.borderless {object : List Char} (whole : Balanced object) :
    Borderless object := by
  intro border ends begins
  by_contra proper
  obtain ⟨nonempty, short⟩ := not_or.mp proper
  obtain ⟨lead, split⟩ := ends
  have leadNonempty : lead ≠ [] := by
    rintro rfl
    exact short split
  have leadShort : lead ≠ object := by
    intro same
    rw [← split, List.self_eq_append_right] at same
    exact nonempty same
  have first := whole.inside lead ⟨border, split⟩ leadNonempty leadShort
  have second := whole.inside border begins nonempty short
  have sum := whole.balanced
  rw [← split, nesting_append] at sum
  omega

/-! ## The scan -/

/-- A character opens an object, is passed over, is taken into the open object, or closes it. -/
inductive Scan.Stepped (scan : Scan) : Char → Scan → Prop where
  | opening (outside : scan.depth = 0) :
      Stepped scan '{' { scan with depth := 1, opened := ['{'] }
  | passing {character : Char} (outside : scan.depth = 0) (noOpening : character ≠ '{') :
      Stepped scan character scan
  | taking {character : Char} {depth : Nat} (inside : 0 < scan.depth)
      (nested : scan.depth + nesting [character] = depth) (stays : 0 < depth) :
      Stepped scan character { scan with depth := depth, opened := character :: scan.opened }
  | closing (deepest : scan.depth = 1) :
      Stepped scan '}' { depth := 0, opened := [], closed := some ('}' :: scan.opened).reverse }

theorem Scan.stepped_step (scan : Scan) (character : Char) :
    scan.Stepped character (scan.step character) := by
  unfold step
  split
  next outside => exact .opening outside
  next depth inside =>
    have nested : scan.depth + nesting ['{'] = (depth + 2 : Nat) := by
      rw [inside, show nesting ['{'] = 1 from rfl]
      omega
    exact .taking (by omega) nested (by omega)
  next noOpening outside => exact .passing outside fun same => noOpening same
  next deepest => exact .closing deepest
  next depth inside =>
    have nested : scan.depth + nesting ['}'] = (depth + 1 : Nat) := by
      rw [inside, show nesting ['}'] = -1 from rfl]
      omega
    exact .taking (by omega) nested (by omega)
  next other _ _ depth notOpening notLast notClosing inside =>
    have notBrace : other ≠ '}' := by
      intro same
      cases depth with
      | zero => exact notLast same rfl
      | succ depth => exact notClosing depth same rfl
    have nested : scan.depth + nesting [other] = scan.depth := by
      rw [nesting_singleton_of_ne notOpening notBrace, Int.add_zero]
    exact .taking (by omega) nested (by omega)

/-- What holds at the start, and behind every step, holds of the whole scan. -/
theorem Scan.run_induction {motive : List Char → Scan → Prop} (start : motive [] Scan.start)
    (step : ∀ {text scan character next}, motive text scan → scan.Stepped character next →
      motive (text ++ [character]) next) (text : List Char) : motive text (Scan.run text) := by
  induction text using List.reverseRecOn with
  | nil => exact start
  | append_singleton text character ih =>
    rw [run, List.foldl_concat]
    exact step ih (stepped_step _ character)

/-- The open object ends the text so far, and the closed one stands somewhere in it. -/
structure Scan.Tracks (text : List Char) (scan : Scan) : Prop where
  ends : scan.opened.reverse <:+ text
  opens : scan.opened ≠ [] → scan.opened.reverse.head? = some '{'
  depth : nesting scan.opened.reverse = scan.depth
  inside : ∀ lead, lead <+: scan.opened.reverse → lead ≠ [] → 0 < nesting lead
  closed : ∀ object, scan.closed = some object → Balanced object ∧ object <:+: text

namespace Scan.Tracks

variable {text : List Char} {scan : Scan}

theorem start : Tracks [] Scan.start where
  ends := List.nil_suffix
  opens nonempty := absurd rfl nonempty
  depth := rfl
  inside _ begins nonempty := absurd (List.prefix_nil.mp begins) nonempty
  closed _ isClosed := nomatch isClosed

/-- Outside every object nothing is kept. -/
theorem opened_eq_nil (tracks : Tracks text scan) (outside : scan.depth = 0) :
    scan.opened = [] := by
  by_contra nonempty
  have positive := tracks.inside scan.opened.reverse List.prefix_rfl
    (mt List.reverse_eq_nil_iff.mp nonempty)
  rw [tracks.depth, outside] at positive
  omega

theorem opened_ne_nil (tracks : Tracks text scan) (inside : scan.depth ≠ 0) :
    scan.opened ≠ [] := by
  intro isEmpty
  have depth := tracks.depth
  rw [isEmpty, List.reverse_nil] at depth
  simp [nesting] at depth
  omega

/-- A closed object stays where it is while the text goes on. -/
theorem closed_append (tracks : Tracks text scan) (character : Char) {object : List Char}
    (isClosed : scan.closed = some object) :
    Balanced object ∧ object <:+: text ++ [character] :=
  ⟨(tracks.closed object isClosed).1,
    (tracks.closed object isClosed).2.trans (List.prefix_append _ _).isInfix⟩

/-- A brace outside every object opens the next one. -/
theorem opening (tracks : Tracks text scan) :
    Tracks (text ++ ['{']) { scan with depth := 1, opened := ['{'] } where
  ends := List.suffix_append _ _
  opens _ := rfl
  depth := rfl
  inside lead begins nonempty := by
    have begins : lead <+: [] ++ ['{'] := begins
    rcases List.prefix_concat_iff.mp begins with rfl | isEmpty
    · decide
    · exact absurd (List.prefix_nil.mp isEmpty) nonempty
  closed _ isClosed := tracks.closed_append '{' isClosed

/-- Every other character outside every object is passed over. -/
theorem passing (tracks : Tracks text scan) (character : Char) (outside : scan.depth = 0) :
    Tracks (text ++ [character]) scan where
  ends := by
    rw [tracks.opened_eq_nil outside]
    exact List.nil_suffix
  opens := tracks.opens
  depth := tracks.depth
  inside := tracks.inside
  closed _ isClosed := tracks.closed_append character isClosed

/-- The open object takes a character that does not close it. -/
theorem extend (tracks : Tracks text scan) {character : Char} {depth : Nat}
    (inObject : scan.opened ≠ []) (nested : nesting [character] + scan.depth = depth)
    (positive : 0 < depth) :
    Tracks (text ++ [character])
      { scan with depth := depth, opened := character :: scan.opened } where
  ends := by
    rw [List.reverse_cons]
    exact List.suffix_concat_iff.mpr (.inr ⟨_, rfl, tracks.ends⟩)
  opens _ := by
    rw [List.reverse_cons, List.head?_append, tracks.opens inObject, Option.some_or]
  depth := by
    rw [List.reverse_cons, nesting_append, tracks.depth, Int.add_comm]
    exact nested
  inside lead begins nonempty := by
    rw [List.reverse_cons] at begins
    rcases List.prefix_concat_iff.mp begins with rfl | earlier
    · rw [nesting_append, tracks.depth]
      omega
    · exact tracks.inside lead earlier nonempty
  closed object isClosed := tracks.closed_append character isClosed

/-- The brace that closes the open object makes it the last one. -/
theorem close (tracks : Tracks text scan) (deepest : scan.depth = 1) :
    Tracks (text ++ ['}'])
      { depth := 0, opened := [], closed := some ('}' :: scan.opened).reverse } where
  ends := List.nil_suffix
  opens nonempty := absurd rfl nonempty
  depth := rfl
  inside lead begins nonempty := absurd (List.prefix_nil.mp begins) nonempty
  closed object isClosed := by
    obtain rfl := Option.some.inj isClosed
    have inObject := tracks.opened_ne_nil (by omega)
    rw [List.reverse_cons]
    refine ⟨⟨?_, List.getLast?_concat, ?_, fun lead begins nonempty proper => ?_⟩, ?_⟩
    · rw [List.head?_append, tracks.opens inObject, Option.some_or]
    · rw [nesting_append, tracks.depth, deepest]
      rfl
    · rcases List.prefix_concat_iff.mp begins with isWhole | earlier
      · exact absurd isWhole proper
      · exact tracks.inside lead earlier nonempty
    · exact (List.suffix_concat_iff.mpr (.inr ⟨_, rfl, tracks.ends⟩)).isInfix

theorem step {character : Char} {next : Scan} (tracks : Tracks text scan)
    (stepped : scan.Stepped character next) : Tracks (text ++ [character]) next := by
  cases stepped with
  | opening => exact tracks.opening
  | passing outside => exact tracks.passing character outside
  | taking inside nested stays =>
    exact tracks.extend (tracks.opened_ne_nil (by omega)) (by omega) stays
  | closing deepest => exact tracks.close deepest

theorem run (text : List Char) : Tracks text (Scan.run text) :=
  Scan.run_induction start step text

end Scan.Tracks

/-- The object that the scan gives is balanced, and it stands in the text. -/
theorem balanced_of_lastObject {text object : List Char} (found : lastObject text = .ok object) :
    Balanced object ∧ object <:+: text := by
  unfold lastObject at found
  dsimp only at found
  split at found
  next => exact nomatch found
  next =>
    split at found
    next last isClosed =>
      obtain rfl := Except.ok.inj found
      exact (Scan.Tracks.run text).closed last isClosed
    next => exact nomatch found

/-! ## The normalized output -/

/-- A successful normalization went through each of its parts. -/
theorem format_eq_ok_iff {output system result : String} :
    format output system = .ok result ↔
      ∃ object document config, lastObject output.toList = .ok object ∧
        readObject? object = some document ∧ system = understoodSystem ∧
        ofObject document = .ok config ∧
        result.toList = replaceAll object config.toDocument.characters output.toList := by
  unfold format
  constructor
  · intro formatted
    split at formatted
    next => exact nomatch formatted
    next object found =>
      split at formatted
      next => exact nomatch formatted
      next document read =>
        split at formatted
        next understood =>
          obtain ⟨config, configured, rewritten⟩ := bind_eq_ok.mp formatted
          obtain rfl := Except.ok.inj rewritten
          exact ⟨object, document, config, found, read, understood, configured,
            String.toList_ofList⟩
        next => exact nomatch formatted
  · rintro ⟨object, document, config, found, read, understood, configured, replaced⟩
    simp only [found, read, if_pos understood, configured, bind_ok, pure_eq_ok, ← replaced,
      String.ofList_toList]

/--
Where normalizing succeeds it rewrites the object that the scan selects at all its places, and all
other text stays.
-/
theorem format_rewrites_object {output system result : String}
    (formatted : format output system = .ok result) :
    ∃ object document config, lastObject output.toList = .ok object ∧
      readObject? object = some document ∧ system = understoodSystem ∧
      ofObject document = .ok config ∧
      Rewritten object config.toDocument.characters output.toList result.toList := by
  obtain ⟨object, document, config, found, read, understood, configured, replaced⟩ :=
    format_eq_ok_iff.mp formatted
  obtain ⟨whole, contained⟩ := balanced_of_lastObject found
  refine ⟨object, document, config, found, read, understood, configured, ?_⟩
  rw [replaced]
  exact rewritten_replaceAll whole.borderless whole.nonempty contained _

/-- The output names the same port twice. -/
def repeatedPort : String :=
  "a \x7b\"stdout_lines\":[[\"switchport mode access\"]]\x7d b " ++
    "\x7b\"stdout_lines\":[[\"switchport mode access\"]]\x7d\n"

def rewrittenPort : String :=
  "a \x7b\"mode\":\"access\",\"vlan\":null,\"trunked_vlans\":\"\"\x7d b " ++
    "\x7b\"mode\":\"access\",\"vlan\":null,\"trunked_vlans\":\"\"\x7d\n"

theorem repeatedPort_rewritten :
    format repeatedPort "fos" = .ok rewrittenPort ∧
      ∃ object replacement, lastObject repeatedPort.toList = .ok object ∧
        Rewritten object replacement repeatedPort.toList rewrittenPort.toList := by
  have formatted : format repeatedPort "fos" = .ok rewrittenPort := by decide +kernel
  obtain ⟨object, _, config, found, _, _, _, rewritten⟩ := format_rewrites_object formatted
  exact ⟨formatted, object, config.toDocument.characters, found, rewritten⟩

end NetworkAutomation.PortConfig
