/-
This file tells which objects between texts without braces are normalized in their place.
-/

import NetworkAutomation.Proofs.ConfigLines
import NetworkAutomation.Proofs.PassedTexts

namespace NetworkAutomation.PortConfig

open NetworkAutomation.Text

/-! ## The scan over an object -/

namespace Scan

/-- Outside of objects only an opening brace counts. -/
theorem step_outside {scan : Scan} {character : Char} (outside : scan.depth = 0)
    (noOpening : character ≠ '{') : scan.step character = scan := by
  have stepped := scan.stepped_step character
  generalize scan.step character = next at stepped ⊢
  cases stepped with
  | opening => exact absurd rfl noOpening
  | passing => rfl
  | taking inside => omega
  | closing deepest => omega

theorem foldl_outside {scan : Scan} {text : List Char} (outside : scan.depth = 0)
    (unbraced : Unbraced text) : text.foldl step scan = scan := by
  induction text with
  | nil => rfl
  | cons character rest ih =>
      obtain ⟨⟨noOpening, _⟩, later⟩ := List.forall_mem_cons.mp unbraced
      rw [List.foldl_cons, step_outside outside noOpening, ih later]

/-- An open object that stays open takes the character, and its depth follows the braces. -/
theorem step_inside {scan : Scan} {character : Char} {depth : Nat} (inside : 0 < scan.depth)
    (nested : scan.depth + nesting [character] = depth) (stays : 0 < depth) :
    scan.step character = { scan with depth := depth, opened := character :: scan.opened } := by
  have stepped := scan.stepped_step character
  generalize scan.step character = next at stepped ⊢
  cases stepped with
  | opening outside => omega
  | passing outside => omega
  | @taking _ deeper _ same =>
    obtain rfl : deeper = depth := by omega
    rfl
  | closing deepest =>
    have closing : nesting ['}'] = -1 := rfl
    omega

/-- What begins an object is kept in reverse, and its depth is the level of its braces. -/
theorem foldl_inside {lead : List Char} (opens : lead.head? = some '{')
    (above : ∀ part, part <+: lead → part ≠ [] → 0 < nesting part)
    (closed : Option (List Char)) : ∃ depth : Nat, nesting lead = depth ∧
      lead.foldl step ⟨0, [], closed⟩ = ⟨depth, lead.reverse, closed⟩ := by
  induction lead using List.reverseRecOn with
  | nil => exact nomatch opens
  | append_singleton lead character ih =>
    by_cases isFirst : lead = []
    · subst isFirst
      obtain rfl : character = '{' := Option.some.inj opens
      exact ⟨1, rfl, rfl⟩
    · rw [List.head?_append_of_ne_nil _ isFirst] at opens
      obtain ⟨depth, level, taken⟩ := ih opens fun part begins =>
        above part (begins.trans (List.prefix_append _ _))
      have inside := above lead (List.prefix_append _ _) isFirst
      have stays := above (lead ++ [character]) List.prefix_rfl (by simp)
      obtain ⟨deeper, same⟩ := Int.eq_ofNat_of_zero_le (Int.le_of_lt stays)
      refine ⟨deeper, same, ?_⟩
      rw [nesting_append] at same stays
      rw [List.foldl_append, taken, List.foldl_cons, List.foldl_nil, List.reverse_concat]
      exact step_inside (by dsimp only; omega) (by dsimp only; omega) (by omega)

end Scan

/-! ## Written configurations -/

theorem stringBody_escapeCharacter (character : Char) :
    StringBody (escapeCharacter character) := by
  have plain_hexDigit : ∀ value < 16, hexDigit value ≠ '"' ∧ hexDigit value ≠ '\\' := by decide
  unfold escapeCharacter
  split
  case h_8 noQuote noBackslash _ _ _ _ _ =>
    split
    next control =>
      refine .escaped 'u' (.of_plain ?_)
      simp only [List.forall_mem_cons]
      exact ⟨by decide, by decide, plain_hexDigit _ (by omega), plain_hexDigit _ (by omega), nofun⟩
    next => exact .plain noQuote noBackslash .nil
  all_goals exact .escaped _ .nil

theorem stringBody_flatMap (characters : List Char) :
    StringBody (characters.flatMap escapeCharacter) := by
  induction characters with
  | nil => exact .nil
  | cons character rest ih =>
      rw [List.flatMap_cons]
      exact (stringBody_escapeCharacter character).append ih

/-- Strings are whole, and outside of them stand no opening brace and no letter `m`. -/
structure Segment (text : List Char) : Prop where
  outside : text.foldl Place.next .outside = .outside
  apart : ∀ character ∈ outer text, character ≠ '{' ∧ character ≠ 'm'

namespace Segment

variable {text first second : List Char}

theorem append (segment : Segment first) (also : Segment second) : Segment (first ++ second) where
  outside := by rw [List.foldl_append, segment.outside, also.outside]
  apart := by
    rw [outer, placed_append, segment.outside]
    exact List.forall_mem_append.mpr ⟨segment.apart, also.apart⟩

theorem cons {character : Char} (plain : character ≠ '"' ∧ character ≠ '{' ∧ character ≠ 'm')
    (segment : Segment text) : Segment (character :: text) where
  outside := by rw [List.foldl_cons, Place.next_outside plain.1, segment.outside]
  apart := by
    rw [outer, placed, Place.next_outside plain.1]
    exact List.forall_mem_cons.mpr ⟨plain.2, segment.apart⟩

theorem of_plain (plain : ∀ character ∈ text, character ≠ '"' ∧ character ≠ '{' ∧ character ≠ 'm') :
    Segment text := by
  induction text with
  | nil => exact ⟨rfl, nofun⟩
  | cons character rest ih =>
      obtain ⟨first, later⟩ := List.forall_mem_cons.mp plain
      exact (ih later).cons first

theorem quoted (value : String) : Segment (quoteText value) := by
  obtain ⟨stays, nothing⟩ := (stringBody_flatMap value.toList).stays_inside
  constructor
  · rw [quoteText, List.foldl_cons, List.foldl_append, Place.next, stays]
    rfl
  · rw [quoteText, outer, placed, placed_append, Place.next, nothing, stays]
    simp [placed]

theorem entry (key : String) (segment : Segment text) : Segment (quoteText key ++ ':' :: text) :=
  (quoted key).append (segment.cons (by decide))

theorem comma (segment : Segment first) (also : Segment second) :
    Segment (first ++ ',' :: second) :=
  segment.append (also.cons (by decide))

theorem null : Segment Document.null.characters :=
  .of_plain (by simp [Document.characters])

theorem optionalText (value : Option String) :
    Segment (Document.optionalText value).characters := by
  cases value with
  | none => exact null
  | some value => exact .quoted value

theorem integer (value : Int) : Segment (Document.integer value).characters := by
  refine .of_plain fun character member => ?_
  have digits : character ∈ integerCharacters value := by
    simpa [Document.integer, Document.characters, Number.text, integerText] using member
  rcases isDigit_or_minus_of_mem digits with digit | rfl
  · refine ⟨?_, ?_, ?_⟩ <;> rintro rfl <;> exact absurd digit (by decide)
  · decide

/-- Wherever a configuration begins, its brace or its first name stands outside of strings. -/
theorem no_opening {lead rest : List Char} : ¬Segment (lead ++ '{' :: '"' :: 'm' :: rest) := by
  rintro ⟨_, apart⟩
  rw [outer, placed_append] at apart
  cases place : lead.foldl Place.next .outside with
  | outside => exact (apart '{' (by simp [place, placed])).1 rfl
  | inside => exact (apart 'm' (by simp [place, placed, Place.next])).2 rfl
  | escaped => exact (apart 'm' (by simp [place, placed, Place.next])).2 rfl

/-- Nor does a configuration begin behind the segment. -/
theorem append_ne_opening (segment : Segment text) {after : List Char}
    (unbraced : Unbraced after) (lead rest : List Char) :
    text ++ '}' :: after ≠ lead ++ '{' :: '"' :: 'm' :: rest := by
  intro same
  rcases List.append_eq_append_iff.mp same with ⟨others, _, beyond⟩ | ⟨others, within, shifted⟩
  · have opening : '{' ∈ '}' :: after := beyond ▸ by simp
    exact (unbraced '{' ((List.mem_cons.mp opening).resolve_left (by decide))).1 rfl
  · match others with
    | [] => exact absurd (List.cons.inj shifted).1 (by decide)
    | [_] => exact absurd (List.cons.inj (List.cons.inj shifted).2).1 (by decide)
    | [_, _] =>
        exact absurd (List.cons.inj (List.cons.inj (List.cons.inj shifted).2).2).1 (by decide)
    | first :: second :: third :: later =>
        simp only [List.cons_append, List.cons.injEq] at shifted
        obtain ⟨rfl, rfl, rfl, _⟩ := shifted
        exact no_opening (within ▸ segment)

end Segment

/-- The three settings of a configuration stand between its braces. -/
theorem exists_segment (config : PortConfig) : ∃ part,
    config.toDocument.characters = '{' :: '"' :: 'm' :: (part ++ ['}']) ∧
      Segment ('"' :: 'm' :: part) := by
  obtain ⟨vlan, segment, document⟩ : ∃ vlan, Segment vlan.characters ∧
      config.toDocument = .mapping [("mode", Document.optionalText config.mode), ("vlan", vlan),
        ("trunked_vlans", .text config.trunkedVlans)] := by
    refine ⟨_, ?_, rfl⟩
    cases config.vlan with
    | none => exact .null
    | some vlan => exact .integer vlan.toInt
  have whole := (Segment.entry "mode" (.optionalText config.mode)).comma
    ((Segment.entry "vlan" segment).comma (.entry "trunked_vlans" (.quoted config.trunkedVlans)))
  have opens : quoteText "mode" = '"' :: 'm' :: ['o', 'd', 'e', '"'] := by decide
  rw [opens] at whole
  refine ⟨_, ?_, whole⟩
  rw [document, Document.characters, entryCharacters, entryCharacters, entryCharacters,
    Document.characters, opens]
  simp

section Embedded

variable {before object after : List Char}

/-- Between texts without braces the scan gives the object just when the object is balanced. -/
theorem lastObject_eq_ok_iff (beforeUnbraced : Unbraced before) (afterUnbraced : Unbraced after) :
    lastObject (before ++ object ++ after) = .ok object ↔ Balanced object := by
  refine ⟨fun found => (balanced_of_lastObject found).1, fun whole => ?_⟩
  obtain ⟨lead, rfl⟩ := List.getLast?_eq_some_iff.mp whole.closes
  have proper : lead ≠ [] := by
    rintro rfl
    exact nomatch whole.opens
  have opens := whole.opens
  rw [List.head?_append_of_ne_nil _ proper] at opens
  obtain ⟨depth, level, taken⟩ := Scan.foldl_inside opens (fun part begins nonempty =>
    whole.inside part (begins.trans (List.prefix_append _ _)) nonempty fun same => by
      have short := begins.length_le
      rw [same, List.length_append, List.length_singleton] at short
      omega) none
  have deepest : depth = 1 := by
    have sum := whole.balanced
    rw [nesting_append, level, show nesting ['}'] = -1 from rfl] at sum
    omega
  have run : Scan.run (before ++ (lead ++ ['}']) ++ after) = ⟨0, [], some (lead ++ ['}'])⟩ := by
    rw [Scan.run, List.foldl_append, List.foldl_append, List.foldl_append,
      Scan.foldl_outside rfl beforeUnbraced, Scan.start, taken, deepest, List.foldl_cons,
      List.foldl_nil]
    exact (Scan.foldl_outside rfl afterUnbraced).trans (by simp [Scan.step])
  rw [lastObject, run]
  rfl

/-- What begins and ends with braces stands nowhere but in the object. -/
theorem exists_around {left span right : List Char} (beforeUnbraced : Unbraced before)
    (afterUnbraced : Unbraced after) (opens : span.head? = some '{')
    (closes : span.getLast? = some '}') (same : left ++ span ++ right = before ++ object ++ after) :
    ∃ lead rest, left = before ++ lead ∧ object = lead ++ span ++ rest ∧
      right = rest ++ after := by
  have starts : ∃ lead, left = before ++ lead ∧ lead ++ span ++ right = object ++ after := by
    rw [List.append_assoc, List.append_assoc, List.append_eq_append_iff] at same
    rcases same with ⟨first, whole, shifted⟩ | ⟨lead, whole, shifted⟩
    · cases first with
      | nil => exact ⟨[], by simpa using whole.symm, by simpa using shifted⟩
      | cons character others =>
        obtain ⟨tail, rfl⟩ := List.head?_eq_some_iff.mp opens
        obtain rfl := (List.cons.inj shifted).1
        exact absurd rfl (beforeUnbraced '{' (whole ▸ by simp)).1
    · exact ⟨lead, whole, by rw [List.append_assoc, shifted]⟩
  obtain ⟨lead, whole, shifted⟩ := starts
  rcases List.append_eq_append_iff.mp shifted with ⟨rest, inside, ends⟩ | ⟨last, beyond, ends⟩
  · exact ⟨lead, rest, whole, inside, ends⟩
  · rcases List.eq_nil_or_concat' last with rfl | ⟨others, character, rfl⟩
    · exact ⟨lead, [], whole, by simpa using beyond.symm, by simpa using ends.symm⟩
    · have closing := congrArg List.getLast? beyond
      rw [List.getLast?_append, closes, ← List.append_assoc, List.getLast?_concat] at closing
      obtain rfl : '}' = character := Option.some.inj closing
      exact absurd rfl (afterUnbraced '}' (ends ▸ by simp)).2

theorem replaceAll_embedded (beforeUnbraced : Unbraced before) (afterUnbraced : Unbraced after)
    (whole : Balanced object) (replacement : List Char) :
    replaceAll object replacement (before ++ object ++ after) = before ++ replacement ++ after := by
  refine (rewritten_replaceAll whole.borderless whole.nonempty ⟨before, after, rfl⟩
    replacement).single before after rfl fun place occurs => ?_
  obtain ⟨right, same⟩ := occurs
  have split : (before ++ object ++ after).take place ++ object ++ right =
      before ++ object ++ after := by
    rw [List.append_assoc, same, List.take_append_drop]
  obtain ⟨lead, rest, left, fits, _⟩ :=
    exists_around beforeUnbraced afterUnbraced whole.opens whole.closes split
  have length := congrArg List.length fits
  have leftLength := congrArg List.length left
  have total := congrArg List.length same
  have positive := List.length_pos_iff.mpr whole.nonempty
  simp only [List.length_append, List.length_take, List.length_drop] at length leftLength total
  omega

/-- What begins an object that is read and is read as an object itself is the whole object. -/
theorem eq_of_prefix {span : List Char} {document spanDocument : Document}
    (opens : object.head? = some '{') (closes : object.getLast? = some '}')
    (read : Reader.document? object = some document) (spanOpens : span.head? = some '{')
    (spanCloses : span.getLast? = some '}') (spanRead : readObject? span = some spanDocument)
    (begins : span <+: object) : span = object := by
  obtain ⟨whole, _⟩ := Reader.balanced_outer opens closes read
  obtain ⟨spanWhole, spanOutside⟩ :
      nesting (outer span) = 0 ∧ span.foldl Place.next .outside = .outside := by
    have spacedOpens : (spaced span).head? = some '{' := by
      rw [spaced, List.head?_map, spanOpens]
      rfl
    have spacedCloses : (spaced span).getLast? = some '}' := by
      rw [spaced, List.getLast?_map, spanCloses]
      rfl
    obtain ⟨balanced, ends⟩ := Reader.balanced_outer spacedOpens spacedCloses spanRead
    rw [outer, placed_spaced] at balanced
    rw [Place.foldl_spaced] at ends
    exact ⟨(nesting_spaced _).symm.trans balanced.balanced, ends⟩
  obtain ⟨rest, rfl⟩ := begins
  have split : outer (span ++ rest) = outer span ++ outer rest := by
    rw [outer, placed_append, spanOutside]
    rfl
  have nonempty : span ≠ [] := by
    rintro rfl
    cases spanOpens
  by_contra short
  rw [List.self_eq_append_right] at short
  have proper : outer span ≠ outer (span ++ rest) := by
    rw [split, ne_eq, List.self_eq_append_right]
    exact outer_ne_nil short
  have inside := whole.inside (outer span) (split ▸ List.prefix_append _ _)
    (outer_ne_nil nonempty) proper
  omega

/--
Where another span is replaced, the first brace of the object stays, and no configuration has
another one behind its first brace.
-/
theorem balanced_of_format {document : Document} {config : PortConfig} {system : String}
    (beforeUnbraced : Unbraced before) (afterUnbraced : Unbraced after)
    (opens : object.head? = some '{') (closes : object.getLast? = some '}')
    (read : Reader.document? object = some document)
    (formatted : format (String.ofList (before ++ object ++ after)) system =
      .ok (String.ofList (before ++ config.toDocument.characters ++ after))) :
    Balanced object := by
  obtain ⟨span, spanDocument, other, found, spanRead, _, _, replaced⟩ :=
    format_eq_ok_iff.mp formatted
  rw [String.toList_ofList] at found replaced
  rw [String.toList_ofList] at replaced
  obtain ⟨whole, contained⟩ := balanced_of_lastObject found
  obtain ⟨left, right, later, same, rewritten⟩ := (rewritten_replaceAll whole.borderless
    whole.nonempty contained other.toDocument.characters).exists_first
  obtain ⟨lead, rest, rfl, isPart, rfl⟩ :=
    exists_around beforeUnbraced afterUnbraced whole.opens whole.closes same.symm
  cases lead with
  | nil =>
    have isWhole := eq_of_prefix opens closes read whole.opens whole.closes spanRead
      ⟨rest, isPart.symm⟩
    exact isWhole ▸ whole
  | cons first others =>
    exfalso
    obtain ⟨part, written, segment⟩ := exists_segment config
    obtain ⟨otherPart, otherWritten, _⟩ := exists_segment other
    rw [isPart, List.append_assoc, List.cons_append, List.head?_cons] at opens
    obtain rfl := Option.some.inj opens
    rw [← replaced, written, otherWritten] at rewritten
    refine segment.append_ne_opening afterUnbraced others (otherPart ++ ['}'] ++ later) ?_
    simpa using rewritten

/-- Braces in strings that nest by themselves leave the object balanced. -/
theorem balanced_of_nests {document : Document} (opens : object.head? = some '{')
    (closes : object.getLast? = some '}') (read : Reader.document? object = some document)
    (nests : Nests (inner object)) : Balanced object := by
  obtain ⟨whole, ends⟩ := Reader.balanced_outer opens closes read
  refine ⟨opens, closes, by rw [nesting_eq_add, whole.balanced, nests.level]; rfl,
    fun lead begins nonempty proper => ?_⟩
  obtain ⟨front, rfl⟩ := List.getLast?_eq_some_iff.mp closes
  -- The last brace stands outside of strings, so that the braces out there are open before it.
  have split : outer (front ++ ['}']) = outer front ++ ['}'] := by
    rw [List.foldl_append] at ends
    rw [outer, placed_append]
    cases place : front.foldl Place.next .outside with
    | outside => rfl
    | inside => exact absurd (place ▸ ends) (by decide)
    | escaped => exact absurd (place ▸ ends) (by decide)
  have earlier : lead <+: front := (List.prefix_concat_iff.mp begins).resolve_left proper
  have outerBegins : outer lead <+: outer front := placed_isPrefix _ _ earlier
  have outerProper : outer lead ≠ outer (front ++ ['}']) := by
    intro same
    have short := outerBegins.length_le
    rw [same, split, List.length_append, List.length_singleton] at short
    omega
  have above := whole.inside (outer lead) (split ▸ outerBegins.trans (List.prefix_append _ _))
    (outer_ne_nil nonempty) outerProper
  have also : 0 ≤ nesting (inner lead) := nests.above _ (placed_isPrefix _ _ begins)
  rw [nesting_eq_add]
  omega

theorem format_of_balanced {document : Document} {config : PortConfig}
    (beforeUnbraced : Unbraced before) (afterUnbraced : Unbraced after) (whole : Balanced object)
    (read : Reader.document? object = some document) (configured : ofObject document = .ok config) :
    format (String.ofList (before ++ object ++ after)) "fos" =
      .ok (String.ofList (before ++ config.toDocument.characters ++ after)) := by
  refine format_eq_ok_iff.mpr ⟨object, document, config, ?_, Reader.document?_spaced read, rfl,
    configured, ?_⟩
  · rw [String.toList_ofList]
    exact (lastObject_eq_ok_iff beforeUnbraced afterUnbraced).mpr whole
  · rw [String.toList_ofList, String.toList_ofList]
    exact (replaceAll_embedded beforeUnbraced afterUnbraced whole _).symm

/--
An object whose access lines give VLANs is normalized in its place just when its braces balance,
those in its strings counted as well. They do where those in its strings nest by themselves.
-/
theorem format_embedded_iff {document : Document} {items : List Document}
    (beforeUnbraced : Unbraced before) (afterUnbraced : Unbraced after)
    (opens : object.head? = some '{') (closes : object.getLast? = some '}')
    (read : Reader.document? object = some document) (lists : Lists document items)
    (numbers : ∀ rest ∈ behind accessWords (texts items), ∃ vlan, SpellsVlan rest vlan) :
    ∃ config, Interprets (texts items) (.ok config) ∧
      (format (String.ofList (before ++ object ++ after)) "fos" =
          .ok (String.ofList (before ++ config.toDocument.characters ++ after)) ↔
        Balanced object) ∧
      (Nests (inner object) → Balanced object) := by
  choose! vlan spelled using numbers
  have interprets : Interprets (texts items) _ := .configured
    (List.forall₂_map_right_iff.mpr (List.forall₂_same.mpr spelled))
  refine ⟨_, interprets, ⟨balanced_of_format beforeUnbraced afterUnbraced opens closes read,
    fun whole => format_of_balanced beforeUnbraced afterUnbraced whole read ?_⟩,
    balanced_of_nests opens closes read⟩
  rw [ofObject, lines?_eq_some_iff.mpr ⟨items, lists, rfl⟩]
  exact readLines_eq_iff.mpr interprets

end Embedded

theorem exists_lists {text : List Char} {lines : List String}
    (read : (Reader.document? text).bind lines? = some lines) :
    ∃ document items, Reader.document? text = some document ∧ Lists document items ∧
      texts items = lines := by
  obtain ⟨document, found, listed⟩ := Option.bind_eq_some_iff.mp read
  obtain ⟨items, lists, same⟩ := lines?_eq_some_iff.mp listed
  exact ⟨document, items, found, lists, same⟩

/-- The description of the port holds a pair of braces. -/
def linkedObject : List Char :=
  "\x7b\"d\":\"\x7bup\x7d\",\"stdout_lines\":[[\"switchport access vlan 37\"]]\x7d".toList

theorem linkedObject_normalized :
    ∃ config, Interprets ["switchport access vlan 37"] (.ok config) ∧
      format (String.ofList ("ok ".toList ++ linkedObject ++ " end".toList)) "fos" =
        .ok (String.ofList ("ok ".toList ++ config.toDocument.characters ++ " end".toList)) := by
  have listed : (Reader.document? linkedObject).bind lines? =
      some ["switchport access vlan 37"] := by decide +kernel
  obtain ⟨document, items, read, lists, same⟩ := exists_lists listed
  have beforeUnbraced : Unbraced "ok ".toList := by decide
  have afterUnbraced : Unbraced " end".toList := by decide
  have whole : Balanced linkedObject :=
    (lastObject_eq_ok_iff beforeUnbraced afterUnbraced).mp (by decide +kernel)
  have numbers : ∀ rest ∈ behind accessWords (texts items), ∃ vlan, SpellsVlan rest vlan := by
    have access : behind accessWords (texts items) = ["37"] := by
      rw [same]
      decide +kernel
    rw [access, List.forall_mem_singleton]
    exact ⟨37, readVlan_eq_ok_iff.mp (by decide +kernel)⟩
  obtain ⟨config, interprets, normalized, _⟩ :=
    format_embedded_iff beforeUnbraced afterUnbraced (by decide) (by decide) read lists numbers
  exact ⟨config, same ▸ interprets, normalized.mpr whole⟩

/-- The description of the port holds a closing brace only. -/
def severedObject : List Char :=
  "\x7b\"d\":\"\x7d\",\"stdout_lines\":[[\"switchport mode access\"]]\x7d".toList

theorem severedObject_refused :
    Unbraced "ok ".toList ∧ Unbraced " end".toList ∧ severedObject.head? = some '{' ∧
      severedObject.getLast? = some '}' ∧
      (∃ document items, Reader.document? severedObject = some document ∧ Lists document items ∧
        texts items = ["switchport mode access"]) ∧
      behind accessWords ["switchport mode access"] = [] ∧
      Interprets ["switchport mode access"] (.ok ⟨some "access", none, ""⟩) ∧
      format (String.ofList ("ok ".toList ++ severedObject ++ " end".toList)) "fos" =
        .error .invalidObject :=
  ⟨by decide, by decide, by decide, by decide, exists_lists (by decide +kernel),
    by decide +kernel, readLines_eq_iff.mp (by decide +kernel), by decide +kernel⟩

end NetworkAutomation.PortConfig
