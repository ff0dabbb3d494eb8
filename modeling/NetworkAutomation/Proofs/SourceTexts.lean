/-
This file proves that texts of both formats are read in two steps. The first step keeps every entry
of the text, and the second one merges the entries that stand under one key.
-/

import Mathlib.Data.List.Induction
import NetworkAutomation.Proofs.ParsedSpecifications

namespace NetworkAutomation

/-! ## Merging entries under one key -/

mutual

/-- A repeated key keeps its first place and takes its last document, at every depth. -/
def Document.merged : Document → Document
  | .null => .null
  | .boolean value => .boolean value
  | .number value => .number value
  | .text value => .text value
  | .list items => .list (mergedItems items)
  | .mapping entries => .mapping (Mapping.ofEntries (mergedEntries entries))

def mergedItems : List Document → List Document
  | [] => []
  | item :: rest => item.merged :: mergedItems rest

/-- Each document is merged in itself, and repeated keys stay. -/
def mergedEntries : Mapping → Mapping
  | [] => []
  | (key, document) :: rest => (key, document.merged) :: mergedEntries rest

end

theorem mergedItems_eq_map (items : List Document) : mergedItems items = items.map .merged := by
  induction items with
  | nil => rfl
  | cons item rest ih => rw [mergedItems, ih, List.map_cons]

theorem mergedEntries_eq_map (entries : Mapping) :
    mergedEntries entries = entries.map fun entry => (entry.1, entry.2.merged) := by
  induction entries with
  | nil => rfl
  | cons entry rest ih => rw [mergedEntries, ih, List.map_cons]

theorem keys_mergedEntries (entries : Mapping) :
    Entries.keys (mergedEntries entries) = Entries.keys entries := by
  rw [mergedEntries_eq_map, Entries.keys, List.map_map]
  rfl

namespace Mapping

theorem ofEntries_concat (entries : Mapping) (entry : String × Document) :
    ofEntries (entries ++ [entry]) = Entries.put (ofEntries entries) entry.1 entry.2 := by
  rw [ofEntries, merge, List.foldl_append, ← insert_eq_put]
  rfl

/-- Each key stands at the place of its first entry. -/
theorem keys_ofEntries (entries : Mapping) :
    Entries.keys (ofEntries entries) = (Entries.keys entries).eraseDups := by
  induction entries using List.reverseRecOn with
  | nil => rfl
  | append_singleton earlier entry ih =>
    rw [ofEntries_concat, Entries.keys_put, ih, Entries.keys_append]
    simp only [List.mem_eraseDups]
    exact (eraseDups_concat (Entries.keys earlier) entry.1).symm

/-- The document under a key is that of the last entry. -/
theorem find?_ofEntries (entries : Mapping) (key : String) :
    Entries.find? (ofEntries entries) key = Entries.find? entries.reverse key := by
  induction entries using List.reverseRecOn with
  | nil => rfl
  | append_singleton earlier entry ih =>
    rw [ofEntries_concat, Entries.find?_put, List.reverse_concat, Entries.find?_cons, ← ih]
    by_cases same : entry.1 = key
    · rw [if_pos same, ← same, Function.update_self]
    · rw [if_neg same, Function.update_of_ne (Ne.symm same)]

theorem mem_of_mem_ofEntries {entries : Mapping} {entry : String × Document}
    (member : entry ∈ ofEntries entries) : entry ∈ entries := by
  induction entries using List.reverseRecOn with
  | nil => exact member
  | append_singleton earlier last ih =>
    rw [ofEntries_concat] at member
    rcases Entries.mem_put member with rfl | old
    · exact List.mem_append_right earlier List.mem_cons_self
    · exact List.mem_append_left [last] (ih old)

theorem nodup_ofEntries (entries : Mapping) : (Entries.keys (ofEntries entries)).Nodup := by
  induction entries using List.reverseRecOn with
  | nil => exact List.nodup_nil
  | append_singleton earlier entry ih =>
    rw [ofEntries_concat]
    exact Entries.nodup_keys_put ih entry.1 entry.2

theorem without_cons (entry : String × Document) (rest : Mapping) (key : String) :
    without (entry :: rest) key =
      if entry.1 = key then without rest key else entry :: without rest key := by
  by_cases same : entry.1 = key <;> simp [without, same]

theorem without_put (mapping : Mapping) (key added : String) (document : Document) :
    without (Entries.put mapping added document) key =
      if added = key then without mapping key
      else Entries.put (without mapping key) added document := by
  induction mapping with
  | nil => by_cases same : added = key <;> simp [Entries.put, without, same]
  | cons entry rest ih =>
    obtain ⟨present, previous⟩ := entry
    rw [Entries.put]
    by_cases hit : present = added
    · subst hit
      by_cases same : present = key <;> simp [without_cons, Entries.put, same]
    · rw [if_neg hit, without_cons, without_cons, ih]
      by_cases other : present = key
      · simp [other]
      · by_cases same : added = key
        · simp [other, same]
        · simp [other, same, Entries.put, hit]

/-- A key may be left out before its entries are merged. -/
theorem without_ofEntries (entries : Mapping) (key : String) :
    (ofEntries entries).without key = ofEntries (entries.without key) := by
  induction entries using List.reverseRecOn with
  | nil => rfl
  | append_singleton earlier entry ih =>
    rw [ofEntries_concat, without_put, ih, without_append]
    by_cases same : entry.1 = key
    · simp [without, same]
    · rw [if_neg same, ← ofEntries_concat]
      simp [without, same]

end Mapping

namespace Document

mutual

theorem merged_wellFormed : (document : Document) → document.merged.WellFormed
  | .null => .null
  | .boolean value => .boolean value
  | .number value => .number value
  | .text value => .text value
  | .list items => .list (mergedItems_wellFormed items)
  | .mapping entries =>
      .mapping (Mapping.nodup_ofEntries _) fun entry member =>
        mergedEntries_wellFormed entries entry (Mapping.mem_of_mem_ofEntries member)

theorem mergedItems_wellFormed : (items : List Document) →
    ∀ item ∈ mergedItems items, item.WellFormed
  | [], _, member => absurd member List.not_mem_nil
  | item :: rest, other, member => by
      rcases List.mem_cons.mp member with rfl | later
      · exact merged_wellFormed item
      · exact mergedItems_wellFormed rest other later

theorem mergedEntries_wellFormed : (entries : Mapping) →
    ∀ entry ∈ mergedEntries entries, entry.2.WellFormed
  | [], _, member => absurd member List.not_mem_nil
  | (_, document) :: rest, other, member => by
      rcases List.mem_cons.mp member with rfl | later
      · exact merged_wellFormed document
      · exact mergedEntries_wellFormed rest other later

end

mutual

theorem merged_of_wellFormed : (document : Document) → document.WellFormed →
    document.merged = document
  | .null, _ => rfl
  | .boolean _, _ => rfl
  | .number _, _ => rfl
  | .text _, _ => rfl
  | .list items, formed => by rw [merged, mergedItems_of_wellFormed items formed.items]
  | .mapping entries, formed => by
      rw [merged, mergedEntries_of_wellFormed entries formed.entries,
        Mapping.ofEntries_of_nodup formed.keys]

theorem mergedItems_of_wellFormed : (items : List Document) →
    (∀ item ∈ items, item.WellFormed) → mergedItems items = items
  | [], _ => rfl
  | item :: rest, each => by
      rw [List.forall_mem_cons] at each
      rw [mergedItems, merged_of_wellFormed item each.1, mergedItems_of_wellFormed rest each.2]

theorem mergedEntries_of_wellFormed : (entries : Mapping) →
    (∀ entry ∈ entries, entry.2.WellFormed) → mergedEntries entries = entries
  | [], _ => rfl
  | (_, document) :: rest, each => by
      rw [List.forall_mem_cons] at each
      rw [mergedEntries, merged_of_wellFormed document each.1,
        mergedEntries_of_wellFormed rest each.2]

end

/-- Nothing is merged exactly where no key is repeated at any depth. -/
theorem merged_eq_self_iff {document : Document} :
    document.merged = document ↔ document.WellFormed :=
  ⟨fun same => same ▸ merged_wellFormed document, merged_of_wellFormed document⟩

end Document

/-! ## Source trees of JSON texts -/

namespace Reader

mutual

/-- The reader of documents, except that a mapping keeps all entries in the order of the text. -/
def readSource? : Nat → Nat → List Char → Option (Document × List Char)
  | 0, _, _ => none
  | fuel + 1, depth, characters =>
      match skipSpace characters with
      | '[' :: rest =>
          match depth with
          | 0 => none
          | inner + 1 =>
              match skipSpace rest with
              | ']' :: remaining => some (.list [], remaining)
              | items => (readSources? fuel inner items).map fun (documents, remaining) =>
                  (.list documents, remaining)
      | '{' :: rest =>
          match depth with
          | 0 => none
          | inner + 1 =>
              match skipSpace rest with
              | '}' :: remaining => some (.mapping [], remaining)
              | entries => (readSourceEntries? fuel inner entries).map fun (mapping, remaining) =>
                  (.mapping mapping, remaining)
      | _ => readDocument? (fuel + 1) depth characters

def readSources? : Nat → Nat → List Char → Option (List Document × List Char)
  | 0, _, _ => none
  | fuel + 1, depth, characters => do
      let (document, behind) ← readSource? fuel depth characters
      match skipSpace behind with
      | ']' :: remaining => some ([document], remaining)
      | ',' :: rest => do
          let (documents, remaining) ← readSources? fuel depth rest
          some (document :: documents, remaining)
      | _ => none

def readSourceEntries? : Nat → Nat → List Char → Option (Mapping × List Char)
  | 0, _, _ => none
  | fuel + 1, depth, characters => do
      let (key, behindKey) ← readQuoted? (skipSpace characters)
      match skipSpace behindKey with
      | ':' :: behindColon => do
          let (document, behind) ← readSource? fuel depth behindColon
          match skipSpace behind with
          | '}' :: remaining => some ([(key, document)], remaining)
          | ',' :: rest => do
              let (entries, remaining) ← readSourceEntries? fuel depth rest
              some ((key, document) :: entries, remaining)
          | _ => none
      | _ => none

end

def source? (text : List Char) : Option Document := do
  let (document, rest) ← readSource? (2 * text.length + 2) greatestDepth text
  if (skipSpace rest).isEmpty then some document else none

/-- What the readers take with some fuel is what the source holds, with its entries merged. -/
structure ReadsMerged (fuel : Nat) : Prop where
  document : ∀ depth characters, readDocument? fuel depth characters =
    (readSource? fuel depth characters).map fun (source, rest) => (source.merged, rest)
  items : ∀ depth characters, readItems? fuel depth characters =
    (readSources? fuel depth characters).map fun (sources, rest) => (mergedItems sources, rest)
  entries : ∀ depth mapping characters, readEntries? fuel depth mapping characters =
    (readSourceEntries? fuel depth characters).map fun (entries, rest) =>
      (mapping.merge (mergedEntries entries), rest)

theorem readDocument?_eq_merged {fuel : Nat} (inner : ReadsMerged fuel) (depth : Nat)
    (characters : List Char) : readDocument? (fuel + 1) depth characters =
      (readSource? (fuel + 1) depth characters).map fun (source, rest) =>
        (source.merged, rest) := by
  rw [readSource?]
  split
  next rest ahead =>
    rw [readDocument?, ahead]
    cases depth with
    | zero => rfl
    | succ depth =>
      simp only
      -- Both readers look at the same character, so one case split decides for both.
      by_cases closed : ∃ remaining, skipSpace rest = ']' :: remaining
      · obtain ⟨remaining, behind⟩ := closed
        simp only [behind]
        rfl
      · rw [not_exists] at closed
        simp [inner.items, Document.merged, Function.comp_def]
  next rest ahead =>
    rw [readDocument?, ahead]
    cases depth with
    | zero => rfl
    | succ depth =>
      simp only
      by_cases closed : ∃ remaining, skipSpace rest = '}' :: remaining
      · obtain ⟨remaining, behind⟩ := closed
        simp only [behind]
        rfl
      · rw [not_exists] at closed
        simp [inner.entries, Document.merged, Function.comp_def, Mapping.ofEntries]
  next noList noMapping =>
    rw [readDocument?]
    split
    case h_5 rest ahead => exact absurd ahead (noList rest)
    case h_6 rest ahead => exact absurd ahead (noMapping rest)
    -- The other documents hold no entries, so nothing in them is merged.
    all_goals
      rw [Option.map_map]
      rfl

theorem readItems?_eq_merged {fuel : Nat} (inner : ReadsMerged fuel) (depth : Nat)
    (characters : List Char) : readItems? (fuel + 1) depth characters =
      (readSources? (fuel + 1) depth characters).map fun (sources, rest) =>
        (mergedItems sources, rest) := by
  rw [readItems?, readSources?, inner.document]
  cases readSource? fuel depth characters with
  | none => rfl
  | some found =>
    simp only [Option.map_some, Option.bind_eq_bind, Option.bind_some]
    by_cases closed : ∃ remaining, skipSpace found.2 = ']' :: remaining
    · obtain ⟨remaining, ahead⟩ := closed
      simp only [ahead]
      rfl
    by_cases continued : ∃ rest, skipSpace found.2 = ',' :: rest
    · obtain ⟨rest, ahead⟩ := continued
      simp only [ahead, inner.items]
      cases readSources? fuel depth rest <;> rfl
    · rw [not_exists] at closed continued
      simp

theorem readEntries?_eq_merged {fuel : Nat} (inner : ReadsMerged fuel) (depth : Nat)
    (mapping : Mapping) (characters : List Char) :
    readEntries? (fuel + 1) depth mapping characters =
      (readSourceEntries? (fuel + 1) depth characters).map fun (entries, rest) =>
        (mapping.merge (mergedEntries entries), rest) := by
  rw [readEntries?, readSourceEntries?]
  cases readQuoted? (skipSpace characters) with
  | none => rfl
  | some taken =>
    simp only [Option.bind_eq_bind, Option.bind_some]
    by_cases keyed : ∃ behindColon, skipSpace taken.2 = ':' :: behindColon
    · obtain ⟨behindColon, colon⟩ := keyed
      simp only [colon, inner.document]
      cases readSource? fuel depth behindColon with
      | none => rfl
      | some found =>
        simp only [Option.map_some, Option.bind_some]
        by_cases closed : ∃ remaining, skipSpace found.2 = '}' :: remaining
        · obtain ⟨remaining, ahead⟩ := closed
          simp only [ahead]
          rfl
        by_cases continued : ∃ rest, skipSpace found.2 = ',' :: rest
        · obtain ⟨rest, ahead⟩ := continued
          simp only [ahead, inner.entries]
          cases readSourceEntries? fuel depth rest <;> rfl
        · rw [not_exists] at closed continued
          simp
    · rw [not_exists] at keyed
      simp

theorem readsMerged (fuel : Nat) : ReadsMerged fuel := by
  induction fuel with
  | zero => exact ⟨fun _ _ => rfl, fun _ _ => rfl, fun _ _ _ => rfl⟩
  | succ fuel inner =>
    exact ⟨readDocument?_eq_merged inner, readItems?_eq_merged inner, readEntries?_eq_merged inner⟩

theorem document?_eq_merged (text : List Char) :
    document? text = (source? text).map Document.merged := by
  rw [document?, source?, (readsMerged _).document]
  cases readSource? (2 * text.length + 2) greatestDepth text with
  | none => rfl
  | some found =>
    simp only [Option.map_some, Option.bind_eq_bind, Option.bind_some]
    split <;> rfl

end Reader

/-! ## Source trees of YAML texts -/

namespace Yaml

mutual

/-- The tree of the content, except that a mapping keeps all entries in the order of the text. -/
def Content.source : Content → Except ConversionError Document
  | .scalar value => value.toDocument
  | .list items => do return .list (← Content.sources items)
  | .mapping entries => do return .mapping (← Content.sourceEntries entries)
  | .tagged _ content => content.source

def Content.sources : List Content → Except ConversionError (List Document)
  | [] => .ok []
  | item :: rest => do
      let document ← item.source
      return document :: (← Content.sources rest)

def Content.sourceEntries : List (Content × Content) → Except ConversionError Mapping
  | [] => .ok []
  | (key, value) :: rest => do
      let name ← key.key
      let document ← value.source
      return (name, document) :: (← Content.sourceEntries rest)

end

theorem Scalar.toDocument_eq_merged (value : Scalar) :
    value.toDocument = value.toDocument.map Document.merged := by
  unfold Scalar.toDocument
  split <;> rfl

mutual

theorem Content.toDocument_eq_merged : (content : Content) →
    content.toDocument = content.source.map Document.merged
  | .scalar value => by
      rw [Content.toDocument, Content.source]
      exact Scalar.toDocument_eq_merged value
  | .list items => by
      rw [Content.toDocument, Content.source, Content.documents_eq_merged items]
      cases Content.sources items <;> rfl
  | .mapping entries => by
      rw [Content.toDocument, Content.source, Content.entryDocuments_eq_merged entries]
      cases Content.sourceEntries entries <;> rfl
  | .tagged _ content => by
      rw [Content.toDocument, Content.source]
      exact Content.toDocument_eq_merged content

theorem Content.documents_eq_merged : (items : List Content) →
    Content.documents items = (Content.sources items).map mergedItems
  | [] => rfl
  | item :: rest => by
      rw [Content.documents, Content.sources, Content.toDocument_eq_merged item,
        Content.documents_eq_merged rest]
      cases item.source with
      | error refusal => rfl
      | ok document => cases Content.sources rest <;> rfl

theorem Content.entryDocuments_eq_merged : (entries : List (Content × Content)) →
    (collected : Mapping) → Content.entryDocuments entries collected =
      (Content.sourceEntries entries).map fun found => collected.merge (mergedEntries found)
  | [], _ => rfl
  | (key, value) :: rest, collected => by
      rw [Content.entryDocuments, Content.sourceEntries, Content.toDocument_eq_merged value]
      cases key.key with
      | error refusal => rfl
      | ok name =>
        cases value.source with
        | error refusal => rfl
        | ok document =>
          simp only [Except.map, Success.bind_ok]
          rw [Content.entryDocuments_eq_merged rest]
          cases Content.sourceEntries rest <;> rfl

end

end Yaml

/-! ## Both formats -/

/-- A specification is written in one of two formats. -/
inductive Format where
  | json
  | yaml
  deriving DecidableEq

namespace Format

def parse : Format → String → Except ParseError Specification
  | .json => Specification.ofJson
  | .yaml => Specification.ofYaml

/-- The tree that a text holds, with all entries of its mappings. -/
def source : Format → String → Except ParseError Document
  | .json, text => (Reader.source? text.toList).elim (.error .json) .ok
  | .yaml, text => (Yaml.Content.read? text.toList).elim (.error .yaml) fun content =>
      content.source.mapError .conversion

/-- A text is read as a specification by merging the entries of its tree. -/
theorem parse_eq (format : Format) (text : String) :
    format.parse text = (format.source text).bind fun source =>
      Specification.ofShape source.merged := by
  cases format with
  | json =>
    rw [parse, Specification.ofJson, Document.read?, Reader.document?_eq_merged, source]
    cases Reader.source? text.toList <;> rfl
  | yaml =>
    rw [parse, Specification.ofYaml, source]
    cases Yaml.Content.read? text.toList with
    | none => rfl
    | some content =>
      simp only [Option.elim_some, Yaml.Content.toDocument_eq_merged]
      cases content.source <;> rfl

end Format

end NetworkAutomation
