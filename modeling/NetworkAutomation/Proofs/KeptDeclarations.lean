/-
This file proves which declarations of a text are in the specification that is read from it. Of
several entries under one key only the last one is, at the place of the first one.
-/

import NetworkAutomation.Proofs.Soundness
import NetworkAutomation.Proofs.SourceTexts

namespace NetworkAutomation

/-! ## Tables of declarations -/

/-- A specification declares what it declares in tables, and some belong to one declaration. -/
inductive Table where
  | validators
  | validatorParameters (validator : String)
  | models
  | fields (model : String)
  | actions
  | arguments (action : String)
  | staticVariables (action : String)

/-- A table declares things of one sort. -/
inductive Declared where
  | validator (declared : ValidatorSpecification)
  | model (fields : List (String × Option FieldSpecification))
  | field (declared : Option FieldSpecification)
  | action (declared : ActionSpecification)
  | parameter (declared : Option ParameterSpecification)
  | value (document : Document)

/-- An entry of a table has the name and the body of one declaration. -/
abbrev Declarations := List (String × Declared)

def Table.read? : Table → Document → Option Declared
  | .validators, document => (Specification.validator? document).map .validator
  | .validatorParameters _, document => some (.value document)
  | .models, document =>
      (Specification.table? (Specification.body? Specification.field?) document).map .model
  | .fields _, document => (Specification.body? Specification.field? document).map .field
  | .actions, document => (Specification.action? document).map .action
  | .arguments _, document => (Specification.body? Specification.parameter? document).map .parameter
  | .staticVariables _, document => some (.value document)

/-- The declarations are read from the bodies of the entries, one by one and in their order. -/
def Lists {α : Type} (read : Document → Option α) (entries : Mapping)
    (declarations : List (String × α)) : Prop :=
  List.Forall₂ (fun entry declared => declared.1 = entry.1 ∧ read entry.2 = some declared.2)
    entries declarations

namespace Specification

/-- A table of a declaration that is missing is empty. -/
def declarations (specification : Specification) : Table → Declarations
  | .validators => specification.validators.map (Prod.map id .validator)
  | .validatorParameters validator =>
      (Entries.find? specification.validators validator).elim [] fun declared =>
        declared.parameters.map (Prod.map id .value)
  | .models => specification.models.map (Prod.map id .model)
  | .fields model =>
      (Entries.find? specification.models model).elim [] fun fields =>
        fields.map (Prod.map id .field)
  | .actions => specification.actions.map (Prod.map id .action)
  | .arguments action =>
      (Entries.find? specification.actions action).elim [] fun declared =>
        declared.parameters.map (Prod.map id .parameter)
  | .staticVariables action =>
      (Entries.find? specification.actions action).elim [] fun declared =>
        (declared.staticVariables.getD []).map (Prod.map id .value)

end Specification

/-! ## Tables of a source tree -/

namespace Document

/-- The last entry under one of the spellings gives the field, and a list gives it by its place. -/
def member? (spellings : Shape.Spellings) (place : Nat) : Document → Option Document
  | .mapping entries => spellings.findSome? fun name => Entries.find? entries.reverse name
  | .list items => items[place]?
  | _ => none

/-- All that is no mapping has no entries. -/
def entriesOf : Document → Mapping
  | .mapping entries => entries
  | _ => []

/-- The entries of the mapping that a field holds. -/
def part (spellings : Shape.Spellings) (place : Nat) (document : Document) : Mapping :=
  (document.member? spellings place).elim [] entriesOf

/-- The last body under a name holds further entries. -/
def inside (entries : Mapping) (name : String) (inner : Document → Mapping) : Mapping :=
  (Entries.find? entries.reverse name).elim [] inner

/-- The entries that a source tree has for a table, repeated ones included. -/
def entriesAt (source : Document) : Table → Mapping
  | .validators => source.part ["validators"] 0
  | .validatorParameters validator =>
      inside (source.part ["validators"] 0) validator fun body => body.entriesOf.without "type"
  | .models => source.part ["models"] 1
  | .fields model => inside (source.part ["models"] 1) model entriesOf
  | .actions => source.part ["actions"] 2
  | .arguments action => inside (source.part ["actions"] 2) action (part ["args", "parameters"] 0)
  | .staticVariables action =>
      inside (source.part ["actions"] 2) action (part ["vars", "static_vars"] 1)

end Document

/-! ## Tables of a merged tree -/

namespace Document

theorem entriesOf_merged (document : Document) :
    document.merged.entriesOf = Mapping.ofEntries (mergedEntries document.entriesOf) := by
  cases document <;> rfl

/-- The last document under a key is kept, and it is merged in itself. -/
theorem find?_merged (entries : Mapping) (key : String) :
    Entries.find? (Mapping.ofEntries (mergedEntries entries)) key =
      (Entries.find? entries.reverse key).map merged := by
  rw [Mapping.find?_ofEntries, mergedEntries_eq_map, ← List.map_reverse]
  simp only [Entries.find?, List.find?_map, Option.map_map]
  rfl

theorem find?_reverse_merged (entries : Mapping) (key : String) :
    Entries.find? (Mapping.ofEntries (mergedEntries entries)).reverse key =
      (Entries.find? entries.reverse key).map merged := by
  have distinct := Mapping.nodup_ofEntries (mergedEntries entries)
  rw [Entries.find?_perm distinct (List.reverse_perm _), find?_merged]

theorem member?_merged (spellings : Shape.Spellings) (place : Nat) (source : Document) :
    source.merged.member? spellings place = (source.member? spellings place).map merged := by
  cases source with
  | mapping entries =>
    simp only [merged, member?, find?_reverse_merged]
    induction spellings with
    | nil => rfl
    | cons name rest ih =>
      rw [List.findSome?_cons, List.findSome?_cons]
      cases Entries.find? entries.reverse name with
      | none => exact ih
      | some document => rfl
  | list items => simp [merged, member?, mergedItems_eq_map]
  | _ => rfl

theorem part_merged (spellings : Shape.Spellings) (place : Nat) (source : Document) :
    source.merged.part spellings place =
      Mapping.ofEntries (mergedEntries (source.part spellings place)) := by
  rw [part, part, member?_merged]
  cases source.member? spellings place with
  | none => rfl
  | some document => exact entriesOf_merged document

/-- What stands inside the body of a name is merged where it is merged in each body. -/
theorem inside_merged {inner : Document → Mapping}
    (merges : ∀ document,
      inner document.merged = Mapping.ofEntries (mergedEntries (inner document)))
    (entries : Mapping) (name : String) :
    inside (Mapping.ofEntries (mergedEntries entries)) name inner =
      Mapping.ofEntries (mergedEntries (inside entries name inner)) := by
  rw [inside, inside, find?_reverse_merged]
  cases Entries.find? entries.reverse name with
  | none => rfl
  | some document => exact merges document

theorem without_merged (document : Document) (key : String) :
    document.merged.entriesOf.without key =
      Mapping.ofEntries (mergedEntries (document.entriesOf.without key)) := by
  rw [entriesOf_merged, Mapping.without_ofEntries, mergedEntries_eq_map, mergedEntries_eq_map,
    Mapping.without, Mapping.without, List.filter_map]
  rfl

/-- Merging a tree merges the entries of each of its tables. -/
theorem entriesAt_merged (source : Document) (table : Table) :
    source.merged.entriesAt table =
      Mapping.ofEntries (mergedEntries (source.entriesAt table)) := by
  cases table with
  | validators => exact part_merged ["validators"] 0 source
  | validatorParameters validator =>
    rw [entriesAt, part_merged, inside_merged fun body => without_merged body "type"]
    rfl
  | models => exact part_merged ["models"] 1 source
  | fields model =>
    rw [entriesAt, part_merged, inside_merged entriesOf_merged]
    rfl
  | actions => exact part_merged ["actions"] 2 source
  | arguments action =>
    rw [entriesAt, part_merged, inside_merged (part_merged ["args", "parameters"] 0)]
    rfl
  | staticVariables action =>
    rw [entriesAt, part_merged, inside_merged (part_merged ["vars", "static_vars"] 1)]
    rfl

end Document

/-! ## Tables that are read from a document -/

section Reading

open Document

variable {α : Type} {body : Document → Option α}

theorem lists_of_table? {document : Document} {table : List (String × α)}
    (read : Specification.table? body document = some table) :
    Lists body document.entriesOf table := by
  unfold Specification.table? at read
  split at read
  next =>
    obtain rfl := Option.some.inj read
    exact .nil
  next entries =>
    apply (Success.mapM_eq_some_iff.mp read).imp
    intro entry declared made
    obtain ⟨value, taken, rfl⟩ := Option.map_eq_some_iff.mp made
    exact ⟨rfl, taken⟩
  next => exact nomatch read

/-- A table that is left out declares nothing. -/
theorem lists_of_orDefault {given : Option Document} {table : List (String × α)}
    (read : Shape.orDefault (Specification.table? body) [] given = some table) :
    Lists body (given.elim [] entriesOf) table := by
  cases given with
  | none =>
    obtain rfl := Option.some.inj read
    exact .nil
  | some document => exact lists_of_table? read

namespace Lists

variable {entries : Mapping} {table : List (String × α)}

theorem keys (lists : Lists body entries table) : Entries.keys table = Entries.keys entries :=
  Success.map_eq_of_related lists fun _ _ both => both.1

/-- A name that is declared has a body that is read, and a name that is not has none. -/
theorem find?_cases (lists : Lists body entries table) (name : String) :
    (Entries.find? entries name = none ∧ Entries.find? table name = none) ∨
      ∃ document value, Entries.find? entries name = some document ∧
        body document = some value ∧ Entries.find? table name = some value := by
  induction lists with
  | nil => exact .inl ⟨rfl, rfl⟩
  | @cons entry declared _ _ head _ ih =>
    rw [Entries.find?_cons, Entries.find?_cons, head.1]
    split
    next => exact .inr ⟨entry.2, declared.2, rfl, head.2, rfl⟩
    next => exact ih

theorem find?_eq (lists : Lists body entries table) (name : String) :
    Entries.find? table name = (Entries.find? entries name).bind body := by
  rcases lists.find?_cases name with
    ⟨missing, undeclared⟩ | ⟨document, value, found, taken, declared⟩
  · rw [missing, undeclared, Option.bind_none]
  · rw [found, declared, Option.bind_some, taken]

/-- What stands inside the body of a name is listed where it is listed for each such body. -/
theorem inside {read : Document → Option Declared} {inner : Document → Mapping}
    {declared : α → Declarations} (lists : Lists body entries table)
    (distinct : (Entries.keys entries).Nodup) (name : String)
    (each : ∀ document value, body document = some value →
      Lists read (inner document) (declared value)) :
    Lists read (Document.inside entries name inner)
      ((Entries.find? table name).elim [] declared) := by
  -- Under distinct keys the last entry of a name is its only one.
  rw [Document.inside, Entries.find?_perm distinct (List.reverse_perm entries)]
  rcases lists.find?_cases name with
    ⟨missing, undeclared⟩ | ⟨document, value, found, taken, same⟩
  · rw [missing, undeclared]
    exact .nil
  · rw [found, same]
    exact each document value taken

/-- Each body is wrapped as what its table declares. -/
theorem wrapped {wrap : α → Declared} {read : Document → Option Declared}
    (lists : Lists body entries table) (reads : ∀ document value, body document = some value →
      read document = some (wrap value)) :
    Lists read entries (table.map (Prod.map id wrap)) := by
  rw [Lists, List.forall₂_map_right_iff]
  exact lists.imp fun _ _ both => ⟨both.1, reads _ _ both.2⟩

end Lists

/-- Plain entries declare their own documents. -/
theorem lists_values (entries : Mapping) :
    Lists (fun document => some (Declared.value document)) entries
      (entries.map (Prod.map id .value)) := by
  rw [Lists, List.forall₂_map_right_iff, List.forall₂_same]
  exact fun _ _ => ⟨rfl, rfl⟩

/-- A field that is found is the only one of its spellings, and so the last one. -/
theorem given?_eq_member? {entries : Mapping} {spellings : Shape.Spellings}
    {given : Option Document} (read : Shape.given? entries spellings = some given) (place : Nat) :
    given = (Document.mapping entries).member? spellings place := by
  unfold Shape.given? at read
  rw [member?]
  split at read
  next empty =>
    obtain rfl := Option.some.inj read
    symm
    rw [List.findSome?_eq_none_iff]
    intro name spelled
    rw [Entries.find?_eq_none_iff]
    intro present
    obtain ⟨entry, member, rfl⟩ := List.mem_map.mp present
    have kept := List.filter_eq_nil_iff.mp empty entry (List.mem_reverse.mp member)
    exact kept (List.contains_iff_mem.mpr spelled)
  next entry only =>
    obtain rfl := Option.some.inj read
    have isOnly : ∀ other ∈ entries, other.1 ∈ spellings → other = entry := by
      intro other member spelled
      have kept : other ∈ entries.filter fun entry => spellings.contains entry.1 :=
        List.mem_filter.mpr ⟨member, List.contains_iff_mem.mpr spelled⟩
      rw [only] at kept
      exact List.mem_singleton.mp kept
    have kept : entry ∈ entries.filter fun entry => spellings.contains entry.1 :=
      only ▸ List.mem_singleton_self entry
    obtain ⟨member, spelled⟩ := List.mem_filter.mp kept
    cases result : spellings.findSome? fun name => Entries.find? entries.reverse name with
    | none =>
      have absent := List.findSome?_eq_none_iff.mp result entry.1 (List.contains_iff_mem.mp spelled)
      rw [Entries.find?_eq_none_iff] at absent
      exact absurd (Entries.mem_keys_of_mem (List.mem_reverse.mpr member)) absent
    | some document =>
      obtain ⟨name, among, found⟩ := List.exists_of_findSome?_eq_some result
      have same := isOnly (name, document) (List.mem_reverse.mp (Entries.mem_of_find? found)) among
      rw [← same]
  next => exact nomatch read

theorem placed?_getElem? {fields : List Shape.Spellings} {documents : List Document}
    {found : List (Option Document)} (placed : Shape.placed? fields documents = some found)
    {place : Nat} (within : place < fields.length) :
    found[place]? = some documents[place]? := by
  induction fields generalizing documents found place with
  | nil => exact absurd within (Nat.not_lt_zero place)
  | cons _ fields ih =>
    cases documents with
    | nil =>
      obtain ⟨others, later, rfl⟩ := Option.map_eq_some_iff.mp placed
      cases place with
      | zero => rfl
      | succ place => simpa using ih later (Nat.lt_of_succ_lt_succ within)
    | cons document documents =>
      obtain ⟨others, later, rfl⟩ := Option.map_eq_some_iff.mp placed
      cases place with
      | zero => rfl
      | succ place => simpa using ih later (Nat.lt_of_succ_lt_succ within)

/-- The fields of a structure that is read are the members of its document. -/
theorem fields?_eq_member? {strict : Bool} {fields : List Shape.Spellings} {document : Document}
    {found : List (Option Document)} (read : Shape.fields? strict fields document = some found)
    (place : Nat) {spellings : Shape.Spellings} (field : fields[place]? = some spellings)
    {given : Option Document} (there : found[place]? = some given) :
    given = document.member? spellings place := by
  cases document with
  | mapping entries =>
    obtain ⟨_, read⟩ := Option.ite_none_left_eq_some.mp read
    obtain ⟨output, same, taken⟩ := exists_related (Success.mapM_eq_some_iff.mp read) field
    obtain rfl := Option.some.inj (there.symm.trans same)
    exact given?_eq_member? taken place
  | list documents =>
    have within := (List.getElem?_eq_some_iff.mp field).1
    exact Option.some.inj (there.symm.trans (placed?_getElem? read within))
  | _ => exact nomatch read

theorem staticVariables_eq {given : Option Document} {bound : Option Mapping}
    (read : Shape.optional Shape.mapping? given = some bound) :
    bound.getD [] = given.elim [] entriesOf := by
  rcases given with _ | document
  · obtain rfl := Option.some.inj read
    rfl
  · cases document with
    | null =>
      obtain rfl := Option.some.inj read
      rfl
    | mapping entries =>
      obtain rfl := Option.some.inj read
      rfl
    | _ => exact nomatch read

theorem action?_tables {document : Document} {action : ActionSpecification}
    (read : Specification.action? document = some action) :
    Lists (Specification.body? Specification.parameter?)
        (document.part ["args", "parameters"] 0) action.parameters ∧
      action.staticVariables.getD [] = document.part ["vars", "static_vars"] 1 := by
  obtain ⟨found, located, read⟩ := Option.bind_eq_some_iff.mp read
  split at read
  next parameters staticVariables tasksFrom =>
    obtain ⟨table, readParameters, read⟩ := Option.bind_eq_some_iff.mp read
    obtain ⟨bound, readVariables, read⟩ := Option.bind_eq_some_iff.mp read
    obtain ⟨_, _, same⟩ := Option.bind_eq_some_iff.mp read
    obtain rfl := Option.some.inj same
    unfold part
    rw [← fields?_eq_member? located 0 rfl rfl, ← fields?_eq_member? located 1 rfl rfl]
    exact ⟨lists_of_orDefault readParameters, staticVariables_eq readVariables⟩
  next => exact nomatch read

theorem validator?_parameters {document : Document} {validator : ValidatorSpecification}
    (read : Specification.validator? document = some validator) :
    validator.parameters = document.entriesOf.without "type" := by
  unfold Specification.validator? at read
  split at read
  next entries =>
    split at read
    next kind _ =>
      obtain rfl := Option.some.inj read
      rfl
    next => exact nomatch read
  next => exact nomatch read

/-- The tables of the whole specification list its sections. -/
theorem ofDocument?_sections {document : Document} {specification : Specification}
    (read : Specification.ofDocument? document = some specification) :
    Lists Specification.validator? (document.part ["validators"] 0) specification.validators ∧
      Lists (Specification.table? (Specification.body? Specification.field?))
        (document.part ["models"] 1) specification.models ∧
      Lists Specification.action? (document.part ["actions"] 2) specification.actions := by
  unfold Specification.ofDocument? at read
  split at read
  next =>
    obtain rfl := Option.some.inj read
    exact ⟨.nil, .nil, .nil⟩
  next =>
    obtain ⟨found, located, read⟩ := Option.bind_eq_some_iff.mp read
    split at read
    next validators models actions =>
      obtain ⟨validatorTable, readValidators, read⟩ := Option.bind_eq_some_iff.mp read
      obtain ⟨modelTable, readModels, read⟩ := Option.bind_eq_some_iff.mp read
      obtain ⟨actionTable, readActions, same⟩ := Option.bind_eq_some_iff.mp read
      obtain rfl := Option.some.inj same
      unfold part
      rw [← fields?_eq_member? located 0 rfl rfl, ← fields?_eq_member? located 1 rfl rfl,
        ← fields?_eq_member? located 2 rfl rfl]
      exact ⟨lists_of_orDefault readValidators, lists_of_orDefault readModels,
        lists_of_orDefault readActions⟩
    next => exact nomatch read

theorem nodup_part_merged (spellings : Shape.Spellings) (place : Nat) (source : Document) :
    (Entries.keys (source.merged.part spellings place)).Nodup := by
  rw [part_merged]
  exact Mapping.nodup_ofEntries _

/-- A specification lists all that its merged tree has for it, table by table. -/
theorem lists_declarations {source : Document} {specification : Specification}
    (read : Specification.ofDocument? source.merged = some specification) (table : Table) :
    Lists table.read? (source.merged.entriesAt table) (specification.declarations table) := by
  obtain ⟨validators, models, actions⟩ := ofDocument?_sections read
  have distinct := fun name place => nodup_part_merged [name] place source
  cases table with
  | validators => exact validators.wrapped fun _ _ taken => by rw [Table.read?, taken]; rfl
  | validatorParameters validator =>
    apply validators.inside (distinct _ _) validator
    intro document declared taken
    rw [validator?_parameters taken]
    exact lists_values _
  | models => exact models.wrapped fun _ _ taken => by rw [Table.read?, taken]; rfl
  | fields model =>
    apply models.inside (distinct _ _) model
    intro document fields taken
    exact (lists_of_table? taken).wrapped fun _ _ taken => by rw [Table.read?, taken]; rfl
  | actions => exact actions.wrapped fun _ _ taken => by rw [Table.read?, taken]; rfl
  | arguments action =>
    apply actions.inside (distinct _ _) action
    intro document declared taken
    exact (action?_tables taken).1.wrapped fun _ _ taken => by rw [Table.read?, taken]; rfl
  | staticVariables action =>
    apply actions.inside (distinct _ _) action
    intro document declared taken
    rw [(action?_tables taken).2]
    exact lists_values _

end Reading

/-! ## What is kept of a source tree -/

/-- Names stand where they are first given, and each has the body that it is given last. -/
structure KeepsLast (read : Document → Option Declared) (entries : Mapping)
    (declarations : Declarations) : Prop where
  names : Entries.keys declarations = (Entries.keys entries).eraseDups
  bodies : ∀ name, Entries.find? declarations name =
    (Entries.find? entries.reverse name).bind fun document => read document.merged
  /-- Every entry is kept exactly where no name is given twice. -/
  complete_iff : Lists (fun document => read document.merged) entries declarations ↔
    (Entries.keys entries).Nodup

theorem keepsLast_of_lists {read : Document → Option Declared} {entries : Mapping}
    {declarations : Declarations}
    (lists : Lists read (Mapping.ofEntries (mergedEntries entries)) declarations) :
    KeepsLast read entries declarations := by
  have names : Entries.keys declarations = (Entries.keys entries).eraseDups := by
    rw [lists.keys, Mapping.keys_ofEntries, keys_mergedEntries]
  refine ⟨names, fun name => ?_, fun complete => ?_, fun distinct => ?_⟩
  · rw [lists.find?_eq, Document.find?_merged, Option.bind_map]
    rfl
  · have same := complete.keys
    rw [← same, lists.keys]
    exact Mapping.nodup_ofEntries _
  · rw [← keys_mergedEntries] at distinct
    rw [Mapping.ofEntries_of_nodup distinct, mergedEntries_eq_map, Lists,
      List.forall₂_map_left_iff] at lists
    exact lists

namespace Format

variable {format : Format} {text : String} {specification : Specification}

theorem parse_eq_ok_iff : format.parse text = .ok specification ↔ ∃ source,
    format.source text = .ok source ∧ Specification.ofShape source.merged = .ok specification := by
  rw [parse_eq]
  exact Success.bind_eq_ok

/--
A repeated key is not refused. The specification is read from the merged tree, so the last entry
under a key takes the place of the first one, and nothing is lost only where no key is repeated.
-/
theorem keepsLast_of_parse (parsed : format.parse text = .ok specification) :
    ∃ source, format.source text = .ok source ∧
      Specification.ofShape source.merged = .ok specification ∧
      (source.merged = source ↔ source.WellFormed) ∧
      ∀ table : Table,
        KeepsLast table.read? (source.entriesAt table) (specification.declarations table) := by
  obtain ⟨source, taken, read⟩ := parse_eq_ok_iff.mp parsed
  refine ⟨source, taken, read, Document.merged_eq_self_iff, fun table => ?_⟩
  apply keepsLast_of_lists
  rw [← Document.entriesAt_merged]
  exact lists_declarations (Specification.ofShape_eq_ok_iff.mp read) table

/-- The keys of the two actions are a number and a text, and both become the same name. -/
def repeatedAction : String := "actions:\n  1: \x7b\x7d\n  \"1\": \x7btasks_from: x\x7d\n"

def repeatedModel : String := "\x7b\"models\": \x7b\"m\": \x7b\"a\": null\x7d, \"m\": null\x7d\x7d"

theorem repeatedAction_accepted : (Format.yaml.parse repeatedAction).isOk = true := by
  decide +kernel

theorem repeatedAction_keepsLast : ∃ source specification,
    Format.yaml.source repeatedAction = .ok source ∧
      Format.yaml.parse repeatedAction = .ok specification ∧
      KeepsLast Table.actions.read? (source.entriesAt .actions)
        (specification.declarations .actions) := by
  have parsed := Success.eq_ok_value repeatedAction_accepted
  obtain ⟨source, taken, _, _, keeps⟩ := keepsLast_of_parse parsed
  exact ⟨source, _, taken, parsed, keeps .actions⟩

/-- One accepted text with a repeated name shows that such texts are not refused. -/
theorem not_all_refused (table : Table) (names : List String)
    (accepted : (format.parse text).isOk = true)
    (listed : ((format.source text).map fun source => Entries.keys (source.entriesAt table)) =
      .ok names) (repeated : ¬names.Nodup) :
    ¬∀ text source, format.source text = .ok source →
      (∃ table, ¬(Entries.keys (source.entriesAt table)).Nodup) →
        ∃ error, format.parse text = .error error := by
  intro refuses
  cases taken : format.source text with
  | error refusal =>
    rw [taken] at listed
    exact nomatch listed
  | ok source =>
    rw [taken] at listed
    obtain rfl := Except.ok.inj listed
    obtain ⟨error, refused⟩ := refuses text source taken ⟨table, repeated⟩
    rw [refused] at accepted
    exact nomatch accepted

/-- Texts of neither format are refused for a repeated name. -/
theorem repeated_names_not_refused :
    (¬∀ text source, Format.yaml.source text = .ok source →
      (∃ table, ¬(Entries.keys (source.entriesAt table)).Nodup) →
        ∃ error, Format.yaml.parse text = .error error) ∧
    ¬∀ text source, Format.json.source text = .ok source →
      (∃ table, ¬(Entries.keys (source.entriesAt table)).Nodup) →
        ∃ error, Format.json.parse text = .error error := by
  constructor
  · exact not_all_refused .actions ["1", "1"] repeatedAction_accepted (by decide +kernel)
      (by decide)
  · have accepted : (Format.json.parse repeatedModel).isOk = true := by decide +kernel
    exact not_all_refused .models ["m", "m"] accepted (by decide +kernel) (by decide)

end Format

end NetworkAutomation
