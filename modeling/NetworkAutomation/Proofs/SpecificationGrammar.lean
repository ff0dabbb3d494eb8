/-
This file proves that documents are read as specifications exactly where they follow a grammar.
-/

import NetworkAutomation.Proofs.ParsedSpecifications

namespace NetworkAutomation

namespace Grammar

open NetworkAutomation.Shape

/-! ## Shapes of documents -/

/-- Structures and policies are written in a documented form, and there are others. -/
inductive Forms where
  /-- A structure is a mapping, and a policy is a word. -/
  | documented
  /-- A structure may be the list of its fields, and a policy a mapping of its word to null. -/
  | all
  deriving DecidableEq

def OrNull (shape : Document → Prop) (document : Document) : Prop :=
  document = .null ∨ shape document

def IsText (document : Document) : Prop :=
  ∃ value, document = .text value

def IsBoolean (document : Document) : Prop :=
  ∃ value, document = .boolean value

def IsMapping (document : Document) : Prop :=
  ∃ entries, document = .mapping entries

def IsTexts (document : Document) : Prop :=
  ∃ items, document = .list items ∧ ∀ item ∈ items, IsText item

/-- Validators are named one by one or in a list. -/
def IsNames (document : Document) : Prop :=
  IsText document ∨ IsTexts document

def IsPolicy (forms : Forms) (document : Document) : Prop :=
  ∃ word ∈ ["always", "present", "never"],
    document = .text word ∨ forms = .all ∧ document = .mapping [(word, .null)]

/-- A table is a mapping of names to bodies, and null is an empty table. -/
def IsTable (shape : Document → Prop) (document : Document) : Prop :=
  document = .null ∨ ∃ entries, document = .mapping entries ∧ ∀ entry ∈ entries, shape entry.2

/-- A field of a structure has one or more spellings. -/
structure Field where
  spellings : Spellings
  shape : Document → Prop

/-- Every field may be left out, and a strict structure has no other fields. -/
inductive IsStructure (forms : Forms) (strict : Bool) (fields : List Field) : Document → Prop where
  | mapping {entries : Mapping}
      (known : strict = true → ∀ entry ∈ entries, ∃ field ∈ fields, entry.1 ∈ field.spellings)
      (once : ∀ field ∈ fields,
        (entries.filter fun entry => field.spellings.contains entry.1).length ≤ 1)
      (shaped : ∀ field ∈ fields, ∀ entry ∈ entries, entry.1 ∈ field.spellings →
        field.shape entry.2) :
      IsStructure forms strict fields (.mapping entries)
  | list {documents : List Document} (admitted : forms = .all)
      (fits : documents.length ≤ fields.length)
      (shaped : ∀ pair ∈ fields.zip documents, pair.1.shape pair.2) :
      IsStructure forms strict fields (.list documents)

/-! ## The grammar of specifications -/

/-- The parameters of a validator stand beside its kind and are not looked into. -/
def IsValidator (document : Document) : Prop :=
  ∃ entries kind, document = .mapping entries ∧ Mapping.lookup? entries "type" = some (.text kind)

def fieldGrammar (forms : Forms) : List Field := [
  ⟨["type"], OrNull IsText⟩, ⟨["default"], fun _ => True⟩, ⟨["required"], IsBoolean⟩,
  ⟨["validators"], IsNames⟩, ⟨["serialize_when"], IsPolicy forms⟩, ⟨["aliases"], IsTexts⟩,
  ⟨["model"], OrNull IsText⟩, ⟨["key"], OrNull IsText⟩]

def parameterGrammar : List Field := [
  ⟨["type"], OrNull IsText⟩, ⟨["required"], IsBoolean⟩, ⟨["default"], fun _ => True⟩,
  ⟨["validators"], IsNames⟩]

def IsField (forms : Forms) : Document → Prop :=
  IsStructure forms true (fieldGrammar forms)

def IsParameter (forms : Forms) : Document → Prop :=
  IsStructure forms true parameterGrammar

def actionGrammar (forms : Forms) : List Field := [
  ⟨["args", "parameters"], IsTable (OrNull (IsParameter forms))⟩,
  ⟨["vars", "static_vars"], OrNull IsMapping⟩, ⟨["tasks_from", "target"], OrNull IsText⟩]

def IsAction (forms : Forms) : Document → Prop :=
  IsStructure forms true (actionGrammar forms)

def specificationGrammar (forms : Forms) : List Field := [
  ⟨["validators"], IsTable IsValidator⟩,
  ⟨["models"], IsTable (IsTable (OrNull (IsField forms)))⟩, ⟨["actions"], IsTable (IsAction forms)⟩]

/-- Other keys of the whole specification are passed over. -/
def IsSpecification (forms : Forms) : Document → Prop :=
  OrNull (IsStructure forms false (specificationGrammar forms))

/-! ## Documented forms among all forms -/

/-- Documents of the first shape are of the second one as well. -/
def Within (shape other : Document → Prop) : Prop :=
  ∀ document, shape document → other document

section Inclusion

variable {shape other : Document → Prop}

theorem Within.orNull (within : Within shape other) : Within (OrNull shape) (OrNull other) :=
  fun document shaped => shaped.imp_right (within document)

theorem Within.table (within : Within shape other) : Within (IsTable shape) (IsTable other) := by
  rintro document (null | ⟨entries, same, each⟩)
  · exact .inl null
  · exact .inr ⟨entries, same, fun entry member => within _ (each entry member)⟩

theorem policy_within : Within (IsPolicy .documented) (IsPolicy .all) := by
  rintro document ⟨word, isWord, text | ⟨isAll, _⟩⟩
  · exact ⟨word, isWord, .inl text⟩
  · exact nomatch isAll

/-- A field admits whatever another field of the same spellings does. -/
def Field.Includes (larger smaller : Field) : Prop :=
  larger.spellings = smaller.spellings ∧ Within smaller.shape larger.shape

theorem Field.includes_self (field : Field) : field.Includes field :=
  ⟨rfl, fun _ shaped => shaped⟩

theorem structure_within {strict : Bool} {fields larger : List Field}
    (included : List.Forall₂ Field.Includes larger fields) :
    Within (IsStructure .documented strict fields) (IsStructure .all strict larger) := by
  intro document structured
  cases structured with
  | list admitted => exact nomatch admitted
  | mapping known once shaped =>
    apply IsStructure.mapping
    · intro isStrict entry member
      obtain ⟨field, inFields, spelled⟩ := known isStrict entry member
      obtain ⟨wider, inLarger, includes⟩ := Success.exists_source included inFields
      exact ⟨wider, inLarger, includes.1 ▸ spelled⟩
    · intro wider inLarger
      obtain ⟨field, inFields, includes⟩ := Success.exists_source included.flip inLarger
      rw [includes.1]
      exact once field inFields
    · intro wider inLarger entry member spelled
      obtain ⟨field, inFields, includes⟩ := Success.exists_source included.flip inLarger
      exact includes.2 _ (shaped field inFields entry member (includes.1 ▸ spelled))

theorem field_within : Within (IsField .documented) (IsField .all) := by
  apply structure_within
  simp only [fieldGrammar, List.forall₂_cons, Field.includes_self, true_and]
  exact ⟨⟨rfl, policy_within⟩, .nil⟩

theorem parameter_within : Within (IsParameter .documented) (IsParameter .all) :=
  structure_within (List.forall₂_same.mpr fun field _ => field.includes_self)

theorem action_within : Within (IsAction .documented) (IsAction .all) := by
  apply structure_within
  simp only [actionGrammar, List.forall₂_cons, Field.includes_self, true_and]
  exact ⟨⟨rfl, parameter_within.orNull.table⟩, .nil⟩

/-- Whatever is written in the documented forms follows the grammar in all its forms. -/
theorem specification_within : Within (IsSpecification .documented) (IsSpecification .all) := by
  apply Within.orNull
  apply structure_within
  simp only [specificationGrammar, List.forall₂_cons, Field.includes_self, true_and]
  exact ⟨⟨rfl, field_within.orNull.table.table⟩, ⟨rfl, action_within.table⟩, .nil⟩

end Inclusion

/-! ## Readers -/

/-- The reader succeeds exactly on the documents of the shape. -/
def Reads {α : Type} (read : Document → Option α) (shape : Document → Prop) : Prop :=
  ∀ document, (∃ value, read document = some value) ↔ shape document

section Readers

variable {α : Type} {read : Document → Option α} {shape : Document → Prop}

theorem Reads.optional (reads : Reads read shape) (field : Option Document) :
    (∃ value, Shape.optional read field = some value) ↔
      ∀ document, field = some document → OrNull shape document := by
  cases field with
  | none => simp [Shape.optional]
  | some document =>
      cases document with
      | null => simp [Shape.optional, OrNull]
      | _ => simp [Shape.optional, OrNull, ← reads _, Option.map_eq_some_iff]

theorem Reads.orDefault (reads : Reads read shape) (default : α) (field : Option Document) :
    (∃ value, Shape.orDefault read default field = some value) ↔
      ∀ document, field = some document → shape document := by
  cases field with
  | none => simp [Shape.orDefault]
  | some document => simp [Shape.orDefault, ← reads document]

theorem reads_text : Reads text? IsText := by
  intro document
  cases document <;> simp [text?, IsText]

theorem reads_boolean : Reads boolean? IsBoolean := by
  intro document
  cases document <;> simp [boolean?, IsBoolean]

theorem reads_mapping : Reads mapping? IsMapping := by
  intro document
  cases document <;> simp [mapping?, IsMapping]

theorem reads_anything : Reads some fun _ => True :=
  fun document => ⟨fun _ => trivial, fun _ => ⟨document, rfl⟩⟩

/-- A list is worked off where each of its members can be read. -/
theorem exists_mapM_iff {β : Type} {step : β → Option α} {inputs : List β} :
    (∃ outputs, inputs.mapM step = some outputs) ↔
      ∀ input ∈ inputs, ∃ output, step input = some output := by
  simp only [Success.mapM_eq_some_iff]
  constructor
  · rintro ⟨outputs, related⟩ input member
    obtain ⟨output, _, taken⟩ := Success.exists_source related.flip member
    exact ⟨output, taken⟩
  · exact Success.exists_related_list

theorem exists_bind_iff {β : Type} {first : Option α} {next : α → Option β} :
    (∃ result, (first >>= next) = some result) ↔
      ∃ value, first = some value ∧ ∃ result, next value = some result := by
  simp only [Option.bind_eq_bind, Option.bind_eq_some_iff]
  constructor
  · rintro ⟨result, value, taken, read⟩
    exact ⟨value, taken, result, read⟩
  · rintro ⟨value, taken, result, read⟩
    exact ⟨result, value, taken, read⟩

theorem reads_texts : Reads texts? IsTexts := by
  intro document
  rw [texts?, exists_bind_iff]
  cases document with
  | list items => simp [list?, IsTexts, exists_mapM_iff, reads_text _]
  | _ => simp [list?, IsTexts]

theorem reads_names : Reads Specification.names? IsNames := by
  intro document
  cases document with
  | text name => simp [Specification.names?, IsNames, IsText]
  | _ => simp [Specification.names?, IsNames, IsText, reads_texts _]

theorem exists_policyOfName?_iff {word : String} :
    (∃ policy, Specification.policyOfName? word = some policy) ↔
      word ∈ ["always", "present", "never"] := by
  unfold Specification.policyOfName?
  split <;> simp_all

theorem reads_policy : Reads Specification.policy? (IsPolicy .all) := by
  intro document
  unfold Specification.policy?
  split
  next word =>
    rw [exists_policyOfName?_iff]
    simp [IsPolicy]
  next word =>
    rw [exists_policyOfName?_iff]
    simp [IsPolicy]
  next noText noWord =>
    constructor
    · exact fun ⟨_, read⟩ => nomatch read
    · rintro ⟨word, _, rfl | ⟨_, rfl⟩⟩
      · exact absurd rfl (noText word)
      · exact absurd rfl (noWord word)

theorem Reads.table (reads : Reads read shape) :
    Reads (Specification.table? read) (IsTable shape) := by
  intro document
  cases document with
  | mapping entries =>
      simp only [Specification.table?, exists_mapM_iff, IsTable]
      simp [Option.map_eq_some_iff, ← reads _]
  | _ => simp [Specification.table?, IsTable]

theorem Reads.body (reads : Reads read shape) :
    Reads (Specification.body? read) (OrNull shape) := by
  intro document
  rw [Specification.body?, reads.optional]
  simp

theorem reads_validator : Reads Specification.validator? IsValidator := by
  intro document
  cases document with
  | mapping entries =>
      simp only [Specification.validator?]
      split
      next kind found => simp [IsValidator, found]
      next other =>
        constructor
        · exact fun ⟨_, read⟩ => nomatch read
        · rintro ⟨_, kind, same, found⟩
          obtain rfl := Document.mapping.inj same
          exact absurd found (other kind)
  | _ => simp [Specification.validator?, IsValidator]

end Readers

/-! ## Fields of a structure -/

def Field.Admits (field : Field) (given : Option Document) : Prop :=
  ∀ document, given = some document → field.shape document

/-- A field is found where it is given at most once, and it is admitted in its shape. -/
theorem exists_given?_iff {field : Field} {entries : Mapping} :
    (∃ given, given? entries field.spellings = some given ∧ field.Admits given) ↔
      (entries.filter fun entry => field.spellings.contains entry.1).length ≤ 1 ∧
        ∀ entry ∈ entries, entry.1 ∈ field.spellings → field.shape entry.2 := by
  have members : (∀ entry ∈ entries, entry.1 ∈ field.spellings → field.shape entry.2) ↔
      ∀ entry ∈ entries.filter fun entry => field.spellings.contains entry.1,
        field.shape entry.2 := by
    simp only [List.mem_filter, List.contains_iff_mem, and_imp]
  rw [members, given?]
  generalize (entries.filter fun entry => field.spellings.contains entry.1) = own
  match own with
  | [] => simp [Field.Admits]
  | [entry] => simp [Field.Admits]
  | first :: second :: rest => simp

/-- The fields of a list are found where the list is no longer than the structure. -/
theorem exists_placed?_iff {fields : List Field} {documents : List Document} :
    (∃ found, placed? (fields.map Field.spellings) documents = some found ∧
        List.Forall₂ Field.Admits fields found) ↔
      documents.length ≤ fields.length ∧ ∀ pair ∈ fields.zip documents, pair.1.shape pair.2 := by
  induction fields generalizing documents with
  | nil => cases documents <;> simp [placed?]
  | cons field fields ih =>
      cases documents with
      | nil =>
          have rest := @ih []
          simp only [List.length_nil, Nat.zero_le, List.zip_nil_right, List.not_mem_nil,
            IsEmpty.forall_iff, implies_true, and_true, iff_true] at rest
          obtain ⟨found, placed, admitted⟩ := rest
          simp only [List.length_nil, Nat.zero_le, List.zip_nil_right, List.not_mem_nil,
            IsEmpty.forall_iff, implies_true, and_true, iff_true]
          refine ⟨none :: found, ?_, .cons (fun _ same => nomatch same) admitted⟩
          rw [List.map_cons, placed?, placed]
          rfl
      | cons document documents =>
          rw [List.length_cons, List.length_cons, Nat.add_le_add_iff_right, List.zip_cons_cons,
            List.forall_mem_cons, ← and_left_comm, ← ih]
          constructor
          · rintro ⟨found, placed, admitted⟩
            obtain ⟨others, later, rfl⟩ := Option.map_eq_some_iff.mp placed
            cases admitted with
            | cons here rest => exact ⟨here document rfl, others, later, rest⟩
          · rintro ⟨here, others, later, rest⟩
            refine ⟨some document :: others, ?_, .cons ?_ rest⟩
            · rw [List.map_cons, placed?, later]
              rfl
            · exact fun _ same => Option.some.inj same ▸ here

theorem isKnown_iff {fields : List Field} {key : String} :
    isKnown (fields.map Field.spellings) key = true ↔ ∃ field ∈ fields, key ∈ field.spellings := by
  simp [isKnown]

theorem exists_givens_iff {fields : List Field} {entries : Mapping} :
    (∃ found, (fields.map Field.spellings).mapM (given? entries) = some found ∧
        List.Forall₂ Field.Admits fields found) ↔
      ∀ field ∈ fields, ∃ given, given? entries field.spellings = some given ∧
        field.Admits given := by
  simp only [List.mapM_map, Success.mapM_eq_some_iff, Function.comp_apply]
  constructor
  · rintro ⟨found, located, admitted⟩ field member
    have both := List.Forall₂.mp (fun _ _ => And.intro) located admitted
    obtain ⟨given, _, found, admits⟩ := Success.exists_source both.flip member
    exact ⟨given, found, admits⟩
  · intro each
    obtain ⟨found, both⟩ := Success.exists_related_list each
    exact ⟨found, both.imp fun _ _ => And.left, both.imp fun _ _ => And.right⟩

/-- The fields of a structure are found and admitted exactly where it follows its grammar. -/
theorem exists_fields?_iff {strict : Bool} {fields : List Field} {document : Document} :
    (∃ found, fields? strict (fields.map Field.spellings) document = some found ∧
        List.Forall₂ Field.Admits fields found) ↔
      IsStructure .all strict fields document := by
  cases document with
  | mapping entries =>
    have known : ¬(strict && !entries.all fun entry =>
          isKnown (fields.map Field.spellings) entry.1) = true ↔
        (strict = true → ∀ entry ∈ entries, ∃ field ∈ fields, entry.1 ∈ field.spellings) := by
      simp [isKnown_iff]
    simp only [fields?, Option.ite_none_left_eq_some, known, and_assoc, exists_and_left,
      exists_givens_iff, exists_given?_iff]
    constructor
    · rintro ⟨known, each⟩
      exact .mapping known (fun field member => (each field member).1)
        fun field member => (each field member).2
    · intro structured
      cases structured with
      | mapping known once shaped =>
        exact ⟨known, fun field member => ⟨once field member, shaped field member⟩⟩
  | list documents =>
    rw [fields?, exists_placed?_iff]
    constructor
    · exact fun ⟨fits, shaped⟩ => .list rfl fits shaped
    · intro structured
      cases structured with
      | list _ fits shaped => exact ⟨fits, shaped⟩
  | _ =>
    constructor
    · exact fun ⟨_, read, _⟩ => nomatch read
    · exact fun structured => nomatch structured

/-- A structure is read where its fields are located and each of them is then read. -/
theorem exists_structure_iff {α : Type} {strict : Bool} (fields : List Field)
    {assemble : List (Option Document) → Option α} {document : Document}
    (assembles : ∀ found, (∃ value, assemble found = some value) ↔
      List.Forall₂ Field.Admits fields found) :
    (∃ value, (fields? strict (fields.map Field.spellings) document >>= assemble) = some value) ↔
      IsStructure .all strict fields document := by
  simp only [exists_bind_iff, assembles, exists_fields?_iff]

theorem reads_field : Reads Specification.field? (IsField .all) := by
  intro document
  refine exists_structure_iff (fieldGrammar .all) fun found => ?_
  simp only [fieldGrammar]
  split
  next =>
    simp only [exists_bind_iff, List.forall₂_cons, List.forall₂_nil_left_iff]
    simp only [Field.Admits, Option.pure_def, Option.some.injEq, exists_eq', and_true,
      exists_and_right, reads_text.optional, reads_anything.optional, reads_boolean.orDefault,
      reads_names.orDefault, reads_policy.orDefault, reads_texts.orDefault]
    simp [OrNull]
  next other =>
    refine Iff.intro (fun ⟨_, read⟩ => nomatch read) fun admitted => ?_
    simp only [List.forall₂_cons_left_iff, List.forall₂_nil_left_iff] at admitted
    grind

theorem reads_parameter : Reads Specification.parameter? (IsParameter .all) := by
  intro document
  refine exists_structure_iff parameterGrammar fun found => ?_
  simp only [parameterGrammar]
  split
  next =>
    simp only [exists_bind_iff, List.forall₂_cons, List.forall₂_nil_left_iff]
    simp only [Field.Admits, Option.pure_def, Option.some.injEq, exists_eq', and_true,
      exists_and_right, reads_text.optional, reads_anything.optional, reads_boolean.orDefault,
      reads_names.orDefault]
    simp [OrNull]
  next other =>
    refine Iff.intro (fun ⟨_, read⟩ => nomatch read) fun admitted => ?_
    simp only [List.forall₂_cons_left_iff, List.forall₂_nil_left_iff] at admitted
    grind

theorem reads_action : Reads Specification.action? (IsAction .all) := by
  intro document
  refine exists_structure_iff (actionGrammar .all) fun found => ?_
  simp only [actionGrammar]
  split
  next =>
    simp only [exists_bind_iff, List.forall₂_cons, List.forall₂_nil_left_iff]
    simp only [Field.Admits, Option.pure_def, Option.some.injEq, exists_eq', and_true,
      exists_and_right, reads_text.optional, reads_parameter.body.table.orDefault,
      reads_mapping.optional]
  next other =>
    refine Iff.intro (fun ⟨_, read⟩ => nomatch read) fun admitted => ?_
    simp only [List.forall₂_cons_left_iff, List.forall₂_nil_left_iff] at admitted
    grind

/-- Documents are read as specifications exactly where they follow the grammar in all its forms. -/
theorem reads_specification : Reads Specification.ofDocument? (IsSpecification .all) := by
  intro document
  cases document with
  | null => simp [Specification.ofDocument?, IsSpecification, OrNull]
  | _ =>
    simp only [Specification.ofDocument?, IsSpecification, OrNull, reduceCtorEq, false_or]
    refine exists_structure_iff (specificationGrammar .all) fun found => ?_
    simp only [specificationGrammar]
    split
    next =>
      simp only [exists_bind_iff, List.forall₂_cons, List.forall₂_nil_left_iff]
      simp only [Field.Admits, Option.pure_def, Option.some.injEq, exists_eq', and_true,
        exists_and_right, reads_validator.table.orDefault, reads_field.body.table.table.orDefault,
        reads_action.table.orDefault]
    next other =>
      refine Iff.intro (fun ⟨_, read⟩ => nomatch read) fun admitted => ?_
      simp only [List.forall₂_cons_left_iff, List.forall₂_nil_left_iff] at admitted
      grind

end Grammar

namespace Specification

/-- Every document is accepted or refused by its shape alone. -/
theorem exists_ofShape_eq_ok_iff (document : Document) :
    (∃ specification, ofShape document = .ok specification) ↔
      Grammar.IsSpecification .all document := by
  simp only [ofShape_eq_ok_iff]
  exact Grammar.reads_specification document

/-- Nothing that is written in the documented forms is refused. -/
theorem exists_ofDocument?_of_documented {document : Document}
    (shaped : Grammar.IsSpecification .documented document) :
    ∃ specification, ofDocument? document = some specification :=
  (Grammar.reads_specification document).mpr (Grammar.specification_within document shaped)

/-- The empty list is a specification of which every field is left out. -/
theorem not_only_documented_forms : ¬∀ document : Document, document.WellFormed →
    ((∃ specification, ofShape document = .ok specification) ↔
      Grammar.IsSpecification .documented document) := by
  intro claimed
  have read : ofShape (.list []) = .ok {} := rfl
  have formed : (Document.list []).WellFormed :=
    .list fun _ member => absurd member List.not_mem_nil
  rcases (claimed (.list []) formed).mp ⟨{}, read⟩ with null | structured
  · exact nomatch null
  · cases structured with
    | list admitted => exact nomatch admitted

end Specification

end NetworkAutomation
