/-
This file proves that documents and specifications which are read from text declare no name twice.
-/

import NetworkAutomation.Proofs.Success
import NetworkAutomation.Proofs.WellFormedDocuments
import NetworkAutomation.Specification.Reader

namespace NetworkAutomation

/-! ## Documents that are read from text -/

namespace Reader

/-- With this fuel, whatever is read has distinct keys at every depth. -/
structure ReadsWellFormed (fuel : Nat) : Prop where
  document {depth : Nat} {characters rest : List Char} {document : Document}
    (read : readDocument? fuel depth characters = some (document, rest)) : document.WellFormed
  items {depth : Nat} {characters rest : List Char} {documents : List Document}
    (read : readItems? fuel depth characters = some (documents, rest)) :
    ∀ document ∈ documents, document.WellFormed
  entries {depth : Nat} {mapping entries : Mapping} {characters rest : List Char}
    (formed : (Document.mapping mapping).WellFormed)
    (read : readEntries? fuel depth mapping characters = some (entries, rest)) :
    (Document.mapping entries).WellFormed

theorem readDocument?_wellFormed {fuel depth : Nat} {characters rest : List Char}
    {document : Document} (inner : ReadsWellFormed fuel)
    (read : readDocument? (fuel + 1) depth characters = some (document, rest)) :
    document.WellFormed := by
  rw [readDocument?] at read
  split at read
  · obtain ⟨_, _, same⟩ := Option.map_eq_some_iff.mp read
    obtain ⟨rfl, rfl⟩ := Prod.mk.inj same
    exact .null
  · obtain ⟨_, _, same⟩ := Option.map_eq_some_iff.mp read
    obtain ⟨rfl, rfl⟩ := Prod.mk.inj same
    exact .boolean true
  · obtain ⟨_, _, same⟩ := Option.map_eq_some_iff.mp read
    obtain ⟨rfl, rfl⟩ := Prod.mk.inj same
    exact .boolean false
  · obtain ⟨_, _, same⟩ := Option.map_eq_some_iff.mp read
    obtain ⟨rfl, rfl⟩ := Prod.mk.inj same
    exact .text _
  · cases depth with
    | zero => exact nomatch read
    | succ depth =>
        dsimp only at read
        split at read
        · obtain ⟨rfl, rfl⟩ := Prod.mk.inj (Option.some.inj read)
          exact .list fun _ member => absurd member List.not_mem_nil
        · obtain ⟨_, items, same⟩ := Option.map_eq_some_iff.mp read
          obtain ⟨rfl, rfl⟩ := Prod.mk.inj same
          exact .list (inner.items items)
  · cases depth with
    | zero => exact nomatch read
    | succ depth =>
        dsimp only at read
        split at read
        · obtain ⟨rfl, rfl⟩ := Prod.mk.inj (Option.some.inj read)
          exact .nil
        · obtain ⟨_, entries, same⟩ := Option.map_eq_some_iff.mp read
          obtain ⟨rfl, rfl⟩ := Prod.mk.inj same
          exact inner.entries .nil entries
  · obtain ⟨_, _, same⟩ := Option.map_eq_some_iff.mp read
    obtain ⟨rfl, rfl⟩ := Prod.mk.inj same
    exact .number _

theorem readItems?_wellFormed {fuel depth : Nat} {characters rest : List Char}
    {documents : List Document} (inner : ReadsWellFormed fuel)
    (read : readItems? (fuel + 1) depth characters = some (documents, rest)) :
    ∀ document ∈ documents, document.WellFormed := by
  rw [readItems?] at read
  obtain ⟨⟨first, behind⟩, readFirst, read⟩ := Option.bind_eq_some_iff.mp read
  dsimp only at read
  split at read
  · obtain ⟨rfl, rfl⟩ := Prod.mk.inj (Option.some.inj read)
    exact List.forall_mem_singleton.mpr (inner.document readFirst)
  · obtain ⟨⟨others, _⟩, readOthers, same⟩ := Option.bind_eq_some_iff.mp read
    obtain ⟨rfl, rfl⟩ := Prod.mk.inj (Option.some.inj same)
    exact List.forall_mem_cons.mpr ⟨inner.document readFirst, inner.items readOthers⟩
  · exact nomatch read

theorem readEntries?_wellFormed {fuel depth : Nat} {mapping entries : Mapping}
    {characters rest : List Char} (inner : ReadsWellFormed fuel)
    (formed : (Document.mapping mapping).WellFormed)
    (read : readEntries? (fuel + 1) depth mapping characters = some (entries, rest)) :
    (Document.mapping entries).WellFormed := by
  rw [readEntries?] at read
  obtain ⟨⟨key, behindKey⟩, _, read⟩ := Option.bind_eq_some_iff.mp read
  dsimp only at read
  split at read
  · obtain ⟨⟨document, behind⟩, readDocument, read⟩ := Option.bind_eq_some_iff.mp read
    have extended := formed.insert key (inner.document readDocument)
    dsimp only at read
    split at read
    · obtain ⟨rfl, rfl⟩ := Prod.mk.inj (Option.some.inj read)
      exact extended
    · exact inner.entries extended read
    · exact nomatch read
  · exact nomatch read

theorem readsWellFormed (fuel : Nat) : ReadsWellFormed fuel := by
  induction fuel with
  | zero => exact ⟨nofun, nofun, fun _ read => nomatch read⟩
  | succ fuel inner =>
      exact ⟨readDocument?_wellFormed inner, readItems?_wellFormed inner,
        readEntries?_wellFormed inner⟩

end Reader

/-- A key that is repeated in a text takes its last document, so keys stay distinct. -/
theorem Document.read?_wellFormed {text : String} {document : Document}
    (read : Document.read? text = some document) : document.WellFormed := by
  rw [Document.read?, Reader.document?] at read
  obtain ⟨⟨found, rest⟩, taken, complete⟩ := Option.bind_eq_some_iff.mp read
  obtain ⟨_, same⟩ := Option.ite_none_right_eq_some.mp complete
  obtain rfl := Option.some.inj same
  exact (Reader.readsWellFormed _).document taken

namespace Yaml

theorem Scalar.toDocument_wellFormed {value : Scalar} {document : Document}
    (converted : value.toDocument = .ok document) : document.WellFormed := by
  unfold Scalar.toDocument at converted
  split at converted
  next => exact Except.ok.inj converted ▸ .null
  next value => exact Except.ok.inj converted ▸ .boolean value
  next value => exact Except.ok.inj converted ▸ .number (.integer value)
  next value => exact Except.ok.inj converted ▸ .number (.float value)
  next => exact nomatch converted
  next value => exact Except.ok.inj converted ▸ .text (String.ofList value)

mutual

/-- Keys of every sort become texts, and equal texts share one entry. -/
theorem Content.toDocument_wellFormed : (content : Content) → {document : Document} →
    content.toDocument = .ok document → document.WellFormed
  | .scalar value, document, converted => by
      rw [Content.toDocument] at converted
      exact Scalar.toDocument_wellFormed converted
  | .list items, document, converted => by
      rw [Content.toDocument] at converted
      obtain ⟨documents, each, same⟩ := Success.bind_eq_ok.mp converted
      obtain rfl := Except.ok.inj same
      exact .list (Content.documents_wellFormed items each)
  | .mapping entries, document, converted => by
      rw [Content.toDocument] at converted
      obtain ⟨mapping, each, same⟩ := Success.bind_eq_ok.mp converted
      obtain rfl := Except.ok.inj same
      exact Content.entryDocuments_wellFormed entries .nil each
  | .tagged _ content, document, converted => by
      rw [Content.toDocument] at converted
      exact Content.toDocument_wellFormed content converted

theorem Content.documents_wellFormed : (items : List Content) → {documents : List Document} →
    Content.documents items = .ok documents → ∀ document ∈ documents, document.WellFormed
  | [], documents, converted => by
      rw [Content.documents] at converted
      obtain rfl := Except.ok.inj converted
      exact fun _ member => absurd member List.not_mem_nil
  | item :: rest, documents, converted => by
      rw [Content.documents] at converted
      obtain ⟨first, here, converted⟩ := Success.bind_eq_ok.mp converted
      obtain ⟨others, later, same⟩ := Success.bind_eq_ok.mp converted
      obtain rfl := Except.ok.inj same
      exact List.forall_mem_cons.mpr
        ⟨Content.toDocument_wellFormed item here, Content.documents_wellFormed rest later⟩

theorem Content.entryDocuments_wellFormed : (entries : List (Content × Content)) →
    {collected result : Mapping} → (Document.mapping collected).WellFormed →
    Content.entryDocuments entries collected = .ok result → (Document.mapping result).WellFormed
  | [], collected, result, formed, converted => by
      rw [Content.entryDocuments] at converted
      exact Except.ok.inj converted ▸ formed
  | (key, value) :: rest, collected, result, formed, converted => by
      rw [Content.entryDocuments] at converted
      obtain ⟨name, _, converted⟩ := Success.bind_eq_ok.mp converted
      obtain ⟨document, here, converted⟩ := Success.bind_eq_ok.mp converted
      exact Content.entryDocuments_wellFormed rest
        (formed.insert name (Content.toDocument_wellFormed value here)) converted

end

end Yaml

/-! ## Fields and tables of a well-formed document -/

namespace Shape

theorem given?_eq_some {mapping : Mapping} {spellings : Spellings} {document : Document}
    (given : given? mapping spellings = some (some document)) :
    ∃ name, (name, document) ∈ mapping := by
  unfold given? at given
  split at given
  next => exact nomatch given
  next entry only =>
    obtain rfl := Option.some.inj (Option.some.inj given)
    have kept : entry ∈ mapping.filter fun entry => spellings.contains entry.1 :=
      only ▸ List.mem_singleton_self entry
    exact ⟨entry.1, List.mem_of_mem_filter kept⟩
  next => exact nomatch given

theorem mem_of_placed? {fields : List Spellings} {documents : List Document}
    {found : List (Option Document)} (placed : placed? fields documents = some found)
    {document : Document} (member : some document ∈ found) : document ∈ documents := by
  induction fields generalizing documents found with
  | nil =>
      cases documents with
      | nil =>
          obtain rfl := Option.some.inj placed
          exact absurd member List.not_mem_nil
      | cons _ _ => exact nomatch placed
  | cons _ fields ih =>
      cases documents with
      | nil =>
          obtain ⟨others, later, rfl⟩ := Option.map_eq_some_iff.mp placed
          rcases List.mem_cons.mp member with here | inOthers
          · exact nomatch here
          · exact ih later inOthers
      | cons first documents =>
          obtain ⟨others, later, rfl⟩ := Option.map_eq_some_iff.mp placed
          rcases List.mem_cons.mp member with here | inOthers
          · exact Option.some.inj here ▸ List.mem_cons_self
          · exact List.mem_cons_of_mem _ (ih later inOthers)

/-- Each field of a well-formed document is a well-formed document. -/
theorem fields?_wellFormed {strict : Bool} {fields : List Spellings} {document : Document}
    {found : List (Option Document)} (formed : document.WellFormed)
    (read : fields? strict fields document = some found) :
    ∀ field ∈ found, ∀ inner, field = some inner → inner.WellFormed := by
  rintro field member inner rfl
  cases document with
  | mapping entries =>
      obtain ⟨_, read⟩ := Option.ite_none_left_eq_some.mp read
      obtain ⟨spellings, _, given⟩ :=
        Success.exists_source (Success.mapM_eq_some_iff.mp read) member
      obtain ⟨name, inEntries⟩ := given?_eq_some given
      exact formed.entries _ inEntries
  | list documents => exact formed.items _ (mem_of_placed? read member)
  | _ => exact nomatch read

end Shape

/-! ## Specifications that are read from documents -/

namespace Specification

/-- No table of the specification holds two entries under one name. -/
structure WellFormed (specification : Specification) : Prop where
  validators : (Entries.keys specification.validators).Nodup
  models : (Entries.keys specification.models).Nodup
  fields : ∀ entry ∈ specification.models, (Entries.keys entry.2).Nodup
  actions : (Entries.keys specification.actions).Nodup
  parameters : ∀ entry ∈ specification.actions, (Entries.keys entry.2.parameters).Nodup
  staticVariables : ∀ entry ∈ specification.actions, ∀ mapping,
    entry.2.staticVariables = some mapping → (Document.mapping mapping).WellFormed

/-- A parsed specification has been read from a document, which has distinct keys. -/
def Parsed (specification : Specification) : Prop :=
  ∃ document : Document, document.WellFormed ∧ ofDocument? document = some specification

theorem ofShape_eq_ok_iff {document : Document} {specification : Specification} :
    ofShape document = .ok specification ↔ ofDocument? document = some specification := by
  unfold ofShape
  cases ofDocument? document with
  | none => simp
  | some read => simp

theorem parsed_of_ofJson {text : String} {specification : Specification}
    (read : ofJson text = .ok specification) : specification.Parsed := by
  unfold ofJson at read
  split at read
  next document taken =>
    exact ⟨document, Document.read?_wellFormed taken, ofShape_eq_ok_iff.mp read⟩
  next => exact nomatch read

theorem parsed_of_ofYaml {text : String} {specification : Specification}
    (read : ofYaml text = .ok specification) : specification.Parsed := by
  unfold ofYaml at read
  split at read
  next => exact nomatch read
  next content _ =>
    split at read
    next document converted =>
      exact ⟨document, Yaml.Content.toDocument_wellFormed content converted,
        ofShape_eq_ok_iff.mp read⟩
    next => exact nomatch read

/-- A table keeps the names of its mapping, and its bodies are read from documents. -/
theorem table?_wellFormed {α : Type} {body : Document → Option α} {document : Document}
    {table : List (String × α)} (formed : document.WellFormed)
    (read : table? body document = some table) :
    (Entries.keys table).Nodup ∧ ∀ entry ∈ table, ∃ inner : Document,
      inner.WellFormed ∧ body inner = some entry.2 := by
  unfold table? at read
  split at read
  next =>
    obtain rfl := Option.some.inj read
    exact ⟨List.nodup_nil, fun _ member => absurd member List.not_mem_nil⟩
  next entries =>
    have taken : List.Forall₂ (fun entry result : String × _ =>
        result.1 = entry.1 ∧ body entry.2 = some result.2) entries table := by
      refine (Success.mapM_eq_some_iff.mp read).imp fun entry result made => ?_
      obtain ⟨value, given, rfl⟩ := Option.map_eq_some_iff.mp made
      exact ⟨rfl, given⟩
    have sameKeys : Entries.keys table = Entries.keys entries :=
      Success.map_eq_of_related taken fun _ _ both => both.1
    refine ⟨sameKeys ▸ formed.keys, fun result member => ?_⟩
    obtain ⟨entry, inEntries, _, given⟩ := Success.exists_source taken member
    exact ⟨entry.2, formed.entries entry inEntries, given⟩
  next => exact nomatch read

/-- A table that is left out is empty. -/
theorem orDefault_table?_wellFormed {α : Type} {body : Document → Option α}
    {field : Option Document} {table : List (String × α)}
    (formed : ∀ document, field = some document → document.WellFormed)
    (read : Shape.orDefault (table? body) [] field = some table) :
    (Entries.keys table).Nodup ∧ ∀ entry ∈ table, ∃ inner : Document,
      inner.WellFormed ∧ body inner = some entry.2 := by
  cases field with
  | none =>
      obtain rfl := Option.some.inj read
      exact ⟨List.nodup_nil, fun _ member => absurd member List.not_mem_nil⟩
  | some document => exact table?_wellFormed (formed document rfl) read

theorem action?_wellFormed {document : Document} {action : ActionSpecification}
    (formed : document.WellFormed) (read : action? document = some action) :
    (Entries.keys action.parameters).Nodup ∧ ∀ mapping,
      action.staticVariables = some mapping → (Document.mapping mapping).WellFormed := by
  obtain ⟨found, fields, read⟩ := Option.bind_eq_some_iff.mp read
  have each := Shape.fields?_wellFormed formed fields
  split at read
  next parameters staticVariables tasksFrom =>
    simp only [List.forall_mem_cons] at each
    obtain ⟨ofParameters, ofVariables, _⟩ := each
    obtain ⟨table, readParameters, read⟩ := Option.bind_eq_some_iff.mp read
    obtain ⟨static?, readVariables, read⟩ := Option.bind_eq_some_iff.mp read
    obtain ⟨_, _, same⟩ := Option.bind_eq_some_iff.mp read
    obtain rfl := Option.some.inj same
    refine ⟨(orDefault_table?_wellFormed ofParameters readParameters).1, ?_⟩
    rintro mapping rfl
    cases staticVariables with
    | none => exact nomatch readVariables
    | some given =>
        cases given with
        | mapping entries =>
            obtain rfl := Option.some.inj (Option.some.inj readVariables)
            exact ofVariables _ rfl
        | _ => exact nomatch readVariables
  next => exact nomatch read

theorem wellFormed_empty : WellFormed {} where
  validators := List.nodup_nil
  models := List.nodup_nil
  fields _ member := absurd member List.not_mem_nil
  actions := List.nodup_nil
  parameters _ member := absurd member List.not_mem_nil
  staticVariables _ member := absurd member List.not_mem_nil

theorem Parsed.wellFormed {specification : Specification} (parsed : specification.Parsed) :
    specification.WellFormed := by
  obtain ⟨document, formed, read⟩ := parsed
  unfold ofDocument? at read
  split at read
  next =>
    obtain rfl := Option.some.inj read
    exact wellFormed_empty
  next =>
    obtain ⟨found, fields, read⟩ := Option.bind_eq_some_iff.mp read
    have each := Shape.fields?_wellFormed formed fields
    split at read
    next validators models actions =>
      simp only [List.forall_mem_cons] at each
      obtain ⟨ofValidators, ofModels, ofActions, _⟩ := each
      obtain ⟨validatorTable, readValidators, read⟩ := Option.bind_eq_some_iff.mp read
      obtain ⟨modelTable, readModels, read⟩ := Option.bind_eq_some_iff.mp read
      obtain ⟨actionTable, readActions, same⟩ := Option.bind_eq_some_iff.mp read
      obtain rfl := Option.some.inj same
      have modelNames := orDefault_table?_wellFormed ofModels readModels
      have actionNames := orDefault_table?_wellFormed ofActions readActions
      exact {
        validators := (orDefault_table?_wellFormed ofValidators readValidators).1
        models := modelNames.1
        fields := fun entry member => by
          obtain ⟨inner, innerFormed, taken⟩ := modelNames.2 entry member
          exact (table?_wellFormed innerFormed taken).1
        actions := actionNames.1
        parameters := fun entry member => by
          obtain ⟨inner, innerFormed, taken⟩ := actionNames.2 entry member
          exact (action?_wellFormed innerFormed taken).1
        staticVariables := fun entry member => by
          obtain ⟨inner, innerFormed, taken⟩ := actionNames.2 entry member
          exact (action?_wellFormed innerFormed taken).2 }
    next => exact nomatch read

end Specification

end NetworkAutomation
