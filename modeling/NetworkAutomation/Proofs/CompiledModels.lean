/-
This file proves that the models of compiled bindings can join every workspace with other types.
-/

import NetworkAutomation.Proofs.Compilation
import NetworkAutomation.Proofs.Workspace

namespace NetworkAutomation

/-! ## Defaults of a parsed specification -/

/-- What an optional field holds was read from its document. -/
theorem Shape.optional_eq_some {α : Type} {read : Document → Option α} {field : Option Document}
    {value : α} (taken : optional read field = some (some value)) :
    ∃ document, field = some document ∧ read document = some value := by
  unfold optional at taken
  split at taken
  next => cases taken
  next => cases taken
  next document _ =>
    obtain ⟨own, given, same⟩ := Option.map_eq_some_iff.mp taken
    obtain rfl := Option.some.inj same
    exact ⟨document, rfl, given⟩

namespace Specification

theorem field?_default_wellFormed {document default : Document} {field : FieldSpecification}
    (formed : document.WellFormed) (read : field? document = some field)
    (written : field.default = some default) : default.WellFormed := by
  obtain ⟨found, fields, read⟩ := Option.bind_eq_some_iff.mp read
  have each := Shape.fields?_wellFormed formed fields
  split at read
  next type own required validators policy aliases model key =>
    simp only [List.forall_mem_cons] at each
    obtain ⟨_, ofDefault, _⟩ := each
    obtain ⟨_, _, read⟩ := Option.bind_eq_some_iff.mp read
    obtain ⟨taken, readDefault, read⟩ := Option.bind_eq_some_iff.mp read
    obtain ⟨_, _, read⟩ := Option.bind_eq_some_iff.mp read
    obtain ⟨_, _, read⟩ := Option.bind_eq_some_iff.mp read
    obtain ⟨_, _, read⟩ := Option.bind_eq_some_iff.mp read
    obtain ⟨_, _, read⟩ := Option.bind_eq_some_iff.mp read
    obtain ⟨_, _, read⟩ := Option.bind_eq_some_iff.mp read
    obtain ⟨_, _, same⟩ := Option.bind_eq_some_iff.mp read
    obtain rfl := Option.some.inj same
    obtain rfl : taken = some default := written
    obtain ⟨inner, given, same⟩ := Shape.optional_eq_some readDefault
    obtain rfl := Option.some.inj same
    exact ofDefault inner given
  next => exact nomatch read

/-- Every default that is declared for a field is well-formed. -/
theorem Parsed.default_wellFormed {specification : Specification} (parsed : specification.Parsed)
    {model : String × List (String × Option FieldSpecification)}
    (isModel : model ∈ specification.models) {entry : String × Option FieldSpecification}
    (isField : entry ∈ model.2) {default : Document}
    (written : (FieldSpecification.ofBody entry.2).default = some default) :
    default.WellFormed := by
  obtain ⟨document, formed, read⟩ := parsed
  unfold ofDocument? at read
  split at read
  next =>
    obtain rfl := Option.some.inj read
    exact absurd isModel List.not_mem_nil
  next =>
    obtain ⟨found, fields, read⟩ := Option.bind_eq_some_iff.mp read
    have each := Shape.fields?_wellFormed formed fields
    split at read
    next validators models actions =>
      simp only [List.forall_mem_cons] at each
      obtain ⟨_, ofModels, _⟩ := each
      obtain ⟨_, _, read⟩ := Option.bind_eq_some_iff.mp read
      obtain ⟨modelTable, readModels, read⟩ := Option.bind_eq_some_iff.mp read
      obtain ⟨_, _, same⟩ := Option.bind_eq_some_iff.mp read
      obtain rfl := Option.some.inj same
      obtain ⟨inner, innerFormed, taken⟩ :=
        (orDefault_table?_wellFormed ofModels readModels).2 model isModel
      obtain ⟨body, bodyFormed, taken⟩ := (table?_wellFormed innerFormed taken).2 entry isField
      obtain ⟨name, given⟩ := entry
      cases given with
      | none => exact nomatch written
      | some declared =>
          obtain ⟨own, same, readField⟩ := Shape.optional_eq_some taken
          obtain rfl := Option.some.inj same
          exact field?_default_wellFormed bodyFormed readField written
    next => exact nomatch read

end Specification

/-! ## Models as types of a workspace -/

namespace Workspace

variable {space : Workspace} {firstIdentity : Nat} {specification : Specification}

/-- The models come in front of the types that were known before. -/
def withModels (space : Workspace) (models : List (String × EntityType)) : Workspace :=
  { space with types := (models.map Prod.snd).reverse ++ space.types }

theorem withModels_concat (models : List (String × EntityType)) (name : String)
    (type : EntityType) : space.withModels (models ++ [(name, type)]) =
      { space.withModels models with types := type :: (space.withModels models).types } := by
  simp [withModels]

theorem mem_withModels {models : List (String × EntityType)} {name : String} {type : EntityType}
    (member : (name, type) ∈ models) : type ∈ (space.withModels models).types :=
  List.mem_append_left _ (List.mem_reverse.mpr (List.mem_map.mpr ⟨_, member, rfl⟩))

theorem supplies_ofDocument {document : Document} (formed : document.WellFormed) :
    space.Supplies (Value.ofDocument document) := by
  have noTarget (target : Target) (member : target ∈ ([] : List Target)) :
      target ∈ space.targets := absurd member List.not_mem_nil
  cases document with
  | list items => exact formed
  | mapping entries => exact formed
  | number number =>
      simp only [Value.ofDocument, Value.ofNumber]
      split
      next => split <;> exact noTarget
      next => exact noTarget
  | _ => exact noTarget

/-- The identities in the workspace are lower than the next one that a model would take. -/
def RoomFor (space : Workspace) (identity : Nat) : Prop :=
  ∀ known ∈ space.types, known.identity < identity

/-- The fields of a model mention earlier models only, and their defaults are documents. -/
theorem supplies_modelField {tables : Tables} {model : String}
    {entry : String × Option FieldSpecification} {result : String × Declaration}
    (defaults : ∀ document, (FieldSpecification.ofBody entry.2).default = some document →
      document.WellFormed)
    (compiled : Compile.modelField model tables entry = .ok result) :
    (space.withModels tables.models).SuppliesDeclaration result.2 := by
  obtain ⟨type, found, typed, _, rfl⟩ := Compile.modelField_eq_ok compiled
  refine ⟨fun item element => ?_, ?_⟩
  · obtain ⟨name, known⟩ := typed.exists_model element
    exact mem_withModels known
  · unfold Compile.declarationOf
    cases written : (FieldSpecification.ofBody entry.2).default with
    | none => exact fun _ member => absurd member List.not_mem_nil
    | some document => exact supplies_ofDocument (defaults document written)

/-- A compiled model is one more type that is built in the workspace. -/
theorem Reachable.addModel {tables next : Tables}
    {entry : String × List (String × Option FieldSpecification)}
    (reached : (space.withModels tables.models).Reachable)
    (room : (space.withModels tables.models).RoomFor (firstIdentity + tables.models.length))
    (defaults : ∀ field ∈ entry.2, ∀ document,
      (FieldSpecification.ofBody field.2).default = some document → document.WellFormed)
    (added : Compile.addModel firstIdentity tables entry = .ok next) :
    (space.withModels next.models).Reachable ∧
      (space.withModels next.models).RoomFor (firstIdentity + next.models.length) := by
  obtain ⟨type, compiled, same⟩ := Success.bind_eq_ok.mp added
  obtain rfl := Except.ok.inj same
  obtain ⟨declared, each, built⟩ := Success.bind_eq_ok.mp compiled
  have built := BindingsError.ofDefined_eq_ok.mp built
  have identity := (TypeDeclaration.build_eq_ok built).1
  rw [withModels_concat]
  constructor
  · refine .step reached (.build ⟨?_, fun result member => ?_⟩ (fun known isKnown => ?_) built)
    · exact fun _ member => absurd member List.not_mem_nil
    · obtain ⟨field, isField, taken⟩ :=
        Success.exists_source (Success.mapM_eq_ok_iff.mp each) member
      exact supplies_modelField (defaults field isField) taken
    · exact Nat.ne_of_lt (room known isKnown)
  · intro known isKnown
    rw [List.length_append, List.length_singleton]
    rcases List.mem_cons.mp isKnown with rfl | earlier
    · omega
    · have := room known earlier
      omega

/-- However many models are compiled, they are types of one workspace. -/
theorem Reachable.addModels (reached : space.Reachable) (room : space.RoomFor firstIdentity)
    (parsed : specification.Parsed) {validators : List (String × Validator)}
    {models : List (String × List (String × Option FieldSpecification))}
    (within : models ⊆ specification.models) {tables : Tables}
    (added : models.foldlM (Compile.addModel firstIdentity) ⟨validators, [], []⟩ = .ok tables) :
    (space.withModels tables.models).Reachable := by
  have both : (space.withModels tables.models).Reachable ∧
      (space.withModels tables.models).RoomFor (firstIdentity + tables.models.length) := by
    refine Success.foldlM_preserves (fun tables => (space.withModels tables.models).Reachable ∧
      (space.withModels tables.models).RoomFor (firstIdentity + tables.models.length))
      ?_ ?_ added
    · exact ⟨reached, room⟩
    intro state entry next member held taken
    refine held.1.addModel held.2 (fun field isField document written => ?_) taken
    exact parsed.default_wellFormed (within member) isField written
  exact both.1

end Workspace

end NetworkAutomation
