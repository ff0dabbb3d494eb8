/-
This file proves that compiling a specification and invoking its actions report truly what the
validators refuse.
-/

import NetworkAutomation.Proofs.CompiledModels
import NetworkAutomation.Proofs.OmittedArguments
import NetworkAutomation.Proofs.TruthfulReports

namespace NetworkAutomation

/-! ## What is reported by whom -/

/-- The validators judge coerced arguments of their kind only, and they report these truly. -/
structure Parameter.Truthful (parameter : Parameter) : Prop where
  supported : ∀ value judged, parameter.type.coerce? value = some judged →
    ∀ validator ∈ parameter.validators, judged.primitive? = some validator.supported
  truthful : ∀ action value owner argument cause,
    parameter.check action value = .error (.invalidArgument owner argument cause) →
    owner = action ∧ argument = parameter.name ∧ ∃ judged validator,
      parameter.type.coerce? value = some judged ∧ validator ∈ parameter.validators ∧
      validator.RightlyRefuses judged cause

/--
A declared default is refused by the attribute of its field, as the document of an entity, or by its
parameter. The reason is the message of the refusal, which is a true report.
-/
inductive Specification.RefusesDefault (specification : Specification)
    (validators : List (String × Validator)) (models : List (String × EntityType)) :
    String → String → Prop where
  | field {model : String × List (String × Option FieldSpecification)} {name : String}
      {declared : FieldSpecification} {document : Document} {field : Attribute}
      {error : EntityError} (isModel : model ∈ specification.models)
      (isField : (name, some declared) ∈ model.2) (written : declared.default = some document)
      (named : field.name = name) (typed : declared.DeclaresType models field.type)
      (judged : NamesValidators validators declared.validators field.validators)
      (refused : field.coerce (Value.ofDocument document) = .error error)
      (truthful : ReportsTruly (field.Passes (Value.ofDocument document))
        fun cause => error = .validation cause) :
      RefusesDefault specification validators models name error.message
  | entity {action : String × ActionSpecification} {name model : String}
      {declared : ParameterSpecification} {entries : Mapping} {type : EntityType}
      {error : EntityError} (isAction : action ∈ specification.actions)
      (isParameter : (name, some declared) ∈ action.2.parameters)
      (written : declared.default = some (.mapping entries))
      (named : declared.type = some model) (known : (model, type) ∈ models)
      (refused : type.read entries = .error error)
      (truthful : ReportsTruly (type.PassesDocument entries)
        fun cause => error = .validation cause) :
      RefusesDefault specification validators models name error.message
  | argument {action : String × ActionSpecification} {name : String}
      {declared : ParameterSpecification} {document : Document} {parameter : Parameter}
      {value : Value} {error : BindingsError} (isAction : action ∈ specification.actions)
      (isParameter : (name, some declared) ∈ action.2.parameters)
      (written : declared.default = some document) (named : parameter.name = name)
      (typed : declared.DeclaresType models parameter.type)
      (judged : NamesValidators validators declared.validators parameter.validators)
      (given : parameter.type.valueOf? document = some value)
      (refused : parameter.check action.1 value = .error error) (truthful : parameter.Truthful) :
      RefusesDefault specification validators models (action.1 ++ "." ++ name) error.message

/-- The tables hold all validators of the specification, and its models up to one of them. -/
structure Specification.Tabled (specification : Specification)
    (validators : List (String × Validator)) (models : List (String × EntityType)) : Prop where
  judging : List.Forall₂ RendersValidator specification.validators validators
  modeled : ∃ earlier, earlier <+: specification.models ∧
    List.Forall₂ (RendersModel validators models) earlier models

/-- An invocation that a validator refuses reports an argument that was given, as it was coerced. -/
structure Bindings.Truthful (bindings : Bindings) : Prop where
  parameters : ∀ action ∈ bindings.actions, ∀ parameter ∈ action.parameters, parameter.Truthful
  invoke : ∀ name arguments owner argument cause,
    bindings.invoke name arguments = .error (.invalidArgument owner argument cause) →
    owner = name ∧ ∃ action ∈ bindings.actions, action.name = name ∧
      ∃ parameter ∈ action.parameters, parameter.name = argument ∧ ∃ value judged validator,
        Action.Gives arguments argument value ∧ parameter.type.coerce? value = some judged ∧
        validator ∈ parameter.validators ∧ validator.RightlyRefuses judged cause
  task : ∀ name arguments error, bindings.invoke name arguments ≠ .error (.entity error)

/-! ## Parameters -/

theorem Parameter.truthful_of_supports {parameter : Parameter}
    (supports : ∀ validator ∈ parameter.validators,
      validator.supports parameter.type.primitive = true) : parameter.Truthful := by
  have supported : ∀ value judged, parameter.type.coerce? value = some judged →
      ∀ validator ∈ parameter.validators, judged.primitive? = some validator.supported := by
    intro value judged fits validator member
    rw [Validator.supported_eq (supports validator member)]
    exact ParameterType.primitive?_of_coerce? fits
  refine ⟨supported, fun action value owner argument cause refused => ?_⟩
  cases Parameter.check_eq_iff.mp refused with
  | @invalid judged before after validator _ fits split _ failed =>
      have member : validator ∈ parameter.validators :=
        split ▸ List.mem_append_cons_self
      exact ⟨rfl, rfl, judged, validator, fits, member,
        Validator.rightlyRefuses_of_check (supported _ _ fits validator member) failed⟩

/-- The validators of a parameter are compared with its type before its default is judged. -/
theorem Compile.parameter_truthful {action : String} {tables : Tables}
    {entry : String × Option ParameterSpecification} {result : Parameter}
    (compiled : Compile.parameter action tables entry = .ok result) : result.Truthful := by
  obtain ⟨type, _, compiled⟩ := Success.bind_eq_ok.mp compiled
  obtain ⟨found, _, compiled⟩ := Success.bind_eq_ok.mp compiled
  obtain ⟨_, supported, compiled⟩ := Success.bind_eq_ok.mp compiled
  obtain ⟨default, _, same⟩ := Success.bind_eq_ok.mp compiled
  obtain rfl := Except.ok.inj same
  exact Parameter.truthful_of_supports (Compile.checkSupport_eq_ok_iff.mp supported)

/-! ## Refused models -/

namespace TypeDeclaration

variable {owner reason : String}

theorem mergeOwn_eq_invalidDefault {entity : String} {seen : List String}
    {attributes : List Attribute} {declared : List (String × Declaration)}
    (refused : mergeOwn entity seen attributes declared =
      .error (.invalidDefault owner reason)) :
    ∃ entry ∈ declared, entry.2.define entry.1 = .error (.invalidDefault owner reason) := by
  induction declared generalizing seen attributes with
  | nil => cases refused
  | cons entry rest ih =>
      rw [mergeOwn] at refused
      split at refused
      next => cases refused
      next =>
        rcases Success.bind_eq_error.mp refused with failed | ⟨field, _, later⟩
        · exact ⟨entry, List.mem_cons_self, failed⟩
        · obtain ⟨other, member, failed⟩ := ih later
          exact ⟨other, List.mem_cons_of_mem _ member, failed⟩

theorem checkAliases_ne_invalidDefault {entity : String} {names seen aliases : List String} :
    checkAliases entity names seen aliases ≠ .error (.invalidDefault owner reason) := by
  induction aliases generalizing seen with
  | nil => nofun
  | cons name rest ih =>
      rw [checkAliases]
      split
      next => exact ih
      next =>
        split
        next => nofun
        next => exact ih

/-- A type is refused for a default where one of its own attributes is. -/
theorem build_eq_invalidDefault {declaration : TypeDeclaration} {identity : Nat}
    (refused : declaration.build identity = .error (.invalidDefault owner reason)) :
    ∃ entry ∈ declaration.declared,
      entry.2.define entry.1 = .error (.invalidDefault owner reason) := by
  unfold build at refused
  rcases Success.bind_eq_error.mp refused with failed | ⟨_, _, refused⟩
  · exact absurd failed Naming.check_ne_invalidDefault
  rcases Success.bind_eq_error.mp refused with failed | ⟨_, _, refused⟩
  · exact mergeOwn_eq_invalidDefault failed
  rcases Success.bind_eq_error.mp refused with failed | ⟨_, _, refused⟩
  · exact absurd failed checkAliases_ne_invalidDefault
  have failed := Success.bind_pure_eq_error.mp refused
  unfold checkCatchAll at failed
  split at failed
  next => cases failed
  next => split at failed <;> cases failed

end TypeDeclaration

namespace Compile

variable {tables : Tables} {definition : DefinitionError} {owner reason : String}

theorem resolveValidators_ne_definition {names : List String} :
    resolveValidators owner tables names ≠ .error (.definition definition) := by
  intro refused
  obtain ⟨_, name, _, _, _, failed⟩ := Success.mapM_eq_error_iff.mp refused
  split at failed <;> cases failed

theorem elementType_ne_definition {type : String} {declared : FieldSpecification} :
    elementType owner type declared tables ≠ .error (.definition definition) := by
  unfold elementType resolveModel
  split
  next => split <;> nofun
  next => nofun

theorem fieldType_ne_definition {declared : FieldSpecification} :
    fieldType owner declared tables ≠ .error (.definition definition) := by
  intro refused
  unfold fieldType at refused
  split at refused
  case h_6 | h_7 | h_8 =>
    exact elementType_ne_definition (Success.bind_pure_eq_error.mp refused)
  all_goals cases refused

theorem modelField_ne_definition {model : String} {entry : String × Option FieldSpecification} :
    modelField model tables entry ≠ .error (.definition definition) := by
  intro refused
  unfold modelField at refused
  split at refused
  next =>
    rcases Success.bind_eq_error.mp (Success.bind_pure_eq_error.mp refused) with
      failed | ⟨type, _, later⟩
    · exact fieldType_ne_definition failed
    · exact resolveValidators_ne_definition (Success.bind_pure_eq_error.mp later)
  next => cases refused

/-- A model is refused for a default where one of its fields is. -/
theorem addModel_eq_invalidDefault {firstIdentity : Nat}
    {entry : String × List (String × Option FieldSpecification)}
    (refused : addModel firstIdentity tables entry =
      .error (.definition (.invalidDefault owner reason))) :
    ∃ field ∈ entry.2, ∃ result, modelField entry.1 tables field = .ok result ∧
      result.2.define result.1 = .error (.invalidDefault owner reason) := by
  have failed := Success.bind_pure_eq_error.mp refused
  rcases Success.bind_eq_error.mp failed with failed | ⟨declared, each, built⟩
  · obtain ⟨_, field, _, _, _, failed⟩ := Success.mapM_eq_error_iff.mp failed
    exact absurd failed modelField_ne_definition
  · obtain ⟨result, member, defined⟩ := TypeDeclaration.build_eq_invalidDefault
      (BindingsError.ofDefined_eq_error.mp built)
    obtain ⟨field, isField, taken⟩ :=
      Success.exists_source (Success.mapM_eq_ok_iff.mp each) member
    exact ⟨field, isField, result, taken, defined⟩

/-- A field without a default is never refused for one. -/
theorem exists_default_of_refused {body : Option FieldSpecification} {type : AttributeType}
    {found : List Validator} {field : Attribute} {error : EntityError}
    (refused : field.coerce (declarationOf (FieldSpecification.ofBody body) type found).default =
      .error error) :
    ∃ declared document, body = some declared ∧ declared.default = some document ∧
      (declarationOf (FieldSpecification.ofBody body) type found).default =
        Value.ofDocument document := by
  unfold declarationOf at refused ⊢
  dsimp only at refused ⊢
  cases body with
  | none => exact nomatch field.coerce_null.symm.trans refused
  | some declared =>
      cases written : declared.default with
      | none =>
          rw [FieldSpecification.ofBody, Option.getD_some, written] at refused
          exact nomatch field.coerce_null.symm.trans refused
      | some document =>
          refine ⟨declared, document, rfl, written, ?_⟩
          rw [FieldSpecification.ofBody, Option.getD_some, written]
          rfl

/-! ## Refused parameters -/

theorem parameterType_ne_definition {declared : ParameterSpecification} :
    parameterType owner declared tables ≠ .error (.definition definition) := by
  unfold parameterType
  split
  case h_6 => split <;> nofun
  all_goals nofun

theorem checkSupport_ne_invalidDefault {type : ParameterType} {validators : List Validator} :
    checkSupport type validators ≠ .error (.definition (.invalidDefault owner reason)) := by
  unfold checkSupport
  split <;> nofun

/-- A default of a model parameter is refused as the document of an entity. -/
theorem defaultValue_eq_invalidDefault {parameter : Parameter} {document : Document}
    (refused : defaultValue parameter document =
      .error (.definition (.invalidDefault owner reason))) :
    ∃ name type entries error, parameter.type = .model name type ∧
      document = .mapping entries ∧ type.read entries = .error error ∧
      owner = parameter.name ∧ reason = error.message := by
  unfold defaultValue at refused
  split at refused
  next name type entries isModel =>
    split at refused
    next => cases refused
    next error failed =>
      cases refused
      exact ⟨name, type, entries, error, isModel, rfl, failed, rfl, rfl⟩
  next => cases refused

theorem parameterDefault_eq_invalidDefault {action place : String} {bare : Parameter}
    {default : Option Document}
    (refused : parameterDefault action place bare default =
      .error (.definition (.invalidDefault owner reason))) :
    ∃ document, default = some document ∧
      (defaultValue bare document = .error (.definition (.invalidDefault owner reason)) ∨
        ∃ (value : Value) (error : BindingsError), bare.type.valueOf? document = some value ∧
          bare.check action value = .error error ∧ owner = place ∧ reason = error.message) := by
  unfold parameterDefault at refused
  split at refused
  next => cases refused
  next => cases refused
  next document _ =>
    refine ⟨document, rfl, ?_⟩
    rcases Success.bind_eq_error.mp refused with failed | ⟨value, given, later⟩
    · exact .inl failed
    · split at later
      next => cases later
      next error failed =>
        cases later
        exact .inr ⟨value, error, defaultValue_eq_ok given, failed, rfl, rfl⟩

/-- A parameter is refused for a default only, once its type and its validators are resolved. -/
theorem parameter_eq_invalidDefault {action : String}
    {entry : String × Option ParameterSpecification}
    (refused : parameter action tables entry =
      .error (.definition (.invalidDefault owner reason))) :
    ∃ bare : Parameter, bare.name = entry.1 ∧
      (ParameterSpecification.ofBody entry.2).DeclaresType tables.models bare.type ∧
      NamesValidators tables.validators (ParameterSpecification.ofBody entry.2).validators
        bare.validators ∧
      (∀ validator ∈ bare.validators, validator.supports bare.type.primitive = true) ∧
      parameterDefault action (action ++ "." ++ entry.1) bare
        (ParameterSpecification.ofBody entry.2).default =
          .error (.definition (.invalidDefault owner reason)) := by
  rw [parameter_ofBody] at refused
  rcases Success.bind_eq_error.mp refused with failed | ⟨type, typed, refused⟩
  · exact absurd failed parameterType_ne_definition
  rcases Success.bind_eq_error.mp refused with failed | ⟨found, resolved, refused⟩
  · exact absurd failed resolveValidators_ne_definition
  rcases Success.bind_eq_error.mp refused with failed | ⟨_, supported, refused⟩
  · exact absurd failed checkSupport_ne_invalidDefault
  exact ⟨_, rfl, parameterType_eq_ok typed, resolveValidators_eq_ok resolved,
    checkSupport_eq_ok_iff.mp supported, Success.bind_pure_eq_error.mp refused⟩

theorem addAction_eq_invalidDefault {entry : String × ActionSpecification}
    (refused : addAction tables entry = .error (.definition (.invalidDefault owner reason))) :
    ∃ declared ∈ entry.2.parameters, parameter entry.1 tables declared =
      .error (.definition (.invalidDefault owner reason)) := by
  have failed := Success.bind_pure_eq_error.mp (Success.bind_pure_eq_error.mp refused)
  obtain ⟨_, declared, _, split, _, failed⟩ := Success.mapM_eq_error_iff.mp failed
  exact ⟨declared, split ▸ List.mem_append_cons_self, failed⟩

end Compile

/-! ## Whole specifications -/

namespace Specification

variable {space : Workspace} {specification : Specification} {tables : Tables}
  {owner reason : String}

/-- A field is refused for the default that it declares. -/
theorem refusesDefault_of_addModel {firstIdentity : Nat}
    {model : String × List (String × Option FieldSpecification)}
    (truthful : (space.withModels tables.models).Truthful) (isModel : model ∈ specification.models)
    (refused : Compile.addModel firstIdentity tables model =
      .error (.definition (.invalidDefault owner reason))) :
    specification.RefusesDefault tables.validators tables.models owner reason := by
  obtain ⟨⟨name, body⟩, isField, result, taken, defined⟩ :=
    Compile.addModel_eq_invalidDefault refused
  obtain ⟨type, found, typed, resolved, rfl⟩ := Compile.modelField_eq_ok taken
  have known : ∀ item, type.item? = some item → item ∈ (space.withModels tables.models).types := by
    intro item element
    obtain ⟨model, member⟩ := typed.exists_model element
    exact Workspace.mem_withModels member
  obtain ⟨rfl, error, rfl, failed, truly⟩ :=
    (truthful.define (Compile.declarationOf _ type found) name known).refused _ _ defined
  obtain ⟨declared, document, rfl, written, given⟩ := Compile.exists_default_of_refused failed
  rw [given] at failed truly
  refine .field isModel isField written ?_ ?_ ?_ failed truly
  · rfl
  · exact typed
  · exact resolved

/-- A parameter is refused for the default that it declares. -/
theorem refusesDefault_of_addAction {validators : List (String × Validator)}
    {models : List (String × EntityType)} {before : List Action}
    {action : String × ActionSpecification} (sound : (space.withModels models).Sound)
    (isAction : action ∈ specification.actions)
    (refused : Compile.addAction ⟨validators, models, before⟩ action =
      .error (.definition (.invalidDefault owner reason))) :
    specification.RefusesDefault validators models owner reason := by
  obtain ⟨⟨name, body⟩, isParameter, refusedParameter⟩ :=
    Compile.addAction_eq_invalidDefault refused
  obtain ⟨bare, named, typed, resolved, supports, refusedDefault⟩ :=
    Compile.parameter_eq_invalidDefault refusedParameter
  obtain ⟨document, written, unread | ⟨value, error, given, unchecked, rfl, rfl⟩⟩ :=
    Compile.parameterDefault_eq_invalidDefault refusedDefault
  all_goals
    cases body with
    | none => exact nomatch written
    | some declared => ?_
  · obtain ⟨model, type, entries, error, isModel, rfl, failed, rfl, rfl⟩ :=
      Compile.defaultValue_eq_invalidDefault unread
    rw [isModel] at typed
    rw [named]
    cases typed with
    | model modelNamed _ known =>
        have truly := sound.registry.read_reportsTruly (Workspace.mem_withModels known) entries
        simp only [failed, Except.error.injEq] at truly
        exact .entity isAction isParameter written modelNamed known failed truly
  · exact .argument isAction isParameter written named typed resolved given unchecked
      (Parameter.truthful_of_supports supports)

end Specification

namespace Compile

/-- The models render what they are compiled from, with all models up to them at hand. -/
theorem renders_of_inTurn {firstIdentity : Nat} {validators : List (String × Validator)}
    {declared : List (String × List (String × Option FieldSpecification))}
    {models : List (String × EntityType)}
    (turns : Success.InTurn (CompilesModel firstIdentity validators) [] declared models) :
    List.Forall₂ (RendersModel validators models) declared models :=
  turns.forall₂ fun _ _ _ within compiles => compiles.makes.2.mono within

theorem validator_ne_definition {name : String} {declared : ValidatorSpecification}
    {definition : DefinitionError} :
    validator name declared ≠ .error (.definition definition) := by
  have ofParameters_ne (made : Except String Validator) :
      ofParameters name made ≠ .error (.definition definition) := by
    cases made <;> nofun
  unfold validator
  split
  next => exact ofParameters_ne _
  next => exact ofParameters_ne _
  next => exact ofParameters_ne _
  next => nofun

end Compile

namespace Bindings

variable {space : Workspace} {firstIdentity : Nat} {specification : Specification}
  {settings : Settings}

/-- Whatever is compiled before the refusal belongs to a workspace that reports truly. -/
theorem refusesDefault_of_compile (reached : space.Reachable) (parsed : specification.Parsed)
    (room : space.RoomFor firstIdentity) {owner reason : String}
    (refused : compile firstIdentity specification settings =
      .error (.definition (.invalidDefault owner reason))) :
    ∃ validators models, specification.Tabled validators models ∧
      specification.RefusesDefault validators models owner reason := by
  have refused := Success.bind_pure_eq_error.mp refused
  rcases Success.bind_eq_error.mp refused with failed | ⟨_, _, refused⟩
  · unfold Compile.checkReserved at failed
    split at failed <;> cases failed
  rcases Success.bind_eq_error.mp refused with failed | ⟨validated, added, refused⟩
  · obtain ⟨_, entry, _, state, _, _, failed⟩ := Success.exists_failed_of_foldlM failed
    exact absurd (Success.bind_pure_eq_error.mp failed) Compile.validator_ne_definition
  obtain ⟨validators, rfl, judging⟩ := Compile.validators_of_foldlM added
  rcases Success.bind_eq_error.mp refused with failed | ⟨modeled, added, refused⟩
  · obtain ⟨before, entry, after, state, split, passed, failed⟩ :=
      Success.exists_failed_of_foldlM failed
    have earlier : before <+: specification.models := split ▸ List.prefix_append _ _
    have isModel : entry ∈ specification.models :=
      split ▸ List.mem_append_cons_self
    have joined := reached.addModels room parsed earlier.subset passed
    obtain ⟨models, rfl, turns⟩ := Compile.models_of_foldlM passed
    exact ⟨validators, models, ⟨judging, before, earlier, Compile.renders_of_inTurn turns⟩,
      Specification.refusesDefault_of_addModel joined.sound.truthful isModel failed⟩
  · have joined := reached.addModels room parsed (List.Subset.refl _) added
    obtain ⟨models, rfl, turns⟩ := Compile.models_of_foldlM added
    obtain ⟨before, entry, after, state, split, passed, failed⟩ :=
      Success.exists_failed_of_foldlM refused
    obtain ⟨actions, rfl, _⟩ := Compile.actions_of_foldlM passed
    have isAction : entry ∈ specification.actions :=
      split ▸ List.mem_append_cons_self
    exact ⟨validators, models,
      ⟨judging, _, List.prefix_rfl, Compile.renders_of_inTurn turns⟩,
      Specification.refusesDefault_of_addAction joined.sound isAction failed⟩

theorem models_reachable (reached : space.Reachable) (parsed : specification.Parsed)
    (room : space.RoomFor firstIdentity) {bindings : Bindings}
    (compiled : compile firstIdentity specification settings = .ok bindings) :
    (space.withModels bindings.models).Reachable := by
  obtain ⟨tables, taken, same⟩ := Success.bind_eq_ok.mp compiled
  obtain rfl := Except.ok.inj same
  obtain ⟨_, _, taken⟩ := Success.bind_eq_ok.mp taken
  obtain ⟨validated, addedValidators, taken⟩ := Success.bind_eq_ok.mp taken
  obtain ⟨modeled, addedModels, addedActions⟩ := Success.bind_eq_ok.mp taken
  obtain ⟨validators, rfl, _⟩ := Compile.validators_of_foldlM addedValidators
  obtain ⟨models, rfl, _⟩ := Compile.models_of_foldlM addedModels
  obtain ⟨actions, rfl, _⟩ := Compile.actions_of_foldlM addedActions
  have joined : (space.withModels models).Reachable :=
    reached.addModels room parsed (List.Subset.refl _) addedModels
  exact joined

/-- An invocation is refused for a name, or a parameter does not settle with its argument. -/
theorem invoke_eq_error {bindings : Bindings} {name : String} {arguments : Action.Arguments}
    {error : BindingsError} (refused : bindings.invoke name arguments = .error error) :
    error = .unknownAction name ∨ (∃ argument, error = .unknownArgument name argument) ∨
      ∃ action ∈ bindings.actions, action.name = name ∧ ∃ parameter ∈ action.parameters,
        action.Settles arguments parameter (.error error) := by
  unfold invoke at refused
  split at refused
  next action found =>
    have isAction : action ∈ bindings.actions := List.mem_of_find?_eq_some found
    have named : action.name = name := by simpa using List.find?_some found
    rcases Success.bind_eq_error.mp refused with failed | ⟨_, _, refused⟩
    · obtain ⟨_, argument, _, _, _, _, rfl⟩ := Action.checkNames_eq_error_iff.mp failed
      exact .inr (.inl ⟨argument.1, named ▸ rfl⟩)
    rcases Success.bind_eq_error.mp refused with failed | ⟨_, _, refused⟩
    · obtain ⟨_, parameter, _, split, _, settles⟩ := Action.collect_eq_error_iff.mp failed
      have isParameter : parameter ∈ action.parameters := split ▸ List.mem_append_cons_self
      exact .inr (.inr ⟨action, isAction, named, parameter, isParameter, settles⟩)
    · rw [Action.task_eq] at refused
      cases refused
  next => exact .inl (Except.error.inj refused).symm

/-- The parameter that refuses an argument was given one that its validators judge. -/
theorem invoke_eq_invalidArgument {bindings : Bindings} {name : String}
    {arguments : Action.Arguments} {owner argument : String} {cause : ValidationError}
    (truthful : ∀ action ∈ bindings.actions, ∀ parameter ∈ action.parameters, parameter.Truthful)
    (refused : bindings.invoke name arguments = .error (.invalidArgument owner argument cause)) :
    owner = name ∧ ∃ action ∈ bindings.actions, action.name = name ∧
      ∃ parameter ∈ action.parameters, parameter.name = argument ∧ ∃ value judged validator,
        Action.Gives arguments argument value ∧ parameter.type.coerce? value = some judged ∧
        validator ∈ parameter.validators ∧ validator.RightlyRefuses judged cause := by
  obtain same | ⟨_, same⟩ | ⟨action, isAction, named, parameter, isParameter, settles⟩ :=
    invoke_eq_error refused
  · cases same
  · cases same
  cases settles with
  | @refused value _ given judged =>
      have checked := Parameter.check_eq_iff.mpr judged
      obtain ⟨rfl, rfl, judged, validator, fits, member, right⟩ :=
        (truthful action isAction parameter isParameter).truthful _ _ _ _ _ checked
      exact ⟨named, action, isAction, named, parameter, isParameter, rfl, value, judged,
        validator, given, fits, member, right⟩

/-- The task is made without any refusal, once all arguments are taken. -/
theorem invoke_ne_entity {bindings : Bindings} {name : String} {arguments : Action.Arguments}
    {error : EntityError} : bindings.invoke name arguments ≠ .error (.entity error) := by
  intro refused
  obtain same | ⟨_, same⟩ | ⟨_, _, _, _, _, settles⟩ := invoke_eq_error refused
  · cases same
  · cases same
  cases settles with
  | refused given judged => cases judged

theorem truthful_of_compile {bindings : Bindings}
    (compiled : compile firstIdentity specification settings = .ok bindings) :
    bindings.Truthful := by
  obtain ⟨tables, taken, same⟩ := Success.bind_eq_ok.mp compiled
  obtain rfl := Except.ok.inj same
  obtain ⟨_, _, actions⟩ := Compile.tables_compile taken
  have parameters : ∀ action ∈ tables.actions, ∀ parameter ∈ action.parameters,
      parameter.Truthful := by
    intro action isAction parameter isParameter
    obtain ⟨entry, _, before, compiledAction⟩ := Success.exists_source actions isAction
    obtain ⟨declared, each, same⟩ := Success.bind_eq_ok.mp compiledAction
    obtain rfl := Except.ok.inj same
    obtain ⟨_, _, compiledParameter⟩ :=
      Success.exists_source (Success.mapM_eq_ok_iff.mp each) isParameter
    exact Compile.parameter_truthful compiledParameter
  exact ⟨parameters, fun name arguments owner argument cause refused =>
    invoke_eq_invalidArgument parameters refused, fun name arguments error =>
    invoke_ne_entity⟩

end Bindings

/--
Validators judge values of their own kind only. So what they report is true: in every operation on
entities and every definition, for the defaults of every specification, and for the arguments of
every invocation. The models of a specification are types like all others.
-/
theorem validators_report_truly {space : Workspace} {firstIdentity : Nat}
    {specification : Specification} {settings : Settings} (reached : space.Reachable)
    (parsed : specification.Parsed) (room : space.RoomFor firstIdentity) :
    space.Truthful ∧
      (∀ owner reason, Bindings.compile firstIdentity specification settings =
        .error (.definition (.invalidDefault owner reason)) →
          ∃ validators models, specification.Tabled validators models ∧
            specification.RefusesDefault validators models owner reason) ∧
      (∀ action tables entry parameter,
        Compile.parameter action tables entry = .ok parameter → parameter.Truthful) ∧
      ∀ bindings, Bindings.compile firstIdentity specification settings = .ok bindings →
        bindings.Truthful ∧ (space.withModels bindings.models).Reachable ∧
          (space.withModels bindings.models).Truthful := by
  refine ⟨reached.sound.truthful, fun owner reason refused => ?_,
    fun _ _ _ _ compiled => Compile.parameter_truthful compiled, fun bindings compiled => ?_⟩
  · exact Bindings.refusesDefault_of_compile reached parsed room refused
  · have joined := Bindings.models_reachable reached parsed room compiled
    exact ⟨Bindings.truthful_of_compile compiled, joined, joined.sound.truthful⟩

/-- The text is read as an integer first, and this integer is the one that is reported. -/
theorem SwitchRole.vlanNumber_refused :
    Workspace.Reachable ⟨Catalogue.types.reverse, []⟩ ∧
      specification.Parsed ∧
      Workspace.RoomFor ⟨Catalogue.types.reverse, []⟩ Catalogue.firstFreeIdentity ∧
      bindings.invoke "conf_port" [("port", .text "swp1"), ("vlan_id", .text "5000")] =
        .error (.invalidArgument "conf_port" "vlan_id" (.invalidRange 5000 1 4094)) ∧
      bindings.Truthful ∧
      (Workspace.withModels ⟨Catalogue.types.reverse, []⟩ bindings.models).Truthful := by
  have declared := Workspace.catalogue_declared
  have room : Workspace.RoomFor ⟨Catalogue.types.reverse, []⟩ Catalogue.firstFreeIdentity :=
    declared.below
  obtain ⟨_, _, _, compiled⟩ := validators_report_truly declared.reached specification_parsed room
  obtain ⟨truthful, _, models⟩ := compiled bindings compile_eq_ok
  exact ⟨declared.reached, specification_parsed, room, rfl, truthful, models⟩

end NetworkAutomation
