/-
This file proves that actions are invoked as they are declared, with every refusal in its place.
-/

import NetworkAutomation.Proofs.Compilation

namespace NetworkAutomation

/-! ## What an invocation stands for -/

/-- The entity with the given fields, and with the defaults of the type elsewhere. -/
def EntityType.filledWith (type : EntityType) (fields : List (String × Value)) : Entity :=
  ⟨type, type.attributes.map fun field => (Entries.find? fields field.name).getD field.default⟩

namespace Action

/-- No later argument of the name follows this one. -/
def LastArgument (arguments : Arguments) (name : String) (value : Value) : Prop :=
  ∃ before after, arguments = before ++ (name, value) :: after ∧ ∀ later ∈ after, later.1 ≠ name

/-- The last value under the name counts, unless it is null. -/
def Gives (arguments : Arguments) (name : String) (value : Value) : Prop :=
  LastArgument arguments name value ∧ value ≠ .null

def GivesNothing (arguments : Arguments) (name : String) : Prop :=
  LastArgument arguments name .null ∨ ∀ argument ∈ arguments, argument.1 ≠ name

end Action

/-- The value is coerced first, and the first validator that refuses the result decides. -/
inductive Parameter.Judges (parameter : Parameter) (action : String) (value : Value) :
    Bound Document → Prop where
  | accepted {coerced : Value} (fits : parameter.type.coerce? value = some coerced)
      (judged : ∀ validator ∈ parameter.validators, validator.check coerced = .ok ()) :
      Judges parameter action value (.ok coerced.toDocument)
  | mistyped (refused : parameter.type.coerce? value = none) :
      Judges parameter action value (.error (.argumentType action parameter.name
        parameter.type.display (Parameter.describe value)))
  | invalid {coerced : Value} {before after : List Validator} {validator : Validator}
      {cause : ValidationError} (fits : parameter.type.coerce? value = some coerced)
      (split : parameter.validators = before ++ validator :: after)
      (judged : ∀ earlier ∈ before, earlier.check coerced = .ok ())
      (refused : validator.check coerced = .error cause) :
      Judges parameter action value (.error (.invalidArgument action parameter.name cause))

namespace Action

/-- A parameter takes what is given, or its default, or nothing unless it is required. -/
inductive Settles (action : Action) (arguments : Arguments) (parameter : Parameter) :
    Bound (Option Document) → Prop where
  | accepted {value : Value} {document : Document}
      (given : Gives arguments parameter.name value)
      (judged : parameter.Judges action.name value (.ok document)) :
      Settles action arguments parameter (.ok (some document))
  | refused {value : Value} {error : BindingsError}
      (given : Gives arguments parameter.name value)
      (judged : parameter.Judges action.name value (.error error)) :
      Settles action arguments parameter (.error error)
  | default {document : Document} (nothing : GivesNothing arguments parameter.name)
      (default : parameter.default = some document) :
      Settles action arguments parameter (.ok (some document))
  | omitted (nothing : GivesNothing arguments parameter.name) (default : parameter.default = none)
      (optional : parameter.required = false) : Settles action arguments parameter (.ok none)
  | missing (nothing : GivesNothing arguments parameter.name) (default : parameter.default = none)
      (required : parameter.required = true) :
      Settles action arguments parameter
        (.error (.missingRequiredArgument action.name parameter.name))

/-- The variables of the parameters that took a value, in the order of declaration. -/
def variablesOf (parameters : List Parameter) (settled : List (Option Document)) : Mapping :=
  (parameters.zip settled).filterMap fun entry => entry.2.map fun document =>
    (entry.1.name, document)

def parameterNames (action : Action) : List String :=
  action.parameters.map Parameter.name

/-- The task has the given variables, and what no invocation sets is at its default. -/
def taskWith (action : Action) (role taskAction : String) (taskVariables : Mapping) : Entity :=
  Catalogue.task.filledWith [
    ("action", .text taskAction),
    ("args", .dict (("name", .text role) :: ImportRole.argument "tasks_from" action.tasksFrom)),
    ("vars", .dict taskVariables)]

/-- An unknown name comes before all else, and the first parameter that fails comes next. -/
inductive Invoked (action : Action) (role taskAction : String) (arguments : Arguments) :
    Bound Entity → Prop where
  | unknown {before after : Arguments} {argument : String × Value}
      (split : arguments = before ++ argument :: after)
      (known : ∀ earlier ∈ before, earlier.1 ∈ action.parameterNames)
      (unknown : argument.1 ∉ action.parameterNames) :
      Invoked action role taskAction arguments (.error (.unknownArgument action.name argument.1))
  | failed {before after : List Parameter} {parameter : Parameter} {error : BindingsError}
      (known : ∀ argument ∈ arguments, argument.1 ∈ action.parameterNames)
      (split : action.parameters = before ++ parameter :: after)
      (settled : ∀ earlier ∈ before, ∃ value, action.Settles arguments earlier (.ok value))
      (fails : action.Settles arguments parameter (.error error)) :
      Invoked action role taskAction arguments (.error error)
  | task {settled : List (Option Document)}
      (known : ∀ argument ∈ arguments, argument.1 ∈ action.parameterNames)
      (each : List.Forall₂ (fun parameter value => action.Settles arguments parameter (.ok value))
        action.parameters settled) :
      Invoked action role taskAction arguments (.ok (action.taskWith role taskAction
        (Entries.overriddenBy (variablesOf action.parameters settled) action.staticVariables)))

end Action

/-! ## One parameter -/

namespace Parameter

theorem check_eq_iff {parameter : Parameter} {action : String} {value : Value}
    {outcome : Bound Document} :
    parameter.check action value = outcome ↔ parameter.Judges action value outcome := by
  constructor
  · rintro rfl
    unfold check
    cases fits : parameter.type.coerce? value with
    | none => exact .mistyped fits
    | some coerced =>
        cases judged : Validator.checkAll parameter.validators coerced with
        | ok accepted =>
            simp only [judged]
            exact .accepted fits (Success.forM_eq_ok_iff.mp judged)
        | error cause =>
            simp only [judged]
            obtain ⟨before, validator, after, split, earlier, refused⟩ :=
              Success.forM_eq_error_iff.mp judged
            exact .invalid fits split earlier refused
  · intro judges
    unfold check
    cases judges with
    | accepted fits judged =>
        have all : Validator.checkAll parameter.validators _ = .ok () :=
          Success.forM_eq_ok_iff.mpr judged
        simp only [fits, all]
    | mistyped refused => rw [refused]
    | invalid fits split earlier refused =>
        have first : Validator.checkAll parameter.validators _ = .error _ :=
          Success.forM_eq_error_iff.mpr ⟨_, _, _, split, earlier, refused⟩
        simp only [fits, first]

end Parameter

namespace Action

variable {action : Action} {arguments : Arguments}

theorem lastArgument_iff {name : String} {value : Value} :
    LastArgument arguments name value ↔
      (arguments.reverse.find? fun argument => argument.1 == name) = some (name, value) := by
  rw [Entries.findLast_eq_some_iff, beq_self_eq_true]
  simp only [true_and, beq_eq_false_iff_ne]
  rfl

theorem given?_eq_some_iff {name : String} {value : Value} :
    given? arguments name = some value ↔ Gives arguments name value := by
  unfold given? Gives
  rw [lastArgument_iff]
  constructor
  · intro given
    split at given
    next => exact nomatch given
    next own last notNull found =>
      obtain rfl := Option.some.inj given
      have same : own = name := by simpa using List.find?_some found
      exact ⟨same ▸ found, notNull⟩
    next => exact nomatch given
  · rintro ⟨found, notNull⟩
    rw [found]
    cases value with
    | null => exact absurd rfl notNull
    | _ => rfl

theorem given?_eq_none_iff {name : String} :
    given? arguments name = none ↔ GivesNothing arguments name := by
  unfold given? GivesNothing
  rw [lastArgument_iff]
  constructor
  · intro given
    split at given
    next own found =>
      have same : own = name := by simpa using List.find?_some found
      exact .inl (same ▸ found)
    next => exact nomatch given
    next absent =>
      rw [List.find?_eq_none] at absent
      exact .inr fun argument member => by simpa using absent argument (List.mem_reverse.mpr member)
  · rintro (found | absent)
    · rw [found]
    · have missing : (arguments.reverse.find? fun argument => argument.1 == name) = none :=
        List.find?_eq_none.mpr fun argument member => by
          simpa using absent argument (List.mem_reverse.mp member)
      rw [missing]

theorem argument?_eq_iff {parameter : Parameter} {outcome : Bound (Option Document)} :
    action.argument? arguments parameter = outcome ↔
      action.Settles arguments parameter outcome := by
  constructor
  · rintro rfl
    unfold argument?
    split
    next value given =>
      have gives := given?_eq_some_iff.mp given
      cases checked : parameter.check action.name value with
      | ok document => exact .accepted gives (Parameter.check_eq_iff.mp checked)
      | error refusal => exact .refused gives (Parameter.check_eq_iff.mp checked)
    next document nothing default => exact .default (given?_eq_none_iff.mp nothing) default
    next nothing default =>
      split
      next required => exact .missing (given?_eq_none_iff.mp nothing) default required
      next optional =>
        exact .omitted (given?_eq_none_iff.mp nothing) default (Bool.not_eq_true _ ▸ optional)
  · intro settles
    unfold argument?
    cases settles with
    | accepted given judged =>
        simp only [given?_eq_some_iff.mpr given, Parameter.check_eq_iff.mpr judged]
        rfl
    | refused given judged =>
        simp only [given?_eq_some_iff.mpr given, Parameter.check_eq_iff.mpr judged]
        rfl
    | default nothing default => rw [given?_eq_none_iff.mpr nothing, default]
    | omitted nothing default optional =>
        rw [given?_eq_none_iff.mpr nothing, default, optional]
        rfl
    | missing nothing default required =>
        rw [given?_eq_none_iff.mpr nothing, default, required]
        rfl

/-! ## All parameters -/

theorem collect_eq (parameters : List Parameter) :
    action.collect arguments parameters =
      (parameters.mapM (action.argument? arguments)).map (variablesOf parameters) := by
  induction parameters with
  | nil => rfl
  | cons parameter rest ih =>
      rw [collect, ih, List.mapM_cons]
      cases action.argument? arguments parameter with
      | error refusal => rfl
      | ok value =>
          cases rest.mapM (action.argument? arguments) with
          | error refusal => rfl
          | ok settled => cases value <;> rfl

theorem collect_eq_ok_iff {parameters : List Parameter} {collected : Mapping} :
    action.collect arguments parameters = .ok collected ↔ ∃ settled, List.Forall₂
      (fun parameter value => action.Settles arguments parameter (.ok value)) parameters settled ∧
        variablesOf parameters settled = collected := by
  simp only [collect_eq, ← argument?_eq_iff, ← Success.mapM_eq_ok_iff]
  cases parameters.mapM (action.argument? arguments) <;> simp [Except.map]

theorem collect_eq_error_iff {parameters : List Parameter} {error : BindingsError} :
    action.collect arguments parameters = .error error ↔ ∃ before parameter after,
      parameters = before ++ parameter :: after ∧
        (∀ earlier ∈ before, ∃ value, action.Settles arguments earlier (.ok value)) ∧
        action.Settles arguments parameter (.error error) := by
  simp only [collect_eq, ← argument?_eq_iff, ← Success.mapM_eq_error_iff]
  cases parameters.mapM (action.argument? arguments) <;> simp [Except.map]

theorem parameter?_isNone_iff {name : String} :
    (action.parameter? name).isNone = true ↔ name ∉ action.parameterNames := by
  simp [parameter?, parameterNames]

theorem checkNames_eq_ok_iff :
    action.checkNames arguments = .ok () ↔
      ∀ argument ∈ arguments, argument.1 ∈ action.parameterNames := by
  unfold checkNames
  split
  next argument found =>
    have unknown : argument.1 ∉ action.parameterNames :=
      parameter?_isNone_iff.mp (by simpa using List.find?_some found)
    have given := List.mem_of_find?_eq_some found
    exact ⟨fun refused => (nomatch refused), fun known => absurd (known argument given) unknown⟩
  next absent =>
    refine ⟨fun _ argument given => ?_, fun _ => rfl⟩
    have known := List.find?_eq_none.mp absent argument given
    exact not_not.mp (mt parameter?_isNone_iff.mpr known)

theorem checkNames_eq_error_iff {error : BindingsError} :
    action.checkNames arguments = .error error ↔ ∃ before argument after,
      arguments = before ++ argument :: after ∧
        (∀ earlier ∈ before, earlier.1 ∈ action.parameterNames) ∧
        argument.1 ∉ action.parameterNames ∧ error = .unknownArgument action.name argument.1 := by
  have split_iff (argument : String × Value) :
      (arguments.find? fun given => (action.parameter? given.1).isNone) = some argument ↔
        argument.1 ∉ action.parameterNames ∧ ∃ before after,
          arguments = before ++ argument :: after ∧
            ∀ earlier ∈ before, earlier.1 ∈ action.parameterNames := by
    simp only [List.find?_eq_some_iff_append, Bool.not_eq_true', ← Bool.not_eq_true,
      parameter?_isNone_iff, not_not]
  unfold checkNames
  constructor
  · intro refused
    split at refused
    next argument found =>
      obtain ⟨unknown, before, after, split, known⟩ := (split_iff argument).mp found
      exact ⟨before, argument, after, split, known, unknown, (Except.error.inj refused).symm⟩
    next => exact nomatch refused
  · rintro ⟨before, argument, after, split, known, unknown, rfl⟩
    rw [(split_iff argument).mpr ⟨unknown, before, after, split, known⟩]

/-! ## The task -/

theorem importRole_eq (role : String) (tasksFrom : Option String) :
    ImportRole.create role tasksFrom = .ok (Catalogue.importRole.filledWith
      [("name", .text role), ("tasks_from", Value.optionalText tasksFrom)]) := by
  cases tasksFrom <;> rfl

theorem toTask_eq (role : String) (tasksFrom : Option String) :
    ImportRole.toTask (Catalogue.importRole.filledWith
        [("name", .text role), ("tasks_from", Value.optionalText tasksFrom)]) =
      .ok (Catalogue.task.filledWith [
        ("action", .text ImportRole.actionName),
        ("args", .dict (("name", .text role) :: ImportRole.argument "tasks_from" tasksFrom))]) := by
  cases tasksFrom <;> rfl

/-- The task of an action is always made, whatever role and variables it takes. -/
theorem task_eq (role taskAction : String) (taskVariables : Mapping) :
    action.task role taskAction taskVariables =
      .ok (action.taskWith role taskAction taskVariables) := by
  unfold task
  rw [importRole_eq, Success.bind_ok, toTask_eq, Success.bind_ok]
  by_cases same : taskAction = ImportRole.actionName
  · rw [same]
    rfl
  · simp only [if_neg same]
    rfl

/-- Each parameter gives at most one variable, under its own name. -/
theorem keys_variablesOf (parameters : List Parameter) (settled : List (Option Document)) :
    (Entries.keys (variablesOf parameters settled)).Sublist (parameters.map Parameter.name) := by
  induction parameters generalizing settled with
  | nil => exact List.Sublist.refl _
  | cons parameter rest ih =>
      cases settled with
      | nil => exact List.nil_sublist _
      | cons value settled =>
          cases value with
          | none => exact (ih settled).cons _
          | some document => exact (ih settled).cons_cons _

theorem invoke_eq_iff {role taskAction : String} {outcome : Bound Entity}
    (distinct : action.parameterNames.Nodup)
    (distinctStatic : (Entries.keys action.staticVariables).Nodup) :
    action.invoke role taskAction arguments = outcome ↔
      action.Invoked role taskAction arguments outcome := by
  have merged (settled : List (Option Document)) :
      Mapping.merge (variablesOf action.parameters settled) action.staticVariables =
        Entries.overriddenBy (variablesOf action.parameters settled) action.staticVariables :=
    Mapping.merge_eq_overriddenBy (distinct.sublist (keys_variablesOf _ settled)) distinctStatic
  constructor
  -- The checks come in the order of the code, and behind them the task is always made.
  · rintro rfl
    unfold invoke
    cases named : action.checkNames arguments with
    | error refusal =>
        obtain ⟨before, argument, after, split, known, unknown, rfl⟩ :=
          checkNames_eq_error_iff.mp named
        exact .unknown split known unknown
    | ok checked =>
        have known := checkNames_eq_ok_iff.mp named
        rw [Success.bind_ok]
        cases taken : action.collect arguments action.parameters with
        | error refusal =>
            obtain ⟨before, parameter, after, split, settled, fails⟩ :=
              collect_eq_error_iff.mp taken
            exact .failed known split settled fails
        | ok collected =>
            obtain ⟨settled, each, rfl⟩ := collect_eq_ok_iff.mp taken
            rw [Success.bind_ok, merged, task_eq]
            exact .task known each
  · intro invoked
    unfold invoke
    cases invoked with
    | unknown split known unknown =>
        rw [checkNames_eq_error_iff.mpr ⟨_, _, _, split, known, unknown, rfl⟩]
        rfl
    | failed known split settled fails =>
        rw [checkNames_eq_ok_iff.mpr known, Success.bind_ok,
          collect_eq_error_iff.mpr ⟨_, _, _, split, settled, fails⟩]
        rfl
    | task known each =>
        rw [checkNames_eq_ok_iff.mpr known, Success.bind_ok,
          collect_eq_ok_iff.mpr ⟨_, each, rfl⟩, Success.bind_ok, merged, task_eq]
        rfl

end Action

namespace Bindings

theorem action?_of_mem {bindings : Bindings} {action : Action}
    (distinct : (bindings.actions.map Action.name).Nodup) (declared : action ∈ bindings.actions) :
    bindings.action? action.name = some action := by
  obtain ⟨found, isFound⟩ : ∃ found, bindings.action? action.name = some found := by
    rw [← Option.isSome_iff_exists, action?, List.find?_isSome]
    exact ⟨action, declared, beq_self_eq_true _⟩
  have same : found.name = action.name := by simpa using List.find?_some isFound
  rw [isFound, List.inj_on_of_nodup_map distinct (List.mem_of_find?_eq_some isFound) declared same]

/-- Names that no specification repeats are not repeated in the bindings. -/
theorem compiled_nodup {firstIdentity : Nat} {specification : Specification}
    {settings : Settings} {bindings : Bindings} (formed : specification.WellFormed)
    (compiled : compile firstIdentity specification settings = .ok bindings) :
    (bindings.actions.map Action.name).Nodup ∧ ∀ action ∈ bindings.actions,
      action.parameterNames.Nodup ∧ (Entries.keys action.staticVariables).Nodup := by
  obtain ⟨_, _, renders⟩ := renders_of_compile compiled
  have names : bindings.actions.map Action.name = Entries.keys specification.actions :=
    Success.map_eq_of_related renders fun _ _ rendered => rendered.name
  refine ⟨names.symm ▸ formed.actions, fun action declared => ?_⟩
  obtain ⟨entry, inEntries, rendered⟩ := Success.exists_source renders declared
  have parameters : action.parameterNames = Entries.keys entry.2.parameters :=
    Success.map_eq_of_related rendered.parameters fun _ _ rendered => rendered.name
  refine ⟨parameters ▸ formed.parameters entry inEntries, ?_⟩
  rw [rendered.staticVariables]
  cases given : entry.2.staticVariables with
  | none => exact List.nodup_nil
  | some mapping => exact (formed.staticVariables entry inEntries mapping given).keys

/--
Where no name is declared twice, every action is invoked just as it is declared, and nothing else
can come of it.
-/
theorem invoke_eq_iff_invoked {firstIdentity : Nat} {specification : Specification}
    {settings : Settings} {bindings : Bindings} {action : Action}
    (formed : specification.WellFormed)
    (compiled : Bindings.compile firstIdentity specification settings = .ok bindings)
    (declared : action ∈ bindings.actions) (arguments : Action.Arguments) (outcome : Bound Entity) :
    bindings.invoke action.name arguments = outcome ↔
      action.Invoked bindings.role bindings.taskAction arguments outcome := by
  obtain ⟨actionNames, each⟩ := compiled_nodup formed compiled
  obtain ⟨distinct, distinctStatic⟩ := each action declared
  have found : bindings.action? action.name = some action := action?_of_mem actionNames declared
  rw [← Action.invoke_eq_iff distinct distinctStatic, invoke, found]

end Bindings

namespace SwitchRole

def confPort : Action :=
  bindings.actions.head (by decide)

theorem confPort_declared : confPort ∈ bindings.actions :=
  List.head_mem _

/-- Of two ports the last one counts, and the number of the VLAN is read from its text. -/
def portArguments : Action.Arguments :=
  [("port", .text "swp1"), ("vlan_id", .text "12"), ("port", .text "swp2")]

theorem confPort_invoked :
    specification.WellFormed ∧
      Bindings.compile Catalogue.firstFreeIdentity specification {} = .ok bindings ∧
      confPort ∈ bindings.actions ∧
      confPort.Invoked "network-runner" "import_role" portArguments
        (.ok (confPort.taskWith "network-runner" "import_role"
          [("port", .text "swp2"), ("vlan_id", .integer 12), ("state", .text "present")])) :=
  have formed := specification_parsed.wellFormed
  ⟨formed, compile_eq_ok, confPort_declared,
    (Bindings.invoke_eq_iff_invoked formed compile_eq_ok confPort_declared portArguments _).mp rfl⟩

end SwitchRole

end NetworkAutomation
