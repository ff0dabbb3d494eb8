/-
This file proves that leaving out an argument with a default is the same as giving its default.
-/

import NetworkAutomation.Proofs.Invocation
import NetworkAutomation.Proofs.ModelIdentity

namespace NetworkAutomation

/-- A plain parameter holds no entity. -/
def ParameterType.IsPlain (type : ParameterType) : Prop :=
  ∀ name item, type ≠ .model name item

namespace Bindings

/--
The value may stand as the last one under the name of the parameter, or null may stand there. Where
no other argument has the name, the argument may be left out as well.
-/
structure GivenAsOmitted (bindings : Bindings) (action : Action) (parameter : Parameter)
    (value : Value) : Prop where
  null : ∀ before after, (∀ later ∈ after, later.1 ≠ parameter.name) →
    bindings.invoke action.name (before ++ (parameter.name, value) :: after) =
      bindings.invoke action.name (before ++ (parameter.name, .null) :: after)
  omitted : ∀ before after, (∀ other ∈ before ++ after, other.1 ≠ parameter.name) →
    bindings.invoke action.name (before ++ (parameter.name, value) :: after) =
      bindings.invoke action.name (before ++ after)

/-- A default counts as it was declared, null declares none, and checking twice changes nothing. -/
structure HonoursDefaults (bindings : Bindings) (specification : Specification) : Prop where
  default : ∀ declared action parameter document,
    bindings.HasParameter specification declared action parameter →
    declared.default = some document → document ≠ .null →
    ∃ stored, parameter.default = some stored ∧
      (parameter.type.IsPlain →
        bindings.GivenAsOmitted action parameter (Value.ofDocument stored)) ∧
      ∀ name type, parameter.type = .model name type → ∃ entries entity,
        document = .mapping entries ∧ type.read entries = .ok entity ∧
        stored = entity.toDocument ∧ bindings.GivenAsOmitted action parameter (.object entity)
  unset : ∀ declared action parameter,
    bindings.HasParameter specification declared action parameter →
    declared.default = some .null → parameter.default = none
  null : ∀ action ∈ bindings.actions, ∀ parameter ∈ action.parameters,
    bindings.GivenAsOmitted action parameter .null
  again : ∀ action ∈ bindings.actions, ∀ parameter ∈ action.parameters, parameter.type.IsPlain →
    ∀ value document, parameter.check action.name value = .ok document →
      parameter.check action.name (Value.ofDocument document) = .ok document

end Bindings

/-! ## Checking twice -/

namespace ParameterType

variable {type : ParameterType} {value coerced : Value}

/-- An entity is taken as it is. -/
theorem coerce?_model_eq_some {name : String} {item : EntityType}
    (fits : (ParameterType.model name item).coerce? value = some coerced) :
    ∃ entity, value = .object entity ∧ coerced = value := by
  cases value with
  | object entity =>
      rw [coerce?, Option.ite_none_right_eq_some] at fits
      exact ⟨entity, rfl, (Option.some.inj fits.2).symm⟩
  | _ => simp [coerce?] at fits

/-- Whatever is made of an argument is of the kind of the parameter. -/
theorem primitive?_of_coerce? (fits : type.coerce? value = some coerced) :
    coerced.primitive? = some type.primitive := by
  cases type with
  | model name item =>
      obtain ⟨entity, rfl, rfl⟩ := coerce?_model_eq_some fits
      rfl
  | text => cases value <;> cases fits <;> rfl
  | integer =>
      cases value with
      | integer word => cases fits; rfl
      | text value =>
          obtain ⟨word, _, rfl⟩ := Option.map_eq_some_iff.mp fits
          rfl
      | _ => exact nomatch fits
  | boolean =>
      cases value with
      | boolean value => cases fits; rfl
      | text value =>
          obtain ⟨read, _, rfl⟩ := Option.map_eq_some_iff.mp fits
          rfl
      | _ => exact nomatch fits
  | list => cases value <;> cases fits; rfl
  | dict => cases value <;> cases fits; rfl

/-- A plain value of the kind is read back from its document, and the type takes it as it is. -/
theorem coerce?_of_primitive? (plain : type.IsPlain)
    (kind : value.primitive? = some type.primitive) :
    Value.ofDocument value.toDocument = value ∧ type.coerce? value = some value := by
  cases type with
  | model name item => exact absurd rfl (plain name item)
  | integer =>
      cases value with
      | integer word => exact ⟨Value.ofDocument_word word, rfl⟩
      | _ => exact nomatch kind
  | _ => cases value <;> first | exact ⟨rfl, rfl⟩ | exact nomatch kind

/-- A model parameter takes its default from a mapping that its type reads. -/
theorem valueOf?_model_eq_some {name : String} {item : EntityType} {document : Document}
    {entity : Entity}
    (given : (ParameterType.model name item).valueOf? document = some (.object entity)) :
    ∃ entries, document = .mapping entries ∧ item.read entries = .ok entity := by
  cases document with
  | mapping entries =>
      rw [valueOf?, Option.map_eq_some_iff] at given
      obtain ⟨read, taken, same⟩ := given
      obtain rfl := Value.object.inj same
      cases outcome : item.read entries with
      | ok own =>
          rw [outcome] at taken
          obtain rfl := Option.some.inj taken
          exact ⟨entries, rfl, outcome⟩
      | error refusal =>
          rw [outcome] at taken
          cases taken
  | number number =>
      have same : Value.ofNumber number = .object entity := Option.some.inj given
      unfold Value.ofNumber at same
      split at same
      next => split at same <;> cases same
      next => cases same
  | _ => cases given

end ParameterType

namespace Parameter

variable {parameter : Parameter} {action : String} {value : Value} {document : Document}

theorem check_again (plain : parameter.type.IsPlain)
    (accepted : parameter.check action value = .ok document) :
    parameter.check action (Value.ofDocument document) = .ok document := by
  obtain ⟨coerced, fits, judged, rfl⟩ := Compile.check_eq_ok.mp accepted
  obtain ⟨same, taken⟩ :=
    ParameterType.coerce?_of_primitive? plain (ParameterType.primitive?_of_coerce? fits)
  rw [same]
  exact Compile.check_eq_ok.mpr ⟨coerced, taken, judged, rfl⟩

theorem ne_null_of_check (accepted : parameter.check action value = .ok document) :
    value ≠ .null := by
  rintro rfl
  obtain ⟨coerced, fits, _⟩ := Compile.check_eq_ok.mp accepted
  cases parameter.type <;> simp [ParameterType.coerce?] at fits

end Parameter

/-! ## Arguments that come to the same -/

namespace Action

variable {action : Action} {parameter : Parameter} {first second before after : Arguments}
  {role taskAction : String}

theorem collect_congr {parameters : List Parameter}
    (settled : ∀ parameter ∈ parameters,
      action.argument? first parameter = action.argument? second parameter) :
    action.collect first parameters = action.collect second parameters := by
  induction parameters with
  | nil => rfl
  | cons head rest ih =>
      obtain ⟨same, others⟩ := List.forall_mem_cons.mp settled
      rw [collect, collect, same, ih others]

/-- Only the parameter under the name can tell two lists apart that differ in nothing else. -/
theorem invoke_congr (distinct : action.parameterNames.Nodup)
    (declared : parameter ∈ action.parameters)
    (names : action.checkNames first = action.checkNames second)
    (others : ∀ name, name ≠ parameter.name → given? first name = given? second name)
    (own : action.argument? first parameter = action.argument? second parameter) :
    action.invoke role taskAction first = action.invoke role taskAction second := by
  have settled : ∀ each ∈ action.parameters,
      action.argument? first each = action.argument? second each := by
    intro each member
    by_cases same : each.name = parameter.name
    · rw [List.inj_on_of_nodup_map distinct member declared same]
      exact own
    · rw [argument?, argument?, others each.name same]
  rw [invoke, invoke, names, collect_congr settled]

/-- An argument with the name of a parameter is never an unknown one. -/
theorem checkNames_insert {name : String} (known : name ∈ action.parameterNames) (value : Value) :
    action.checkNames (before ++ (name, value) :: after) = action.checkNames (before ++ after) := by
  have found : (action.parameter? name).isNone = false := by
    rw [← Bool.not_eq_true, parameter?_isNone_iff, not_not]
    exact known
  simp only [checkNames, List.find?_append, List.find?_cons, found]

theorem given?_insert_of_ne {name other : String} (different : other ≠ name) (value : Value) :
    given? (before ++ (name, value) :: after) other = given? (before ++ after) other := by
  simp [given?, List.find?_append, different.symm]

/-- An argument takes what is given last, if the parameter accepts it. -/
theorem argument?_of_check {value : Value} {document : Document}
    (last : ∀ later ∈ after, later.1 ≠ parameter.name)
    (accepted : parameter.check action.name value = .ok document) :
    action.argument? (before ++ (parameter.name, value) :: after) parameter =
      .ok (some document) :=
  argument?_eq_iff.mpr (.accepted ⟨⟨before, after, rfl, last⟩, Parameter.ne_null_of_check accepted⟩
    (Parameter.check_eq_iff.mp accepted))

theorem given?_null {name : String} (last : ∀ later ∈ after, later.1 ≠ name) :
    given? (before ++ (name, .null) :: after) name = none :=
  given?_eq_none_iff.mpr (.inl ⟨before, after, rfl, last⟩)

theorem given?_omitted {name : String} (absent : ∀ other ∈ before ++ after, other.1 ≠ name) :
    given? (before ++ after) name = none :=
  given?_eq_none_iff.mpr (.inr absent)

theorem argument?_of_default {document : Document} (default : parameter.default = some document)
    (nothing : given? first parameter.name = none) :
    action.argument? first parameter = .ok (some document) := by
  rw [argument?, nothing, default]

end Action

/-! ## Compiled bindings -/

namespace Bindings

variable {firstIdentity : Nat} {specification : Specification} {settings : Settings}
  {bindings : Bindings} {action : Action} {parameter : Parameter}

/-- Two lists of arguments that one parameter settles alike come to the same. -/
theorem invoke_congr (formed : specification.WellFormed)
    (compiled : compile firstIdentity specification settings = .ok bindings)
    (isAction : action ∈ bindings.actions) (declared : parameter ∈ action.parameters)
    {first second : Action.Arguments}
    (names : action.checkNames first = action.checkNames second)
    (others : ∀ name, name ≠ parameter.name → Action.given? first name = Action.given? second name)
    (own : action.argument? first parameter = action.argument? second parameter) :
    bindings.invoke action.name first = bindings.invoke action.name second := by
  obtain ⟨actionNames, each⟩ := compiled_nodup formed compiled
  obtain ⟨parameterNames, _⟩ := each action isAction
  rw [invoke, invoke, action?_of_mem actionNames isAction]
  exact Action.invoke_congr parameterNames declared names others own

/-- An argument may be left out if its parameter settles alike without it. -/
theorem invoke_insert (formed : specification.WellFormed)
    (compiled : compile firstIdentity specification settings = .ok bindings)
    (isAction : action ∈ bindings.actions) (declared : parameter ∈ action.parameters)
    {before after : Action.Arguments} {value : Value}
    (own : action.argument? (before ++ (parameter.name, value) :: after) parameter =
      action.argument? (before ++ after) parameter) :
    bindings.invoke action.name (before ++ (parameter.name, value) :: after) =
      bindings.invoke action.name (before ++ after) :=
  invoke_congr formed compiled isAction declared
    (Action.checkNames_insert (List.mem_map_of_mem declared) value)
    (fun _ different => Action.given?_insert_of_ne different value) own

theorem givenAsOmitted_of_check (formed : specification.WellFormed)
    (compiled : compile firstIdentity specification settings = .ok bindings)
    (isAction : action ∈ bindings.actions) (declared : parameter ∈ action.parameters)
    {stored : Document} (default : parameter.default = some stored) {value : Value}
    (accepted : parameter.check action.name value = .ok stored) :
    bindings.GivenAsOmitted action parameter value where
  null before after last := by
    have known : parameter.name ∈ action.parameterNames := List.mem_map_of_mem declared
    refine invoke_congr formed compiled isAction declared ?_ (fun name different => ?_) ?_
    · rw [Action.checkNames_insert known, Action.checkNames_insert known]
    · rw [Action.given?_insert_of_ne different, Action.given?_insert_of_ne different]
    · rw [Action.argument?_of_check last accepted,
        Action.argument?_of_default default (Action.given?_null last)]
  omitted before after absent := by
    have last : ∀ later ∈ after, later.1 ≠ parameter.name := fun later member =>
      absent later (List.mem_append_right _ member)
    apply invoke_insert formed compiled isAction declared
    rw [Action.argument?_of_check last accepted,
      Action.argument?_of_default default (Action.given?_omitted absent)]

theorem givenAsOmitted_null (formed : specification.WellFormed)
    (compiled : compile firstIdentity specification settings = .ok bindings)
    (isAction : action ∈ bindings.actions) (declared : parameter ∈ action.parameters) :
    bindings.GivenAsOmitted action parameter .null where
  null _ _ _ := rfl
  omitted before after absent := by
    have last : ∀ later ∈ after, later.1 ≠ parameter.name := fun later member =>
      absent later (List.mem_append_right _ member)
    apply invoke_insert formed compiled isAction declared
    rw [Action.argument?, Action.argument?, Action.given?_null last, Action.given?_omitted absent]

/-- The parameter is one of its action, and it renders its declaration. -/
theorem HasParameter.renders
    (compiled : compile firstIdentity specification settings = .ok bindings)
    {declared : ParameterSpecification}
    (has : bindings.HasParameter specification declared action parameter) :
    action ∈ bindings.actions ∧ parameter ∈ action.parameters ∧
      declared.DeclaresDefault parameter := by
  obtain ⟨_, _, actions⟩ := renders_of_compile compiled
  obtain ⟨place, slot, name, entry, placed, made, inParameters, stored⟩ := has
  obtain ⟨own, ownMade, rendered⟩ := exists_related actions placed
  obtain rfl := Option.some.inj (ownMade.symm.trans made)
  obtain ⟨result, ownStored, renders⟩ := exists_related rendered.parameters inParameters
  obtain rfl := Option.some.inj (ownStored.symm.trans stored)
  exact ⟨List.mem_of_getElem? made, List.mem_of_getElem? stored, renders.default⟩

/-- Leaving out an argument is the same as giving its default, whatever else is given. -/
theorem honoursDefaults_of_compile (formed : specification.WellFormed)
    (compiled : compile firstIdentity specification settings = .ok bindings) :
    bindings.HonoursDefaults specification where
  default declared action parameter document has written notNull := by
    obtain ⟨isAction, isParameter, declaresDefault⟩ := has.renders compiled
    cases declaresDefault with
    | missing unset =>
        rw [written] at unset
        exact absurd unset notNull
    | @coerced own value coerced written' _ given fits judged taken =>
        obtain rfl := Option.some.inj (written'.symm.trans written)
        have accepted : parameter.check action.name value = .ok coerced.toDocument :=
          Compile.check_eq_ok.mpr ⟨coerced, fits, judged, rfl⟩
        refine ⟨coerced.toDocument, taken, fun plain => ?_, fun name type isModel => ?_⟩
        · exact givenAsOmitted_of_check formed compiled isAction isParameter taken
            (Parameter.check_again plain accepted)
        · rw [isModel] at given fits
          obtain ⟨entity, rfl, rfl⟩ := ParameterType.coerce?_model_eq_some fits
          obtain ⟨entries, rfl, read⟩ := ParameterType.valueOf?_model_eq_some given
          exact ⟨entries, entity, rfl, read, rfl,
            givenAsOmitted_of_check formed compiled isAction isParameter taken accepted⟩
  unset declared action parameter has written := by
    obtain ⟨_, _, declaresDefault⟩ := has.renders compiled
    cases declaresDefault with
    | missing _ taken => exact taken
    | coerced other notNull => exact absurd (Option.some.inj (other.symm.trans written)) notNull
  null action isAction parameter isParameter :=
    givenAsOmitted_null formed compiled isAction isParameter
  again action _ parameter _ plain _ _ accepted := Parameter.check_again plain accepted

end Bindings

namespace SwitchRole

def vlanNumber : Parameter :=
  confPort.parameters[1]

/-- The number of the VLAN is declared with a text as its default. -/
theorem vlanNumber_declared :
    bindings.HasParameter specification
      { type := some "int", default := some (.text "1"), validators := ["vlan_range"] }
      confPort vlanNumber :=
  ⟨0, 1, "vlan_id", _, rfl, rfl, rfl, rfl⟩

theorem vlanNumber_omitted :
    specification.WellFormed ∧
      Bindings.compile Catalogue.firstFreeIdentity specification {} = .ok bindings ∧
      bindings.invoke "conf_port" [("port", .text "swp1"), ("vlan_id", .integer 1)] =
        bindings.invoke "conf_port" [("port", .text "swp1")] := by
  have formed := specification_parsed.wellFormed
  refine ⟨formed, compile_eq_ok, ?_⟩
  obtain ⟨stored, taken, plain, _⟩ := (Bindings.honoursDefaults_of_compile formed
    compile_eq_ok).default _ _ _ _ vlanNumber_declared rfl Document.noConfusion
  obtain rfl : Document.word 1 = stored := Option.some.inj taken
  have omitted := (plain fun _ _ => ParameterType.noConfusion).omitted [("port", .text "swp1")] []
    (by decide)
  exact omitted

end SwitchRole

end NetworkAutomation
