/-
This file proves that a reserved name rejects a whole specification before anything else is judged.
-/

import Mathlib.Data.List.Lex
import NetworkAutomation.Proofs.Compilation

namespace NetworkAutomation

/-! ## Reserved words and the positions of names -/

/-- A word is reserved by the language of the specifications or by the settings. -/
def Settings.Reserves (settings : Settings) (name : String) : Prop :=
  name ∈ Naming.reservedWords ∨ name ∈ settings.reservedWords

instance (settings : Settings) (name : String) : Decidable (settings.Reserves name) :=
  inferInstanceAs (Decidable (_ ∨ _))

theorem Settings.isReserved_iff {settings : Settings} {name : String} :
    settings.isReserved name = true ↔ settings.Reserves name := by
  simp [isReserved, Naming.isReserved, Reserves]

/-- A specification declares a name at each of these positions. -/
inductive NamePosition where
  | validator (place : Nat)
  | model (place : Nat)
  | field (place slot : Nat)
  | fieldAlias (place slot nth : Nat)
  | action (place : Nat)
  | parameter (place slot : Nat)

namespace NamePosition

def sort : NamePosition → NamePlace
  | validator _ => .validator
  | model _ => .model
  | field _ _ => .field
  | fieldAlias _ _ _ => .fieldAlias
  | action _ => .action
  | parameter _ _ => .parameter

/--
Positions come in the lexicographic order of their addresses: all validators, then all models, then
all actions, and whatever a declaration contains comes right behind its own name.
-/
def address : NamePosition → List Nat
  | validator place => [0, place]
  | model place => [1, place]
  | field place slot => [1, place, slot]
  | fieldAlias place slot nth => [1, place, slot, nth]
  | action place => [2, place]
  | parameter place slot => [2, place, slot]

end NamePosition

namespace Specification

/-- The name that is declared at the position. -/
def nameAt? (specification : Specification) : NamePosition → Option String
  | .validator place => do
      let entry ← specification.validators[place]?
      return entry.1
  | .model place => do
      let entry ← specification.models[place]?
      return entry.1
  | .field place slot => do
      let entry ← specification.models[place]?
      let field ← entry.2[slot]?
      return field.1
  | .fieldAlias place slot nth => do
      let entry ← specification.models[place]?
      let field ← entry.2[slot]?
      let body ← field.2
      body.aliases[nth]?
  | .action place => do
      let entry ← specification.actions[place]?
      return entry.1
  | .parameter place slot => do
      let entry ← specification.actions[place]?
      let parameter ← entry.2.parameters[slot]?
      return parameter.1

/-- The name at the position is reserved, and no name at an earlier position is. -/
structure FirstReserved (specification : Specification) (settings : Settings)
    (position : NamePosition) (name : String) : Prop where
  declared : specification.nameAt? position = some name
  reserved : settings.Reserves name
  first : ∀ earlier other, earlier.address < position.address →
    specification.nameAt? earlier = some other → ¬ settings.Reserves other

end Specification

/-! ## Names in the order of their positions -/

namespace Positioned

variable {α : Type}

/-- The members in their order, each followed by what is inside it. -/
def numbered (head : Nat → α → NamePosition × String)
    (inner : Nat → α → List (NamePosition × String)) (members : List α) :
    List (NamePosition × String) :=
  (members.mapIdx fun place member => head place member :: inner place member).flatten

/-- The addresses increase, and they all lie below the same one. -/
structure Below (lead : List Nat) (names : List (NamePosition × String)) : Prop where
  increasing : names.Pairwise fun first second => first.1.address < second.1.address
  within : ∀ entry ∈ names, ∃ place rest, entry.1.address = lead ++ place :: rest

theorem Below.nil (lead : List Nat) : Below lead [] :=
  ⟨.nil, fun _ member => absurd member List.not_mem_nil⟩

theorem Below.before {first second : Nat} {names others : List (NamePosition × String)}
    (left : Below [first] names) (right : Below [second] others) (less : first < second) :
    ∀ entry ∈ names, ∀ other ∈ others, entry.1.address < other.1.address := by
  intro entry inNames other inOthers
  obtain ⟨place, rest, same⟩ := left.within entry inNames
  obtain ⟨next, remaining, alike⟩ := right.within other inOthers
  rw [same, alike]
  exact List.cons_lt_cons_iff.mpr (.inl less)

variable {head : Nat → α → NamePosition × String}
  {inner : Nat → α → List (NamePosition × String)} {members : List α}

theorem mem_numbered_iff {entry : NamePosition × String} :
    entry ∈ numbered head inner members ↔ ∃ place member, members[place]? = some member ∧
      (head place member = entry ∨ entry ∈ inner place member) := by
  simp only [numbered, List.mem_flatten, List.mem_mapIdx]
  constructor
  · rintro ⟨_, ⟨place, inRange, rfl⟩, member⟩
    refine ⟨place, members[place], List.getElem?_eq_getElem inRange, ?_⟩
    exact (List.mem_cons.mp member).imp Eq.symm id
  · rintro ⟨place, member, placed, found⟩
    obtain ⟨inRange, rfl⟩ := List.getElem?_eq_some_iff.mp placed
    exact ⟨_, ⟨place, inRange, rfl⟩, List.mem_cons.mpr (found.imp Eq.symm id)⟩

/-- Members that are numbered below an address leave room for what is inside them. -/
theorem below_numbered {lead : List Nat}
    (heads : ∀ place member, (head place member).1.address = lead ++ [place])
    (inners : ∀ place member, Below (lead ++ [place]) (inner place member)) :
    Below lead (numbered head inner members) := by
  have inBlock : ∀ place member, ∀ entry ∈ head place member :: inner place member,
      ∃ rest, entry.1.address = lead ++ place :: rest := by
    intro place member entry found
    rcases List.mem_cons.mp found with rfl | inside
    · exact ⟨[], heads place member⟩
    · obtain ⟨next, rest, same⟩ := (inners place member).within entry inside
      exact ⟨next :: rest, by rw [same, List.append_assoc, List.singleton_append]⟩
  constructor
  · rw [numbered, List.pairwise_flatten]
    constructor
    · intro block found
      obtain ⟨place, inRange, rfl⟩ := List.mem_mapIdx.mp found
      rw [List.pairwise_cons]
      refine ⟨fun entry inside => ?_, (inners place members[place]).increasing⟩
      obtain ⟨next, rest, same⟩ := (inners place members[place]).within entry inside
      have longer : lead ++ [place] ++ [] < lead ++ [place] ++ next :: rest :=
        List.append_left_lt (List.nil_lt_cons next rest)
      rwa [List.append_nil, ← same, ← heads place members[place]] at longer
    · rw [List.pairwise_iff_getElem]
      intro first second firstRange secondRange before entry inFirst other inSecond
      rw [List.getElem_mapIdx] at inFirst inSecond
      obtain ⟨rest, same⟩ := inBlock first _ entry inFirst
      obtain ⟨others, alike⟩ := inBlock second _ other inSecond
      rw [same, alike]
      exact List.append_left_lt (List.cons_lt_cons_iff.mpr (.inl before))
  · intro entry found
    obtain ⟨place, member, _, inside⟩ := mem_numbered_iff.mp found
    exact ⟨place, inBlock place member entry (List.mem_cons.mpr (inside.imp Eq.symm id))⟩

theorem map_numbered {β : Type} {result : NamePosition × String → β} {plain : α → List β}
    (same : ∀ place member,
      result (head place member) :: (inner place member).map result = plain member) :
    (numbered head inner members).map result = members.flatMap plain := by
  have blocks : members.mapIdx (fun place member =>
      (head place member :: inner place member).map result) = members.map plain := by
    apply List.ext_getElem
    · simp
    · intro place inRange _
      simp only [List.getElem_mapIdx, List.getElem_map, List.map_cons, same]
  rw [numbered, List.map_flatten, List.flatMap_def, ← blocks]
  congr 1
  apply List.ext_getElem
  · simp
  · intro place inRange _
    simp only [List.getElem_map, List.getElem_mapIdx]

theorem map_numbered_leaf {β : Type} {result : NamePosition × String → β} {plain : α → β}
    (same : ∀ place member, result (head place member) = plain member) :
    (numbered head (fun _ _ => []) members).map result = members.map plain := by
  rw [List.map_eq_flatMap (f := plain)]
  apply map_numbered
  intro place member
  rw [same, List.map_nil]

def aliasesAt (place slot : Nat) (aliases : List String) : List (NamePosition × String) :=
  numbered (fun nth name => (.fieldAlias place slot nth, name)) (fun _ _ => []) aliases

def fieldsAt (place : Nat) (fields : List (String × Option FieldSpecification)) :
    List (NamePosition × String) :=
  numbered (fun slot entry => (.field place slot, entry.1))
    (fun slot entry => aliasesAt place slot ((entry.2.map FieldSpecification.aliases).getD []))
    fields

def parametersAt (place : Nat) (parameters : List (String × Option ParameterSpecification)) :
    List (NamePosition × String) :=
  numbered (fun slot entry => (.parameter place slot, entry.1)) (fun _ _ => []) parameters

/-- All names of the specification with their positions. -/
def names (specification : Specification) : List (NamePosition × String) :=
  numbered (fun place entry => (.validator place, entry.1)) (fun _ _ => [])
      specification.validators ++
    (numbered (fun place entry => (.model place, entry.1))
      (fun place entry => fieldsAt place entry.2) specification.models ++
    numbered (fun place entry => (.action place, entry.1))
      (fun place entry => parametersAt place entry.2.parameters) specification.actions)

theorem mem_names_iff {specification : Specification} {position : NamePosition} {name : String} :
    (position, name) ∈ names specification ↔ specification.nameAt? position = some name := by
  simp only [names, fieldsAt, aliasesAt, parametersAt, List.mem_append, mem_numbered_iff,
    Prod.mk.injEq, List.not_mem_nil, or_false]
  cases position with
  | fieldAlias place slot nth =>
      have aliased (body : Option FieldSpecification) :
          ((body.map FieldSpecification.aliases).getD [])[nth]? =
            body.bind fun given => given.aliases[nth]? := by
        cases body <;> rfl
      simp [Specification.nameAt?, Option.bind_eq_some_iff, aliased]
  | _ =>
      simp [Specification.nameAt?, Option.bind_eq_some_iff]

theorem names_increasing (specification : Specification) :
    (names specification).Pairwise fun first second => first.1.address < second.1.address := by
  have validators : Below [0] (numbered (fun place entry => (.validator place, entry.1))
      (fun _ _ => []) specification.validators) :=
    below_numbered (fun _ _ => rfl) fun _ _ => Below.nil _
  have models : Below [1] (numbered (fun place entry => (.model place, entry.1))
      (fun place entry => fieldsAt place entry.2) specification.models) :=
    below_numbered (fun _ _ => rfl) fun _ _ => below_numbered (fun _ _ => rfl) fun _ _ =>
      below_numbered (fun _ _ => rfl) fun _ _ => Below.nil _
  have actions : Below [2] (numbered (fun place entry => (.action place, entry.1))
      (fun place entry => parametersAt place entry.2.parameters) specification.actions) :=
    below_numbered (fun _ _ => rfl) fun _ _ => below_numbered (fun _ _ => rfl) fun _ _ =>
      Below.nil _
  rw [names, List.pairwise_append, List.pairwise_append]
  refine ⟨validators.increasing, ⟨models.increasing, actions.increasing, ?_⟩, ?_⟩
  · exact models.before actions (by decide)
  · intro entry inValidators other later
    rcases List.mem_append.mp later with inModels | inActions
    · exact validators.before models (by decide) entry inValidators other inModels
    · exact validators.before actions (by decide) entry inValidators other inActions

theorem map_names (specification : Specification) :
    (names specification).map (fun entry => (entry.2, entry.1.sort)) =
      Compile.declaredNames specification := by
  rw [names, List.map_append, List.map_append, Compile.declaredNames, List.append_assoc]
  congr 1
  · exact map_numbered_leaf fun _ _ => rfl
  congr 1
  · apply map_numbered
    intro place entry
    congr 1
    apply map_numbered
    intro slot field
    congr 1
    exact map_numbered_leaf fun _ _ => rfl
  · apply map_numbered
    intro place entry
    congr 1
    exact map_numbered_leaf fun _ _ => rfl

end Positioned

/-! ## The gate -/

namespace Compile

variable {specification : Specification} {settings : Settings} {position : NamePosition}
  {name : String}

/-- The search in the order of the addresses stops at the first reserved name. -/
theorem find?_names_eq_some_iff :
    (Positioned.names specification).find? (fun entry => settings.isReserved entry.2) =
      some (position, name) ↔ specification.FirstReserved settings position name := by
  have increasing := Positioned.names_increasing specification
  rw [List.find?_eq_some_iff_append, Settings.isReserved_iff]
  constructor
  · rintro ⟨reserved, before, after, split, spared⟩
    refine ⟨Positioned.mem_names_iff.mp (by simp [split]), reserved, ?_⟩
    intro earlier other less declared
    rw [split, List.pairwise_append, List.pairwise_cons] at increasing
    have member := Positioned.mem_names_iff.mpr declared
    rw [split, List.mem_append, List.mem_cons] at member
    rcases member with inBefore | same | inAfter
    · simpa [← Settings.isReserved_iff] using spared (earlier, other) inBefore
    · obtain ⟨rfl, rfl⟩ := Prod.mk.inj same
      exact absurd less (List.lt_irrefl _)
    · exact absurd less (List.lt_asymm (increasing.2.1.1 (earlier, other) inAfter))
  · intro isFirst
    obtain ⟨before, after, split⟩ :=
      List.append_of_mem (Positioned.mem_names_iff.mpr isFirst.declared)
    refine ⟨isFirst.reserved, before, after, split, fun entry inBefore => ?_⟩
    rw [split, List.pairwise_append] at increasing
    have less := increasing.2.2 entry inBefore (position, name) List.mem_cons_self
    have declared : specification.nameAt? entry.1 = some entry.2 :=
      Positioned.mem_names_iff.mp (by simp [split, inBefore])
    simpa [← Settings.isReserved_iff] using isFirst.first entry.1 entry.2 less declared

theorem checkReserved_eq (specification : Specification) (settings : Settings) :
    checkReserved specification settings =
      match (Positioned.names specification).find? fun entry => settings.isReserved entry.2 with
      | some (position, name) => .error (.reservedName name position.sort)
      | none => .ok () := by
  have mapped : (declaredNames specification).find? (fun entry => settings.isReserved entry.1) =
      ((Positioned.names specification).find? fun entry => settings.isReserved entry.2).map
        fun entry => (entry.2, entry.1.sort) := by
    rw [← Positioned.map_names, List.find?_map]
    rfl
  rw [checkReserved, mapped]
  cases (Positioned.names specification).find? fun entry => settings.isReserved entry.2 <;> rfl

theorem checkReserved_eq_error_of_first
    (isFirst : specification.FirstReserved settings position name) :
    checkReserved specification settings = .error (.reservedName name position.sort) := by
  rw [checkReserved_eq, find?_names_eq_some_iff.mpr isFirst]

/-- Where any declared name is reserved there is a first one. -/
theorem exists_firstReserved (declared : specification.nameAt? position = some name)
    (reserved : settings.Reserves name) :
    ∃ first winner, specification.FirstReserved settings first winner := by
  have found : ((Positioned.names specification).find?
      fun entry => settings.isReserved entry.2).isSome = true := by
    rw [List.find?_isSome]
    exact ⟨(position, name), Positioned.mem_names_iff.mpr declared,
      Settings.isReserved_iff.mpr reserved⟩
  obtain ⟨⟨first, winner⟩, isFound⟩ := Option.isSome_iff_exists.mp found
  exact ⟨first, winner, find?_names_eq_some_iff.mp isFound⟩

theorem spared_of_checkReserved (passed : checkReserved specification settings = .ok ())
    (declared : specification.nameAt? position = some name) : ¬ settings.Reserves name := by
  intro reserved
  obtain ⟨first, winner, isFirst⟩ := exists_firstReserved declared reserved
  rw [checkReserved_eq_error_of_first isFirst] at passed
  contradiction

end Compile

/-! ## Names in compiled bindings -/

namespace Bindings

/-- No name in the bindings is reserved, and no entity of a model can be reached by one. -/
structure Spares (bindings : Bindings) (settings : Settings) : Prop where
  validators : ∀ entry ∈ bindings.validators, ¬ settings.Reserves entry.1
  models : ∀ entry ∈ bindings.models,
    ¬ settings.Reserves entry.1 ∧ ¬ settings.Reserves entry.2.name
  fields : ∀ entry ∈ bindings.models, ∀ field ∈ entry.2.attributes,
    ¬ settings.Reserves field.name ∧ ∀ name ∈ field.aliases, ¬ settings.Reserves name
  actions : ∀ action ∈ bindings.actions, ¬ settings.Reserves action.name
  parameters : ∀ action ∈ bindings.actions, ∀ parameter ∈ action.parameters,
    ¬ settings.Reserves parameter.name

end Bindings

namespace Specification

variable {specification : Specification}

/-- Some position of the specification declares the name. -/
def Declares (specification : Specification) (name : String) : Prop :=
  ∃ position, specification.nameAt? position = some name

theorem declares_validator {entry : String × ValidatorSpecification}
    (member : entry ∈ specification.validators) : specification.Declares entry.1 := by
  obtain ⟨place, placed⟩ := List.mem_iff_getElem?.mp member
  exact ⟨.validator place, by simp [nameAt?, placed]⟩

section Models

variable {entry : String × List (String × Option FieldSpecification)}
  {field : String × Option FieldSpecification}

theorem declares_model (member : entry ∈ specification.models) :
    specification.Declares entry.1 := by
  obtain ⟨place, placed⟩ := List.mem_iff_getElem?.mp member
  exact ⟨.model place, by simp [nameAt?, placed]⟩

theorem declares_field (member : entry ∈ specification.models) (inside : field ∈ entry.2) :
    specification.Declares field.1 := by
  obtain ⟨place, placed⟩ := List.mem_iff_getElem?.mp member
  obtain ⟨slot, slotted⟩ := List.mem_iff_getElem?.mp inside
  exact ⟨.field place slot, by simp [nameAt?, placed, slotted]⟩

theorem declares_alias (member : entry ∈ specification.models) (inside : field ∈ entry.2)
    {name : String} (named : name ∈ (FieldSpecification.ofBody field.2).aliases) :
    specification.Declares name := by
  obtain ⟨place, placed⟩ := List.mem_iff_getElem?.mp member
  obtain ⟨slot, slotted⟩ := List.mem_iff_getElem?.mp inside
  obtain ⟨nth, found⟩ := List.mem_iff_getElem?.mp named
  obtain ⟨own, body⟩ := field
  cases body with
  | none => exact absurd named List.not_mem_nil
  | some body => exact ⟨.fieldAlias place slot nth, by
      simpa [nameAt?, placed, slotted, FieldSpecification.ofBody] using found⟩

end Models

theorem declares_action {entry : String × ActionSpecification}
    (member : entry ∈ specification.actions) : specification.Declares entry.1 := by
  obtain ⟨place, placed⟩ := List.mem_iff_getElem?.mp member
  exact ⟨.action place, by simp [nameAt?, placed]⟩

theorem declares_parameter {entry : String × ActionSpecification}
    {parameter : String × Option ParameterSpecification}
    (member : entry ∈ specification.actions) (inside : parameter ∈ entry.2.parameters) :
    specification.Declares parameter.1 := by
  obtain ⟨place, placed⟩ := List.mem_iff_getElem?.mp member
  obtain ⟨slot, slotted⟩ := List.mem_iff_getElem?.mp inside
  exact ⟨.parameter place slot, by simp [nameAt?, placed, slotted]⟩

end Specification

namespace Bindings

variable {firstIdentity : Nat} {specification : Specification} {settings : Settings}
  {bindings : Bindings}

/-- Compiled names are declared names, so what spares these spares the bindings. -/
theorem spares_of_declared
    (compiled : Bindings.compile firstIdentity specification settings = .ok bindings)
    (spared : ∀ name, specification.Declares name → ¬ settings.Reserves name) :
    bindings.Spares settings := by
  obtain ⟨validators, models, actions⟩ := Bindings.renders_of_compile compiled
  constructor
  · intro entry member
    obtain ⟨declared, inside, renders⟩ := Success.exists_source validators member
    rw [renders.name]
    exact spared _ (Specification.declares_validator inside)
  · intro entry member
    obtain ⟨declared, inside, renders⟩ := Success.exists_source models member
    rw [renders.name, renders.typeName]
    exact ⟨spared _ (Specification.declares_model inside),
      spared _ (Specification.declares_model inside)⟩
  · intro entry member field inFields
    obtain ⟨declared, inside, renders⟩ := Success.exists_source models member
    obtain ⟨body, inBodies, rendered⟩ := Success.exists_source renders.fields inFields
    rw [rendered.name, rendered.aliases]
    exact ⟨spared _ (Specification.declares_field inside inBodies),
      fun name named => spared name (Specification.declares_alias inside inBodies named)⟩
  · intro action member
    obtain ⟨declared, inside, renders⟩ := Success.exists_source actions member
    rw [renders.name]
    exact spared _ (Specification.declares_action inside)
  · intro action member parameter inParameters
    obtain ⟨declared, inside, renders⟩ := Success.exists_source actions member
    obtain ⟨body, inBodies, rendered⟩ := Success.exists_source renders.parameters inParameters
    rw [rendered.name]
    exact spared _ (Specification.declares_parameter inside inBodies)

/--
The first reserved name is reported whatever else is wrong, and what is compiled holds no reserved
name at all.
-/
theorem compile_gates_names (firstIdentity : Nat) (specification : Specification)
    (settings : Settings) :
    (∀ position name, specification.nameAt? position = some name → settings.Reserves name →
      ∃ first winner, specification.FirstReserved settings first winner ∧
        Bindings.compile firstIdentity specification settings =
          .error (.reservedName winner first.sort)) ∧
    ∀ bindings, Bindings.compile firstIdentity specification settings = .ok bindings →
      (∀ position name, specification.nameAt? position = some name → ¬ settings.Reserves name) ∧
        bindings.Spares settings := by
  constructor
  · intro position name declared reserved
    obtain ⟨first, winner, isFirst⟩ := Compile.exists_firstReserved declared reserved
    refine ⟨first, winner, isFirst, ?_⟩
    rw [Bindings.compile, Compile.tables, Compile.checkReserved_eq_error_of_first isFirst]
    rfl
  · intro bindings compiled
    obtain ⟨tables, taken, _⟩ := Success.bind_eq_ok.mp compiled
    obtain ⟨passed, _⟩ := Success.check_bind_eq_ok.mp taken
    have spared : ∀ position name, specification.nameAt? position = some name →
        ¬ settings.Reserves name :=
      fun position name declared => Compile.spared_of_checkReserved passed declared
    refine ⟨spared, spares_of_declared compiled ?_⟩
    rintro name ⟨position, declared⟩
    exact spared position name declared

end Bindings

namespace SwitchRole

/-- The validator's kind and the parameter's type are unknown, and an alias is reserved. -/
def flawed : Specification where
  validators := [("even", ⟨"parity", []⟩)]
  models := [("vlan", [("id", some { type := some "int", aliases := ["tag", "class"] })])]
  actions := [("import", { parameters := [("vlan", some { type := some "route" })] })]

/-- The alias stands before the action, whose name is reserved as well. -/
theorem flawed_gated :
    (∃ first winner, flawed.FirstReserved {} first winner ∧
      Bindings.compile Catalogue.firstFreeIdentity flawed {} =
        .error (.reservedName winner first.sort)) ∧
      Bindings.compile Catalogue.firstFreeIdentity flawed {} =
        .error (.reservedName "class" .fieldAlias) ∧
      bindings.Spares {} := by
  have imported : flawed.nameAt? (.action 0) = some "import" := rfl
  have gated := Bindings.compile_gates_names Catalogue.firstFreeIdentity flawed {}
  have passed := Bindings.compile_gates_names Catalogue.firstFreeIdentity specification {}
  exact ⟨gated.1 (.action 0) "import" imported (by decide), rfl,
    (passed.2 bindings compile_eq_ok).2⟩

end SwitchRole

end NetworkAutomation
