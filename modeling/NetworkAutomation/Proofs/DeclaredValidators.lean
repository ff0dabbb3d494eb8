/-
This file proves which declarations of validators compile, and what the compiled validators admit.
-/

import NetworkAutomation.Proofs.Compilation

namespace NetworkAutomation

namespace ValidatorSpecification

def kinds : List String := ["range", "choice", "port"]

/-- A well-formed declaration stands for the values that it is to admit. -/
inductive Declares : ValidatorSpecification → (Value → Prop) → Prop where
  | range {parameters : Mapping} {lower upper : String} {least greatest : Int64}
      (lowerSpelled : lower = "minval" ∨ lower = "min")
      (upperSpelled : upper = "maxval" ∨ upper = "max")
      (given : parameters.Perm [(lower, .word least), (upper, .word greatest)])
      (ordered : least ≤ greatest) :
      Declares ⟨"range", parameters⟩ fun value =>
        ∃ word, value = .integer word ∧ least ≤ word ∧ word ≤ greatest
  | choice {choices : List String} (nonempty : choices ≠ []) :
      Declares ⟨"choice", [("choices", .texts choices)]⟩ fun value =>
        ∃ choice ∈ choices, value = .text choice
  | port : Declares ⟨"port", []⟩ fun value =>
      ∃ word, value = .integer word ∧ 1 ≤ word ∧ word ≤ 65535

/--
Exactly the well-formed declarations compile, each to a validator that admits what the declaration
stands for. An unknown kind has an error of its own, and so have all other flaws.
-/
structure CompilesAsDeclared (name : String) (declared : ValidatorSpecification) : Prop where
  intended : ∀ admitted, declared.Declares admitted → ∃ validator,
    Compile.validator name declared = .ok validator ∧ validator.kind = declared.kind ∧
      ∀ value, validator.check value = .ok () ↔ value = .null ∨ admitted value
  formed : ∀ validator, Compile.validator name declared = .ok validator →
    ∃ admitted, declared.Declares admitted
  unknown : declared.kind ∉ kinds →
    Compile.validator name declared = .error (.unknownValidatorKind name declared.kind)
  flawed : declared.kind ∈ kinds → (∀ admitted, ¬declared.Declares admitted) → ∃ reason,
    Compile.validator name declared = .error (.invalidValidatorParameters name reason)

end ValidatorSpecification

/-! ## What validators admit -/

namespace Validator

variable {value : Value}

theorem checkBounds_eq_ok_iff {least greatest : Int64} :
    checkBounds least greatest value = .ok () ↔
      value = .null ∨ ∃ word, value = .integer word ∧ least ≤ word ∧ word ≤ greatest := by
  cases value <;> simp [checkBounds]

/-- Choices that are repeated admit nothing more. -/
theorem check_ofChoices_eq_ok_iff {choices : List String} :
    (ofChoices choices).check value = .ok () ↔
      value = .null ∨ ∃ choice ∈ choices, value = .text choice := by
  cases value <;> simp [ofChoices, check, checkChoice, List.mem_eraseDups]

end Validator

/-! ## Parameters -/

theorem Shape.word?_eq_some_iff {document : Document} {word : Int64} :
    Shape.word? document = some word ↔ document = .word word := by
  constructor
  · intro read
    cases document with
    | number number =>
        cases number with
        | integer value => rw [Document.word, Document.integer, Text.toInt_of_word? read]
        | float value => cases read
    | _ => cases read
  · rintro rfl
    exact Text.word?_toInt word

theorem Shape.mapM_text?_eq_some_iff {items : List Document} {choices : List String} :
    items.mapM Shape.text? = some choices ↔ items = choices.map .text := by
  have text?_eq_some_iff (item : Document) (choice : String) :
      Shape.text? item = some choice ↔ item = .text choice := by
    cases item <;> simp [Shape.text?]
  simp only [Success.mapM_eq_some_iff, text?_eq_some_iff]
  rw [← List.forall₂_eq_eq_eq, List.forall₂_map_right_iff]

namespace Compile

variable {parameters : Mapping} {name spelling own : String}

theorem allowParameters_eq_ok_iff {allowed : List String} :
    allowParameters parameters allowed = .ok () ↔
      ∀ key ∈ Entries.keys parameters, key ∈ allowed := by
  unfold allowParameters
  split
  next key found =>
    have unknown : key ∉ allowed := by simpa using List.find?_some found
    have given := List.mem_of_find?_eq_some found
    exact ⟨nofun, fun known => absurd (known key given) unknown⟩
  next absent =>
    refine ⟨fun _ key given => ?_, fun _ => rfl⟩
    simpa using List.find?_eq_none.mp absent key given

/-- The word is given under one of the two spellings, and nothing is given under the other. -/
structure GivesBound (parameters : Mapping) (name spelling own : String) (word : Int64) : Prop where
  spelled : own = name ∨ own = spelling
  given : Entries.find? parameters own = some (.word word)
  alone : ∀ key ∈ Entries.keys parameters, key = name ∨ key = spelling → key = own

theorem word_eq_ok_iff {document : Document} {refusal : String} {word : Int64} :
    (match Shape.word? document with
      | some value => Except.ok value
      | none => .error refusal) = .ok word ↔ document = .word word := by
  rw [← Shape.word?_eq_some_iff]
  cases Shape.word? document <;> simp

theorem bound_eq_ok_iff (different : name ≠ spelling) {word : Int64} :
    bound parameters name spelling = .ok word ↔
      ∃ own, GivesBound parameters name spelling own word := by
  have absent {key : String} : Entries.find? parameters key = none ↔
      key ∉ Entries.keys parameters := Entries.find?_eq_none_iff
  constructor
  · intro bounded
    unfold bound at bounded
    split at bounded
    next => cases bounded
    next document found missing =>
      obtain rfl := word_eq_ok_iff.mp bounded
      refine ⟨name, .inl rfl, found, fun key given spelled => spelled.resolve_right ?_⟩
      rintro rfl
      exact absent.mp missing given
    next document missing found =>
      obtain rfl := word_eq_ok_iff.mp bounded
      refine ⟨spelling, .inr rfl, found, fun key given spelled => spelled.resolve_left ?_⟩
      rintro rfl
      exact absent.mp missing given
    next => cases bounded
  · rintro ⟨own, spelled, given, alone⟩
    have other {key : String} (spelled : key = name ∨ key = spelling) (apart : key ≠ own) :
        Mapping.lookup? parameters key = none :=
      absent.mpr fun present => apart (alone key present spelled)
    have found : Mapping.lookup? parameters own = some (.word word) := given
    unfold bound
    rcases spelled with rfl | rfl
    · rw [found, other (.inr rfl) (Ne.symm different)]
      exact word_eq_ok_iff.mpr rfl
    · rw [found, other (.inl rfl) different]
      exact word_eq_ok_iff.mpr rfl

/-! ## The three kinds -/

section Range

variable {lower upper : String} {least greatest : Int64}

theorem lower_ne_upper (lowerSpelled : lower = "minval" ∨ lower = "min")
    (upperSpelled : upper = "maxval" ∨ upper = "max") : lower ≠ upper := by
  rcases lowerSpelled with rfl | rfl <;> rcases upperSpelled with rfl | rfl <;> decide

/-- Both bounds are given and nothing else is, so these are all of the parameters. -/
theorem perm_of_givesBound (distinct : (Entries.keys parameters).Nodup)
    (allowed : ∀ key ∈ Entries.keys parameters, key ∈ ["minval", "maxval", "min", "max"])
    (lowerGiven : GivesBound parameters "minval" "min" lower least)
    (upperGiven : GivesBound parameters "maxval" "max" upper greatest) :
    parameters.Perm [(lower, .word least), (upper, .word greatest)] := by
  have different := lower_ne_upper lowerGiven.spelled upperGiven.spelled
  refine Entries.perm_of_find? distinct (by simpa using different) fun key => ?_
  by_cases isLower : key = lower
  · rw [isLower, lowerGiven.given]
    simp [Entries.find?]
  · by_cases isUpper : key = upper
    · rw [isUpper, upperGiven.given]
      simp [Entries.find?, different]
    · have missing : Entries.find? parameters key = none := by
        refine Entries.find?_eq_none_iff.mpr fun given => ?_
        have known := allowed key given
        simp only [List.mem_cons, List.not_mem_nil, or_false] at known
        rcases known with rfl | rfl | rfl | rfl
        · exact isLower (lowerGiven.alone _ given (.inl rfl))
        · exact isUpper (upperGiven.alone _ given (.inl rfl))
        · exact isLower (lowerGiven.alone _ given (.inr rfl))
        · exact isUpper (upperGiven.alone _ given (.inr rfl))
      rw [missing]
      simp [Entries.find?, Ne.symm isLower, Ne.symm isUpper]

theorem givesBound_of_perm (lowerSpelled : lower = "minval" ∨ lower = "min")
    (upperSpelled : upper = "maxval" ∨ upper = "max")
    (given : parameters.Perm [(lower, .word least), (upper, .word greatest)]) :
    (∀ key ∈ Entries.keys parameters, key ∈ ["minval", "maxval", "min", "max"]) ∧
      GivesBound parameters "minval" "min" lower least ∧
      GivesBound parameters "maxval" "max" upper greatest := by
  have different := lower_ne_upper lowerSpelled upperSpelled
  have found (key : String) : Entries.find? parameters key =
      Entries.find? [(lower, .word least), (upper, .word greatest)] key :=
    Entries.find?_perm (by simpa using different) given key
  have mem_iff (key : String) : key ∈ Entries.keys parameters ↔ key = lower ∨ key = upper := by
    rw [Entries.keys, (given.map Prod.fst).mem_iff]
    simp
  refine ⟨fun key member => ?_, ⟨lowerSpelled, ?_, fun key member own => ?_⟩,
    ⟨upperSpelled, ?_, fun key member own => ?_⟩⟩
  · rcases (mem_iff key).mp member with rfl | rfl
    · rcases lowerSpelled with rfl | rfl <;> decide
    · rcases upperSpelled with rfl | rfl <;> decide
  · rw [found]
    simp [Entries.find?]
  · exact ((mem_iff key).mp member).resolve_right (lower_ne_upper own upperSpelled)
  · rw [found]
    simp [Entries.find?, different]
  · have apart : key ≠ lower := (lower_ne_upper lowerSpelled own).symm
    exact ((mem_iff key).mp member).resolve_left apart

end Range

variable {validator : Validator}

theorem ofBounds_eq_ok_iff {least greatest : Int64} :
    (match Validator.ofBounds least greatest with
      | .ok validator => Except.ok validator
      | .error error => .error error.message) = .ok validator ↔
        least ≤ greatest ∧ validator = .range least greatest := by
  unfold Validator.ofBounds
  by_cases ordered : least ≤ greatest
  · simp [ordered, eq_comm]
  · simp [ordered]

theorem rangeValidator_eq_ok_iff (distinct : (Entries.keys parameters).Nodup) :
    rangeValidator parameters = .ok validator ↔ ∃ lower upper least greatest,
      (lower = "minval" ∨ lower = "min") ∧ (upper = "maxval" ∨ upper = "max") ∧
        parameters.Perm [(lower, .word least), (upper, .word greatest)] ∧ least ≤ greatest ∧
        validator = .range least greatest := by
  constructor
  · intro made
    obtain ⟨allowed, made⟩ := Success.check_bind_eq_ok.mp made
    obtain ⟨least, lowerBound, made⟩ := Success.bind_eq_ok.mp made
    obtain ⟨greatest, upperBound, made⟩ := Success.bind_eq_ok.mp made
    obtain ⟨lower, lowerGiven⟩ := (bound_eq_ok_iff (by decide)).mp lowerBound
    obtain ⟨upper, upperGiven⟩ := (bound_eq_ok_iff (by decide)).mp upperBound
    obtain ⟨ordered, rfl⟩ := ofBounds_eq_ok_iff.mp made
    have given := perm_of_givesBound distinct (allowParameters_eq_ok_iff.mp allowed) lowerGiven
      upperGiven
    exact ⟨lower, upper, least, greatest, lowerGiven.spelled, upperGiven.spelled, given, ordered,
      rfl⟩
  · rintro ⟨lower, upper, least, greatest, lowerSpelled, upperSpelled, given, ordered, rfl⟩
    obtain ⟨allowed, lowerGiven, upperGiven⟩ := givesBound_of_perm lowerSpelled upperSpelled given
    unfold rangeValidator
    rw [allowParameters_eq_ok_iff.mpr allowed, Success.bind_ok,
      (bound_eq_ok_iff (by decide)).mpr ⟨lower, lowerGiven⟩, Success.bind_ok,
      (bound_eq_ok_iff (by decide)).mpr ⟨upper, upperGiven⟩, Success.bind_ok]
    exact ofBounds_eq_ok_iff.mpr ⟨ordered, rfl⟩

theorem choiceValidator_eq_ok_iff (distinct : (Entries.keys parameters).Nodup) :
    choiceValidator parameters = .ok validator ↔ ∃ choices, choices ≠ [] ∧
      parameters = [("choices", .texts choices)] ∧ validator = .ofChoices choices := by
  constructor
  · intro made
    obtain ⟨allowed, made⟩ := Success.check_bind_eq_ok.mp made
    have known := allowParameters_eq_ok_iff.mp allowed
    split at made
    next item rest found =>
      split at made
      next choices read =>
        obtain rfl := Except.ok.inj made
        have items := Shape.mapM_text?_eq_some_iff.mp read
        have nonempty : choices ≠ [] := by
          rintro rfl
          cases items
        refine ⟨choices, nonempty, List.perm_singleton.mp ?_, rfl⟩
        refine Entries.perm_of_find? distinct (by simp) fun key => ?_
        by_cases isOwn : key = "choices"
        · rw [isOwn, show Entries.find? parameters "choices" = _ from found, items]
          simp [Entries.find?, Document.texts]
        · have missing : Entries.find? parameters key = none :=
            Entries.find?_eq_none_iff.mpr fun given => isOwn (by simpa using known key given)
          rw [missing]
          simp [Entries.find?, Ne.symm isOwn]
      next => cases made
    next => cases made
    next => cases made
  · rintro ⟨choices, nonempty, rfl, rfl⟩
    obtain ⟨choice, others, rfl⟩ := List.exists_cons_of_ne_nil nonempty
    have read : ((choice :: others).map Document.text).mapM Shape.text? = some (choice :: others) :=
      Shape.mapM_text?_eq_some_iff.mpr rfl
    rw [List.map_cons] at read
    unfold choiceValidator
    rw [allowParameters_eq_ok_iff.mpr (by simp), Success.bind_ok]
    simp [Mapping.lookup?, Document.texts, read]

theorem portValidator_eq_ok_iff :
    portValidator parameters = .ok validator ↔ parameters = [] ∧ validator = .port := by
  unfold portValidator
  rw [Success.check_bind_eq_ok, allowParameters_eq_ok_iff, Success.pure_eq_ok, Except.ok.injEq]
  simp [Entries.keys, List.eq_nil_iff_forall_not_mem, eq_comm]

end Compile

/-! ## Declarations -/

namespace ValidatorSpecification

variable {name : String} {declared : ValidatorSpecification} {admitted : Value → Prop}

theorem ofParameters_eq_ok_iff {made : Except String Validator} {validator : Validator} :
    Compile.ofParameters name made = .ok validator ↔ made = .ok validator := by
  cases made <;> simp [Compile.ofParameters]

/-- A well-formed declaration compiles to a validator of its meaning. -/
theorem Declares.exists_validator (distinct : (Entries.keys declared.parameters).Nodup)
    (declares : declared.Declares admitted) : ∃ validator,
      Compile.validator name declared = .ok validator ∧ validator.kind = declared.kind ∧
        ∀ value, validator.check value = .ok () ↔ value = .null ∨ admitted value := by
  cases declares with
  | @range parameters lower upper least greatest lowerSpelled upperSpelled given ordered =>
      refine ⟨.range least greatest, ofParameters_eq_ok_iff.mpr ?_, rfl, fun value => ?_⟩
      · exact (Compile.rangeValidator_eq_ok_iff distinct).mpr
          ⟨lower, upper, least, greatest, lowerSpelled, upperSpelled, given, ordered, rfl⟩
      · exact Validator.checkBounds_eq_ok_iff
  | @choice choices nonempty =>
      refine ⟨.ofChoices choices, ofParameters_eq_ok_iff.mpr ?_, rfl, fun value => ?_⟩
      · exact (Compile.choiceValidator_eq_ok_iff distinct).mpr ⟨choices, nonempty, rfl, rfl⟩
      · exact Validator.check_ofChoices_eq_ok_iff
  | port => exact ⟨.port, rfl, rfl, fun value => Validator.checkBounds_eq_ok_iff⟩

/-- What compiles is well formed. -/
theorem exists_declares_of_validator (distinct : (Entries.keys declared.parameters).Nodup)
    {validator : Validator} (compiled : Compile.validator name declared = .ok validator) :
    ∃ admitted, declared.Declares admitted := by
  obtain ⟨kind, parameters⟩ := declared
  unfold Compile.validator at compiled
  split at compiled
  next isRange =>
    obtain rfl : kind = "range" := isRange
    obtain ⟨lower, upper, least, greatest, lowerSpelled, upperSpelled, given, ordered, _⟩ :=
      (Compile.rangeValidator_eq_ok_iff distinct).mp (ofParameters_eq_ok_iff.mp compiled)
    exact ⟨_, .range lowerSpelled upperSpelled given ordered⟩
  next isChoice =>
    obtain rfl : kind = "choice" := isChoice
    obtain ⟨choices, nonempty, given, _⟩ :=
      (Compile.choiceValidator_eq_ok_iff distinct).mp (ofParameters_eq_ok_iff.mp compiled)
    obtain rfl : parameters = _ := given
    exact ⟨_, .choice nonempty⟩
  next isPort =>
    obtain rfl : kind = "port" := isPort
    obtain ⟨none, _⟩ := Compile.portValidator_eq_ok_iff.mp (ofParameters_eq_ok_iff.mp compiled)
    obtain rfl : parameters = _ := none
    exact ⟨_, .port⟩
  next => exact nomatch compiled

/-- A known kind is refused for its parameters only. -/
theorem validator_of_mem_kinds (known : declared.kind ∈ kinds) :
    (∃ validator, Compile.validator name declared = .ok validator) ∨ ∃ reason,
      Compile.validator name declared = .error (.invalidValidatorParameters name reason) := by
  have made (outcome : Except String Validator) :
      (∃ validator, Compile.ofParameters name outcome = .ok validator) ∨ ∃ reason,
        Compile.ofParameters name outcome =
          .error (.invalidValidatorParameters name reason) := by
    cases outcome with
    | error reason => exact .inr ⟨reason, rfl⟩
    | ok validator => exact .inl ⟨validator, rfl⟩
  unfold Compile.validator
  split
  next => exact made _
  next => exact made _
  next => exact made _
  next noRange noChoice noPort =>
    simp only [kinds, List.mem_cons, List.not_mem_nil, or_false] at known
    rcases known with isRange | isChoice | isPort
    · exact absurd isRange noRange
    · exact absurd isChoice noChoice
    · exact absurd isPort noPort

theorem validator_of_not_mem_kinds (unknown : declared.kind ∉ kinds) :
    Compile.validator name declared = .error (.unknownValidatorKind name declared.kind) := by
  unfold Compile.validator
  split
  next isRange => simp [kinds, isRange] at unknown
  next isChoice => simp [kinds, isChoice] at unknown
  next isPort => simp [kinds, isPort] at unknown
  next => rfl

/-- Every declaration of a validator compiles, or is refused, as it is declared. -/
theorem compilesAsDeclared (name : String) {declared : ValidatorSpecification}
    (distinct : (Entries.keys declared.parameters).Nodup) :
    declared.CompilesAsDeclared name where
  intended _ declares := declares.exists_validator distinct
  formed _ compiled := exists_declares_of_validator distinct compiled
  unknown := validator_of_not_mem_kinds
  flawed known noMeaning := by
    refine (validator_of_mem_kinds known).resolve_left ?_
    rintro ⟨validator, compiled⟩
    obtain ⟨admitted, declares⟩ := exists_declares_of_validator distinct compiled
    exact noMeaning admitted declares

end ValidatorSpecification

namespace SwitchRole

/-- The bounds have different spellings, and the greater one comes first. -/
def vlanRange : ValidatorSpecification :=
  ⟨"range", [("max", .integer 4094), ("minval", .integer 1)]⟩

theorem vlanRange_compiled :
    (Entries.keys vlanRange.parameters).Nodup ∧ vlanRange.CompilesAsDeclared "vlan_range" ∧
      Compile.validator "vlan_range" vlanRange = .ok (.range 1 4094) :=
  ⟨by decide, ValidatorSpecification.compilesAsDeclared "vlan_range" (by decide), rfl⟩

end SwitchRole

end NetworkAutomation
