/-
This file proves that validators judge values of their own kind only, so what they report is true.
-/

import NetworkAutomation.Proofs.SettledValues

namespace NetworkAutomation

/-! ## True reports -/

/-- The validator does not admit the value, and the report says which value that is. -/
inductive Validator.RightlyRefuses : Validator → Value → ValidationError → Prop where
  | choice {choices : List String} {text : String} (other : text ∉ choices) :
      RightlyRefuses (.choice choices) (.text text) (.invalidChoice text choices)
  | range {least greatest word : Int64} (outside : word < least ∨ greatest < word) :
      RightlyRefuses (.range least greatest) (.integer word) (.invalidRange word least greatest)
  | port {word : Int64} (outside : word < 1 ∨ 65535 < word) :
      RightlyRefuses .port (.integer word) (.invalidRange word 1 65535)

/-- To admit the value, the type reads the mapping as an entity of its element type. -/
inductive AttributeType.Reads : AttributeType → Value → EntityType → Mapping → Prop where
  | object {item : EntityType} {entries : Mapping} :
      Reads (.object item) (.dict entries) item entries
  | index {item : EntityType} {documents : List Document} {entries : Mapping}
      (member : .mapping entries ∈ documents) :
      Reads (.index item) (.list documents) item entries
  | map {item : EntityType} {key : String} {document : Mapping} {entry : String × Document}
      {body : Mapping} (member : entry ∈ document)
      (taken : KeyedCollection.entryBody item entry.1 entry.2 = .ok body) :
      Reads (.map item key) (.dict document) item (Mapping.insert body key (.text entry.1))

/-- A value is for the attribute itself, or part of it is for an attribute of a nested entity. -/
inductive Attribute.Passes : Attribute → Value → Attribute → Value → Prop where
  | here {field : Attribute} {value : Value} : Passes field value field value
  | inside {field outer inner : Attribute} {value given : Value} {item : EntityType}
      {entries : Mapping} {fields : List (String × Value)} {entry : String × Value}
      (reads : field.type.Reads value item entries) (unwrapped : item.unwrap entries = .ok fields)
      (member : entry ∈ fields) (found : item.field? entry.1 = some outer)
      (deeper : Passes outer entry.2 inner given) : Passes field value inner given

namespace EntityType

/-- The given value is one of the fields or part of one, and the attribute is to take it. -/
def Passes (type : EntityType) (fields : List (String × Value)) (inner : Attribute)
    (given : Value) : Prop :=
  ∃ entry ∈ fields, ∃ field, type.field? entry.1 = some field ∧ field.Passes entry.2 inner given

def PassesDocument (type : EntityType) (entries : Mapping) (inner : Attribute)
    (given : Value) : Prop :=
  ∃ fields, type.unwrap entries = .ok fields ∧ type.Passes fields inner given

end EntityType

/--
Of all values that are passed, a validator judges only those of its own kind, and each report is
about one of them.
-/
structure ReportsTruly (passes : Attribute → Value → Prop) (reports : ValidationError → Prop) :
    Prop where
  supported : ∀ field given judged, passes field given → given ≠ .null →
    field.type.admission field.name given = .ok judged →
    ∀ validator ∈ field.validators, judged.primitive? = some validator.supported
  truthful : ∀ cause, reports cause → ∃ field given validator, passes field given ∧
    validator ∈ field.validators ∧ validator.RightlyRefuses given cause

/-! ## One validator -/

namespace Validator

variable {validator : Validator} {value : Value} {cause : ValidationError}

theorem rightlyRefuses_of_check (kind : value.primitive? = some validator.supported)
    (refused : validator.check value = .error cause) : validator.RightlyRefuses value cause := by
  have outside {least greatest word : Int64}
      (refused : checkBounds least greatest (.integer word) = .error cause) :
      (word < least ∨ greatest < word) ∧ cause = .invalidRange word least greatest := by
    rw [checkBounds] at refused
    split at refused
    next => contradiction
    next beyond =>
      rw [not_and_or, Int64.not_le, Int64.not_le] at beyond
      exact ⟨beyond, (Except.error.inj refused).symm⟩
  cases validator with
  | choice choices =>
      cases value with
      | text text =>
          rw [check, checkChoice] at refused
          split at refused
          next => contradiction
          next other =>
            obtain rfl := Except.error.inj refused
            exact .choice (by simpa using other)
      | _ => exact nomatch kind
  | range least greatest =>
      cases value with
      | integer word =>
          obtain ⟨beyond, rfl⟩ := outside refused
          exact .range beyond
      | _ => exact nomatch kind
  | port =>
      cases value with
      | integer word =>
          obtain ⟨beyond, rfl⟩ := outside refused
          exact .port beyond
      | _ => exact nomatch kind

theorem supported_eq {primitive : Primitive} (supports : validator.supports primitive = true) :
    validator.supported = primitive := by
  simpa [Validator.supports] using supports

end Validator

/-! ## Where a report comes from -/

/-- A validator of the attribute judges the value and refuses it. -/
def Attribute.Judges (field : Attribute) (given : Value) (cause : ValidationError) : Prop :=
  given ≠ .null ∧ ∃ judged, field.type.admission field.name given = .ok judged ∧
    ∃ validator ∈ field.validators, validator.check judged = .error cause

namespace EntityType

variable {type : EntityType} {cause : ValidationError}

theorem assign_eq_validation {slot : Nat} {field : Attribute} {value : Value}
    (placed : type.attributes[slot]? = some field)
    (refused : type.assign type.coerceAt slot value = .error (.validation cause)) :
    field.coerce value = .error (.validation cause) := by
  rw [assign, coerceAt, Attribute.coerceAt_eq, placed] at refused
  rcases Success.bind_eq_error.mp refused with first | ⟨coerced, _, later⟩
  · exact first
  · dsimp only at later
    unfold Attribute.requireValue at later
    split at later <;> cases later

/-- Filling an entity only reports what one of its attributes reports. -/
theorem populate_eq_validation {source : FieldSource} {fields : List (String × Value)}
    (refused : type.populate type.coerceAt source fields = .error (.validation cause)) :
    ∃ entry ∈ fields, ∃ field, type.field? entry.1 = some field ∧
      field.coerce entry.2 = .error (.validation cause) := by
  unfold populate at refused
  rcases Success.bind_eq_error.mp refused with folded | ⟨population, _, later⟩
  · obtain ⟨_, entry, _, _, rfl, _, failed⟩ := Success.exists_failed_of_foldlM folded
    refine ⟨entry, List.mem_append_cons_self, ?_⟩
    unfold populateField at failed
    split at failed
    next slot found =>
      obtain ⟨field, placed⟩ := exists_field_of_slot? found
      refine ⟨field, ?_, assign_eq_validation placed (Success.bind_pure_eq_error.mp failed)⟩
      rw [field?, found, Option.bind_some, placed]
    next =>
      split at failed
      next => contradiction
      next => cases source <;> cases failed
  · have missing := Success.bind_pure_eq_error.mp later
    obtain ⟨_, entry, _, _, _, failed⟩ := Success.forM_eq_error_iff.mp missing
    split at failed <;> cases failed

theorem unwrap_ne_validation {entries : Mapping} :
    type.unwrap entries ≠ .error (.validation cause) := by
  intro refused
  unfold unwrap at refused
  split at refused
  next => contradiction
  next root _ =>
    split at refused
    next =>
      have outer := Success.bind_pure_eq_error.mp refused
      unfold outerFields at outer
      dsimp only at outer
      split at outer
      next => contradiction
      next => split at outer <;> cases outer
    next => cases refused
    next => cases refused

theorem read_eq_validation {entries : Mapping}
    (refused : type.read entries = .error (.validation cause)) :
    ∃ fields, type.unwrap entries = .ok fields ∧ ∃ entry ∈ fields, ∃ field,
      type.field? entry.1 = some field ∧ field.coerce entry.2 = .error (.validation cause) := by
  rw [read_eq] at refused
  rcases Success.bind_eq_error.mp refused with unwrapped | ⟨fields, unwrapped, populated⟩
  · exact absurd unwrapped unwrap_ne_validation
  · exact ⟨fields, unwrapped, populate_eq_validation populated⟩

theorem readMapping_eq_validation {document : Document} {read : Mapping → Checked Entity}
    (refused : type.readMapping read document = .error (.validation cause)) :
    ∃ entries, document = .mapping entries ∧ read entries = .error (.validation cause) := by
  cases document with
  | mapping entries => exact ⟨entries, rfl, refused⟩
  | _ => exact nomatch refused

end EntityType

theorem OrderedCollection.readItems_eq_validation {item : EntityType}
    {read : Mapping → Checked Entity} {documents : List Document} {cause : ValidationError}
    (refused : readItems item read documents = .error (.validation cause)) :
    ∃ entries, .mapping entries ∈ documents ∧ read entries = .error (.validation cause) := by
  obtain ⟨_, document, _, rfl, _, failed⟩ :=
    Success.mapM_eq_error_iff.mp (Success.bind_pure_eq_error.mp refused)
  obtain ⟨entries, rfl, read⟩ := EntityType.readMapping_eq_validation failed
  exact ⟨entries, List.mem_append_cons_self, read⟩

theorem KeyedCollection.readEntries_eq_validation {item : EntityType} {keyField : String}
    {read : Mapping → Checked Entity} {document : Mapping} {cause : ValidationError}
    (refused : readEntries item keyField read document = .error (.validation cause)) :
    ∃ entry ∈ document, ∃ body, entryBody item entry.1 entry.2 = .ok body ∧
      read (Mapping.insert body keyField (.text entry.1)) = .error (.validation cause) := by
  obtain ⟨_, entry, _, rfl, _, failed⟩ :=
    Success.mapM_eq_error_iff.mp (Success.bind_pure_eq_error.mp refused)
  refine ⟨entry, List.mem_append_cons_self, ?_⟩
  rcases Success.bind_eq_error.mp failed with malformed | ⟨body, taken, later⟩
  · unfold entryBody at malformed
    split at malformed <;> cases malformed
  · exact ⟨body, taken, Success.bind_pure_eq_error.mp later⟩

/-- A container only reports what its element type reports about one of its parts. -/
theorem AttributeType.admission_eq_validation {type : AttributeType} {name : String}
    {value : Value} {cause : ValidationError}
    (refused : type.admission name value = .error (.validation cause)) :
    ∃ item entries, type.Reads value item entries ∧
      item.read entries = .error (.validation cause) := by
  cases type with
  | object item =>
      cases value with
      | object entity =>
          rw [AttributeType.admission] at refused
          split at refused <;> cases refused
      | dict entries =>
          rw [AttributeType.admission] at refused
          exact ⟨item, entries, .object, Success.bind_pure_eq_error.mp refused⟩
      | _ => simp [AttributeType.admission] at refused
  | index item =>
      cases value with
      | index collection =>
          rw [AttributeType.admission] at refused
          split at refused <;> cases refused
      | list documents =>
          rw [AttributeType.admission] at refused
          obtain ⟨entries, member, read⟩ :=
            OrderedCollection.readItems_eq_validation (Success.bind_pure_eq_error.mp refused)
          exact ⟨item, entries, .index member, read⟩
      | _ => simp [AttributeType.admission] at refused
  | map item key =>
      cases value with
      | map collection =>
          rw [AttributeType.admission] at refused
          split at refused <;> cases refused
      | dict document =>
          rw [AttributeType.admission] at refused
          obtain ⟨entry, member, body, taken, read⟩ :=
            KeyedCollection.readEntries_eq_validation (Success.bind_pure_eq_error.mp refused)
          exact ⟨item, _, .map member taken, read⟩
      | _ => simp [AttributeType.admission] at refused
  | _ => cases value <;> simp [AttributeType.admission] at refused

namespace Attribute

variable {field inner : Attribute} {value given : Value} {cause : ValidationError}

theorem coerce_eq_validation (refused : field.coerce value = .error (.validation cause)) :
    field.Judges value cause ∨
      field.type.admission field.name value = .error (.validation cause) := by
  by_cases given : value = .null
  · subst given
    rw [coerce_null] at refused
    contradiction
  · rw [coerce_of_ne_null field given] at refused
    rcases Success.bind_eq_error.mp refused with failed | ⟨judged, admitted, later⟩
    · exact .inr failed
    · have failed := Success.bind_pure_eq_error.mp later
      refine .inl ⟨given, judged, admitted, ?_⟩
      cases all : Validator.checkAll field.validators judged with
      | ok checked =>
          rw [all] at failed
          contradiction
      | error own =>
          rw [all] at failed
          cases failed
          obtain ⟨_, validator, _, split, _, failed⟩ := Success.forM_eq_error_iff.mp all
          exact ⟨validator, split ▸ List.mem_append_cons_self, failed⟩

theorem Passes.of_reads {item : EntityType} {entries : Mapping}
    (reads : field.type.Reads value item entries)
    (passes : item.PassesDocument entries inner given) : field.Passes value inner given := by
  obtain ⟨fields, unwrapped, entry, member, outer, found, deeper⟩ := passes
  exact .inside reads unwrapped member found deeper

/-- What an attribute reports comes from its validators or from the entities that it reads. -/
theorem exists_judges_of_reads (refused : field.coerce value = .error (.validation cause))
    (below : ∀ item entries, field.type.Reads value item entries →
      item.read entries = .error (.validation cause) →
      ∃ inner given, item.PassesDocument entries inner given ∧ inner.Judges given cause) :
    ∃ inner given, field.Passes value inner given ∧ inner.Judges given cause := by
  rcases coerce_eq_validation refused with judges | failed
  · exact ⟨field, value, .here, judges⟩
  · obtain ⟨item, entries, reads, read⟩ := AttributeType.admission_eq_validation failed
    obtain ⟨inner, given, passes, judges⟩ := below item entries reads read
    exact ⟨inner, given, .of_reads reads passes, judges⟩

end Attribute

theorem AttributeType.Reads.item?_eq {type : AttributeType} {value : Value} {item : EntityType}
    {entries : Mapping} (reads : type.Reads value item entries) : type.item? = some item := by
  cases reads <;> rfl

theorem EntityType.mem_of_field? {type : EntityType} {name : String} {field : Attribute}
    (found : type.field? name = some field) : field ∈ type.attributes := by
  obtain ⟨slot, _, placed⟩ := Option.bind_eq_some_iff.mp found
  exact List.mem_of_getElem? placed

/-- What is reported while an entity is read was judged by an attribute at some depth. -/
theorem EntityType.exists_judges_of_read {type : EntityType} {entries : Mapping}
    {cause : ValidationError} (refused : type.read entries = .error (.validation cause)) :
    ∃ inner given, type.PassesDocument entries inner given ∧ inner.Judges given cause := by
  induction type using EntityType.itemInduction generalizing entries with
  | step type ih =>
      obtain ⟨fields, unwrapped, entry, member, field, found, failed⟩ := read_eq_validation refused
      obtain ⟨inner, given, passes, judges⟩ := Attribute.exists_judges_of_reads failed
        fun item _ reads read => ih item ⟨field, mem_of_field? found, reads.item?_eq⟩ read
      exact ⟨inner, given, ⟨fields, unwrapped, entry, member, field, found, passes⟩, judges⟩

theorem Attribute.exists_judges_of_coerce {field : Attribute} {value : Value}
    {cause : ValidationError} (refused : field.coerce value = .error (.validation cause)) :
    ∃ inner given, field.Passes value inner given ∧ inner.Judges given cause :=
  exists_judges_of_reads refused fun _ _ _ read => EntityType.exists_judges_of_read read

theorem EntityType.exists_judges_of_populate {type : EntityType} {source : FieldSource}
    {fields : List (String × Value)} {cause : ValidationError}
    (refused : type.populate type.coerceAt source fields = .error (.validation cause)) :
    ∃ inner given, type.Passes fields inner given ∧ inner.Judges given cause := by
  obtain ⟨entry, member, field, found, failed⟩ := populate_eq_validation refused
  obtain ⟨inner, given, passes, judges⟩ := Attribute.exists_judges_of_coerce failed
  exact ⟨inner, given, ⟨entry, member, field, found, passes⟩, judges⟩

/-! ## Attributes that judge their own kind -/

/-- The element type is known, and each validator supports the declared kind. -/
structure Attribute.WellJudged (types : List EntityType) (field : Attribute) : Prop where
  item : ∀ item, field.type.item? = some item → item ∈ types
  supported : ∀ validator ∈ field.validators, validator.supports field.type.primitive = true

section WellJudged

variable {types : List EntityType} {field inner : Attribute} {value given judged : Value}

theorem Attribute.Sound.wellJudged (sound : field.Sound types) : field.WellJudged types :=
  ⟨sound.item, sound.supported⟩

namespace Attribute.WellJudged

theorem supported_judged (judges : field.WellJudged types)
    (admitted : field.type.admission field.name given = .ok judged) :
    ∀ validator ∈ field.validators, judged.primitive? = some validator.supported := by
  intro validator member
  have takes := AttributeType.admission_eq_ok_iff_takes.mp admitted
  rw [Validator.supported_eq (judges.supported validator member)]
  exact takes.again.fits_self.kind

/-- The refused value is the given one, since only scalars are judged and these are not changed. -/
theorem rightlyRefuses (wellJudged : field.WellJudged types) {cause : ValidationError}
    (judges : field.Judges given cause) :
    ∃ validator ∈ field.validators, validator.RightlyRefuses given cause := by
  obtain ⟨_, judged, admitted, validator, member, refused⟩ := judges
  have right := Validator.rightlyRefuses_of_check
    (wellJudged.supported_judged admitted validator member) refused
  have scalar : judged.IsScalar := by cases right <;> trivial
  have same := (AttributeType.admission_eq_ok_iff_takes.mp admitted).eq_of_result scalar
  exact ⟨validator, member, same ▸ right⟩

end Attribute.WellJudged

/-- Values of nested entities go to attributes of known types. -/
theorem Attribute.Passes.wellJudged (registry : Registry types)
    (passes : field.Passes value inner given) (outer : field.WellJudged types) :
    inner.WellJudged types := by
  induction passes with
  | here => exact outer
  | inside reads _ _ found _ ih =>
      have known := outer.item _ reads.item?_eq
      have sound := (registry.sound _ known).attributes _ (EntityType.mem_of_field? found)
      exact ih sound.wellJudged

theorem EntityType.Passes.wellJudged (registry : Registry types) {type : EntityType}
    {fields : List (String × Value)} (passes : type.Passes fields inner given)
    (known : type ∈ types) : inner.WellJudged types := by
  obtain ⟨entry, _, field, found, deeper⟩ := passes
  have sound := (registry.sound type known).attributes field (mem_of_field? found)
  exact deeper.wellJudged registry sound.wellJudged

theorem EntityType.PassesDocument.wellJudged (registry : Registry types) {type : EntityType}
    {entries : Mapping} (passes : type.PassesDocument entries inner given)
    (known : type ∈ types) : inner.WellJudged types := by
  obtain ⟨fields, _, deeper⟩ := passes
  exact EntityType.Passes.wellJudged registry deeper known

variable (types) in
/-- It is enough that all values go to such attributes and that one of these judged. -/
theorem ReportsTruly.of_judges {passes : Attribute → Value → Prop}
    {reports : ValidationError → Prop}
    (wellJudged : ∀ field given, passes field given → field.WellJudged types)
    (judged : ∀ cause, reports cause →
      ∃ field given, passes field given ∧ field.Judges given cause) :
    ReportsTruly passes reports where
  supported field given _ passed _ admitted :=
    (wellJudged field given passed).supported_judged admitted
  truthful cause reported := by
    obtain ⟨field, given, passed, judges⟩ := judged cause reported
    obtain ⟨validator, member, right⟩ := (wellJudged field given passed).rightlyRefuses judges
    exact ⟨field, given, validator, passed, member, right⟩

theorem Attribute.WellJudged.reportsTruly (registry : Registry types)
    (wellJudged : field.WellJudged types) (value : Value) : ReportsTruly (field.Passes value)
      fun cause => field.coerce value = .error (.validation cause) :=
  .of_judges types (fun _ _ passes => passes.wellJudged registry wellJudged)
    fun _ refused => Attribute.exists_judges_of_coerce refused

theorem Registry.read_reportsTruly (registry : Registry types) {type : EntityType}
    (known : type ∈ types) (entries : Mapping) : ReportsTruly (type.PassesDocument entries)
      fun cause => type.read entries = .error (.validation cause) :=
  .of_judges types (fun _ _ passes => passes.wellJudged registry known)
    fun _ refused => EntityType.exists_judges_of_read refused

end WellJudged

end NetworkAutomation
