/-
This file proves that an entity is filled again from fields that hold what is written of it.
-/

import NetworkAutomation.Proofs.Admission

namespace NetworkAutomation

/-- A scalar that is given counts as present. -/
theorem AttributeType.Fits.isPresent_of_scalar {type : AttributeType} {value : Value}
    (fits : type.Fits value) (scalar : type.isContainer = false) : value.isPresent = true := by
  have kind := fits.kind
  cases value with
  | text content => rfl
  | integer content => rfl
  | boolean content => rfl
  | number content => rfl
  | null => exact nomatch kind
  | _ => cases type <;> simp_all [AttributeType.isContainer, primitive, Value.primitive?]

/-- Where a scalar is left out its default is left out as well. -/
theorem Attribute.Accepts.default_of_scalar {field : Attribute} {value : Value}
    (accepts : field.Accepts value) (scalar : field.type.isContainer = false)
    (absent : value.isPresent = false) : field.default.isPresent = false := by
  have isNull : value = .null := by
    by_contra given
    rw [(accepts.fits given).isPresent_of_scalar scalar] at absent
    contradiction
  rw [accepts.null isNull]
  rfl

namespace EntityType

/-- What such a type leaves out of the document can be made up when the document is read. -/
structure Lossless (type : EntityType) : Prop where
  absent : ∀ field ∈ type.attributes, field.policy = .present →
    field.type.isContainer = true → field.default.isPresent = false
  captured : ∀ (slot : Nat) field, type.flattenedSlot? = some slot →
    type.attributes[slot]? = some field → field.default = .dict []
  keyed : ∀ field ∈ type.attributes, ∀ item key, field.type = .map item key →
    key ∈ item.fieldNames ∧ item.envelope = none

/-- The same condition can be computed. -/
def isLossless (type : EntityType) : Bool :=
  (type.attributes.all fun field =>
    (field.policy ≠ .present || !field.type.isContainer || !field.default.isPresent) &&
      match field.type with
      | .map item key => item.fieldNames.contains key && item.envelope.isNone
      | _ => true) &&
    match type.flattenedSlot?.bind fun slot => type.attributes[slot]? with
    | some field =>
        match field.default with
        | .dict [] => true
        | _ => false
    | none => true

theorem isLossless_iff {type : EntityType} : type.isLossless = true ↔ type.Lossless := by
  unfold isLossless
  rw [Bool.and_eq_true, List.all_eq_true]
  constructor
  · rintro ⟨each, catchAll⟩
    refine ⟨fun field member present container => ?_, fun slot field flattened placed => ?_,
      fun field member item key isMap => ?_⟩
    · have own := each field member
      simp_all
    · rw [flattened, Option.bind_some, placed] at catchAll
      dsimp only at catchAll
      split at catchAll
      next empty => exact empty
      next => exact Bool.noConfusion catchAll
    · have own := each field member
      simp_all
  · intro lossless
    refine ⟨fun field member => ?_, ?_⟩
    · rw [Bool.and_eq_true, Bool.or_eq_true, Bool.or_eq_true]
      constructor
      · by_cases present : field.policy = .present
        · by_cases container : field.type.isContainer = true
          · exact .inr (by simp [lossless.absent field member present container])
          · exact .inl (.inr (by simpa using container))
        · exact .inl (.inl (by simpa using present))
      · split
        next item key isMap =>
          obtain ⟨declared, bare⟩ := lossless.keyed field member item key isMap
          simp [declared, bare]
        next => rfl
    · split
      next field found =>
        obtain ⟨slot, flattened, placed⟩ := Option.bind_eq_some_iff.mp found
        rw [lossless.captured slot field flattened placed]
      next => rfl

instance (type : EntityType) : Decidable type.Lossless :=
  decidable_of_iff _ isLossless_iff

/-! ## Filling slots -/

theorem populateField_of_undeclared {type : EntityType} (coerce : Nat → Value → Checked Value)
    (source : FieldSource) (population : Population) {entry : String × Value}
    (undeclared : type.slot? entry.1 = none) (isOpen : type.isOpen = true) :
    type.populateField coerce source population entry =
      .ok { population with extras := population.extras ++ [entry] } := by
  simp only [populateField, undeclared, isOpen, if_true]

theorem populateField_of_assigned {type : EntityType} {coerce : Nat → Value → Checked Value}
    (source : FieldSource) (population : Population) {entry : String × Value} {slot : Nat}
    {value : Value} (found : type.slot? entry.1 = some slot)
    (assigned : type.assign coerce slot entry.2 = .ok value) :
    type.populateField coerce source population entry =
      .ok { population with values := population.values.set slot value } := by
  simp only [populateField, found, assigned, Success.bind_ok, Success.pure_eq_ok]

/-- Slots that the fields name get their targets, and the others stay as they were. -/
theorem foldlM_populateField {type : EntityType} (source : FieldSource) {target : Nat → Value}
    {fields : List (String × Value)} (population : Population)
    (sized : population.values.length = type.attributes.length)
    (opened : ∀ entry ∈ fields, type.slot? entry.1 = none → type.isOpen = true)
    (assigned : ∀ entry ∈ fields, ∀ slot, type.slot? entry.1 = some slot →
      type.assign type.coerceAt slot entry.2 = .ok (target slot)) :
    ∃ values, fields.foldlM (type.populateField type.coerceAt source) population =
        .ok ⟨values, population.extras ++ fields.filter fun entry => !type.hasAttribute entry.1⟩ ∧
      values.length = type.attributes.length ∧
      (∀ slot, (∃ entry ∈ fields, type.slot? entry.1 = some slot) →
        values[slot]? = some (target slot)) ∧
      ∀ slot, (∀ entry ∈ fields, type.slot? entry.1 ≠ some slot) →
        values[slot]? = population.values[slot]? := by
  induction fields generalizing population with
  | nil =>
      refine ⟨population.values, ?_, sized, fun slot named => ?_, fun slot _ => rfl⟩
      · simp
      · obtain ⟨entry, member, _⟩ := named
        exact absurd member List.not_mem_nil
  | cons entry rest ih =>
      rw [List.forall_mem_cons] at opened assigned
      cases found : type.slot? entry.1 with
      | none =>
          have undeclared : type.hasAttribute entry.1 = false := by
            rw [hasAttribute, found]
            rfl
          have first := populateField_of_undeclared type.coerceAt source population found
            (opened.1 found)
          obtain ⟨values, folded, length, named, others⟩ :=
            ih { population with extras := population.extras ++ [entry] } sized opened.2 assigned.2
          refine ⟨values, ?_, length, fun slot hit => ?_, fun slot missed => ?_⟩
          · rw [List.foldlM_cons, first, Success.bind_ok, folded]
            simp [undeclared]
          · obtain ⟨other, member, leads⟩ := hit
            rcases List.mem_cons.mp member with rfl | inRest
            · cases found.symm.trans leads
            · exact named slot ⟨other, inRest, leads⟩
          · exact others slot fun other member => missed other (List.mem_cons_of_mem _ member)
      | some slot =>
          have declared : type.hasAttribute entry.1 = true := hasAttribute_iff.mpr ⟨slot, found⟩
          have first := populateField_of_assigned source population found
            (assigned.1 slot found)
          obtain ⟨values, folded, length, named, others⟩ :=
            ih { population with values := population.values.set slot (target slot) }
              (List.length_set.trans sized) opened.2 assigned.2
          have inRange : slot < population.values.length := by
            obtain ⟨field, placed⟩ := exists_field_of_slot? found
            rw [sized]
            exact (List.getElem?_eq_some_iff.mp placed).1
          refine ⟨values, ?_, length, fun own hit => ?_, fun own missed => ?_⟩
          · rw [List.foldlM_cons, first, Success.bind_ok, folded]
            simp [declared]
          · by_cases later : ∃ other ∈ rest, type.slot? other.1 = some own
            · exact named own later
            · have same : slot = own := by
                obtain ⟨other, member, leads⟩ := hit
                rcases List.mem_cons.mp member with rfl | inRest
                · exact Option.some.inj (found.symm.trans leads)
                · exact absurd ⟨other, inRest, leads⟩ later
              subst same
              rw [others slot fun other member leads => later ⟨other, member, leads⟩,
                List.getElem?_set_self inRange]
          · have apart : slot ≠ own := by
              rintro rfl
              exact missed entry List.mem_cons_self found
            rw [others own fun other member => missed other (List.mem_cons_of_mem _ member),
              List.getElem?_set_ne apart]

/-! ## Capturing what is not declared -/

/-- The entries that undeclared fields are captured as. -/
def captured (type : EntityType) (fields : List (String × Value)) : Mapping :=
  (fields.filter fun entry => !type.hasAttribute entry.1).map fun entry =>
    (entry.1, entry.2.toDocument)

/-- Captured values are merged into the dict of the catch-all. -/
theorem foldl_capture {values : List Value} {slot : Nat} {entries : Mapping}
    (stored : values[slot]? = some (.dict entries)) (added : List (String × Value)) :
    added.foldl (fun values entry => capture values slot entry.1 entry.2.toDocument) values =
      values.set slot (.dict (Mapping.merge entries
        (added.map fun entry => (entry.1, entry.2.toDocument)))) := by
  induction added generalizing values entries with
  | nil =>
      obtain ⟨inRange, same⟩ := List.getElem?_eq_some_iff.mp stored
      rw [List.foldl_nil, List.map_nil, Mapping.merge, List.foldl_nil, ← same,
        List.set_getElem_self]
  | cons entry rest ih =>
      have inRange := (List.getElem?_eq_some_iff.mp stored).1
      have first : capture values slot entry.1 entry.2.toDocument =
          values.set slot (.dict (Mapping.insert entries entry.1 entry.2.toDocument)) := by
        rw [capture, stored]
      rw [List.foldl_cons, first, ih (List.getElem?_set_self inRange), List.set_set, List.map_cons]
      rfl

theorem catchAllSlot?_of_flattenedSlot? {type : EntityType} {slot : Nat}
    (flattened : type.flattenedSlot? = some slot) : type.catchAllSlot? = some slot := by
  obtain ⟨catchAll, declared, located⟩ := Option.bind_eq_some_iff.mp flattened
  split at located
  next => exact Option.bind_eq_some_iff.mpr ⟨catchAll, declared, located⟩
  next => contradiction

theorem isOpen_of_flattenedSlot? {type : EntityType} {slot : Nat}
    (flattened : type.flattenedSlot? = some slot) : type.isOpen = true := by
  obtain ⟨catchAll, declared, _⟩ := Option.bind_eq_some_iff.mp flattened
  rw [isOpen, declared]
  rfl

/-- Undeclared fields are merged into the catch-all, and all other slots stay as they were. -/
theorem captureExtras_eq {type : EntityType} {values : List Value} {fields : List (String × Value)}
    {population : Population} (extras : population =
      ⟨values, fields.filter fun entry => !type.hasAttribute entry.1⟩)
    (flattened : ∀ entry ∈ fields, type.slot? entry.1 = none →
      ∃ slot, type.flattenedSlot? = some slot)
    (stored : ∀ slot, type.flattenedSlot? = some slot →
      ∃ entries, values[slot]? = some (.dict entries)) :
    (type.captureExtras population).length = values.length ∧
      (∀ slot entries, type.flattenedSlot? = some slot → values[slot]? = some (.dict entries) →
        (type.captureExtras population)[slot]? =
          some (.dict (Mapping.merge entries (type.captured fields)))) ∧
      ∀ slot, type.flattenedSlot? ≠ some slot →
        (type.captureExtras population)[slot]? = values[slot]? := by
  subst extras
  cases located : type.flattenedSlot? with
  | none =>
      have empty : (fields.filter fun entry => !type.hasAttribute entry.1) = [] := by
        rw [List.filter_eq_nil_iff]
        intro entry member undeclared
        have absent : type.slot? entry.1 = none := by
          simpa [hasAttribute] using undeclared
        obtain ⟨slot, found⟩ := flattened entry member absent
        rw [located] at found
        contradiction
      have same : type.captureExtras ⟨values, []⟩ = values := by
        rw [captureExtras]
        cases type.catchAllSlot? <;> rfl
      rw [empty, same]
      exact ⟨rfl, fun _ _ found => absurd found (by simp), fun _ _ => rfl⟩
  | some slot =>
      obtain ⟨entries, dict⟩ := stored slot located
      have inRange := (List.getElem?_eq_some_iff.mp dict).1
      have set : type.captureExtras ⟨values, fields.filter fun entry =>
          !type.hasAttribute entry.1⟩ =
            values.set slot (.dict (Mapping.merge entries (type.captured fields))) := by
        rw [captureExtras, catchAllSlot?_of_flattenedSlot? located]
        exact foldl_capture dict _
      rw [set]
      refine ⟨List.length_set, fun own others same held => ?_, fun own apart => ?_⟩
      · obtain rfl := Option.some.inj same
        obtain rfl := Value.dict.inj (Option.some.inj (dict.symm.trans held))
        rw [List.getElem?_set_self inRange]
      · rw [List.getElem?_set_ne fun same => apart (congrArg some same)]

/-- Slots that fields name have their targets, and all others have their defaults. -/
structure FilledFrom (type : EntityType) (target : Nat → Value) (fields : List (String × Value))
    (values : List Value) : Prop where
  sized : values.length = type.attributes.length
  captured : ∀ slot field entries, type.flattenedSlot? = some slot →
    type.attributes[slot]? = some field → field.default = .dict entries →
    values[slot]? = some (.dict (Mapping.merge entries (type.captured fields)))
  slots : ∀ (slot : Nat) (field : Attribute), type.attributes[slot]? = some field →
    type.flattenedSlot? ≠ some slot →
    (∃ entry ∈ fields, type.slot? entry.1 = some slot ∧ values[slot]? = some (target slot)) ∨
    (∀ entry ∈ fields, type.slot? entry.1 ≠ some slot) ∧ values[slot]? = some field.default

/-- A text field is no flattened catch-all, since that is a dict. -/
theorem Sound.flattenedSlot?_ne_of_text {types : List EntityType} {type : EntityType}
    (sound : type.Sound types) {slot : Nat} {field : Attribute}
    (placed : type.attributes[slot]? = some field) (text : field.type = .text) :
    type.flattenedSlot? ≠ some slot := by
  intro flattened
  obtain ⟨other, otherPlaced, _, dict⟩ :=
    sound.exists_catchAllSlot (catchAllSlot?_of_flattenedSlot? flattened)
  rw [Option.some.inj (otherPlaced.symm.trans placed), text] at dict
  contradiction

/-- The catch-all is a dict from the start, because its default is one. -/
theorem Sound.exists_catchAllDict {types : List EntityType} {type : EntityType}
    (sound : type.Sound types) {slot : Nat} (located : type.catchAllSlot? = some slot) :
    ∃ field entries, type.attributes[slot]? = some field ∧ field.default = .dict entries := by
  obtain ⟨field, placed, fieldSound, dict⟩ := sound.exists_catchAllSlot located
  have given : field.default ≠ .null := by
    intro isNull
    have unset := sound.nulls field (List.mem_of_getElem? placed) isNull
    rw [AttributeType.MayBeNull, dict] at unset
    exact unset.elim Bool.noConfusion fun ⟨_, isObject⟩ => nomatch isObject
  have kind := (fieldSound.accepted.fits given).kind
  rw [dict] at kind
  cases default : field.default with
  | dict entries => exact ⟨field, entries, placed, default⟩
  | _ =>
      rw [default] at kind
      exact nomatch kind

theorem Sound.exists_defaultDict {types : List EntityType} {type : EntityType}
    (sound : type.Sound types) {slot : Nat} (flattened : type.flattenedSlot? = some slot) :
    ∃ field entries, type.attributes[slot]? = some field ∧ field.default = .dict entries :=
  sound.exists_catchAllDict (catchAllSlot?_of_flattenedSlot? flattened)

/-- Fields that are coerced to targets fill the slots of their names, and others stay default. -/
theorem exists_filled_from {types : List EntityType} {type : EntityType} (sound : type.Sound types)
    {target : Nat → Value} {fields : List (String × Value)} {start : List Value}
    (sized : start.length = type.attributes.length)
    (default : ∀ (slot : Nat) field, type.attributes[slot]? = some field →
      (∀ entry ∈ fields, type.slot? entry.1 ≠ some slot) → start[slot]? = some field.default)
    (flattened : ∀ entry ∈ fields, type.slot? entry.1 = none →
      ∃ slot, type.flattenedSlot? = some slot)
    (assigned : ∀ entry ∈ fields, ∀ slot, type.slot? entry.1 = some slot →
      type.flattenedSlot? ≠ some slot ∧
        type.assign type.coerceAt slot entry.2 = .ok (target slot)) :
    ∃ population, fields.foldlM (type.populateField type.coerceAt .document) ⟨start, []⟩ =
        .ok population ∧ type.FilledFrom target fields (type.captureExtras population) := by
  obtain ⟨values, folded, length, named, others⟩ :=
    foldlM_populateField .document ⟨start, []⟩ sized
      (fun entry member absent => by
        obtain ⟨slot, found⟩ := flattened entry member absent
        exact isOpen_of_flattenedSlot? found)
      fun entry member slot found => (assigned entry member slot found).2
  rw [List.nil_append] at folded
  have kept {slot : Nat} {field : Attribute} (placed : type.attributes[slot]? = some field)
      (missed : ∀ entry ∈ fields, type.slot? entry.1 ≠ some slot) :
      values[slot]? = some field.default := by
    rw [others slot missed]
    exact default slot field placed missed
  have unnamed {slot : Nat} (located : type.flattenedSlot? = some slot) :
      ∀ entry ∈ fields, type.slot? entry.1 ≠ some slot :=
    fun entry member found => (assigned entry member slot found).1 located
  have stored : ∀ slot, type.flattenedSlot? = some slot →
      ∃ entries, values[slot]? = some (.dict entries) := by
    intro slot located
    obtain ⟨field, entries, placed, dict⟩ := sound.exists_defaultDict located
    exact ⟨entries, dict ▸ kept placed (unnamed located)⟩
  obtain ⟨finalLength, restored, same⟩ := captureExtras_eq rfl flattened stored
  refine ⟨_, folded, finalLength.trans length, fun slot field entries located placed dict => ?_,
    fun slot field placed apart => ?_⟩
  · exact restored slot entries located (dict ▸ kept placed (unnamed located))
  · rw [same slot apart]
    by_cases hit : ∃ entry ∈ fields, type.slot? entry.1 = some slot
    · obtain ⟨entry, member, found⟩ := hit
      exact .inl ⟨entry, member, found, named slot ⟨entry, member, found⟩⟩
    · have missed : ∀ entry ∈ fields, type.slot? entry.1 ≠ some slot :=
        fun entry member found => hit ⟨entry, member, found⟩
      exact .inr ⟨missed, kept placed missed⟩

theorem getElem?_defaults {type : EntityType} {slot : Nat} {field : Attribute}
    (placed : type.attributes[slot]? = some field) : type.defaults[slot]? = some field.default := by
  rw [defaults, List.getElem?_map, placed, Option.map_some]

theorem exists_flattenedSlot {type : EntityType} {documents : List Document}
    (captured : type.capturedEntries documents ≠ []) : ∃ slot, type.flattenedSlot? = some slot := by
  unfold capturedEntries at captured
  split at captured
  next entries found =>
    obtain ⟨slot, located, _⟩ := Option.bind_eq_some_iff.mp found
    exact ⟨slot, located⟩
  next => exact absurd rfl captured

/-- Documents are captured again when the dict of the catch-all holds just what was captured. -/
theorem capturedEntries_congr {type : EntityType} {former latter : List Document}
    (restored : ∀ slot, type.flattenedSlot? = some slot →
      latter[slot]? = some (.mapping (type.capturedEntries former))) :
    type.capturedEntries latter = type.capturedEntries former := by
  cases located : type.flattenedSlot? with
  | none =>
      rw [capturedEntries, capturedEntries, located]
      rfl
  | some slot =>
      have undeclared : (type.capturedEntries former).filter (fun entry =>
          !type.hasAttribute entry.1) = type.capturedEntries former := by
        rw [List.filter_eq_self]
        intro entry member
        rw [(mem_capturedEntries member).1]
        rfl
      have found : (type.flattenedSlot?.bind fun slot => latter[slot]?) =
          some (.mapping (type.capturedEntries former)) := by
        rw [located]
        exact restored slot located
      rw [capturedEntries, found]
      exact undeclared

/-- Slots that are written alike beside the same captured entries are laid out alike. -/
theorem layout_congr {type : EntityType} {former latter : List Document}
    (sameLength : latter.length = former.length)
    (alike : ∀ (slot : Nat) (field : Attribute) first second,
      type.attributes[slot]? = some field → latter[slot]? = some first →
      former[slot]? = some second → type.flattenedSlot? ≠ some slot →
      field.policy.emits first = field.policy.emits second ∧
        (field.policy.emits first = true → first = second))
    (restored : ∀ slot, type.flattenedSlot? = some slot →
      latter[slot]? = some (.mapping (type.capturedEntries former))) :
    type.layout latter = type.layout former := by
  have declared : declaredEntries type.flattenedSlot? 0 type.attributes latter =
      declaredEntries type.flattenedSlot? 0 type.attributes former := by
    refine declaredEntries_congr sameLength
      fun slot field first second placed left right apart => ?_
    rw [Nat.zero_add] at apart
    exact alike slot field first second placed left right apart
  rw [layout, layout, declared, capturedEntries_congr restored]

/-- A slot that is left out of the document is left out again when it is back at its default. -/
theorem Lossless.default_unwritten {type : EntityType} (lossless : type.Lossless)
    {field : Attribute} (member : field ∈ type.attributes) {value : Value}
    (accepts : field.Accepts value)
    (unwritten : field.policy.emits value.toDocument = false) :
    field.policy.emits field.default.toDocument = false := by
  cases policy : field.policy with
  | always =>
      rw [policy] at unwritten
      exact Bool.noConfusion unwritten
  | never => rfl
  | present =>
      by_cases container : field.type.isContainer = true
      · exact lossless.absent field member policy container
      · rw [policy] at unwritten
        exact accepts.default_of_scalar (Bool.not_eq_true _ ▸ container) unwritten

end EntityType

/-! ## Writing again what was filled -/

namespace Entity

/-- The fields hold the targets of all slots that are written, and what the catch-all captured. -/
structure CarriedBy (entity : Entity) (target : Nat → Value) (fields : List (String × Value)) :
    Prop where
  assigned : ∀ entry ∈ fields, ∀ slot, entity.type.slot? entry.1 = some slot →
    entity.type.flattenedSlot? ≠ some slot ∧
      entity.type.assign entity.type.coerceAt slot entry.2 = .ok (target slot)
  written : ∀ (slot : Nat) (field : Attribute) value, entity.type.attributes[slot]? = some field →
    entity.values[slot]? = some value → entity.type.flattenedSlot? ≠ some slot →
    field.policy.emits value.toDocument = true →
    ∃ entry ∈ fields, entity.type.slot? entry.1 = some slot
  captured : (fields.filter fun entry => !entity.type.hasAttribute entry.1) =
    EntityType.fieldsOf (entity.type.capturedEntries (entity.values.map Value.toDocument))

variable {types : List EntityType} {entity : Entity} {target : Nat → Value}
  {fields : List (String × Value)}

theorem CarriedBy.flattened (carried : entity.CarriedBy target fields) {entry : String × Value}
    (member : entry ∈ fields) (absent : entity.type.slot? entry.1 = none) :
    ∃ slot, entity.type.flattenedSlot? = some slot := by
  have undeclared : entry ∈ fields.filter fun entry => !entity.type.hasAttribute entry.1 :=
    List.mem_filter.mpr ⟨member, by simp [EntityType.hasAttribute, absent]⟩
  rw [carried.captured] at undeclared
  obtain ⟨own, inCaptured, _⟩ := List.mem_map.mp undeclared
  exact EntityType.exists_flattenedSlot (List.ne_nil_of_mem inCaptured)

theorem CarriedBy.captured_eq (carried : entity.CarriedBy target fields) :
    entity.type.captured fields =
      entity.type.capturedEntries (entity.values.map Value.toDocument) := by
  rw [EntityType.captured, carried.captured, EntityType.fieldsOf, List.map_map]
  simp [Function.comp_def, Value.toDocument_ofDocument]

/-- The catch-all has what it had captured, because nothing stands in it from the start. -/
theorem CarriedBy.restored {values : List Value} (carried : entity.CarriedBy target fields)
    (registry : Registry types) (sound : entity.SoundThroughout types)
    (lossless : entity.type.Lossless) (filled : entity.type.FilledFrom target fields values)
    {slot : Nat} (flattened : entity.type.flattenedSlot? = some slot) :
    values[slot]? =
      some (.dict (entity.type.capturedEntries (entity.values.map Value.toDocument))) := by
  have typeSound := registry.sound _ sound.here.known
  obtain ⟨field, _, placed, _⟩ := typeSound.exists_defaultDict flattened
  have merged := filled.captured slot field [] flattened placed
    (lossless.captured slot field flattened placed)
  have distinct : (Entries.keys
      (entity.type.capturedEntries (entity.values.map Value.toDocument))).Nodup := by
    refine EntityType.nodup_capturedEntries fun document member => ?_
    obtain ⟨value, inValues, rfl⟩ := List.mem_map.mp member
    exact (sound.values value inValues).toDocument_wellFormed registry
  rw [merged, carried.captured_eq, ← Mapping.ofEntries, Mapping.ofEntries_of_nodup distinct]

/-- A slot that no field names was left out of the document. -/
theorem CarriedBy.unwritten (carried : entity.CarriedBy target fields) {slot : Nat}
    {field : Attribute} {value : Value} (placed : entity.type.attributes[slot]? = some field)
    (stored : entity.values[slot]? = some value)
    (apart : entity.type.flattenedSlot? ≠ some slot)
    (missed : ∀ entry ∈ fields, entity.type.slot? entry.1 ≠ some slot) :
    field.policy.emits value.toDocument = false := by
  rw [← Bool.not_eq_true]
  intro emitted
  obtain ⟨entry, member, found⟩ := carried.written slot field value placed stored apart emitted
  exact missed entry member found

/-- Required fields are always written, so none is missing after the entity is filled again. -/
theorem CarriedBy.complete {values : List Value} (carried : entity.CarriedBy target fields)
    (registry : Registry types) (sound : entity.SoundThroughout types)
    (lossless : entity.type.Lossless) (filled : entity.type.FilledFrom target fields values) :
    entity.type.checkRequired values = .ok () := by
  rw [EntityType.checkRequired_eq_ok_iff]
  rintro ⟨field, value⟩ member required
  obtain ⟨slot, paired⟩ := List.mem_iff_getElem?.mp member
  obtain ⟨placed, stored⟩ := List.getElem?_zip_eq_some.mp paired
  by_cases flattened : entity.type.flattenedSlot? = some slot
  · have restored := carried.restored registry sound lossless filled flattened
    obtain rfl := Option.some.inj (restored.symm.trans stored)
    exact Value.noConfusion
  · rcases filled.slots slot field placed flattened with
      ⟨entry, inFields, found, given⟩ | ⟨missed, _⟩
    · obtain rfl := Option.some.inj (given.symm.trans stored)
      have assigned := (carried.assigned entry inFields slot found).2
      exact ((EntityType.assign_eq_ok_iff placed).mp assigned).2 required
    · obtain ⟨former, formerStored, _⟩ := exists_related sound.here.slots placed
      have unwritten := carried.unwritten placed formerStored flattened missed
      have fieldSound := (registry.sound _ sound.here.known).attributes field
        (List.mem_of_getElem? placed)
      rw [fieldSound.always required] at unwritten
      exact Bool.noConfusion unwritten

/-- Slots that were filled again are laid out as before. -/
theorem CarriedBy.layout_eq {values : List Value} (carried : entity.CarriedBy target fields)
    (registry : Registry types) (sound : entity.SoundThroughout types)
    (lossless : entity.type.Lossless) (filled : entity.type.FilledFrom target fields values)
    (alike : ∀ (slot : Nat) value, entity.values[slot]? = some value →
      (target slot).toDocument = value.toDocument) :
    entity.type.layout (values.map Value.toDocument) =
      entity.type.layout (entity.values.map Value.toDocument) := by
  refine EntityType.layout_congr ?_ ?_ fun slot flattened => ?_
  · rw [List.length_map, List.length_map, filled.sized, sound.here.slots.length_eq]
  · intro slot field first second placed left right apart
    rw [List.getElem?_map] at left right
    obtain ⟨latter, latterStored, rfl⟩ := Option.map_eq_some_iff.mp left
    obtain ⟨former, formerStored, rfl⟩ := Option.map_eq_some_iff.mp right
    rcases filled.slots slot field placed apart with ⟨_, _, _, given⟩ | ⟨missed, given⟩
    · obtain rfl := Option.some.inj (given.symm.trans latterStored)
      rw [alike slot former formerStored]
      exact ⟨rfl, fun _ => rfl⟩
    · obtain rfl := Option.some.inj (given.symm.trans latterStored)
      obtain ⟨own, ownStored, holds⟩ := exists_related sound.here.slots placed
      obtain rfl := Option.some.inj (formerStored.symm.trans ownStored)
      have unwritten := carried.unwritten placed formerStored apart missed
      rw [unwritten,
        lossless.default_unwritten (List.mem_of_getElem? placed) holds.accepts unwritten]
      exact ⟨rfl, nofun⟩
  · rw [List.getElem?_map, carried.restored registry sound lossless filled flattened]
    rfl

/-- An entity is filled again from fields that carry it, and it is written as before. -/
theorem CarriedBy.rebuild (carried : entity.CarriedBy target fields) (registry : Registry types)
    (sound : entity.SoundThroughout types) (lossless : entity.type.Lossless)
    (alike : ∀ (slot : Nat) value, entity.values[slot]? = some value →
      (target slot).toDocument = value.toDocument) :
    ∃ rebuilt, entity.type.populate entity.type.coerceAt .document fields = .ok rebuilt ∧
      rebuilt.serialize = entity.serialize := by
  obtain ⟨population, folded, filled⟩ := EntityType.exists_filled_from
    (registry.sound _ sound.here.known) (List.length_map _)
    (fun _ _ placed _ => EntityType.getElem?_defaults placed) (fun _ => carried.flattened)
    carried.assigned
  have complete := carried.complete registry sound lossless filled
  refine ⟨_, EntityType.populate_eq_ok_iff.mpr ⟨population, folded, complete, rfl⟩, ?_⟩
  rw [Entity.serialize_eq, Entity.serialize_eq]
  exact carried.layout_eq registry sound lossless filled alike

end Entity

end NetworkAutomation
