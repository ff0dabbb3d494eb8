/-
This file says what the slots of an entity hold once fields have filled it. The last field of a slot
decides what it is given, and the last field under an undeclared name decides what is captured.
-/

import Mathlib.Data.List.Induction
import NetworkAutomation.Proofs.HeldKeys
import NetworkAutomation.Proofs.Rebuilding

namespace NetworkAutomation

/-! ## The last entry of a sort -/

namespace Entries

variable {α β : Type}

/-- The last value under one of the chosen keys. -/
def lastOf? (chosen : String → Bool) (entries : List (String × α)) : Option α :=
  (entries.filter fun entry => chosen entry.1).getLast?.map Prod.snd

theorem lastOf?_append (chosen : String → Bool) (first second : List (String × α)) :
    lastOf? chosen (first ++ second) = (lastOf? chosen second).or (lastOf? chosen first) := by
  unfold lastOf?
  rw [List.filter_append, List.getLast?_append, Option.map_or]

theorem lastOf?_singleton (chosen : String → Bool) (entry : String × α) :
    lastOf? chosen [entry] = if chosen entry.1 then some entry.2 else none := by
  unfold lastOf?
  cases held : chosen entry.1 <;> simp [held]

theorem lastOf?_concat (chosen : String → Bool) (entries : List (String × α))
    (entry : String × α) :
    lastOf? chosen (entries ++ [entry]) =
      if chosen entry.1 then some entry.2 else lastOf? chosen entries := by
  rw [lastOf?_append, lastOf?_singleton]
  cases chosen entry.1 <;> rfl

theorem lastOf?_map (chosen : String → Bool) (view : α → β) (entries : List (String × α)) :
    lastOf? chosen (entries.map fun entry => (entry.1, view entry.2)) =
      (lastOf? chosen entries).map view := by
  unfold lastOf?
  rw [List.filter_map, List.getLast?_map, Option.map_map, Option.map_map]
  rfl

/-- Leaving out keys either leaves out all entries of a key or none of them. -/
theorem lastOf?_filter (kept : String → Bool) (key : String) (entries : List (String × α)) :
    lastOf? (· == key) (entries.filter fun entry => kept entry.1) =
      if kept key then lastOf? (· == key) entries else none := by
  unfold lastOf?
  rw [List.filter_filter]
  split
  next keeps =>
    congr 3
    funext entry
    by_cases same : entry.1 = key <;> simp [same, keeps]
  next drops =>
    rw [List.filter_eq_nil_iff.mpr]
    · rfl
    · intro entry _
      by_cases same : entry.1 = key <;> simp [same, drops]

/-- Under distinct keys the last entry of a key is the only one. -/
theorem lastOf?_eq_find? {entries : List (String × α)} (distinct : (keys entries).Nodup)
    (key : String) : lastOf? (· == key) entries = find? entries key := by
  induction entries with
  | nil => rfl
  | cons entry rest ih =>
      rw [keys_cons, List.nodup_cons] at distinct
      rw [← List.singleton_append, lastOf?_append, lastOf?_singleton, ih distinct.2,
        List.singleton_append, find?_cons]
      by_cases same : entry.1 = key
      · have missing : find? rest key = none := find?_eq_none_iff.mpr (same ▸ distinct.1)
        simp [same, missing]
      · simp [same]

end Entries

/-- Among the merged entries the last one of a key is found, ahead of what was there. -/
theorem Mapping.find?_merge_last (mapping added : Mapping) (key : String) :
    Entries.find? (Mapping.merge mapping added) key =
      (Entries.lastOf? (· == key) added).or (Entries.find? mapping key) := by
  induction added using List.reverseRecOn with
  | nil => rfl
  | append_singleton added entry ih =>
      have merged : Mapping.merge mapping (added ++ [entry]) =
          Mapping.insert (Mapping.merge mapping added) entry.1 entry.2 := by
        rw [Mapping.merge, List.foldl_append]
        rfl
      rw [merged, Mapping.insert_eq_put, Entries.find?_put, Entries.lastOf?_concat]
      by_cases same : entry.1 = key
      · simp [same]
      · simp [same, Ne.symm same, ih]

namespace EntityType

variable {types : List EntityType} {type : EntityType} {source : FieldSource} {slot : Nat}
  {fields : List (String × Value)}

/-! ## Fields that are taken -/

/-- A field passes through the attribute of its slot, or an open type captures it. -/
structure Takes (type : EntityType) (entry : String × Value) : Prop where
  captured : type.slot? entry.1 = none → type.isOpen = true
  assigned : ∀ slot, type.slot? entry.1 = some slot →
    ∃ value, type.assign type.coerceAt slot entry.2 = .ok value

/-- Whether a field is taken does not depend on the fields before it. -/
theorem exists_populateField_iff {population : Population} {entry : String × Value} :
    (∃ next, type.populateField type.coerceAt source population entry = .ok next) ↔
      type.Takes entry := by
  cases found : type.slot? entry.1 with
  | none =>
      constructor
      · rintro ⟨next, taken⟩
        constructor
        · intro _
          by_contra closed
          simp [populateField, found, closed] at taken
        · intro slot located
          rw [found] at located
          contradiction
      · intro takes
        exact ⟨_, populateField_of_undeclared _ _ _ found (takes.captured found)⟩
  | some slot =>
      constructor
      · rintro ⟨next, taken⟩
        simp only [populateField, found] at taken
        obtain ⟨value, assigned, _⟩ := Success.bind_eq_ok.mp taken
        constructor
        · intro absent
          rw [found] at absent
          contradiction
        · intro own located
          obtain rfl := Option.some.inj (found.symm.trans located)
          exact ⟨value, assigned⟩
      · intro takes
        obtain ⟨value, assigned⟩ := takes.assigned slot found
        exact ⟨_, populateField_of_assigned _ _ found assigned⟩

theorem exists_foldlM_iff {population : Population} :
    (∃ final, fields.foldlM (type.populateField type.coerceAt source) population = .ok final) ↔
      ∀ entry ∈ fields, type.Takes entry := by
  induction fields generalizing population with
  | nil => exact iff_of_true ⟨population, rfl⟩ fun _ member => absurd member List.not_mem_nil
  | cons entry rest ih =>
      rw [List.forall_mem_cons]
      constructor
      · rintro ⟨final, folded⟩
        rw [List.foldlM_cons] at folded
        obtain ⟨next, taken, later⟩ := Success.bind_eq_ok.mp folded
        exact ⟨exists_populateField_iff.mp ⟨next, taken⟩, ih.mp ⟨final, later⟩⟩
      · rintro ⟨first, others⟩
        obtain ⟨next, taken⟩ := exists_populateField_iff.mpr first
        obtain ⟨final, later⟩ := ih.mpr others
        refine ⟨final, ?_⟩
        rw [List.foldlM_cons, taken]
        exact later

/-! ## Slots that are filled -/

/-- The last field of a slot decides what it is given, and null stands for no field. -/
def givenTo (type : EntityType) (slot : Nat) (fields : List (String × Value)) : Value :=
  (Entries.lastOf? (fun name => type.slot? name == some slot) fields).getD .null

theorem givenTo_concat (fields : List (String × Value)) (entry : String × Value) :
    type.givenTo slot (fields ++ [entry]) =
      if type.slot? entry.1 = some slot then entry.2 else type.givenTo slot fields := by
  rw [givenTo, Entries.lastOf?_concat]
  by_cases leads : type.slot? entry.1 = some slot
  · simp [leads]
  · simp [leads, givenTo]

/-- Each slot holds what it was given last, and what is undeclared waits to be captured. -/
structure Population.HeldFrom (type : EntityType) (fields : List (String × Value))
    (population : Population) : Prop where
  sized : population.values.length = type.attributes.length
  slots : ∀ (slot : Nat) (field : Attribute), type.attributes[slot]? = some field → ∃ value,
    field.coerce (type.givenTo slot fields) = .ok value ∧ population.values[slot]? = some value
  extras : population.extras = fields.filter fun entry => !type.hasAttribute entry.1

theorem populateField_extras {population next : Population} {entry : String × Value}
    (taken : type.populateField type.coerceAt source population entry = .ok next) :
    next.extras = population.extras ++ [entry].filter fun entry => !type.hasAttribute entry.1 := by
  unfold populateField at taken
  split at taken
  next own found =>
    obtain ⟨value, _, same⟩ := Success.bind_eq_ok.mp taken
    obtain rfl := Except.ok.inj same
    simp [hasAttribute, found]
  next unknown =>
    split at taken
    next =>
      obtain rfl := Except.ok.inj taken
      simp [hasAttribute, unknown]
    next => contradiction

/-- One more field changes its own slot only. -/
theorem Population.HeldFrom.step {population next : Population} {entry : String × Value}
    (held : population.HeldFrom type fields)
    (taken : type.populateField type.coerceAt source population entry = .ok next) :
    next.HeldFrom type (fields ++ [entry]) where
  sized := (populateField_length taken).trans held.sized
  slots slot field placed := by
    rw [givenTo_concat]
    by_cases leads : type.slot? entry.1 = some slot
    · rw [if_pos leads]
      have inRange : slot < population.values.length := by
        rw [held.sized]
        exact (List.getElem?_eq_some_iff.mp placed).1
      rcases populateField_eq_ok taken with ⟨unknown, _⟩ | ⟨own, other, value, found, ownPlaced,
        coerced, same⟩
      · exact nomatch leads.symm.trans unknown
      · obtain rfl := Option.some.inj (leads.symm.trans found)
        obtain rfl := Option.some.inj (placed.symm.trans ownPlaced)
        rw [same]
        exact ⟨value, coerced, List.getElem?_set_self inRange⟩
    · rw [if_neg leads, populateField_keeps leads taken]
      exact held.slots slot field placed
  extras := by
    rw [populateField_extras taken, held.extras, List.filter_append]

theorem heldFrom_of_foldlM {population : Population}
    (folded : fields.foldlM (type.populateField type.coerceAt source) ⟨type.defaults, []⟩ =
      .ok population) : population.HeldFrom type fields := by
  -- The last field is taken off, because it is the last one that decides about its slot.
  induction fields using List.reverseRecOn generalizing population with
  | nil =>
      obtain rfl := Except.ok.inj folded
      exact ⟨List.length_map _, fun slot field placed =>
        ⟨field.default, field.coerce_null, getElem?_defaults placed⟩, rfl⟩
  | append_singleton fields entry ih =>
      rw [List.foldlM_append, Success.bind_eq_ok] at folded
      obtain ⟨former, early, last⟩ := folded
      rw [List.foldlM_cons, Success.bind_eq_ok] at last
      obtain ⟨next, taken, same⟩ := last
      obtain rfl := Except.ok.inj same
      exact (ih early).step taken

/-! ## Whole entities -/

/-- A catch-all is given nothing but dicts. -/
theorem Sound.exists_dict_of_coerce (sound : type.Sound types)
    (located : type.catchAllSlot? = some slot) {field : Attribute}
    (placed : type.attributes[slot]? = some field) {value result : Value}
    (coerced : field.coerce value = .ok result) : ∃ entries, result = .dict entries := by
  by_cases isNull : value = .null
  · subst isNull
    rw [Attribute.coerce_null] at coerced
    obtain ⟨own, entries, ownPlaced, default⟩ := sound.exists_catchAllDict located
    obtain rfl := Option.some.inj (placed.symm.trans ownPlaced)
    exact ⟨entries, (Except.ok.inj coerced).symm.trans default⟩
  · obtain ⟨own, ownPlaced, _, dict⟩ := sound.exists_catchAllSlot located
    obtain rfl := Option.some.inj (placed.symm.trans ownPlaced)
    have admitted := ((Attribute.coerce_eq_ok_iff field isNull).mp coerced).1
    rw [dict] at admitted
    cases value <;> simp only [AttributeType.admission, Except.ok.injEq, reduceCtorEq] at admitted
    exact ⟨_, admitted.symm⟩

/-- Each slot holds what it was given last, and the catch-all what was captured on top of that. -/
structure Fills (type : EntityType) (fields : List (String × Value)) (values : List Value) :
    Prop where
  sized : values.length = type.attributes.length
  slots : ∀ (slot : Nat) (field : Attribute), type.attributes[slot]? = some field →
    type.catchAllSlot? ≠ some slot → ∃ value,
      field.coerce (type.givenTo slot fields) = .ok value ∧ values[slot]? = some value
  captured : ∀ slot, type.catchAllSlot? = some slot → ∃ field entries,
    type.attributes[slot]? = some field ∧
    field.coerce (type.givenTo slot fields) = .ok (.dict entries) ∧
    values[slot]? = some (.dict (Mapping.merge entries (type.captured fields)))

theorem checkRequired_iff_slots {values : List Value} :
    type.checkRequired values = .ok () ↔ ∀ (slot : Nat) (field : Attribute) (value : Value),
      type.attributes[slot]? = some field → values[slot]? = some value →
      field.required = true → value ≠ .null := by
  rw [checkRequired_eq_ok_iff]
  constructor
  · intro each slot field value placed stored
    have paired : (type.attributes.zip values)[slot]? = some (field, value) :=
      List.getElem?_zip_eq_some.mpr ⟨placed, stored⟩
    exact each (field, value) (List.mem_of_getElem? paired)
  · rintro each ⟨field, value⟩ member
    obtain ⟨slot, paired⟩ := List.mem_iff_getElem?.mp member
    obtain ⟨placed, stored⟩ := List.getElem?_zip_eq_some.mp paired
    exact each slot field value placed stored

theorem captureExtras_length (population : Population) :
    (type.captureExtras population).length = population.values.length := by
  have each (values : List Value) (slot : Nat) (name : String) (document : Document) :
      (capture values slot name document).length = values.length := by
    unfold capture
    split <;> exact List.length_set
  unfold captureExtras
  split
  next slot _ =>
    induction population.extras using List.reverseRecOn with
    | nil => rfl
    | append_singleton extras entry ih =>
        rw [List.foldl_append, List.foldl_cons, List.foldl_nil, each, ih]
  next => rfl

theorem Population.HeldFrom.fills {population : Population} (sound : type.Sound types)
    (held : population.HeldFrom type fields) :
    type.Fills fields (type.captureExtras population) where
  sized := (captureExtras_length population).trans held.sized
  slots slot field placed apart := by
    rw [captureExtras_keeps apart]
    exact held.slots slot field placed
  captured slot located := by
    obtain ⟨field, placed, _⟩ := sound.exists_catchAllSlot located
    obtain ⟨value, coerced, stored⟩ := held.slots slot field placed
    obtain ⟨entries, rfl⟩ := sound.exists_dict_of_coerce located placed coerced
    refine ⟨field, entries, placed, coerced, ?_⟩
    have inRange := (List.getElem?_eq_some_iff.mp stored).1
    rw [captureExtras, located]
    dsimp only
    rw [foldl_capture stored, List.getElem?_set_self inRange, held.extras]
    rfl

/-- An entity that was made of fields holds what they fill. -/
theorem fills_of_populate (sound : type.Sound types) {entity : Entity}
    (populated : type.populate type.coerceAt source fields = .ok entity) :
    entity.type = type ∧ type.Fills fields entity.values := by
  obtain ⟨population, folded, _, rfl⟩ := populate_eq_ok_iff.mp populated
  exact ⟨rfl, (heldFrom_of_foldlM folded).fills sound⟩

/--
Fields make an entity where each of them is taken and no required field is given null in the end. A
required catch-all cannot be given null, because it holds a dict in any case.
-/
theorem exists_populate_iff (sound : type.Sound types) :
    (∃ entity, type.populate type.coerceAt source fields = .ok entity) ↔
      (∀ entry ∈ fields, type.Takes entry) ∧
      ∀ (slot : Nat) (field : Attribute), type.attributes[slot]? = some field →
        field.required = true → type.catchAllSlot? ≠ some slot →
        field.coerce (type.givenTo slot fields) ≠ .ok .null := by
  constructor
  · rintro ⟨entity, populated⟩
    obtain ⟨population, folded, complete, rfl⟩ := populate_eq_ok_iff.mp populated
    refine ⟨exists_foldlM_iff.mp ⟨population, folded⟩, fun slot field placed required apart => ?_⟩
    obtain ⟨value, coerced, stored⟩ :=
      ((heldFrom_of_foldlM folded).fills sound).slots slot field placed apart
    have given := checkRequired_iff_slots.mp complete slot field value placed stored required
    rw [coerced]
    exact fun isNull => given (Except.ok.inj isNull)
  · rintro ⟨takes, complete⟩
    obtain ⟨population, folded⟩ : ∃ population,
        fields.foldlM (type.populateField type.coerceAt source) ⟨type.defaults, []⟩ =
          .ok population := exists_foldlM_iff.mpr takes
    have fills := (heldFrom_of_foldlM folded).fills sound
    refine ⟨_, populate_eq_ok_iff.mpr ⟨population, folded, ?_, rfl⟩⟩
    rw [checkRequired_iff_slots]
    intro slot field value placed stored required
    by_cases located : type.catchAllSlot? = some slot
    · obtain ⟨_, _, _, _, held⟩ := fills.captured slot located
      obtain rfl := Option.some.inj (held.symm.trans stored)
      exact Value.noConfusion
    · obtain ⟨own, coerced, held⟩ := fills.slots slot field placed located
      obtain rfl := Option.some.inj (held.symm.trans stored)
      rintro rfl
      exact complete slot field placed required located coerced

/-- Under an undeclared name the last field is captured, and under a declared one none is. -/
theorem lastOf?_captured (key : String) :
    Entries.lastOf? (· == key) (type.captured fields) =
      if type.hasAttribute key then none
      else (Entries.lastOf? (· == key) fields).map Value.toDocument := by
  rw [captured, Entries.lastOf?_map, Entries.lastOf?_filter fun name => !type.hasAttribute name]
  cases type.hasAttribute key <;> rfl

end EntityType

end NetworkAutomation
