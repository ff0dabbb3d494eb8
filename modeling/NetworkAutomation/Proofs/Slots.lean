/-
This file holds the laws of looking names up in entity types.
-/

import Mathlib.Data.List.Nodup
import NetworkAutomation.Collection.Path

namespace NetworkAutomation.EntityType

/-- A name leads to a slot of an attribute. -/
theorem exists_field_of_slot? {type : EntityType} {name : String} {slot : Nat}
    (found : type.slot? name = some slot) : ∃ field, type.attributes[slot]? = some field := by
  have inRange : slot < type.attributes.length := by
    unfold slot? at found
    split at found
    next own direct =>
      obtain rfl := Option.some.inj found
      exact (List.findIdx?_eq_some_iff_getElem.mp direct).1
    next => exact (List.findIdx?_eq_some_iff_getElem.mp found).1
  exact ⟨type.attributes[slot], List.getElem?_eq_getElem inRange⟩

/-- Under distinct field names every field is found by its name. -/
theorem slot?_name {type : EntityType} (distinct : type.fieldNames.Nodup) {slot : Nat}
    {field : Attribute} (placed : type.attributes[slot]? = some field) :
    type.slot? field.name = some slot := by
  obtain ⟨inRange, rfl⟩ := List.getElem?_eq_some_iff.mp placed
  have direct : (type.attributes.findIdx? fun other =>
      other.name == type.attributes[slot].name) = some slot := by
    rw [List.findIdx?_eq_some_iff_getElem]
    refine ⟨inRange, beq_self_eq_true _, fun earlier before => ?_⟩
    have separate := List.pairwise_iff_getElem.mp distinct earlier slot
      (by simpa [fieldNames] using Nat.lt_trans before inRange)
      (by simpa [fieldNames] using inRange) before
    simpa [fieldNames] using separate
  rw [slot?, direct]

theorem hasAttribute_iff {type : EntityType} {name : String} :
    type.hasAttribute name = true ↔ ∃ slot, type.slot? name = some slot := by
  rw [hasAttribute, Option.isSome_iff_exists]

theorem hasAttribute_name {type : EntityType} (distinct : type.fieldNames.Nodup)
    {field : Attribute} (member : field ∈ type.attributes) :
    type.hasAttribute field.name = true := by
  obtain ⟨slot, placed⟩ := List.mem_iff_getElem?.mp member
  exact hasAttribute_iff.mpr ⟨slot, slot?_name distinct placed⟩

/-- The type of a field is the type of the attribute in the slot of its name. -/
theorem fieldType_eq_some_iff {type : EntityType} {name : String} {kind : AttributeType} :
    (type.field? name).map Attribute.type = some kind ↔ ∃ slot field,
      type.slot? name = some slot ∧ type.attributes[slot]? = some field ∧ field.type = kind := by
  simp only [field?, Option.map_eq_some_iff, Option.bind_eq_some_iff]
  constructor
  · rintro ⟨field, ⟨slot, found, placed⟩, same⟩
    exact ⟨slot, field, found, placed, same⟩
  · rintro ⟨slot, field, found, placed, same⟩
    exact ⟨field, ⟨slot, found, placed⟩, same⟩

end NetworkAutomation.EntityType
