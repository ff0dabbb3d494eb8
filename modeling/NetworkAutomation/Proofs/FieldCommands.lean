/-
This file proves that all names of a field stand for the field, and that changes of two fields do
not meet.
-/

import NetworkAutomation.Proofs.Capabilities

namespace NetworkAutomation

namespace Entity

variable {entity : Entity} {slot place : Nat}

theorem valueAt_withValue_ne (entity : Entity) (apart : place ≠ slot) (value : Value) :
    (entity.withValue slot value).valueAt place = entity.valueAt place := by
  rw [valueAt, withValue_values, List.getElem?_set_ne (Ne.symm apart), valueAt]

theorem withValue_comm (apart : place ≠ slot) (value other : Value) :
    (entity.withValue slot value).withValue place other =
      (entity.withValue place other).withValue slot value := by
  unfold withValue
  rw [List.set_comm _ _ (Ne.symm apart)]

theorem get_eq {name : String} (found : entity.type.slot? name = some slot) :
    entity.get name = .ok (entity.valueAt slot) := by
  rw [Entity.get, slot_eq_ok_iff.mpr found, Success.bind_ok, Success.pure_eq_ok]

theorem delete_eq {name : String} {field : Attribute}
    (found : entity.type.slot? name = some slot)
    (placed : entity.type.attributes[slot]? = some field) :
    entity.delete name =
      if field.required then .error (.requiredFieldImmutable entity.type.name field.name)
      else .ok (entity.withValue slot field.default) := by
  rw [Entity.delete, slot_eq_ok_iff.mpr found, Success.bind_ok, placed]
  rfl

/-- The names that lead to the slot read the written value, and all others what they read before. -/
def ReadsWritten (entity : Entity) (slot : Nat) (written : Value) (changed : Entity) : Prop :=
  ∀ name place, entity.type.slot? name = some place → ∃ previous,
    entity.get name = .ok previous ∧
    changed.get name = .ok (if place = slot then written else previous)

theorem readsWritten_withValue (inRange : slot < entity.values.length) (written : Value) :
    entity.ReadsWritten slot written (entity.withValue slot written) := by
  intro name place found
  refine ⟨_, get_eq found, ?_⟩
  split
  next same => exact get_withValue (same ▸ found) inRange written
  next apart =>
    rw [← entity.valueAt_withValue_ne apart written]
    exact get_eq found

/-- A new value is put into the slot, and a refusal leaves the entity as it was. -/
def settle (entity : Entity) (slot : Nat) : Checked Value → Option EntityError × Entity
  | .ok value => (none, entity.withValue slot value)
  | .error refusal => (some refusal, entity)

theorem settle_type (revised : Checked Value) :
    (entity.settle slot revised).2.type = entity.type := by
  cases revised <;> rfl

theorem settle_valueAt (apart : place ≠ slot) (revised : Checked Value) :
    (entity.settle slot revised).2.valueAt place = entity.valueAt place := by
  cases revised with
  | ok value => exact entity.valueAt_withValue_ne apart value
  | error refusal => rfl

/-- What is reported does not depend on what else the entity holds. -/
theorem settle_outcome (revised : Checked Value) (other : Entity) :
    (entity.settle slot revised).1 = (other.settle slot revised).1 := by
  cases revised <;> rfl

theorem settle_comm (apart : place ≠ slot) (revised other : Checked Value) :
    ((entity.settle slot revised).2.settle place other).2 =
      ((entity.settle place other).2.settle slot revised).2 := by
  cases revised with
  | error refusal => cases other <;> rfl
  | ok value =>
      cases other with
      | error refusal => rfl
      | ok second => exact withValue_comm apart value second

end Entity

namespace EntityCommand

/-- The name that the command goes to. -/
def name : EntityCommand → String
  | .set name _ => name
  | .delete name => name
  | .setExtra name _ => name
  | .rewriteDict name _ => name

/-- What a command makes of the value in the slot that its name leads to. -/
def revise (command : EntityCommand) (type : EntityType) (slot : Nat) (value : Value) :
    Checked Value :=
  match command with
  | .set _ given => type.assign type.coerceAt slot given
  | .delete _ =>
      match type.attributes[slot]? with
      | some field =>
          if field.required then .error (.requiredFieldImmutable type.name field.name)
          else .ok field.default
      | none => .ok value
  | .setExtra _ document => type.assign type.coerceAt slot (.ofDocument document)
  | .rewriteDict name entries =>
      match value with
      | .dict _ => .ok (.dict entries)
      | value => Entity.mismatch name "dict" value

variable {command : EntityCommand} {entity : Entity} {slot : Nat}

/-- A command sees and changes nothing but the slot that its name leads to. -/
theorem run_eq_revise (found : entity.type.slot? command.name = some slot) :
    command.run entity =
      (command.revise entity.type slot (entity.valueAt slot)).map (entity.withValue slot) := by
  cases command with
  | set name given =>
      have located : entity.slot name = .ok slot := Entity.slot_eq_ok_iff.mpr found
      rw [run, Entity.set, located]
      rfl
  | delete name =>
      obtain ⟨field, placed⟩ := EntityType.exists_field_of_slot? found
      have deleted : entity.delete name = _ := Entity.delete_eq found placed
      rw [run, deleted, revise, placed]
      dsimp only
      split <;> rfl
  | setExtra name document =>
      have located : entity.slot name = .ok slot := Entity.slot_eq_ok_iff.mpr found
      have declared : entity.type.hasAttribute name = true := Option.isSome_of_eq_some found
      rw [run, Entity.setExtra, if_pos declared, Entity.set, located]
      rfl
  | rewriteDict name entries =>
      have located : entity.slot name = .ok slot := Entity.slot_eq_ok_iff.mpr found
      rw [run, Entity.rewriteDict, located, Success.bind_ok]
      cases entity.valueAt slot <;> rfl

/-- A command that is refused leaves the entity as it was. -/
def attempt (command : EntityCommand) (entity : Entity) : Option EntityError × Entity :=
  match command.run entity with
  | .ok changed => (none, changed)
  | .error refusal => (some refusal, entity)

/-- Each of the commands ends as it does alone, and both orders lead to the same entity. -/
structure CommutesOn (first second : EntityCommand) (entity : Entity) : Prop where
  firstOutcome : (first.attempt (second.attempt entity).2).1 = (first.attempt entity).1
  secondOutcome : (second.attempt (first.attempt entity).2).1 = (second.attempt entity).1
  sameEntity : (second.attempt (first.attempt entity).2).2 =
    (first.attempt (second.attempt entity).2).2

theorem attempt_eq_settle (found : entity.type.slot? command.name = some slot) :
    command.attempt entity =
      entity.settle slot (command.revise entity.type slot (entity.valueAt slot)) := by
  rw [attempt, run_eq_revise found]
  cases command.revise entity.type slot (entity.valueAt slot) <;> rfl

/-- A command for one slot makes the same of it after a command for another slot. -/
theorem attempt_after {first second : EntityCommand} {place : Nat}
    (found : entity.type.slot? first.name = some slot)
    (otherFound : entity.type.slot? second.name = some place) (apart : place ≠ slot) :
    second.attempt (first.attempt entity).2 = (first.attempt entity).2.settle place
      (second.revise entity.type place (entity.valueAt place)) := by
  rw [attempt_eq_settle found, attempt_eq_settle (by rwa [Entity.settle_type]),
    Entity.settle_type, Entity.settle_valueAt apart]

theorem commutesOn_of_ne {first second : EntityCommand} {place : Nat}
    (found : entity.type.slot? first.name = some slot)
    (otherFound : entity.type.slot? second.name = some place) (apart : place ≠ slot) :
    first.CommutesOn second entity where
  firstOutcome := by
    rw [attempt_after otherFound found (Ne.symm apart), attempt_eq_settle found]
    exact Entity.settle_outcome _ _
  secondOutcome := by
    rw [attempt_after found otherFound apart, attempt_eq_settle otherFound]
    exact Entity.settle_outcome _ _
  sameEntity := by
    rw [attempt_after found otherFound apart, attempt_after otherFound found (Ne.symm apart),
      attempt_eq_settle found, attempt_eq_settle otherFound]
    exact Entity.settle_comm apart _ _

end EntityCommand

namespace Entity

variable {entity : Entity} {name : String} {slot : Nat} {field : Attribute}

theorem exists_delete_error_iff (found : entity.type.slot? name = some slot)
    (placed : entity.type.attributes[slot]? = some field) :
    (∃ refusal, entity.delete name = .error refusal) ↔ field.required = true := by
  rw [delete_eq found placed]
  split
  next required => simp [required]
  next optional => simp [optional]

/-- Null stands for the default, and a required field needs another one than null. -/
theorem exists_set_null_error_iff (found : entity.type.slot? name = some slot)
    (placed : entity.type.attributes[slot]? = some field) :
    (∃ refusal, entity.set name .null = .error refusal) ↔
      field.required = true ∧ field.default = .null := by
  have assigned : entity.type.assign entity.type.coerceAt slot .null =
      field.requireValue entity.type.name field.default := by
    rw [EntityType.assign, EntityType.coerceAt, Attribute.coerceAt_eq, placed]
    dsimp only
    rw [Attribute.coerce_null, Success.bind_ok]
  rw [Entity.set, slot_eq_ok_iff.mpr found, Success.bind_ok, assigned, Attribute.requireValue]
  cases field.required with
  | false => simp
  | true => cases field.default <;> simp [Value.isNull]

end Entity

/--
A field that was set or deleted reads as such under each of its names, while all other fields read
as before. Required fields alone cannot be deleted, and they can be set to null where they have a
default. Commands that go to different fields do not notice each other.
-/
theorem Workspace.Reachable.names_share_fields {space : Workspace} (reached : space.Reachable)
    {entity : Entity} (held : .entity entity ∈ space.targets) {name : String} {slot : Nat}
    (found : entity.type.slot? name = some slot) :
    ∃ field, entity.type.attributes[slot]? = some field ∧
      (∀ value changed, entity.set name value = .ok changed → ∃ written,
        field.coerce value = .ok written ∧ entity.ReadsWritten slot written changed) ∧
      (∀ changed, entity.delete name = .ok changed →
        entity.ReadsWritten slot field.default changed) ∧
      ((∃ refusal, entity.delete name = .error refusal) ↔ field.required = true) ∧
      (field.required = true →
        ((∃ refusal, entity.set name .null = .error refusal) ↔ field.default = .null)) ∧
      ∀ other place, entity.type.slot? other = some place → place ≠ slot →
        ∀ first second : EntityCommand, first.name = name → second.name = other →
          first.CommutesOn second entity := by
  have sound := Value.SoundThroughout.object_iff.mp (reached.sound.targets _ held)
  obtain ⟨field, placed⟩ := EntityType.exists_field_of_slot? found
  obtain ⟨_, stored, _⟩ := exists_related sound.here.slots placed
  obtain ⟨inRange, _⟩ := List.getElem?_eq_some_iff.mp stored
  refine ⟨field, placed, ?_, ?_, Entity.exists_delete_error_iff found placed, ?_, ?_⟩
  · intro value changed done
    obtain ⟨own, other, written, ownFound, ownPlaced, coerced, _, rfl⟩ := Entity.set_eq_ok done
    obtain rfl := Option.some.inj (found.symm.trans ownFound)
    obtain rfl := Option.some.inj (placed.symm.trans ownPlaced)
    exact ⟨written, coerced, Entity.readsWritten_withValue inRange written⟩
  · intro changed done
    obtain ⟨own, other, ownFound, ownPlaced, _, rfl⟩ := Entity.delete_eq_ok done
    obtain rfl := Option.some.inj (found.symm.trans ownFound)
    obtain rfl := Option.some.inj (placed.symm.trans ownPlaced)
    exact Entity.readsWritten_withValue inRange field.default
  · intro required
    rw [Entity.exists_set_null_error_iff found placed]
    exact and_iff_right required
  · rintro other place otherFound apart first second rfl rfl
    exact EntityCommand.commutesOn_of_ne found otherFound apart

namespace Catalogue

/-- A blade whose label is no other name of its name. -/
def labelledBlade : Entity :=
  ⟨bladeType, [.text "left", .null, .dict [], .text "spare"]⟩

/-- The slot of a blade is its unit, and neither order of the two changes disturbs the label. -/
theorem blade_slot_written : ∃ changed,
    labelledBlade.set "slot" (.text "seven") = .ok changed ∧
      changed.get "unit" = .ok (.text "seven") ∧ changed.get "label" = .ok (.text "spare") ∧
      (EntityCommand.set "slot" (.text "seven")).CommutesOn (.delete "label") labelledBlade := by
  have created : bladeType.create [("name", .text "left"), ("label", .text "spare")] =
      .ok labelledBlade := rfl
  have supplied : Workspace.SuppliesFields ⟨[bladeType, tagged, chassis], []⟩
      [("name", .text "left"), ("label", .text "spare")] := by
    simp [Workspace.SuppliesFields, Workspace.supplies_text]
  have reached := blades_declared.reached.step (.create List.mem_cons_self supplied created)
  have found : labelledBlade.type.slot? "slot" = some 1 := rfl
  obtain ⟨field, placed, written, _, _, _, commute⟩ :=
    reached.names_share_fields List.mem_cons_self found
  obtain ⟨changed, done⟩ : ∃ changed, labelledBlade.set "slot" (.text "seven") = .ok changed :=
    ⟨_, rfl⟩
  obtain ⟨text, coerced, reads⟩ := written _ changed done
  obtain rfl := Option.some.inj placed
  obtain rfl : .text "seven" = text := Except.ok.inj coerced
  obtain ⟨_, _, unit⟩ := reads "unit" 1 rfl
  obtain ⟨spare, before, label⟩ := reads "label" 3 rfl
  obtain rfl : .text "spare" = spare := Except.ok.inj before
  exact ⟨changed, done, unit, label, commute "label" 3 rfl (by decide) _ _ rfl rfl⟩

end Catalogue

end NetworkAutomation
