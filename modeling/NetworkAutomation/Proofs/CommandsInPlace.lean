/-
This file writes the commands as programs that change their target in its place.
-/

import NetworkAutomation.Proofs.Command
import NetworkAutomation.Proofs.InPlace

namespace NetworkAutomation

open InPlace

/-- A slot is written after its value has passed the attribute. -/
def Entity.setInPlace (name : String) (value : Value) : InPlace EntityError Entity Unit := do
  let entity ← current
  let slot ← check (entity.slot name)
  let assigned ← check (entity.type.assign entity.type.coerceAt slot value)
  write (entity.withValue slot assigned)

def EntityCommand.inPlace : EntityCommand → InPlace EntityError Entity Unit
  | .set name value => Entity.setInPlace name value
  | .delete name => do
      let entity ← current
      let slot ← check (entity.slot name)
      match entity.type.attributes[slot]? with
      | some field =>
          if field.required then throw (.requiredFieldImmutable entity.type.name field.name)
          else write (entity.withValue slot field.default)
      | none => pure ()
  | .setExtra name document => do
      let entity ← current
      if entity.type.hasAttribute name then Entity.setInPlace name (Value.ofDocument document)
      else
        match entity.type.catchAllSlot? with
        | some slot =>
            write { entity with values := EntityType.capture entity.values slot name document }
        | none => throw (.unknownAttribute entity.type.name name)
  | .rewriteDict name entries => do
      let entity ← current
      let slot ← check (entity.slot name)
      match entity.valueAt slot with
      | .dict _ => write (entity.withValue slot (.dict entries))
      | value => check (Entity.mismatch name "dict" value)

/-- The elements of all documents are read before they take the place of the former ones. -/
def OrderedCommand.inPlace :
    OrderedCommand → InPlace EntityError OrderedCollection (Option Entity)
  | .append item => do
      let collection ← current
      check (collection.checkItem item)
      write { collection with items := collection.items ++ [item] }
      return none
  | .insert index item => do
      let collection ← current
      check (collection.checkItem item)
      write { collection with
        items := collection.items.take index ++ item :: collection.items.drop index }
      return none
  | .replace index item => do
      let collection ← current
      check (collection.checkItem item)
      match collection.get? index with
      | some previous =>
          write { collection with items := collection.items.set index item }
          return some previous
      | none => throw (.indexOutOfRange index collection.length)
  | .remove index => do
      let collection ← current
      match collection.get? index with
      | some removed =>
          write { collection with items := collection.items.eraseIdx index }
          return some removed
      | none => throw (.indexOutOfRange index collection.length)
  | .clear => do
      let collection ← current
      write { collection with items := [] }
      return none
  | .create fields => do
      let collection ← current
      let item ← check (collection.itemType.create fields)
      write { collection with items := collection.items ++ [item] }
      return some item
  | .deserialize documents => do
      let collection ← current
      let items ← check
        (documents.mapM (collection.itemType.readMapping collection.itemType.read))
      write { collection with items := items }
      return none

/-- The key is written into an element of its own before the element is stored. -/
def KeyedCommand.inPlace : KeyedCommand → InPlace EntityError KeyedCollection (Option Entity)
  | .add item => do
      let collection ← current
      check (collection.checkItem item)
      let key ← check (collection.keyOf item)
      write { collection with entries := KeyedCollection.upsert collection.entries key item }
      return collection.get? key
  | .insert key item => do
      let collection ← current
      check (collection.checkItem item)
      let keyed ← check ((Entity.setInPlace collection.keyField (.text key)).onOwn item)
      write { collection with entries := KeyedCollection.upsert collection.entries key keyed }
      return collection.get? key
  | .create fields => do
      let collection ← current
      let item ← check (collection.itemType.create fields)
      let key ← check (collection.keyOf item)
      if collection.contains key then throw (.duplicateKey key)
      else
        write { collection with entries := collection.entries ++ [(key, item)] }
        return some item
  | .remove key => do
      let collection ← current
      write { collection with
        entries := collection.entries.eraseP fun entry => entry.1 == key }
      return collection.get? key
  | .clear => do
      let collection ← current
      write { collection with entries := [] }
      return none
  | .deserialize document => do
      let collection ← current
      let entries ← check (document.mapM
        (KeyedCollection.readEntry collection.itemType collection.keyField
          collection.itemType.read))
      write { collection with entries := entries }
      return none

theorem Entity.setInPlace_performs (name : String) (value : Value) :
    (Entity.setInPlace name value).Performs fun entity => do
      return ((), ← entity.set name value) := by
  intro entity
  cases located : entity.slot name with
  | error refusal => simp [Entity.setInPlace, Entity.set, located]
  | ok slot =>
      cases assigned : entity.type.assign entity.type.coerceAt slot value <;>
        simp [Entity.setInPlace, Entity.set, located, assigned]

theorem EntityCommand.inPlace_performs (command : EntityCommand) :
    command.inPlace.Performs fun entity => do return ((), ← command.run entity) := by
  intro entity
  cases command with
  | set name value => exact Entity.setInPlace_performs name value entity
  | delete name =>
      cases located : entity.slot name with
      | error refusal => simp [inPlace, run, Entity.delete, located]
      | ok slot =>
          cases placed : entity.type.attributes[slot]? with
          | none => simp [inPlace, run, Entity.delete, located, placed]
          | some field =>
              cases required : field.required <;>
                simp [inPlace, run, Entity.delete, located, placed, required]
  | setExtra name document =>
      cases declared : entity.type.hasAttribute name with
      | true =>
          have performed := Entity.setInPlace_performs name (Value.ofDocument document) entity
          simpa [inPlace, run, Entity.setExtra, declared] using performed
      | false =>
          cases located : entity.type.catchAllSlot? <;>
            simp [inPlace, run, Entity.setExtra, declared, located]
  | rewriteDict name entries =>
      cases located : entity.slot name with
      | error refusal => simp [inPlace, run, Entity.rewriteDict, located]
      | ok slot =>
          cases stored : entity.valueAt slot <;>
            simp [inPlace, run, Entity.rewriteDict, located, stored, Entity.mismatch]

theorem OrderedCommand.inPlace_performs (command : OrderedCommand) :
    command.inPlace.Performs command.run := by
  intro collection
  cases command with
  | append item =>
      cases checked : collection.checkItem item <;>
        simp [inPlace, run, OrderedCollection.append, checked]
  | insert index item =>
      cases checked : collection.checkItem item <;>
        simp [inPlace, run, OrderedCollection.insert, checked]
  | replace index item =>
      cases checked : collection.checkItem item <;> cases found : collection.get? index <;>
        simp [inPlace, run, OrderedCollection.replace, checked, found]
  | remove index =>
      cases found : collection.get? index <;>
        simp [inPlace, run, OrderedCollection.remove, found]
  | clear => rfl
  | create fields =>
      cases created : collection.itemType.create fields <;>
        simp [inPlace, run, OrderedCollection.create, created]
  | deserialize documents =>
      cases taken : documents.mapM (collection.itemType.readMapping collection.itemType.read) <;>
        simp [inPlace, run, OrderedCollection.deserialize, OrderedCollection.readItems, taken]

theorem Entity.setInPlace_onOwn (name : String) (value : Value) (entity : Entity) :
    (Entity.setInPlace name value).onOwn entity = entity.set name value := by
  unfold onOwn
  rw [Entity.setInPlace_performs name value entity]
  dsimp only
  cases entity.set name value <;> rfl

theorem KeyedCommand.inPlace_performs (command : KeyedCommand) :
    command.inPlace.Performs command.run := by
  intro collection
  cases command with
  | add item =>
      cases checked : collection.checkItem item with
      | error refusal => simp [inPlace, run, KeyedCollection.add, checked]
      | ok =>
          cases keyed : collection.keyOf item <;>
            simp [inPlace, run, KeyedCollection.add, KeyedCollection.put, checked, keyed]
  | insert key item =>
      cases checked : collection.checkItem item with
      | error refusal => simp [inPlace, run, KeyedCollection.insert, checked]
      | ok =>
          cases keyed : item.set collection.keyField (.text key) <;>
            simp [inPlace, run, KeyedCollection.insert, KeyedCollection.put, checked, keyed,
              Entity.setInPlace_onOwn]
  | create fields =>
      cases created : collection.itemType.create fields with
      | error refusal =>
          simp [inPlace, run, KeyedCollection.create, created]
      | ok item =>
          cases keyed : collection.keyOf item with
          | error refusal =>
              simp [inPlace, run, KeyedCollection.create, created, keyed]
          | ok key =>
              cases present : collection.contains key <;>
                simp [inPlace, run, KeyedCollection.create, created, keyed, present]
  | remove key => rfl
  | clear => rfl
  | deserialize document =>
      cases taken : document.mapM (KeyedCollection.readEntry collection.itemType
          collection.keyField collection.itemType.read) <;>
        simp [inPlace, run, KeyedCollection.deserialize, KeyedCollection.readEntries, taken]

/-! ## Targets of any sort -/

namespace Target

def asEntity : Target → Checked Entity
  | .entity owner => .ok owner
  | _ => Command.misuse

def asOrdered : Target → Checked OrderedCollection
  | .ordered collection => .ok collection
  | _ => Command.misuse

def asKeyed : Target → Checked KeyedCollection
  | .keyed collection => .ok collection
  | _ => Command.misuse

end Target

def Command.inPlace : Command → InPlace EntityError Target (Option Entity)
  | .entity command =>
      within Target.asEntity (fun _ changed => .entity changed)
        ((fun _ => none) <$> command.inPlace)
  | .ordered command =>
      within Target.asOrdered (fun _ changed => .ordered changed) command.inPlace
  | .keyed command =>
      within Target.asKeyed (fun _ changed => .keyed changed) command.inPlace

theorem Command.inPlace_performs (command : Command) : command.inPlace.Performs command.run := by
  intro target
  cases command with
  | entity command =>
      refine ((command.inPlace_performs.map fun _ => none).within ?_ target).trans ?_
      · intro whole owner entered
        cases whole <;> cases entered
        rfl
      · cases target with
        | entity owner =>
            simp only [run, Target.asEntity, Success.bind_ok]
            cases command.run owner <;> rfl
        | ordered collection => rfl
        | keyed collection => rfl
  | ordered command =>
      refine (command.inPlace_performs.within ?_ target).trans ?_
      · intro whole collection entered
        cases whole <;> cases entered
        rfl
      · cases target <;> rfl
  | keyed command =>
      refine (command.inPlace_performs.within ?_ target).trans ?_
      · intro whole collection entered
        cases whole <;> cases entered
        rfl
      · cases target <;> rfl

end NetworkAutomation
