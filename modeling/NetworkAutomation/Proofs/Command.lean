/-
This file gathers the operations that change entities and collections into commands.
-/

import NetworkAutomation.Collection.Path
import NetworkAutomation.Proofs.Success

namespace NetworkAutomation

namespace Entity

/-- The entries of a dict field may be changed in any way, so any entries may take their place. -/
def rewriteDict (entity : Entity) (name : String) (entries : Mapping) : Checked Entity := do
  let slot ← entity.slot name
  match entity.valueAt slot with
  | .dict _ => return entity.withValue slot (.dict entries)
  | value => mismatch name "dict" value

end Entity

/-- A change of one entity. -/
inductive EntityCommand where
  | set (name : String) (value : Value)
  | delete (name : String)
  | setExtra (name : String) (document : Document)
  | rewriteDict (name : String) (entries : Mapping)

def EntityCommand.run (command : EntityCommand) (entity : Entity) : Checked Entity :=
  match command with
  | .set name value => entity.set name value
  | .delete name => entity.delete name
  | .setExtra name document => entity.setExtra name document
  | .rewriteDict name entries => entity.rewriteDict name entries

/-- A change of one ordered collection. -/
inductive OrderedCommand where
  | append (item : Entity)
  | insert (index : Nat) (item : Entity)
  | replace (index : Nat) (item : Entity)
  | remove (index : Nat)
  | clear
  | create (fields : List (String × Value))
  | deserialize (documents : List Document)

/-- The answer is the element that was replaced, removed or created. -/
def OrderedCommand.run (command : OrderedCommand) (collection : OrderedCollection) :
    Checked (Option Entity × OrderedCollection) :=
  match command with
  | .append item => do return (none, ← collection.append item)
  | .insert index item => do return (none, ← collection.insert index item)
  | .replace index item => do
      let (previous, changed) ← collection.replace index item
      return (some previous, changed)
  | .remove index => do
      let (removed, changed) ← collection.remove index
      return (some removed, changed)
  | .clear => .ok (none, collection.clear)
  | .create fields => do
      let (created, changed) ← collection.create fields
      return (some created, changed)
  | .deserialize documents => do return (none, ← collection.deserialize documents)

/-- A change of one keyed collection. -/
inductive KeyedCommand where
  | add (item : Entity)
  | insert (key : String) (item : Entity)
  | create (fields : List (String × Value))
  | remove (key : String)
  | clear
  | deserialize (document : Mapping)

/-- The answer is the element that was replaced, removed or created. -/
def KeyedCommand.run (command : KeyedCommand) (collection : KeyedCollection) :
    Checked (Option Entity × KeyedCollection) :=
  match command with
  | .add item => collection.add item
  | .insert key item => collection.insert key item
  | .create fields => do
      let (created, changed) ← collection.create fields
      return (some created, changed)
  | .remove key => .ok (collection.remove key)
  | .clear => .ok (none, collection.clear)
  | .deserialize document => do return (none, ← collection.deserialize document)

/-- A command is meant for an entity or for a collection of one of the two sorts. -/
inductive Command where
  | entity (command : EntityCommand)
  | ordered (command : OrderedCommand)
  | keyed (command : KeyedCommand)

namespace Command

/-- Targets are typed, so a command never meets a target of another sort. -/
def misuse {α : Type} : Checked α :=
  .error (.typeMismatch "target" "target of the command" "target of another sort")

def run (command : Command) (target : Target) : Checked (Option Entity × Target) :=
  match command, target with
  | .entity command, .entity owner => do return (none, .entity (← command.run owner))
  | .ordered command, .ordered collection => do
      let (answer, changed) ← command.run collection
      return (answer, .ordered changed)
  | .keyed command, .keyed collection => do
      let (answer, changed) ← command.run collection
      return (answer, .keyed changed)
  | _, _ => misuse

end Command

end NetworkAutomation
