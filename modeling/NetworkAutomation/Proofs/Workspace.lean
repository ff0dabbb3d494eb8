/-
This file says what callers can build, make, reach and change, one step after another.
-/

import NetworkAutomation.Proofs.Command
import NetworkAutomation.Proofs.WellFormedDocuments

namespace NetworkAutomation

/-- A workspace holds the types that were built so far, and the entities and collections at hand. -/
structure Workspace where
  types : List EntityType
  targets : List Target

/-- Entities and collections that a value consists of. -/
def Value.targets : Value → List Target
  | .object entity => [.entity entity]
  | .index collection => [.ordered collection]
  | .map collection => [.keyed collection]
  | _ => []

namespace Workspace

def empty : Workspace :=
  ⟨[], []⟩

/-- Everything at hand can be copied, so nothing is lost when something new comes. -/
def keep (space : Workspace) (added : List Target) : Workspace :=
  { space with targets := added ++ space.targets }

/-- Scalars and documents can always be given, and anything else must be at hand. -/
def Supplies (space : Workspace) : Value → Prop
  | .list items => (Document.list items).WellFormed
  | .dict entries => (Document.mapping entries).WellFormed
  | value => ∀ target ∈ value.targets, target ∈ space.targets

def SuppliesFields (space : Workspace) (fields : List (String × Value)) : Prop :=
  ∀ field ∈ fields, space.Supplies field.2

def SuppliesEntityCommand (space : Workspace) : EntityCommand → Prop
  | .set _ value => space.Supplies value
  | .delete _ => True
  | .setExtra _ document => document.WellFormed
  | .rewriteDict _ entries => (Document.mapping entries).WellFormed

def SuppliesOrderedCommand (space : Workspace) : OrderedCommand → Prop
  | .append item => .entity item ∈ space.targets
  | .insert _ item => .entity item ∈ space.targets
  | .replace _ item => .entity item ∈ space.targets
  | .remove _ => True
  | .clear => True
  | .create fields => space.SuppliesFields fields
  | .deserialize documents => (Document.list documents).WellFormed

def SuppliesKeyedCommand (space : Workspace) : KeyedCommand → Prop
  | .add item => .entity item ∈ space.targets
  | .insert _ item => .entity item ∈ space.targets
  | .create fields => space.SuppliesFields fields
  | .remove _ => True
  | .clear => True
  | .deserialize document => (Document.mapping document).WellFormed

/-- What a command carries along is at hand. -/
def SuppliesCommand (space : Workspace) : Command → Prop
  | .entity command => space.SuppliesEntityCommand command
  | .ordered command => space.SuppliesOrderedCommand command
  | .keyed command => space.SuppliesKeyedCommand command

/-- A declaration mentions types that were built and a default that is at hand. -/
structure SuppliesDeclaration (space : Workspace) (declaration : Declaration) : Prop where
  item : ∀ item, declaration.type.item? = some item → item ∈ space.types
  default : space.Supplies declaration.default

structure SuppliesType (space : Workspace) (declaration : TypeDeclaration) : Prop where
  parents : ∀ parent ∈ declaration.parents, parent ∈ space.types
  declared : ∀ entry ∈ declaration.declared, space.SuppliesDeclaration entry.2

/--
One use of the library. What stands inside a target is changed by commands, and it is never
overwritten as a whole.
-/
inductive Step (space : Workspace) : Workspace → Prop where
  /-- A type gets an identity that no earlier type has. -/
  | build {declaration : TypeDeclaration} {identity : Nat} {type : EntityType}
      (supplied : space.SuppliesType declaration)
      (fresh : ∀ known ∈ space.types, known.identity ≠ identity)
      (built : declaration.build identity = .ok type) :
      Step space { space with types := type :: space.types }
  /-- An attribute can be defined on its own, and values can be passed through it. -/
  | coerce {declaration : Declaration} {name : String} {field : Attribute} {value result : Value}
      (supplied : space.SuppliesDeclaration declaration)
      (defined : declaration.define name = .ok field)
      (given : space.Supplies value)
      (coerced : field.coerce value = .ok result) :
      Step space (space.keep result.targets)
  | create {type : EntityType} {fields : List (String × Value)} {entity : Entity}
      (known : type ∈ space.types) (supplied : space.SuppliesFields fields)
      (created : type.create fields = .ok entity) :
      Step space (space.keep [.entity entity])
  | blank {type : EntityType} {entity : Entity} (known : type ∈ space.types)
      (created : type.empty = .ok entity) :
      Step space (space.keep [.entity entity])
  | read {type : EntityType} {document : Document} {entity : Entity}
      (known : type ∈ space.types) (formed : document.WellFormed)
      (taken : type.readDocument document = .ok entity) :
      Step space (space.keep [.entity entity])
  | ordered {type : EntityType} (known : type ∈ space.types) :
      Step space (space.keep [.ordered (.empty type)])
  | keyed {type : EntityType} {keyField : String} {collection : KeyedCollection}
      (known : type ∈ space.types)
      (opened : KeyedCollection.withKey type keyField = .ok collection) :
      Step space (space.keep [.keyed collection])
  /-- What a path leads to can be copied. -/
  | reach {root inner : Target} {path : List Segment} (held : root ∈ space.targets)
      (resolved : root.resolve path = .ok inner) :
      Step space (space.keep [inner])
  /-- What a path leads to can be changed in its place. -/
  | change {root changed : Target} {path : List Segment} {command : Command}
      {answer : Option Entity} (held : root ∈ space.targets)
      (supplied : space.SuppliesCommand command)
      (edited : root.edit command.run path = .ok (answer, changed)) :
      Step space (space.keep [changed])

/-- A workspace is reached from the empty one in any number of steps. -/
inductive Reachable : Workspace → Prop where
  | start : Reachable empty
  | step {space next : Workspace} (reached : space.Reachable) (taken : space.Step next) :
      next.Reachable

end Workspace

end NetworkAutomation
