/-
This file looks up names in entity types and relates types to their ancestors.
-/

import NetworkAutomation.Entity.Basic

namespace NetworkAutomation

namespace EntityType

def fieldNames (type : EntityType) : List String :=
  type.attributes.map Attribute.name

/-- A field name is found before any alias of the same spelling. -/
def slot? (type : EntityType) (name : String) : Option Nat :=
  match type.attributes.findIdx? fun field => field.name == name with
  | some slot => some slot
  | none => type.attributes.findIdx? fun field => field.aliases.contains name

def field? (type : EntityType) (name : String) : Option Attribute :=
  (type.slot? name).bind fun slot => type.attributes[slot]?

def hasAttribute (type : EntityType) (name : String) : Bool :=
  (type.slot? name).isSome

def isOpen (type : EntityType) : Bool :=
  type.catchAll.isSome

def catchAllSlot? (type : EntityType) : Option Nat :=
  type.catchAll.bind fun catchAll => type.slot? catchAll.field

/-- The slot of a catch-all that is written beside the declared fields. -/
def flattenedSlot? (type : EntityType) : Option Nat :=
  type.catchAll.bind fun catchAll =>
    if catchAll.mode = .flatten then type.slot? catchAll.field else none

def hasRequired (type : EntityType) : Bool :=
  type.attributes.any Attribute.required

def defaults (type : EntityType) : List Value :=
  type.attributes.map Attribute.default

end EntityType

mutual

/-- A type descends from itself and from whatever its parents descend from. -/
def EntityType.isA : EntityType → EntityType → Bool
  | ⟨identity, _, parents, _, _, _⟩, other =>
      identity == other.identity || anyIsA parents other

def anyIsA : List EntityType → EntityType → Bool
  | [], _ => false
  | parent :: rest, other => parent.isA other || anyIsA rest other

end

def Entity.instanceOf (entity : Entity) (type : EntityType) : Bool :=
  entity.type.isA type

end NetworkAutomation
