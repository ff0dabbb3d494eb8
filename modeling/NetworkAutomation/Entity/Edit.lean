/-
This file reads and changes the fields of entities.
-/

import NetworkAutomation.Entity.Reading

namespace NetworkAutomation

namespace Entity

def mismatch {α : Type} (name expected : String) (value : Value) : Checked α :=
  .error (.typeMismatch name expected value.kind)

/-- Fields and aliases name slots, and any other name is refused. -/
def slot (entity : Entity) (name : String) : Checked Nat :=
  match entity.type.slot? name with
  | some slot => .ok slot
  | none => .error (.unknownAttribute entity.type.name name)

def valueAt (entity : Entity) (slot : Nat) : Value :=
  (entity.values[slot]?).getD .null

def get (entity : Entity) (name : String) : Checked Value := do
  let slot ← entity.slot name
  return entity.valueAt slot

/-- A text field may be unset. -/
def getText (entity : Entity) (name : String) : Checked (Option String) := do
  match ← entity.get name with
  | .text value => return some value
  | .null => return none
  | value => mismatch name "str" value

def getInteger (entity : Entity) (name : String) : Checked (Option Int64) := do
  match ← entity.get name with
  | .integer value => return some value
  | .null => return none
  | value => mismatch name "int" value

def getBoolean (entity : Entity) (name : String) : Checked (Option Bool) := do
  match ← entity.get name with
  | .boolean value => return some value
  | .null => return none
  | value => mismatch name "bool" value

def getList (entity : Entity) (name : String) : Checked (List Document) := do
  match ← entity.get name with
  | .list items => return items
  | value => mismatch name "list" value

def getDict (entity : Entity) (name : String) : Checked Mapping := do
  match ← entity.get name with
  | .dict entries => return entries
  | value => mismatch name "dict" value

/-- An object field may be unset. -/
def getObject (entity : Entity) (name : String) : Checked (Option Entity) := do
  match ← entity.get name with
  | .object object => return some object
  | .null => return none
  | value => mismatch name "object" value

def getIndex (entity : Entity) (name : String) : Checked OrderedCollection := do
  match ← entity.get name with
  | .index collection => return collection
  | value => mismatch name "index" value

def getMap (entity : Entity) (name : String) : Checked KeyedCollection := do
  match ← entity.get name with
  | .map collection => return collection
  | value => mismatch name "map" value

def withValue (entity : Entity) (slot : Nat) (value : Value) : Entity :=
  { entity with values := entity.values.set slot value }

/-- The value passes through the attribute that the name resolves to. -/
def set (entity : Entity) (name : String) (value : Value) : Checked Entity := do
  let slot ← entity.slot name
  let assigned ← entity.type.assign entity.type.coerceAt slot value
  return entity.withValue slot assigned

/-- A required field cannot be deleted, and any other field returns to its default. -/
def delete (entity : Entity) (name : String) : Checked Entity := do
  let slot ← entity.slot name
  match entity.type.attributes[slot]? with
  | some field =>
      if field.required then .error (.requiredFieldImmutable entity.type.name field.name)
      else return entity.withValue slot field.default
  | none => return entity

/-- Undeclared names of an open type go into its catch-all. -/
def setExtra (entity : Entity) (name : String) (document : Document) : Checked Entity :=
  if entity.type.hasAttribute name then entity.set name (Value.ofDocument document)
  else
    match entity.type.catchAllSlot? with
    | some slot =>
        .ok { entity with values := EntityType.capture entity.values slot name document }
    | none => .error (.unknownAttribute entity.type.name name)

/-- The document that stood under the key of a dict field, and the entity with the new one. -/
def putEntry (entity : Entity) (name key : String) (document : Document) :
    Checked (Option Document × Entity) := do
  let slot ← entity.slot name
  match entity.valueAt slot with
  | .dict entries =>
      return (Mapping.lookup? entries key,
        entity.withValue slot (.dict (Mapping.insert entries key document)))
  | value => mismatch name "dict" value

end Entity

end NetworkAutomation
