/-
This file changes ordered collections of entities.
-/

import NetworkAutomation.Entity.Edit

namespace NetworkAutomation

/-- A wrong element is reported under the collection that it was meant for. -/
def wrongItem (container : String) (expected : EntityType) (item : Entity) : EntityError :=
  .typeMismatch (container ++ "<" ++ expected.name ++ ">") expected.name item.type.name

namespace OrderedCollection

def empty (itemType : EntityType) : OrderedCollection :=
  ⟨itemType, []⟩

def length (collection : OrderedCollection) : Nat :=
  collection.items.length

def get? (collection : OrderedCollection) (index : Nat) : Option Entity :=
  collection.items[index]?

/-- Every element is an instance of the element type. -/
def checkItem (collection : OrderedCollection) (item : Entity) : Checked Unit :=
  if item.instanceOf collection.itemType then .ok ()
  else .error (wrongItem "index" collection.itemType item)

def append (collection : OrderedCollection) (item : Entity) : Checked OrderedCollection := do
  collection.checkItem item
  return { collection with items := collection.items ++ [item] }

/-- A place behind the end stands for the end. -/
def insert (collection : OrderedCollection) (index : Nat) (item : Entity) :
    Checked OrderedCollection := do
  collection.checkItem item
  return { collection with
    items := collection.items.take index ++ item :: collection.items.drop index }

/-- The replaced element, and the collection with the new one in its place. -/
def replace (collection : OrderedCollection) (index : Nat) (item : Entity) :
    Checked (Entity × OrderedCollection) := do
  collection.checkItem item
  match collection.get? index with
  | some previous => return (previous, { collection with items := collection.items.set index item })
  | none => .error (.indexOutOfRange index collection.length)

/-- The removed element, and the collection without it. -/
def remove (collection : OrderedCollection) (index : Nat) :
    Checked (Entity × OrderedCollection) :=
  match collection.get? index with
  | some removed =>
      .ok (removed, { collection with items := collection.items.eraseIdx index })
  | none => .error (.indexOutOfRange index collection.length)

def clear (collection : OrderedCollection) : OrderedCollection :=
  { collection with items := [] }

/-- A new element of exactly the element type is appended. -/
def create (collection : OrderedCollection) (fields : List (String × Value)) :
    Checked (Entity × OrderedCollection) := do
  let item ← collection.itemType.create fields
  return (item, { collection with items := collection.items ++ [item] })

/-- The elements of the documents take the place of all former elements. -/
def deserialize (collection : OrderedCollection) (documents : List Document) :
    Checked OrderedCollection :=
  readItems collection.itemType collection.itemType.read documents

/-- The field is set on one element after the other up to the first refusal. -/
def setEach (name : String) (value : Value) : List Entity → List Entity × Option EntityError
  | [] => ([], none)
  | item :: rest =>
      match item.set name value with
      | .ok changed =>
          let (others, error) := setEach name value rest
          (changed :: others, error)
      | .error error => (item :: rest, some error)

/-- Elements that were set before a refusal keep their new value. -/
def setAll (collection : OrderedCollection) (name : String) (value : Value) :
    OrderedCollection × Option EntityError :=
  let (items, error) := setEach name value collection.items
  ({ collection with items := items }, error)

end OrderedCollection

end NetworkAutomation
