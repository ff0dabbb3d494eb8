/-
This file changes keyed collections of entities.
-/

import NetworkAutomation.Collection.Ordered
import NetworkAutomation.Entity.Definition

namespace NetworkAutomation.KeyedCollection

/-- Elements are found by their name unless another field is chosen. -/
def defaultKeyField : String := "name"

/-- The key field must be a text field of the elements. -/
def withKey (itemType : EntityType) (keyField : String) : Defined KeyedCollection := do
  itemType.checkKeyField keyField
  return ⟨itemType, keyField, []⟩

def length (collection : KeyedCollection) : Nat :=
  collection.entries.length

def keys (collection : KeyedCollection) : List String :=
  collection.entries.map Prod.fst

def get? (collection : KeyedCollection) (key : String) : Option Entity :=
  (collection.entries.find? fun entry => entry.1 == key).map Prod.snd

def contains (collection : KeyedCollection) (key : String) : Bool :=
  collection.entries.any fun entry => entry.1 == key

def checkItem (collection : KeyedCollection) (item : Entity) : Checked Unit :=
  if item.instanceOf collection.itemType then .ok ()
  else .error (wrongItem "map" collection.itemType item)

/-- The key of an element is the text in its key field. -/
def keyOf (collection : KeyedCollection) (item : Entity) : Checked String := do
  match ← item.getText collection.keyField with
  | some key => return key
  | none => .error (.missingKey collection.itemType.name collection.keyField)

/-- A present key keeps its place and takes the new element, and an absent key is appended. -/
def upsert (entries : List (String × Entity)) (key : String) (item : Entity) :
    List (String × Entity) :=
  match entries with
  | [] => [(key, item)]
  | (present, previous) :: rest =>
      if present = key then (key, item) :: rest else (present, previous) :: upsert rest key item

/-- The replaced element, and the collection with the new one under the key. -/
def put (collection : KeyedCollection) (key : String) (item : Entity) :
    Option Entity × KeyedCollection :=
  (collection.get? key, { collection with entries := upsert collection.entries key item })

/-- The element is stored under its own key. -/
def add (collection : KeyedCollection) (item : Entity) :
    Checked (Option Entity × KeyedCollection) := do
  collection.checkItem item
  let key ← collection.keyOf item
  return collection.put key item

/-- The key is written into the element before it is stored. -/
def insert (collection : KeyedCollection) (key : String) (item : Entity) :
    Checked (Option Entity × KeyedCollection) := do
  collection.checkItem item
  let keyed ← item.set collection.keyField (.text key)
  return collection.put key keyed

/-- A new element of exactly the element type is stored under a key that is still free. -/
def create (collection : KeyedCollection) (fields : List (String × Value)) :
    Checked (Entity × KeyedCollection) := do
  let item ← collection.itemType.create fields
  let key ← collection.keyOf item
  if collection.contains key then .error (.duplicateKey key)
  else return (item, { collection with entries := collection.entries ++ [(key, item)] })

/-- The removed element, and the collection without its entry. -/
def remove (collection : KeyedCollection) (key : String) : Option Entity × KeyedCollection :=
  (collection.get? key, { collection with
    entries := collection.entries.eraseP fun entry => entry.1 == key })

def clear (collection : KeyedCollection) : KeyedCollection :=
  { collection with entries := [] }

/-- The entries of the document take the place of all former entries. -/
def deserialize (collection : KeyedCollection) (document : Mapping) : Checked KeyedCollection :=
  readEntries collection.itemType collection.keyField collection.itemType.read document

end NetworkAutomation.KeyedCollection
