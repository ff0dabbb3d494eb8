/-
This file reaches entities and collections inside others and changes them in place.
-/

import NetworkAutomation.Collection.Keyed

namespace NetworkAutomation

/-- A segment leads from an entity to one of its fields, or from a collection to an element. -/
inductive Segment where
  | object (field : String)
  | index (field : String)
  | map (field : String)
  | position (index : Nat)
  | key (key : String)
  deriving DecidableEq

namespace Segment

/-- A segment is written as a mapping with one entry. -/
def toDocument : Segment → Document
  | .object field => .mapping [("object", .text field)]
  | .index field => .mapping [("index", .text field)]
  | .map field => .mapping [("map", .text field)]
  | .position place => .mapping [("at", .integer (Int.ofNat place))]
  | .key name => .mapping [("at", .text name)]

def ofDocument? : Document → Option Segment
  | .mapping [("object", .text field)] => some (.object field)
  | .mapping [("index", .text field)] => some (.index field)
  | .mapping [("map", .text field)] => some (.map field)
  | .mapping [("at", .text name)] => some (.key name)
  | .mapping [("at", .number (.integer (.ofNat place)))] => some (.position place)
  | _ => none

end Segment

/-- A path ends at an entity or at a collection. -/
inductive Target where
  | entity (entity : Entity)
  | ordered (collection : OrderedCollection)
  | keyed (collection : KeyedCollection)

/-- A path may be refused by an entity, or it may name an element that is not there. -/
inductive PathError where
  | refused (error : EntityError)
  | noElement (segment : Segment)
  deriving DecidableEq

namespace Entity

/-- An unset object field leads nowhere. -/
def requireObject (entity : Entity) (name : String) : Checked Entity := do
  match ← entity.get name with
  | .object object => return object
  | value => mismatch name "object" value

/-- A field that was reached by its name takes a value without any check. -/
def replaceField (entity : Entity) (name : String) (value : Value) : Entity :=
  match entity.type.slot? name with
  | some slot => entity.withValue slot value
  | none => entity

end Entity

namespace KeyedCollection

/-- The key of the entry stays as it is. -/
def replaceItem (collection : KeyedCollection) (key : String) (item : Entity) :
    KeyedCollection :=
  { collection with entries := upsert collection.entries key item }

end KeyedCollection

namespace Target

def serialize : Target → Document
  | .entity owner => owner.toDocument
  | .ordered collection => collection.toDocument
  | .keyed collection => collection.toDocument

def ofField (checked : Checked Target) : Except PathError Target :=
  match checked with
  | .ok target => .ok target
  | .error error => .error (.refused error)

/-- One step along a path. -/
def descend (target : Target) (segment : Segment) : Except PathError Target :=
  match target, segment with
  | .entity owner, .object field => ofField ((owner.requireObject field).map .entity)
  | .entity owner, .index field => ofField ((owner.getIndex field).map .ordered)
  | .entity owner, .map field => ofField ((owner.getMap field).map .keyed)
  | .ordered collection, .position index =>
      match collection.get? index with
      | some item => .ok (.entity item)
      | none => .error (.noElement segment)
  | .keyed collection, .key key =>
      match collection.get? key with
      | some item => .ok (.entity item)
      | none => .error (.noElement segment)
  | _, _ => .error (.noElement segment)

/-- What a segment leads to is put back after a change. -/
def replace (target : Target) (segment : Segment) (changed : Target) : Target :=
  match target, segment, changed with
  | .entity owner, .object field, .entity object =>
      .entity (owner.replaceField field (.object object))
  | .entity owner, .index field, .ordered collection =>
      .entity (owner.replaceField field (.index collection))
  | .entity owner, .map field, .keyed collection =>
      .entity (owner.replaceField field (.map collection))
  | .ordered collection, .position index, .entity item =>
      .ordered { collection with items := collection.items.set index item }
  | .keyed collection, .key key, .entity item => .keyed (collection.replaceItem key item)
  | unchanged, _, _ => unchanged

/-- What stands at the end of a path. -/
def resolve (target : Target) (path : List Segment) : Except PathError Target :=
  path.foldlM descend target

/-- The operation changes what stands at the end of the path and nothing else. -/
def edit {α : Type} (operation : Target → Checked (α × Target)) (target : Target) :
    List Segment → Except PathError (α × Target)
  | [] =>
      match operation target with
      | .ok result => .ok result
      | .error error => .error (.refused error)
  | segment :: path => do
      let inner ← target.descend segment
      let (result, changed) ← edit operation inner path
      return (result, target.replace segment changed)

end Target

end NetworkAutomation
