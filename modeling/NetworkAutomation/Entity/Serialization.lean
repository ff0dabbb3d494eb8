/-
This file writes entities and collections as documents.
-/

import NetworkAutomation.Document.Digest
import NetworkAutomation.Entity.Type

namespace NetworkAutomation

/-- A policy of presence leaves out null and the empty containers. -/
def Policy.emits (policy : Policy) (document : Document) : Bool :=
  match policy with
  | .always => true
  | .present => document.isPresent
  | .never => false

namespace EntityType

/-- The declared fields stand in their order, without the field of a flattened catch-all. -/
def declaredEntries (flattened : Option Nat) : Nat → List Attribute → List Document → Mapping
  | slot, field :: fields, document :: documents =>
      let later := declaredEntries flattened (slot + 1) fields documents
      if flattened ≠ some slot ∧ field.policy.emits document then
        (field.name, document) :: later
      else later
  | _, _, _ => []

/-- Captured entries never stand in for a declared field or for an alias of one. -/
def capturedEntries (type : EntityType) (documents : List Document) : Mapping :=
  match type.flattenedSlot?.bind fun slot => documents[slot]? with
  | some (.mapping entries) => entries.filter fun entry => !type.hasAttribute entry.1
  | _ => []

/-- An envelope wraps the whole document under its one key. -/
def wrap (type : EntityType) (body : Mapping) : Mapping :=
  match type.envelope with
  | some root => [(root, .mapping body)]
  | none => body

/-- The documents of the slots are laid out as the type's policies say. -/
def layout (type : EntityType) (documents : List Document) : Mapping :=
  type.wrap (declaredEntries type.flattenedSlot? 0 type.attributes documents ++
    type.capturedEntries documents)

end EntityType

/-- The key stands outside the element document, so its field is left out. -/
def KeyedCollection.entryDocument (keyField : String) (body : Mapping) : Document :=
  .mapping (body.filter fun entry => entry.1 != keyField)

mutual

def Value.toDocument : Value → Document
  | .null => .null
  | .text value => .text value
  | .integer value => .word value
  | .boolean value => .boolean value
  | .number value => .number value
  | .list items => .list items
  | .dict entries => .mapping entries
  | .object entity => .mapping entity.serialize
  | .index collection => .list collection.serialize
  | .map collection => .mapping collection.serialize

def Entity.serialize : Entity → Mapping
  | ⟨type, values⟩ => type.layout (Value.documents values)

def OrderedCollection.serialize : OrderedCollection → List Document
  | ⟨_, items⟩ => Entity.documents items

/-- Each element stands under its key without its key field. -/
def KeyedCollection.serialize : KeyedCollection → Mapping
  | ⟨_, keyField, entries⟩ => KeyedCollection.entryDocuments keyField entries

def Value.documents : List Value → List Document
  | [] => []
  | value :: rest => value.toDocument :: Value.documents rest

def Entity.documents : List Entity → List Document
  | [] => []
  | item :: rest => .mapping item.serialize :: Entity.documents rest

def KeyedCollection.entryDocuments (keyField : String) : List (String × Entity) → Mapping
  | [] => []
  | (key, item) :: rest =>
      (key, KeyedCollection.entryDocument keyField item.serialize) ::
        KeyedCollection.entryDocuments keyField rest

end

def Value.isPresent (value : Value) : Bool :=
  value.toDocument.isPresent

namespace Entity

def toDocument (entity : Entity) : Document :=
  .mapping entity.serialize

def render (entity : Entity) : String :=
  entity.toDocument.render

/-- Entities agree when their documents do. -/
def agrees (left right : Entity) : Bool :=
  left.toDocument.agrees right.toDocument

/-- The hash of an entity follows its document. -/
def digest (entity : Entity) : List Mark :=
  Mapping.digest entity.serialize

end Entity

namespace OrderedCollection

def toDocument (collection : OrderedCollection) : Document :=
  .list collection.serialize

/-- Ordered collections agree element by element. -/
def agrees (left right : OrderedCollection) : Bool :=
  left.toDocument.agrees right.toDocument

end OrderedCollection

namespace KeyedCollection

def toDocument (collection : KeyedCollection) : Document :=
  .mapping collection.serialize

/-- Keyed collections agree when their mappings do, in whatever order. -/
def agrees (left right : KeyedCollection) : Bool :=
  left.toDocument.agrees right.toDocument

end KeyedCollection

end NetworkAutomation
