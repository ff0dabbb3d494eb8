/-
This file admits values into attributes and builds entities from fields and from documents.
-/

import NetworkAutomation.Entity.Validation

namespace NetworkAutomation

/-- Every failure of an entity is one of its errors. -/
abbrev Checked (α : Type) := Except EntityError α

namespace EntityError

def ofValidation {α : Type} : Except ValidationError α → Checked α
  | .ok value => .ok value
  | .error error => .error (.validation error)

end EntityError

/-- Fields are named by the caller, or they are the keys of a document. -/
inductive FieldSource where
  | caller
  | document
  deriving DecidableEq

def FieldSource.unknown (source : FieldSource) (entity name : String) : EntityError :=
  match source with
  | .caller => .unknownAttribute entity name
  | .document => .unknownField entity name

/-- A value that was admitted by its attribute still misses where a required field stays null. -/
def Attribute.requireValue (field : Attribute) (entity : String) (value : Value) :
    Checked Value :=
  if field.required && value.isNull then .error (.missingRequiredField entity field.name)
  else .ok value

namespace EntityType

/-- The fields that are read so far, and the undeclared names of an open type. -/
structure Population where
  values : List Value
  extras : List (String × Value)

/-- A value for a slot passes through the attribute of the slot. -/
def assign (type : EntityType) (coerce : Nat → Value → Checked Value) (slot : Nat)
    (value : Value) : Checked Value := do
  let coerced ← coerce slot value
  match type.attributes[slot]? with
  | some field => field.requireValue type.name coerced
  | none => .ok coerced

def populateField (type : EntityType) (coerce : Nat → Value → Checked Value)
    (source : FieldSource) (population : Population) (entry : String × Value) :
    Checked Population :=
  match type.slot? entry.1 with
  | some slot => do
      let value ← type.assign coerce slot entry.2
      return { population with values := population.values.set slot value }
  | none =>
      if type.isOpen then
        .ok { population with extras := population.extras ++ [entry] }
      else .error (source.unknown type.name entry.1)

/-- A captured value becomes an entry of the catch-all dict. -/
def capture (values : List Value) (slot : Nat) (name : String) (document : Document) :
    List Value :=
  match values[slot]? with
  | some (.dict entries) => values.set slot (.dict (Mapping.insert entries name document))
  | _ => values.set slot (.dict [(name, document)])

/-- Captured values come last, so a value for the catch-all itself does not overwrite them. -/
def captureExtras (type : EntityType) (population : Population) : List Value :=
  match type.catchAllSlot? with
  | some slot => population.extras.foldl
      (fun values entry => capture values slot entry.1 entry.2.toDocument) population.values
  | none => population.values

/-- The first required attribute without a value is reported. -/
def checkRequired (type : EntityType) (values : List Value) : Checked Unit :=
  (type.attributes.zip values).forM fun entry =>
    if entry.1.required && entry.2.isNull then
      .error (.missingRequiredField type.name entry.1.name)
    else .ok ()

/-- Fields are taken in their order over the defaults of the type. -/
def populate (type : EntityType) (coerce : Nat → Value → Checked Value) (source : FieldSource)
    (fields : List (String × Value)) : Checked Entity := do
  let population ← fields.foldlM (type.populateField coerce source) ⟨type.defaults, []⟩
  let values := type.captureExtras population
  type.checkRequired values
  return ⟨type, values⟩

def fieldsOf (mapping : Mapping) : List (String × Value) :=
  mapping.map fun entry => (entry.1, Value.ofDocument entry.2)

def malformed {α : Type} (type : EntityType) (reason : String) : Checked α :=
  .error (.malformedDocument type.name reason)

/-- Keys beside the root are read ahead of the body by an open type and refused by a closed one. -/
def outerFields (type : EntityType) (root : String) (document : Mapping) :
    Checked (List (String × Value)) :=
  let outer := document.filter fun entry => entry.1 != root
  match outer with
  | [] => .ok []
  | entry :: _ =>
      if type.isOpen then .ok (fieldsOf outer)
      else .error (.unknownField type.name entry.1)

/-- The fields of a document, which stand inside the envelope where the type has one. -/
def unwrap (type : EntityType) (document : Mapping) : Checked (List (String × Value)) :=
  match type.envelope with
  | none => .ok (fieldsOf document)
  | some root =>
      match document.lookup? root with
      | some (.mapping body) => do
          let outer ← type.outerFields root document
          return outer ++ fieldsOf body
      | some other =>
          type.malformed (quoted root ++ " must be a mapping, got " ++ other.kind)
      | none => type.malformed ("missing root key " ++ quoted root)

/-- Only a mapping can be read as an entity. -/
def readMapping (type : EntityType) (read : Mapping → Checked Entity) :
    Document → Checked Entity
  | .mapping entries => read entries
  | other => type.malformed ("expected a mapping, got " ++ other.kind)

end EntityType

/-- The elements of an ordered collection are read in order. -/
def OrderedCollection.readItems (itemType : EntityType) (read : Mapping → Checked Entity)
    (documents : List Document) : Checked OrderedCollection := do
  let items ← documents.mapM (itemType.readMapping read)
  return ⟨itemType, items⟩

/-- The body of an element may be null, which stands for an empty one. -/
def KeyedCollection.entryBody (itemType : EntityType) (key : String) :
    Document → Checked Mapping
  | .null => .ok []
  | .mapping entries => .ok entries
  | other =>
      itemType.malformed ("entry " ++ quoted key ++ " must be a mapping, got " ++ other.kind)

/-- The key of an entry is written into the key field of its element. -/
def KeyedCollection.readEntry (itemType : EntityType) (keyField : String)
    (read : Mapping → Checked Entity) (entry : String × Document) :
    Checked (String × Entity) := do
  let body ← entryBody itemType entry.1 entry.2
  let item ← read (Mapping.insert body keyField (.text entry.1))
  return (entry.1, item)

def KeyedCollection.readEntries (itemType : EntityType) (keyField : String)
    (read : Mapping → Checked Entity) (document : Mapping) : Checked KeyedCollection := do
  let entries ← document.mapM (readEntry itemType keyField read)
  return ⟨itemType, keyField, entries⟩

mutual

/-- A value of the declared kind is admitted, and plain documents are read as entities. -/
def AttributeType.admission : AttributeType → String → Value → Checked Value
  | .text, _, .text value => .ok (.text value)
  | .integer, _, .integer value => .ok (.integer value)
  | .boolean, _, .boolean value => .ok (.boolean value)
  | .list, _, .list items => .ok (.list items)
  | .dict, _, .dict entries => .ok (.dict entries)
  | .object item, name, value =>
      match value with
      | .object entity =>
          if entity.type.isA item then .ok value
          else .error (.typeMismatch name (AttributeType.object item).display value.describe)
      | .dict entries => do return .object (← item.read entries)
      | _ => .error (.typeMismatch name (AttributeType.object item).display value.describe)
  | .index item, name, value =>
      match value with
      | .index collection =>
          if collection.itemType.isA item then .ok value
          else .error (.typeMismatch name (AttributeType.index item).display value.describe)
      | .list documents => do
          return .index (← OrderedCollection.readItems item (fun body => item.read body) documents)
      | _ => .error (.typeMismatch name (AttributeType.index item).display value.describe)
  | .map item key, name, value =>
      match value with
      | .map collection =>
          if collection.itemType.isA item && collection.keyField == key then .ok value
          else .error (.typeMismatch name (AttributeType.map item key).display value.describe)
      | .dict entries => do
          return .map
            (← KeyedCollection.readEntries item key (fun body => item.read body) entries)
      | _ => .error (.typeMismatch name (AttributeType.map item key).display value.describe)
  | type, name, value => .error (.typeMismatch name type.display value.describe)

/-- Null stands for the default, and any other value must be admitted by type and validators. -/
def Attribute.coerce : Attribute → Value → Checked Value
  | ⟨name, type, default, _, validators, _, _⟩, value =>
      match value with
      | .null => .ok default
      | value => do
          let admitted ← type.admission name value
          EntityError.ofValidation (Validator.checkAll validators admitted)
          return admitted

/-- The value passes through the attribute in the given slot. -/
def Attribute.coerceAt : List Attribute → Nat → Value → Checked Value
  | [], _, value => .ok value
  | field :: _, 0, value => field.coerce value
  | _ :: rest, slot + 1, value => Attribute.coerceAt rest slot value

/-- The entity of a document, whose keys are the fields of the type. -/
def EntityType.read : EntityType → Mapping → Checked Entity
  | ⟨identity, name, parents, attributes, catchAll, envelope⟩, document => do
      let type : EntityType := ⟨identity, name, parents, attributes, catchAll, envelope⟩
      let fields ← type.unwrap document
      type.populate (fun slot value => Attribute.coerceAt attributes slot value) .document fields

end

namespace EntityType

/-- The value passes through the attribute in the given slot of the type. -/
def coerceAt (type : EntityType) (slot : Nat) (value : Value) : Checked Value :=
  Attribute.coerceAt type.attributes slot value

/-- The entity of a document of any sort. -/
def readDocument (type : EntityType) (document : Document) : Checked Entity :=
  type.readMapping type.read document

/-- The entity with the given fields, and with the defaults of the type elsewhere. -/
def create (type : EntityType) (fields : List (String × Value)) : Checked Entity :=
  type.populate type.coerceAt .caller fields

/-- The entity with every field at its default. -/
def empty (type : EntityType) : Checked Entity := do
  type.checkRequired type.defaults
  return ⟨type, type.defaults⟩

end EntityType

end NetworkAutomation
