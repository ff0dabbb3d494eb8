/-
This file holds entity types, their attributes, and the values that entities carry.
-/

import NetworkAutomation.Document.Basic
import NetworkAutomation.Entity.Error

namespace NetworkAutomation

/-- The primitive kinds tell which validators a type admits. -/
inductive Primitive where
  | text
  | integer
  | boolean
  | list
  | dict
  | object
  | index
  | map
  deriving DecidableEq

def Primitive.name : Primitive → String
  | .text => "str"
  | .integer => "int"
  | .boolean => "bool"
  | .list => "list"
  | .dict => "dict"
  | .object => "object"
  | .index => "index"
  | .map => "map"

/-- The order in which the primitive kinds are listed. -/
def Primitive.all : List Primitive :=
  [.text, .integer, .boolean, .list, .dict, .object, .index, .map]

/-- A validator admits listed texts, integers between two bounds, or port numbers. -/
inductive Validator where
  | choice (choices : List String)
  | range (least greatest : Int64)
  | port
  deriving DecidableEq

/-- A policy decides when an attribute is written into the document. -/
inductive Policy where
  | always
  | present
  | never
  deriving DecidableEq

def Policy.name : Policy → String
  | .always => "always"
  | .present => "present"
  | .never => "never"

/-- Captured entries are written beside the declared fields or inside their own field. -/
inductive CatchAllMode where
  | flatten
  | nested
  deriving DecidableEq

def CatchAllMode.name : CatchAllMode → String
  | .flatten => "flatten"
  | .nested => "nested"

/-- An open type captures undeclared names in one of its dict fields. -/
structure CatchAll where
  field : String
  mode : CatchAllMode
  deriving DecidableEq

mutual

/-- Types are compared by their identity and never by their contents. -/
structure EntityType where
  identity : Nat
  name : String
  parents : List EntityType
  attributes : List Attribute
  catchAll : Option CatchAll
  envelope : Option String

/-- An attribute is the whole contract of one field. -/
structure Attribute where
  name : String
  type : AttributeType
  default : Value
  required : Bool
  validators : List Validator
  policy : Policy
  aliases : List String

/-- Fields hold scalars, free-form documents, entities, or collections of entities. -/
inductive AttributeType where
  | text
  | integer
  | boolean
  | list
  | dict
  | object (item : EntityType)
  | index (item : EntityType)
  | map (item : EntityType) (key : String)

/--
A number that is no signed word is kept as it was read, so that it is refused and never truncated.
-/
inductive Value where
  | null
  | text (value : String)
  | integer (value : Int64)
  | boolean (value : Bool)
  | number (value : Number)
  | list (items : List Document)
  | dict (entries : List (String × Document))
  | object (entity : Entity)
  | index (collection : OrderedCollection)
  | map (collection : KeyedCollection)

/-- An entity holds one value for each attribute of its type. -/
structure Entity where
  type : EntityType
  values : List Value

/-- An ordered collection is a list of entities of one type. -/
structure OrderedCollection where
  itemType : EntityType
  items : List Entity

/-- A keyed collection holds entities of one type under the value of one of their text fields. -/
structure KeyedCollection where
  itemType : EntityType
  keyField : String
  entries : List (String × Entity)

end

namespace AttributeType

def primitive : AttributeType → Primitive
  | .text => .text
  | .integer => .integer
  | .boolean => .boolean
  | .list => .list
  | .dict => .dict
  | .object _ => .object
  | .index _ => .index
  | .map _ _ => .map

/-- The element type of objects and collections. -/
def item? : AttributeType → Option EntityType
  | .object item => some item
  | .index item => some item
  | .map item _ => some item
  | _ => none

/-- All types but the three scalar ones are containers. -/
def isContainer : AttributeType → Bool
  | .text => false
  | .integer => false
  | .boolean => false
  | _ => true

/-- The element type stands in angle brackets. -/
def display (type : AttributeType) : String :=
  match type.item? with
  | some item => type.primitive.name ++ "<" ++ item.name ++ ">"
  | none => type.primitive.name

end AttributeType

namespace Value

def isNull : Value → Bool
  | .null => true
  | _ => false

/-- This word names the kind of a value in messages. -/
def kind : Value → String
  | .null => "null"
  | .text _ => "str"
  | .integer _ => "int"
  | .boolean _ => "bool"
  | .number (.integer _) => "int out of range"
  | .number (.float _) => "float"
  | .list _ => "list"
  | .dict _ => "dict"
  | .object _ => "object"
  | .index _ => "index"
  | .map _ => "map"

/-- Entities and collections are described together with their type. -/
def describe : Value → String
  | .object entity => "object<" ++ entity.type.name ++ ">"
  | .index collection => "index<" ++ collection.itemType.name ++ ">"
  | .map collection => "map<" ++ collection.itemType.name ++ ">"
  | value => value.kind

/-- Integers that are signed words become integers, and other numbers are kept. -/
def ofNumber (number : Number) : Value :=
  match number with
  | .integer value =>
      match Text.word? value with
      | some word => .integer word
      | none => .number number
  | .float _ => .number number

def ofDocument : Document → Value
  | .null => .null
  | .boolean value => .boolean value
  | .number value => ofNumber value
  | .text value => .text value
  | .list items => .list items
  | .mapping entries => .dict entries

/-- A missing text is null. -/
def optionalText : Option String → Value
  | some value => .text value
  | none => .null

def asText? : Value → Option String
  | .text value => some value
  | _ => none

def asInteger? : Value → Option Int64
  | .integer value => some value
  | _ => none

def asBoolean? : Value → Option Bool
  | .boolean value => some value
  | _ => none

end Value

end NetworkAutomation
