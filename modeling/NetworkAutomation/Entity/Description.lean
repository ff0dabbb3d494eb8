/-
This file describes values, attributes and entity types as documents.
-/

import NetworkAutomation.Entity.Validation

namespace NetworkAutomation

/-- A description holds documents as compact text. -/
def Document.described (document : Document) : Document :=
  .text document.render

/-- What is absent is described by null. -/
def Document.describedOption : Option Document → Document
  | some document => document.described
  | none => .null

def Value.description (value : Value) : Mapping :=
  [("kind", .text value.kind), ("value", value.toDocument.described),
    ("present", .boolean value.isPresent)]

def Validator.displays (validators : List Validator) : Document :=
  Document.texts (validators.map Validator.display)

def Attribute.description (field : Attribute) : Mapping := [
  ("name", .text field.name),
  ("type", .text field.type.display),
  ("primitive", .text field.type.primitive.name),
  ("container", .boolean field.type.isContainer),
  ("of", Document.optionalText (field.type.item?.map EntityType.name)),
  ("default", .mapping field.default.description),
  ("required", .boolean field.required),
  ("when", .text field.policy.name),
  ("aliases", Document.texts field.aliases),
  ("validators", Validator.displays field.validators)]

def CatchAll.description (catchAll : CatchAll) : Document :=
  Document.texts [catchAll.field, catchAll.mode.name]

namespace EntityType

def attributeDescriptions (type : EntityType) : Document :=
  .list (type.attributes.map fun field => .mapping field.description)

def description (type : EntityType) : Mapping := [
  ("name", .text type.name),
  ("fields", Document.texts type.fieldNames),
  ("parents", Document.texts (type.parents.map EntityType.name)),
  ("is_open", .boolean type.isOpen),
  ("catch_all", (type.catchAll.map CatchAll.description).getD .null),
  ("envelope", Document.optionalText type.envelope),
  ("has_required", .boolean type.hasRequired)]

end EntityType

end NetworkAutomation
