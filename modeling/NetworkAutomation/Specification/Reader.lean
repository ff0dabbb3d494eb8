/-
This file reads specifications from documents and from text.
-/

import NetworkAutomation.Document.Reader
import NetworkAutomation.Document.Shape
import NetworkAutomation.Specification.Basic
import NetworkAutomation.Yaml.Content

namespace NetworkAutomation

open NetworkAutomation.Shape

namespace Specification

/-- Names are given one by one or as a list. -/
def names? : Document → Option (List String)
  | .text name => some [name]
  | document => texts? document

def policyOfName? : String → Option Policy
  | "always" => some .always
  | "present" => some .present
  | "never" => some .never
  | _ => none

/-- A policy is its name, or a mapping of its name to null. -/
def policy? : Document → Option Policy
  | .text name => policyOfName? name
  | .mapping [(name, .null)] => policyOfName? name
  | _ => none

/-- A table is a mapping whose bodies are all readable, and null is an empty table. -/
def table? {α : Type} (body : Document → Option α) : Document → Option (List (String × α))
  | .null => some []
  | .mapping entries => entries.mapM fun entry => (body entry.2).map fun read => (entry.1, read)
  | _ => none

/-- A body that is null is left out. -/
def body? {α : Type} (read : Document → Option α) (document : Document) : Option (Option α) :=
  optional read (some document)

/-- The kind of a validator stands among its parameters. -/
def validator? : Document → Option ValidatorSpecification
  | .mapping entries =>
      match Mapping.lookup? entries "type" with
      | some (.text kind) => some ⟨kind, Mapping.erase entries "type"⟩
      | _ => none
  | _ => none

def fieldSpellings : List Spellings :=
  [["type"], ["default"], ["required"], ["validators"], ["serialize_when"], ["aliases"],
    ["model"], ["key"]]

def field? (document : Document) : Option FieldSpecification := do
  match ← fields? true fieldSpellings document with
  | [type, default, required, validators, policy, aliases, model, key] =>
      return {
        type := ← optional text? type
        default := ← optional some default
        required := ← orDefault boolean? false required
        validators := ← orDefault names? [] validators
        policy := ← orDefault policy? .always policy
        aliases := ← orDefault texts? [] aliases
        model := ← optional text? model
        key := ← optional text? key }
  | _ => none

def parameterSpellings : List Spellings :=
  [["type"], ["required"], ["default"], ["validators"]]

def parameter? (document : Document) : Option ParameterSpecification := do
  match ← fields? true parameterSpellings document with
  | [type, required, default, validators] =>
      return {
        type := ← optional text? type
        required := ← orDefault boolean? false required
        default := ← optional some default
        validators := ← orDefault names? [] validators }
  | _ => none

/-- Each part of an action has two spellings. -/
def actionSpellings : List Spellings :=
  [["args", "parameters"], ["vars", "static_vars"], ["tasks_from", "target"]]

def action? (document : Document) : Option ActionSpecification := do
  match ← fields? true actionSpellings document with
  | [parameters, staticVariables, tasksFrom] =>
      return {
        parameters := ← orDefault (table? (body? parameter?)) [] parameters
        staticVariables := ← optional mapping? staticVariables
        tasksFrom := ← optional text? tasksFrom }
  | _ => none

/-- Other keys of the whole specification are passed over, and null is an empty one. -/
def ofDocument? : Document → Option Specification
  | .null => some {}
  | document => do
      match ← fields? false [["validators"], ["models"], ["actions"]] document with
      | [validators, models, actions] =>
          return {
            validators := ← orDefault (table? validator?) [] validators
            models := ← orDefault (table? (table? (body? field?))) [] models
            actions := ← orDefault (table? action?) [] actions }
      | _ => none

end Specification

/-- A text may fail to be YAML, to become a document, or to have the shape of a specification. -/
inductive ParseError where
  | yaml
  | json
  | conversion (error : Yaml.ConversionError)
  | shape
  deriving DecidableEq

def ParseError.message : ParseError → String
  | .yaml => "invalid YAML"
  | .json => "invalid JSON"
  | .conversion error => "YAML-to-JSON conversion failed: " ++ error.message
  | .shape => "invalid specification"

namespace Specification

def ofShape (document : Document) : Except ParseError Specification :=
  match ofDocument? document with
  | some specification => .ok specification
  | none => .error .shape

def ofJson (text : String) : Except ParseError Specification :=
  match Document.read? text with
  | some document => ofShape document
  | none => .error .json

def ofYaml (text : String) : Except ParseError Specification :=
  match Yaml.Content.read? text.toList with
  | none => .error .yaml
  | some content =>
      match content.toDocument with
      | .ok document => ofShape document
      | .error error => .error (.conversion error)

end Specification

end NetworkAutomation
