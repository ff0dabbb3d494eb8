/-
This file normalizes the port configuration inside the output of a port query.
-/

import NetworkAutomation.Document.Printer
import NetworkAutomation.Document.Reader
import NetworkAutomation.PortConfig.Span
import NetworkAutomation.Text.Blank
import NetworkAutomation.Text.Replace

namespace NetworkAutomation

open NetworkAutomation.Text

/-- The normalized configuration of one port. -/
structure PortConfig where
  mode : Option String
  vlan : Option Int64
  trunkedVlans : String
  deriving DecidableEq

namespace PortConfig

/-- The output of a port query may be refused for one of these reasons. -/
inductive FormatError where
  | unbalancedBraces (fragment : String)
  | noConfiguration
  | invalidObject
  | missingLines
  | invalidVlan (line : String)
  | unsupportedSystem (system : String)
  deriving DecidableEq

def FormatError.message : FormatError → String
  | .unbalancedBraces fragment =>
      "invalid json format: unbalanced braces in '" ++ fragment ++ "'"
  | .noConfiguration => "no configuration object found in output"
  | .invalidObject => "invalid json format"
  | .missingLines => "configuration object has no stdout_lines"
  | .invalidVlan line => "invalid access vlan in '" ++ line ++ "'"
  | .unsupportedSystem system => "invalid os type '" ++ system ++ "'"

/-- Only the configuration lines of this system are understood. -/
def understoodSystem : String := "fos"

def empty : PortConfig := ⟨none, none, ""⟩

def modeLead : List Char := "switchport mode ".toList

def accessLead : List Char := "switchport access vlan ".toList

def trunkLead : List Char := "switchport trunk allowed vlan ".toList

/-- A line sets at most one part of the configuration. -/
def readLine (config : PortConfig) (line : String) : Except FormatError PortConfig :=
  let characters := line.toList
  match stripLead? modeLead characters with
  | some mode => .ok { config with mode := some (String.ofList mode) }
  | none =>
      match stripLead? accessLead characters with
      | some vlan =>
          match readWord? (String.ofList (trimCharacters vlan)) with
          | some word => .ok { config with vlan := some word }
          | none => .error (.invalidVlan line)
      | none =>
          match stripLead? trunkLead characters with
          | some vlans => .ok { config with trunkedVlans := String.ofList vlans }
          | none => .ok config

/-- Later lines win, and the first refused line ends the reading. -/
def readLines (lines : List String) : Except FormatError PortConfig :=
  lines.foldlM readLine empty

def texts (documents : List Document) : List String :=
  documents.filterMap fun document =>
    match document with
    | .text value => some value
    | _ => none

/-- The configuration lines are the texts of the first list of output lines. -/
def lines? : Document → Option (List String)
  | .mapping entries =>
      match Mapping.lookup? entries "stdout_lines" with
      | some (.list (.list documents :: _)) => some (texts documents)
      | _ => none
  | _ => none

def ofObject (object : Document) : Except FormatError PortConfig :=
  match lines? object with
  | some lines => readLines lines
  | none => .error .missingLines

def toDocument (config : PortConfig) : Document :=
  .mapping [
    ("mode", Document.optionalText config.mode),
    ("vlan", match config.vlan with
      | some vlan => .word vlan
      | none => .null),
    ("trunked_vlans", .text config.trunkedVlans)]

/-- Line breaks inside the object are read as spaces. -/
def readObject? (object : List Char) : Option Document :=
  Reader.document? (object.map fun character => if character = '\n' then ' ' else character)

def ofSpanError : SpanError → FormatError
  | .unbalanced fragment => .unbalancedBraces (String.ofList fragment)
  | .missing => .noConfiguration

/-- Every occurrence of the last object is replaced by the normalized configuration. -/
def format (output system : String) : Except FormatError String :=
  match lastObject output.toList with
  | .error error => .error (ofSpanError error)
  | .ok object =>
      match readObject? object with
      | none => .error .invalidObject
      | some document =>
          if system = understoodSystem then do
            let config ← ofObject document
            return String.ofList
              (replaceAll object config.toDocument.characters output.toList)
          else .error (.unsupportedSystem system)

end PortConfig

end NetworkAutomation
