/-
This file holds the outcome that an engine reports for a run.
-/

import NetworkAutomation.Document.Shape
import NetworkAutomation.PortConfig.Format

namespace NetworkAutomation

/-- The status of a run with the failures of its hosts and the captured output. -/
structure RunStatus where
  status : String
  failures : List String
  stdout : List String
  deriving DecidableEq

namespace RunStatus

/-- The status of a run that failed as a whole. -/
def failedStatus : String := "failed"

/-- A run fails as a whole or on some host. -/
def isFailed (status : RunStatus) : Bool :=
  status.status == failedStatus || !status.failures.isEmpty

/-- The output explains a failure, and the failures do where there is no output. -/
def details (status : RunStatus) : String :=
  if status.stdout.isEmpty then String.intercalate " " status.failures
  else String.intercalate " " status.stdout

/-- The output lines hold one port configuration object. -/
def portConfig (status : RunStatus) (system : String) :
    Except PortConfig.FormatError String :=
  PortConfig.format (String.intercalate "\n" status.stdout) system

/-- Only the status itself must be given. -/
def ofDocument? (document : Document) : Option RunStatus := do
  match ← Shape.fields? false [["status"], ["failures"], ["stdout"]] document with
  | [some status, failures, stdout] =>
      return {
        status := ← Shape.text? status
        failures := ← Shape.orDefault Shape.texts? [] failures
        stdout := ← Shape.orDefault Shape.texts? [] stdout }
  | _ => none

def toDocument (status : RunStatus) : Document :=
  .mapping [
    ("status", .text status.status),
    ("failures", Document.texts status.failures),
    ("stdout", Document.texts status.stdout)]

end RunStatus

end NetworkAutomation
