/-
This file prints the documents of the walkthrough.
-/

import NetworkAutomation.Document.Indented
import NetworkAutomation.Walkthrough.Run

open NetworkAutomation

def main : IO UInt32 := do
  match Walkthrough.run with
  | .ok document =>
      IO.println document.renderIndented
      return 0
  | .error failure =>
      IO.eprintln ("Error: " ++ failure.message)
      return 1
