/-
This file loads bindings from text and from the folder of a role.
-/

import NetworkAutomation.Bindings.Basic

namespace NetworkAutomation

/-- A folder holds the texts of files, and other folders without a text, by name. -/
structure Folder where
  name : String
  entries : List (String × Option String)

namespace Folder

/-- The text of a file of the folder; of several entries of one name the last counts. -/
def text? (folder : Folder) (file : String) : Option String :=
  (folder.entries.reverse.find? fun entry => entry.1 == file).bind Prod.snd

end Folder

namespace Bindings

def ofParsed {α : Type} : Except ParseError α → Bound α
  | .ok value => .ok value
  | .error error => .error (.parse error)

def ofYaml (firstIdentity : Nat) (text : String) (settings : Settings) : Bound Bindings := do
  compile firstIdentity (← ofParsed (Specification.ofYaml text)) settings

def ofJson (firstIdentity : Nat) (text : String) (settings : Settings) : Bound Bindings := do
  compile firstIdentity (← ofParsed (Specification.ofJson text)) settings

/-- The part behind the last point of a name, if there is anything before that point. -/
def extension? (file : String) : Option String :=
  let reversed := file.toList.reverse
  let behind := reversed.takeWhile fun character => character != '.'
  match reversed.drop behind.length with
  | _ :: _ :: _ => some (String.ofList behind.reverse)
  | _ => none

/-- Only one extension stands for JSON, and all other files hold YAML. -/
def ofFile (firstIdentity : Nat) (folder : Folder) (file : String) (settings : Settings) :
    Bound Bindings :=
  match folder.text? file with
  | none => .error (.unreadable file)
  | some text =>
      if extension? file = some "json" then ofJson firstIdentity text settings
      else ofYaml firstIdentity text settings

/-- The names of the file that holds the bindings of a role, in the order of preference. -/
def fileNames : List String := ["bindings.yaml", "bindings.yml"]

/-- The folder gives its name to the role, unless the settings name another role. -/
def ofFolder (firstIdentity : Nat) (folder : Folder) (settings : Settings) : Bound Bindings :=
  match fileNames.find? fun file => (folder.text? file).isSome with
  | none => .error (.bindingsNotFound folder.name)
  | some file =>
      let named :=
        if settings.role = Operation.roleName then { settings with role := folder.name }
        else settings
      ofFile firstIdentity folder file named

end Bindings

end NetworkAutomation
