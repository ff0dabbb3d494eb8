/-
This file runs playbooks against an inventory with the help of an engine.
-/

import NetworkAutomation.Playbook.Operation
import NetworkAutomation.Runner.Status

namespace NetworkAutomation

/-- An engine receives the plays of a playbook and the document of the inventory. -/
structure Call where
  playbook : List Document
  inventory : Mapping

/-- An engine answers a call from its own state, or it breaks and says why. -/
structure Engine (State : Type) where
  respond : State → Call → Except String RunStatus × State

/-- A run is refused by the engine, by the outcome it reports, or by an entity. -/
inductive RunError where
  | engine (reason : String)
  | failed (status : RunStatus)
  | entity (error : EntityError)
  deriving DecidableEq

def RunError.message : RunError → String
  | .engine reason => "engine error: " ++ reason
  | .failed status => "playbook run failed: " ++ status.details
  | .entity error => error.message

/-- A runner binds an inventory to an engine. -/
structure Runner (State : Type) where
  engine : Engine State
  state : State
  inventory : Entity

namespace Runner

/-- Every step answers and leaves the runner in its next state. -/
abbrev Answer (State α : Type) := Except RunError α × Runner State

def ofChecked {α : Type} : Checked α → Except RunError α
  | .ok value => .ok value
  | .error error => .error (.entity error)

/-- A runner over an empty inventory. -/
def create {State : Type} (engine : Engine State) (state : State) :
    Except RunError (Runner State) := do
  let inventory ← ofChecked Catalogue.emptyInventory
  return ⟨engine, state, inventory⟩

/-- A runner over an inventory that is already there. -/
def withInventory {State : Type} (engine : Engine State) (state : State) (inventory : Entity) :
    Except RunError (Runner State) :=
  if inventory.instanceOf Catalogue.inventory then .ok ⟨engine, state, inventory⟩
  else .error (.entity
    (.typeMismatch "inventory" Catalogue.inventory.name inventory.type.name))

/-- The inventory with the host under its name. -/
def inventoryWithHost (inventory host : Entity) : Checked Entity := do
  let hosts ← inventory.getMap "hosts"
  let (_, extended) ← hosts.add host
  return inventory.replaceField "hosts" (.map extended)

/-- A host of the same name is replaced. -/
def addHost {State : Type} (runner : Runner State) (host : Entity) : Answer State Unit :=
  match inventoryWithHost runner.inventory host with
  | .ok inventory => (.ok (), { runner with inventory := inventory })
  | .error error => (.error (.entity error), runner)

/-- The first host whose address is the given one is enough. -/
def anyAddress (address : String) : List (String × Entity) → Checked Bool
  | [] => .ok false
  | (_, host) :: rest => do
      if (← host.getText "ansible_host") = some address then return true
      else anyAddress address rest

/-- A host is known by its name or by its address. -/
def hasHost {State : Type} (runner : Runner State) (name : String) : Except RunError Bool :=
  ofChecked do
    let hosts ← runner.inventory.getMap "hosts"
    if hosts.contains name then return true
    else anyAddress name hosts.entries

/-- Only collections of plays are handed to the engine. -/
def checkPlaybook (playbook : OrderedCollection) : Checked Unit :=
  if playbook.itemType.isA Catalogue.play then .ok ()
  else .error (.typeMismatch "playbook" ("index<" ++ Catalogue.play.name ++ ">")
    ("index<" ++ playbook.itemType.name ++ ">"))

def judge : Except String RunStatus → Except RunError RunStatus
  | .error reason => .error (.engine reason)
  | .ok status => if status.isFailed then .error (.failed status) else .ok status

/-- The engine is called once with the inventory as it stands. -/
def run {State : Type} (runner : Runner State) (playbook : OrderedCollection) :
    Answer State RunStatus :=
  match checkPlaybook playbook with
  | .error error => (.error (.entity error), runner)
  | .ok () =>
      let (reply, state) := runner.engine.respond runner.state
        ⟨playbook.serialize, runner.inventory.serialize⟩
      (judge reply, { runner with state := state })

/-- An operation runs its own playbook. -/
def perform {State : Type} (runner : Runner State) (operation : Operation) (extra : Mapping) :
    Answer State RunStatus :=
  match operation.playbook extra with
  | .ok playbook => runner.run playbook
  | .error error => (.error (.entity error), runner)

end Runner

end NetworkAutomation
