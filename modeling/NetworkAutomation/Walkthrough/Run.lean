/-
This file walks through the bundled role: one switch, one play and three tasks.
-/

import NetworkAutomation.Runner.Script
import NetworkAutomation.Walkthrough.Bundled

namespace NetworkAutomation.Walkthrough

/-- A dry run only records its calls and reports this status. -/
def dryRun : Script := { replies := [.ok ⟨"dry-run", [], []⟩] }

/-- The switch of the walkthrough. -/
def switch : Checked Entity :=
  Catalogue.host.create [
    ("name", .text "veos01"),
    ("ansible_host", .text "192.168.86.64"),
    ("ansible_user", .text "admin"),
    ("ansible_password", .text "admin"),
    ("ansible_network_os", .text "eos"),
    ("ansible_connection", .text "network_cli"),
    ("ansible_become", .boolean true),
    ("ansible_become_method", .text "enable")]

/-- The walkthrough uses bindings, entities and a runner, and each of them may refuse. -/
inductive Failure where
  | bindings (error : BindingsError)
  | entity (error : EntityError)
  | run (error : RunError)
  deriving DecidableEq

def Failure.message : Failure → String
  | .bindings error => error.message
  | .entity error => error.message
  | .run error => error.message

def ofBound {α : Type} : Bound α → Except Failure α
  | .ok value => .ok value
  | .error error => .error (.bindings error)

def ofChecked {α : Type} : Checked α → Except Failure α
  | .ok value => .ok value
  | .error error => .error (.entity error)

def ofRun {α : Type} : Except RunError α → Except Failure α
  | .ok value => .ok value
  | .error error => .error (.run error)

def vlanArguments (vlan : Int64) (name : String) : Action.Arguments :=
  [("vlan_id", .integer vlan), ("vlan_name", .text name)]

/-- Two VLANs are created, and the first of them is deleted again. -/
def tasks (role : Bindings) : Bound (List Entity) := do
  let web ← role.invoke "create_vlan" (vlanArguments 10 "web")
  let database ← role.invoke "create_vlan" (vlanArguments 20 "db")
  let deleted ← role.invoke "delete_vlan" [("vlan_id", .integer 10)]
  return [web, database, deleted]

/-- One play without facts carries out all tasks. -/
def playbook (tasks : List Entity) : Checked OrderedCollection := do
  let play ← Catalogue.play.create [("gather_facts", .boolean false)]
  let empty ← play.getIndex "tasks"
  let filled ← tasks.foldlM OrderedCollection.append empty
  return ⟨Catalogue.play, [play.replaceField "tasks" (.index filled)]⟩

def inventory : Checked Entity := do
  Runner.inventoryWithHost (← Catalogue.emptyInventory) (← switch)

/-- The documents that the engine received, with one entity of a model of the role. -/
def report (role : Bindings) (status : RunStatus) (received : List Call) (vlan : Entity) :
    Document :=
  .mapping [
    ("bindings", .text role.name),
    ("status", .text status.status),
    ("inventory", match received.getLast? with
      | some call => .mapping call.inventory
      | none => .null),
    ("playbook", match received.head? with
      | some call => .list call.playbook
      | none => .null),
    ("models", .mapping [("vlan", vlan.toDocument)])]

def run : Except Failure Document := do
  let role ← ofBound (bundledBindings Catalogue.firstFreeIdentity)
  let inventory ← ofChecked inventory
  let playbook ← ofChecked (playbook (← ofBound (tasks role)))
  let vlan ← ofBound (role.newModel "vlan" [("vlan_id", .integer 30)])
  let runner ← ofRun (Runner.withInventory Script.engine dryRun inventory)
  let (answer, finished) := runner.run playbook
  let status ← ofRun answer
  return report role status finished.state.calls vlan

end NetworkAutomation.Walkthrough
