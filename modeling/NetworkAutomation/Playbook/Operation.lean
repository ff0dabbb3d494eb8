/-
This file builds the playbooks of the operations on VLANs and ports.
-/

import NetworkAutomation.Collection.Path
import NetworkAutomation.Playbook.ImportRole

namespace NetworkAutomation

/-- An operation changes one VLAN or one port of a host. -/
inductive Operation where
  | createVlan (host : String) (vlan : Int64) (name : Option String)
  | deleteVlan (host : String) (vlan : Int64)
  | accessPort (host port : String) (vlan : Option Int64)
  | trunkPort (host port : String) (vlan : Option Int64) (trunked : List Int64)
  | deletePort (host port : String)
  deriving DecidableEq

namespace Operation

/-- The role that carries out every operation. -/
def roleName : String := "network-runner"

def host : Operation → String
  | .createVlan host _ _ => host
  | .deleteVlan host _ => host
  | .accessPort host _ _ => host
  | .trunkPort host _ _ _ => host
  | .deletePort host _ => host

def title : Operation → String
  | .createVlan _ _ _ => "Create VLAN"
  | .deleteVlan _ _ => "Delete VLAN"
  | .accessPort _ _ _ => "Configure port in access mode"
  | .trunkPort _ _ _ _ => "Configure port in trunk mode"
  | .deletePort _ _ => "Delete port"

def taskFile : Operation → String
  | .createVlan _ _ _ => "create_vlan"
  | .deleteVlan _ _ => "delete_vlan"
  | .accessPort _ _ _ => "conf_access_port"
  | .trunkPort _ _ _ _ => "conf_trunk_port"
  | .deletePort _ _ => "delete_port"

/-- A port operation without a VLAN leaves the choice to the role. -/
def optionalVlan : Option Int64 → Document
  | some vlan => .word vlan
  | none => .null

def portVariables (port : String) (vlan : Option Int64) : Mapping :=
  [("vlan_id", optionalVlan vlan), ("port_name", .text port), ("port_description", .text port)]

/-- The variables that the operation itself hands to the role. -/
def roleVariables : Operation → Mapping
  | .createVlan _ vlan name => ("vlan_id", .word vlan) :: ImportRole.argument "vlan_name" name
  | .deleteVlan _ vlan => [("vlan_id", .word vlan)]
  | .accessPort _ port vlan => portVariables port vlan
  | .trunkPort _ port vlan trunked =>
      portVariables port vlan ++ [("trunked_vlans", .list (trunked.map .word))]
  | .deletePort _ port => [("port_name", .text port)]

/-- Extra variables are merged over those of the operation. -/
def task (operation : Operation) (extra : Mapping) : Checked Entity := do
  let importRole ← ImportRole.create roleName (some operation.taskFile)
  let task ← ImportRole.toTask importRole
  let named ← task.set "name" (.text operation.title)
  named.set "vars" (.dict (Mapping.merge operation.roleVariables extra))

/-- The playbook is one play with one task. -/
def playbook (operation : Operation) (extra : Mapping) : Checked OrderedCollection := do
  let task ← operation.task extra
  let play ← Catalogue.play.create [
    ("name", .text operation.title),
    ("hosts", .text operation.host),
    ("gather_facts", .boolean false)]
  let tasks ← play.getIndex "tasks"
  let filled ← tasks.append task
  return ⟨Catalogue.play, [play.replaceField "tasks" (.index filled)]⟩

end Operation

end NetworkAutomation
