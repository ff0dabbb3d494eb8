/-
This file holds the specification of the bundled role.
-/

import NetworkAutomation.Bindings.Source

namespace NetworkAutomation.Walkthrough

/-- The bundled role offers the operations on VLANs and ports as actions. -/
def bundledText : String :=
"# Bindings of the network-runner role: VLAN and port operations across
# the supported network operating systems.

validators:
  vlan_range:
    type: range
    minval: 1
    maxval: 4094

models:
  vlan:
    vlan_id:
      type: int
      required: true
      validators: vlan_range
    vlan_name:
      type: str
      serialize_when: present

actions:
  create_vlan:
    args:
      vlan_id:
        type: int
        required: true
        validators: vlan_range
      vlan_name:
        type: str
    tasks_from: create_vlan

  delete_vlan:
    args:
      vlan_id:
        type: int
        required: true
        validators: vlan_range
    tasks_from: delete_vlan

  conf_access_port:
    args:
      port_name:
        required: true
      port_description: \x7b\x7d
      vlan_id:
        type: int
        validators: vlan_range
    tasks_from: conf_access_port

  conf_trunk_port:
    args:
      port_name:
        required: true
      port_description: \x7b\x7d
      vlan_id:
        type: int
        validators: vlan_range
      trunked_vlans:
        type: list
        default: []
    tasks_from: conf_trunk_port

  delete_port:
    args:
      port_name:
        required: true
    tasks_from: delete_port
"

/-- The bindings of the bundled role. -/
def bundledBindings (firstIdentity : Nat) : Bound Bindings :=
  Bindings.ofYaml firstIdentity bundledText {}

end NetworkAutomation.Walkthrough
