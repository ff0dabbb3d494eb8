/-
This file proves that every operation on VLANs and ports becomes the one play of its documentation.
-/

import NetworkAutomation.Proofs.Invocation

namespace NetworkAutomation

/-- No entry that is merged over others is lost. -/
theorem Entries.subset_overriddenBy {α : Type} {entries added : List (String × α)}
    (distinct : (keys added).Nodup) : added ⊆ overriddenBy entries added := by
  intro entry member
  by_cases present : entry.1 ∈ keys entries
  · obtain ⟨own, inEntries, same⟩ := List.mem_map.mp present
    refine List.mem_append_left _ (List.mem_map.mpr ⟨own, inEntries, ?_⟩)
    rw [same, (find?_eq_some_iff distinct).mpr member, Option.getD_some]
  · exact List.mem_append_right _ (List.mem_filter.mpr ⟨member, decide_eq_true present⟩)

theorem Entries.overriddenBy_ne_nil {α : Type} {entries : List (String × α)}
    (nonempty : entries ≠ []) (added : List (String × α)) : overriddenBy entries added ≠ [] := by
  simp [overriddenBy, nonempty]

namespace Operation

/-- Each operation has a host, a title, a task file and variables of its own. -/
inductive Documented : Operation → String → String → String → Mapping → Prop where
  | createVlan (host : String) (vlan : Int64) :
      Documented (.createVlan host vlan none) host "Create VLAN" "create_vlan"
        [("vlan_id", .word vlan)]
  | createNamedVlan (host : String) (vlan : Int64) (name : String) :
      Documented (.createVlan host vlan (some name)) host "Create VLAN" "create_vlan"
        [("vlan_id", .word vlan), ("vlan_name", .text name)]
  | deleteVlan (host : String) (vlan : Int64) :
      Documented (.deleteVlan host vlan) host "Delete VLAN" "delete_vlan" [("vlan_id", .word vlan)]
  | accessPort (host port : String) (vlan : Option Int64) :
      Documented (.accessPort host port vlan) host "Configure port in access mode"
        "conf_access_port"
        [("vlan_id", (vlan.map .word).getD .null), ("port_name", .text port),
          ("port_description", .text port)]
  | trunkPort (host port : String) (vlan : Option Int64) (trunked : List Int64) :
      Documented (.trunkPort host port vlan trunked) host "Configure port in trunk mode"
        "conf_trunk_port"
        [("vlan_id", (vlan.map .word).getD .null), ("port_name", .text port),
          ("port_description", .text port), ("trunked_vlans", .list (trunked.map .word))]
  | deletePort (host port : String) :
      Documented (.deletePort host port) host "Delete port" "delete_port"
        [("port_name", .text port)]

/-- One play with one task hands the variables to the task file of the role. -/
def playDocument (host title taskFile : String) (taskVariables : Mapping) : Document :=
  .mapping [
    ("name", .text title),
    ("hosts", .text host),
    ("gather_facts", .boolean false),
    ("tasks", .list [.mapping [
      ("name", .text title),
      ("action", .text "import_role"),
      ("args", .mapping [
        ("name", .text "network-runner"),
        ("tasks_from", .text taskFile)]),
      ("vars", .mapping taskVariables)]])]

/-- The playbook of an operation, with everything that the operation sets. -/
def playbookWith (operation : Operation) (taskVariables : Mapping) : OrderedCollection :=
  ⟨Catalogue.play, [Catalogue.play.filledWith [
    ("name", .text operation.title),
    ("hosts", .text operation.host),
    ("gather_facts", .boolean false),
    ("tasks", .index ⟨Catalogue.task, [Catalogue.task.filledWith [
      ("name", .text operation.title),
      ("action", .text ImportRole.actionName),
      ("args", .dict [("name", .text roleName), ("tasks_from", .text operation.taskFile)]),
      ("vars", .dict taskVariables)]]⟩)]]⟩

theorem task_eq (operation : Operation) (extra : Mapping) :
    operation.task extra = .ok (Catalogue.task.filledWith [
      ("name", .text operation.title),
      ("action", .text ImportRole.actionName),
      ("args", .dict [("name", .text roleName), ("tasks_from", .text operation.taskFile)]),
      ("vars", .dict (Mapping.merge operation.roleVariables extra))]) := by
  unfold task
  rw [Action.importRole_eq, Success.bind_ok, Action.toTask_eq, Success.bind_ok]
  rfl

/-- No operation is refused. -/
theorem playbook_eq (operation : Operation) (extra : Mapping) :
    operation.playbook extra =
      .ok (operation.playbookWith (Mapping.merge operation.roleVariables extra)) := by
  unfold playbook
  rw [task_eq, Success.bind_ok]
  rfl

theorem serialize_playbookWith (operation : Operation) {taskVariables : Mapping}
    (nonempty : taskVariables ≠ []) : (operation.playbookWith taskVariables).serialize =
      [playDocument operation.host operation.title operation.taskFile taskVariables] := by
  obtain ⟨first, rest, rfl⟩ := List.exists_cons_of_ne_nil nonempty
  rfl

theorem documented (operation : Operation) :
    operation.Documented operation.host operation.title operation.taskFile
      operation.roleVariables := by
  have vlan_eq (vlan : Option Int64) : optionalVlan vlan = (vlan.map .word).getD .null := by
    cases vlan <;> rfl
  cases operation with
  | createVlan host vlan name =>
      cases name with
      | none => exact .createVlan host vlan
      | some name => exact .createNamedVlan host vlan name
  | deleteVlan host vlan => exact .deleteVlan host vlan
  | accessPort host port vlan =>
      rw [roleVariables, portVariables, vlan_eq]
      exact .accessPort host port vlan
  | trunkPort host port vlan trunked =>
      rw [roleVariables, portVariables, vlan_eq]
      exact .trunkPort host port vlan trunked
  | deletePort host port => exact .deletePort host port

/-- An operation has variables of its own, each under one name. -/
theorem Documented.variables_distinct {operation : Operation} {host title taskFile : String}
    {own : Mapping} (documented : operation.Documented host title taskFile own) :
    own ≠ [] ∧ (Entries.keys own).Nodup := by
  cases documented <;> simp

/--
Every operation becomes a playbook, and it is written as the one play of its documentation, with
the extra variables merged over those of the operation.
-/
theorem playbook_documented (operation : Operation) {extra : Mapping}
    (distinct : (Entries.keys extra).Nodup) : ∃ host title taskFile own playbook,
      operation.Documented host title taskFile own ∧ operation.playbook extra = .ok playbook ∧
        playbook.serialize =
          [playDocument host title taskFile (Entries.overriddenBy own extra)] ∧
        extra ⊆ Entries.overriddenBy own extra := by
  have documented := operation.documented
  obtain ⟨nonempty, ownDistinct⟩ := documented.variables_distinct
  refine ⟨_, _, _, _, _, documented, playbook_eq operation extra, ?_,
    Entries.subset_overriddenBy distinct⟩
  rw [Mapping.merge_eq_overriddenBy ownDistinct distinct]
  exact serialize_playbookWith operation (Entries.overriddenBy_ne_nil nonempty extra)

/-- Two extra variables take the places of own ones, and one of them is null. -/
def overridingExtra : Mapping :=
  [("mtu", .integer 9000), ("port_name", .null), ("vlan_id", .text "")]

theorem accessPort_documented :
    (Entries.keys overridingExtra).Nodup ∧ ∃ playbook,
      (accessPort "leaf1" "" none).playbook overridingExtra = .ok playbook ∧
        playbook.serialize = [playDocument "leaf1" "Configure port in access mode"
          "conf_access_port" [("vlan_id", .text ""), ("port_name", .null),
            ("port_description", .text ""), ("mtu", .integer 9000)]] := by
  have distinct : (Entries.keys overridingExtra).Nodup := by decide
  obtain ⟨host, title, taskFile, own, playbook, documented, built, written, _⟩ :=
    playbook_documented (accessPort "leaf1" "" none) distinct
  refine ⟨distinct, playbook, built, ?_⟩
  cases documented
  exact written

end Operation

end NetworkAutomation
