/-
This file holds the entity types of plays, tasks, roles and inventories.
-/

import NetworkAutomation.Entity.Definition

namespace NetworkAutomation.Catalogue

/-- The name of the root group, which contains every host. -/
def allHosts : String := "all"

def text : Declaration := { type := .text }

/-- A text that is left out while it is unset. -/
def presentText : Declaration := { type := .text, policy := .present }

def requiredText : Declaration := { type := .text, required := true }

def dict : Declaration := { type := .dict }

/-- A dict that never stands in the document under its own name. -/
def hiddenDict : Declaration := { type := .dict, policy := .never }

def presentIndex (item : EntityType) : Declaration := { type := .index item, policy := .present }

/-- Elements are keyed by their name. -/
def namedMap (item : EntityType) : Declaration := { type := .map item "name" }

/-- The attributes that plays and tasks share. -/
def base : EntityType :=
  Defined.value (TypeDeclaration.build 0 {
    name := "Base"
    declared := [("connection", presentText)] }) rfl

def task : EntityType :=
  Defined.value (TypeDeclaration.build 1 {
    name := "Task"
    parents := [base]
    declared := [
      ("name", presentText),
      ("action", requiredText),
      ("args", dict),
      ("vars", { dict with policy := .present }),
      ("when", presentText)] }) rfl

/-- The variables of a role stand beside its name. -/
def role : EntityType :=
  Defined.value (TypeDeclaration.build 2 {
    name := "Role"
    declared := [("role", requiredText), ("vars", hiddenDict)]
    catchAll := some ⟨"vars", .flatten⟩ }) rfl

def play : EntityType :=
  Defined.value (TypeDeclaration.build 3 {
    name := "Play"
    parents := [base]
    declared := [
      ("name", presentText),
      ("hosts", { text with default := .text allHosts }),
      ("gather_facts", { type := .boolean, policy := .present }),
      ("roles", presentIndex role),
      ("tasks", presentIndex task)] }) rfl

/-- The operating systems of the switches that the bundled role supports. -/
def networkSystems : List String :=
  ["cumulus", "dellos10", "eos", "junos", "nxos", "openvswitch"]

/-- Undeclared variables of a host stand beside its declared fields. -/
def host : EntityType :=
  Defined.value (TypeDeclaration.build 4 {
    name := "Host"
    declared := [
      ("name", presentText),
      ("ansible_host", presentText),
      ("ansible_user", presentText),
      ("ansible_password", { presentText with aliases := ["ansible_ssh_pass"] }),
      ("ansible_network_os",
        { presentText with validators := [Validator.ofChoices networkSystems] }),
      ("vars", hiddenDict)]
    catchAll := some ⟨"vars", .flatten⟩ }) rfl

/-- A group of hosts keeps undeclared variables inside its own variables. -/
def child : EntityType :=
  Defined.value (TypeDeclaration.build 5 {
    name := "Child"
    declared := [("name", presentText), ("hosts", namedMap host), ("vars", dict)]
    catchAll := some ⟨"vars", .nested⟩ }) rfl

/-- The document of an inventory stands under the root group. -/
def inventory : EntityType :=
  Defined.value (TypeDeclaration.build 6 {
    name := "Inventory"
    declared := [("hosts", namedMap host), ("children", namedMap child), ("vars", dict)]
    envelope := some allHosts }) rfl

def importRole : EntityType :=
  Defined.value (TypeDeclaration.build 7 {
    name := "ImportRole"
    declared := [("name", requiredText), ("tasks_from", presentText)] }) rfl

/-- Every type of the catalogue can be found by its name. -/
def types : List EntityType :=
  [base, task, role, play, host, child, inventory, importRole]

def type? (name : String) : Option EntityType :=
  types.find? fun type => type.name == name

/-- Identities from this one on are free for other types. -/
def firstFreeIdentity : Nat := 8

/-- A playbook is an ordered collection of plays. -/
def emptyPlaybook : OrderedCollection := ⟨play, []⟩

def emptyInventory : Checked Entity := inventory.empty

end NetworkAutomation.Catalogue
