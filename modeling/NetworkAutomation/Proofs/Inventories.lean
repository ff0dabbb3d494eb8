/-
This file proves that the types of the catalogue, inventories and runners with hosts are reached.
-/

import NetworkAutomation.Proofs.Paths
import NetworkAutomation.Proofs.TypeBuilding
import NetworkAutomation.Runner.Basic

namespace NetworkAutomation

theorem Defined.eq_ok_value {α : Type} (defined : Defined α) (succeeds : defined.isOk = true) :
    defined = .ok (defined.value succeeds) := by
  cases defined with
  | ok value => rfl
  | error refusal => exact Bool.noConfusion succeeds

namespace Workspace

variable {space : Workspace}

theorem supplies_null : space.Supplies .null :=
  fun _ member => absurd member List.not_mem_nil

theorem supplies_text (text : String) : space.Supplies (.text text) :=
  fun _ member => absurd member List.not_mem_nil

/-- A declaration without element type and without default can always be given. -/
theorem SuppliesDeclaration.plain {declaration : Declaration}
    (plain : declaration.type.item? = none) (unset : declaration.default = .null) :
    space.SuppliesDeclaration declaration where
  item item element := by
    rw [plain] at element
    exact nomatch element
  default := by
    rw [unset]
    exact supplies_null

theorem SuppliesDeclaration.element {declaration : Declaration} {item : EntityType}
    (element : declaration.type.item? = some item) (known : item ∈ space.types)
    (unset : declaration.default = .null) : space.SuppliesDeclaration declaration where
  item other given := by
    obtain rfl := Option.some.inj (element.symm.trans given)
    exact known
  default := by
    rw [unset]
    exact supplies_null

/-- Where no attribute has an element type or a default, only the parents must be at hand. -/
theorem SuppliesType.plain {declaration : TypeDeclaration}
    (parents : ∀ parent ∈ declaration.parents, parent ∈ space.types)
    (plain : (declaration.declared.all fun entry =>
      entry.2.type.item?.isNone && entry.2.default.isNull) = true) :
    space.SuppliesType declaration where
  parents := parents
  declared entry member := by
    obtain ⟨bare, unset⟩ := Bool.and_eq_true_iff.mp (List.all_eq_true.mp plain entry member)
    have isNull : entry.2.default = .null := by
      cases default : entry.2.default with
      | null => rfl
      | _ =>
          rw [default] at unset
          exact Bool.noConfusion unset
    exact .plain (Option.isNone_iff_eq_none.mp bare) isNull

/-- The types are reached, and identities from the next one on are free. -/
structure Declared (types : List EntityType) (next : Nat) : Prop where
  reached : Reachable ⟨types, []⟩
  below : ∀ known ∈ types, known.identity < next

/-- A declaration that is known to build a type adds it under the next identity. -/
theorem Declared.declare {types : List EntityType} {next : Nat} (declared : Declared types next)
    {declaration : TypeDeclaration} (succeeds : (declaration.build next).isOk = true)
    (supplied : Workspace.SuppliesType ⟨types, []⟩ declaration) :
    Declared ((declaration.build next).value succeeds :: types) (next + 1) := by
  have built := Defined.eq_ok_value _ succeeds
  refine ⟨declared.reached.step (.build supplied (fun known member => ?_) built), ?_⟩
  · exact Nat.ne_of_lt (declared.below known member)
  · rw [List.forall_mem_cons, (TypeDeclaration.build_eq_ok built).1]
    exact ⟨Nat.lt_succ_self next,
      fun known member => Nat.lt_succ_of_lt (declared.below known member)⟩

/-- Every type of the catalogue is built from those that stand before it. -/
theorem catalogue_declared : Declared Catalogue.types.reverse Catalogue.firstFreeIdentity := by
  have start : Declared [] 0 := ⟨.start, nofun⟩
  have base : Declared [Catalogue.base] 1 := by
    refine start.declare rfl ⟨nofun, ?_⟩
    simp only [List.forall_mem_cons]
    exact ⟨.plain rfl rfl, nofun⟩
  have task : Declared [Catalogue.task, Catalogue.base] 2 := by
    refine base.declare rfl ⟨fun parent member => member, ?_⟩
    simp only [List.forall_mem_cons]
    exact ⟨.plain rfl rfl, .plain rfl rfl, .plain rfl rfl, .plain rfl rfl, .plain rfl rfl, nofun⟩
  have role : Declared [Catalogue.role, Catalogue.task, Catalogue.base] 3 := by
    refine task.declare rfl ⟨nofun, ?_⟩
    simp only [List.forall_mem_cons]
    exact ⟨.plain rfl rfl, .plain rfl rfl, nofun⟩
  have play : Declared [Catalogue.play, Catalogue.role, Catalogue.task, Catalogue.base] 4 := by
    refine role.declare rfl ⟨fun parent member => ?_, ?_⟩
    · obtain rfl := List.mem_singleton.mp member
      simp
    · simp only [List.forall_mem_cons]
      exact ⟨.plain rfl rfl, ⟨nofun, supplies_text _⟩, .plain rfl rfl,
        .element rfl (by simp) rfl, .element rfl (by simp) rfl, nofun⟩
  have host : Declared [Catalogue.host, Catalogue.play, Catalogue.role, Catalogue.task,
      Catalogue.base] 5 := by
    refine play.declare rfl ⟨nofun, ?_⟩
    simp only [List.forall_mem_cons]
    exact ⟨.plain rfl rfl, .plain rfl rfl, .plain rfl rfl, .plain rfl rfl, .plain rfl rfl,
      .plain rfl rfl, nofun⟩
  have child : Declared [Catalogue.child, Catalogue.host, Catalogue.play, Catalogue.role,
      Catalogue.task, Catalogue.base] 6 := by
    refine host.declare rfl ⟨nofun, ?_⟩
    simp only [List.forall_mem_cons]
    exact ⟨.plain rfl rfl, .element rfl (by simp) rfl, .plain rfl rfl, nofun⟩
  have inventory : Declared [Catalogue.inventory, Catalogue.child, Catalogue.host,
      Catalogue.play, Catalogue.role, Catalogue.task, Catalogue.base] 7 := by
    refine child.declare rfl ⟨nofun, ?_⟩
    simp only [List.forall_mem_cons]
    exact ⟨.element rfl (by simp) rfl, .element rfl (by simp) rfl, .plain rfl rfl, nofun⟩
  refine inventory.declare rfl ⟨nofun, ?_⟩
  simp only [List.forall_mem_cons]
  exact ⟨.plain rfl rfl, .plain rfl rfl, nofun⟩

end Workspace

/-! ## Hosts of an inventory -/

/-- Adding a host is adding an element at the end of the path to the hosts. -/
theorem Runner.inventoryWithHost_eq_ok {inventory host changed : Entity}
    (added : inventoryWithHost inventory host = .ok changed) : ∃ answer,
      (Target.entity inventory).edit (Command.run (.keyed (.add host))) [.map "hosts"] =
        .ok (answer, .entity changed) := by
  obtain ⟨hosts, taken, rest⟩ := Success.bind_eq_ok.mp added
  obtain ⟨⟨answer, extended⟩, put, same⟩ := Success.bind_eq_ok.mp rest
  obtain rfl := Except.ok.inj same
  refine ⟨answer, Target.edit_cons_eq_ok_iff.mpr ⟨.keyed hosts, .keyed extended,
    .map (Entity.getMap_eq_ok_iff.mp taken), ?_, rfl⟩⟩
  rw [Target.edit_nil_eq_ok_iff]
  exact Success.bind_eq_ok.mpr ⟨(answer, extended), put, rfl⟩

/-- A runner that was given a host has an inventory that callers could have made themselves. -/
theorem Runner.addHost_reachable {State : Type} {space : Workspace} (reached : space.Reachable)
    {runner : Runner State} (held : .entity runner.inventory ∈ space.targets) {host : Entity}
    (given : .entity host ∈ space.targets) (added : (runner.addHost host).1 = .ok ()) :
    (space.keep [.entity (runner.addHost host).2.inventory]).Reachable := by
  unfold addHost at added ⊢
  split at added
  next changed extended =>
    obtain ⟨answer, edited⟩ := inventoryWithHost_eq_ok extended
    refine reached.step (.change held ?_ edited)
    exact given
  next => contradiction

namespace Catalogue

/-- A host that has nothing but its name. -/
def leaf : Entity :=
  ⟨host, [.text "leaf", .null, .null, .null, .null, .dict []]⟩

def inventoryOf (hosts : List (String × Entity)) : Entity :=
  ⟨inventory, [.map ⟨host, "name", hosts⟩, .map ⟨child, "name", []⟩, .dict []]⟩

/-- A host and a blank inventory are made, and the host is added to the inventory. -/
theorem leaf_reachable : Workspace.Reachable ⟨types.reverse,
    [.entity (inventoryOf [("leaf", leaf)]), .entity (inventoryOf []), .entity leaf]⟩ := by
  have made : Workspace.Reachable ⟨types.reverse, [.entity leaf]⟩ := by
    refine Workspace.catalogue_declared.reached.step (.create (by simp [types]) ?_ (show
      host.create [("name", .text "leaf")] = .ok leaf from rfl))
    simp only [Workspace.SuppliesFields, List.forall_mem_cons]
    exact ⟨Workspace.supplies_text "leaf", nofun⟩
  have blank : Workspace.Reachable ⟨types.reverse, [.entity (inventoryOf []), .entity leaf]⟩ :=
    made.step (.blank (by simp [types]) (show inventory.empty = .ok (inventoryOf []) from rfl))
  obtain ⟨answer, edited⟩ := Runner.inventoryWithHost_eq_ok (show
    Runner.inventoryWithHost (inventoryOf []) leaf = .ok (inventoryOf [("leaf", leaf)]) from rfl)
  refine blank.step (.change List.mem_cons_self ?_ edited)
  exact List.mem_cons_of_mem _ List.mem_cons_self

end Catalogue

end NetworkAutomation
