/-
This file proves that runners follow one step relation, whatever they are asked and whatever their
engine replies.
-/

import NetworkAutomation.Proofs.Conformance
import NetworkAutomation.Proofs.FailedOperations

namespace NetworkAutomation

/-! ## Steps of a runner -/

/-- A runner is asked to work, or only whether it knows a host. -/
inductive Ask where
  | request (request : Request)
  | hasHost (name : String)

inductive Reply where
  | answered (result : Except RunError (Option RunStatus))
  | known (result : Except RunError Bool)

/-- A call of the engine and what the engine replied to it. -/
structure Exchange where
  call : Call
  reply : Except String RunStatus

/-- The reply of an engine decides the result of a run, and no status is altered. -/
inductive Verdict : Except String RunStatus → Except RunError (Option RunStatus) → Prop where
  | broken (reason : String) : Verdict (.error reason) (.error (.engine reason))
  | failed {status : RunStatus} (reported : status.status = "failed" ∨ status.failures ≠ []) :
      Verdict (.ok status) (.error (.failed status))
  | passed {status : RunStatus} (finished : status.status ≠ "failed")
      (everywhere : status.failures = []) : Verdict (.ok status) (.ok (some status))

/-- The name is the key of a host or its address. -/
def KeyedCollection.Names (hosts : KeyedCollection) (name : String) : Prop :=
  ∃ entry ∈ hosts.entries, entry.1 = name ∨ entry.2.get "ansible_host" = .ok (.text name)

/--
One step leads from an inventory over an ask to the exchanges with the engine, a reply and the next
inventory.
-/
inductive Turn : Entity → Ask → List Exchange → Reply → Entity → Prop where
  /-- A host that is added stands among the hosts of the next inventory. -/
  | added {inventory host : Entity} {hosts extended : KeyedCollection} {replaced : Option Entity}
      (taken : inventory.getMap "hosts" = .ok hosts)
      (put : hosts.add host = .ok (replaced, extended)) :
      Turn inventory (.request (.addHost host)) [] (.answered (.ok none))
        (inventory.replaceField "hosts" (.map extended))
  | notAdded {inventory host : Entity} {error : EntityError}
      (refused : Runner.inventoryWithHost inventory host = .error error) :
      Turn inventory (.request (.addHost host)) [] (.answered (.error (.entity error))) inventory
  /-- The engine is called once with the plays and with the inventory as it stands. -/
  | ran {inventory : Entity} {playbook : OrderedCollection} {reply : Except String RunStatus}
      {result : Except RunError (Option RunStatus)}
      (plays : playbook.itemType.isA Catalogue.play = true) (judged : Verdict reply result) :
      Turn inventory (.request (.run playbook))
        [⟨⟨playbook.items.map Entity.toDocument, inventory.serialize⟩, reply⟩]
        (.answered result) inventory
  | refused {inventory : Entity} {playbook : OrderedCollection}
      (others : playbook.itemType.isA Catalogue.play = false) :
      Turn inventory (.request (.run playbook)) []
        (.answered (.error (.entity (.typeMismatch "playbook" "index<Play>"
          ("index<" ++ playbook.itemType.name ++ ">"))))) inventory
  /-- An operation runs a playbook of its own, which holds plays. -/
  | performed {inventory next : Entity} {operation : Operation} {extra : Mapping}
      {playbook : OrderedCollection} {exchanges : List Exchange} {reply : Reply}
      (built : operation.playbook extra = .ok playbook) (plays : playbook.itemType = Catalogue.play)
      (run : Turn inventory (.request (.run playbook)) exchanges reply next) :
      Turn inventory (.request (.perform operation extra)) exchanges reply next
  /-- Hosts of exactly the host type are known by their keys and by their addresses. -/
  | looked {inventory : Entity} {name : String} {result : Except RunError Bool}
      (present : inventory.type = Catalogue.inventory →
        ∃ hosts, inventory.getMap "hosts" = .ok hosts)
      (missing : ∀ error, inventory.getMap "hosts" = .error error →
        result = .error (.entity error))
      (decided : ∀ hosts, inventory.getMap "hosts" = .ok hosts →
        (∀ entry ∈ hosts.entries, entry.2.type = Catalogue.host) →
          ∃ known, result = .ok known ∧ (known = true ↔ hosts.Names name)) :
      Turn inventory (.hasHost name) [] (.known result) inventory

/-- Steps follow one another, and each begins with the inventory that the last one left. -/
inductive History : Entity → List Ask → List Exchange → List Reply → Entity → Prop where
  | nil {inventory : Entity} : History inventory [] [] [] inventory
  | cons {inventory next last : Entity} {ask : Ask} {asks : List Ask}
      {exchanges others : List Exchange} {reply : Reply} {replies : List Reply}
      (turn : Turn inventory ask exchanges reply next)
      (later : History next asks others replies last) :
      History inventory (ask :: asks) (exchanges ++ others) (reply :: replies) last

/-! ## Runners that are watched -/

section Watching

variable {State : Type}

/-- The engine works as before and notes each call and its reply behind the earlier ones. -/
def Engine.watched (engine : Engine State) : Engine (State × List Exchange) where
  respond state call :=
    ((engine.respond state.1 call).1,
      ((engine.respond state.1 call).2, state.2 ++ [⟨call, (engine.respond state.1 call).1⟩]))

def Runner.watched (runner : Runner State) (noted : List Exchange) :
    Runner (State × List Exchange) :=
  ⟨runner.engine.watched, (runner.state, noted), runner.inventory⟩

def Ask.answer (ask : Ask) (runner : Runner State) : Reply × Runner State :=
  match ask with
  | .request asked => (.answered (asked.answer runner).1, (asked.answer runner).2)
  | .hasHost name => (.known (runner.hasHost name), runner)

/-- Each ask is put to the runner that the one before it left. -/
def Runner.answers (runner : Runner State) : List Ask → List Reply × Runner State
  | [] => ([], runner)
  | ask :: rest =>
      ((ask.answer runner).1 :: ((ask.answer runner).2.answers rest).1,
        ((ask.answer runner).2.answers rest).2)

end Watching

/-! ## Single steps -/

section Steps

variable {State : Type}

theorem judge_verdict (reply : Except String RunStatus) :
    Verdict reply ((Runner.judge reply).map some) := by
  cases reply with
  | error reason => exact .broken reason
  | ok status =>
    have failed_iff : status.isFailed = true ↔
        status.status = "failed" ∨ status.failures ≠ [] := by
      simp [RunStatus.isFailed, RunStatus.failedStatus]
    by_cases failed : status.isFailed = true
    · simp only [Runner.judge, failed, if_true]
      exact .failed (failed_iff.mp failed)
    · simp only [Runner.judge, failed]
      rw [failed_iff, not_or, not_not] at failed
      exact .passed failed.1 failed.2

/-- A playbook of plays is handed to the engine once, and any other one is not. -/
theorem run_turn (runner : Runner State) (playbook : OrderedCollection) (noted : List Exchange) :
    ∃ exchanges,
      (Request.run playbook).answer (runner.watched noted) =
        (((Request.run playbook).answer runner).1,
          ((Request.run playbook).answer runner).2.watched (noted ++ exchanges)) ∧
      Turn runner.inventory (.request (.run playbook)) exchanges
        (.answered ((Request.run playbook).answer runner).1)
        ((Request.run playbook).answer runner).2.inventory := by
  by_cases plays : playbook.itemType.isA Catalogue.play = true
  · have checked : Runner.checkPlaybook playbook = .ok () := if_pos plays
    simp only [Request.answer, Runner.run, checked, OrderedCollection.serialize_eq]
    refine ⟨_, rfl, ?_⟩
    exact .ran plays (judge_verdict _)
  · have refused : Runner.checkPlaybook playbook = .error (.typeMismatch "playbook" "index<Play>"
        ("index<" ++ playbook.itemType.name ++ ">")) := if_neg plays
    simp only [Request.answer, Runner.run, refused]
    refine ⟨[], by rw [List.append_nil], ?_⟩
    exact .refused (Bool.eq_false_iff.mpr plays)

/-- The playbook of an operation holds one play, and nothing in it can be refused. -/
theorem Operation.exists_playbook (operation : Operation) (extra : Mapping) :
    ∃ playbook, operation.playbook extra = .ok playbook ∧ playbook.itemType = Catalogue.play := by
  cases operation <;> exact ⟨_, rfl, rfl⟩

end Steps

/-! ## Hosts that are known -/

section Known

/-- The address of a host is a text or unset, so it can always be read. -/
theorem Entity.exists_address {host : Entity} (isHost : host.type = Catalogue.host)
    (conforms : host.Conforms) : ∃ address, host.getText "ansible_host" = .ok address := by
  obtain ⟨field, placed, isText⟩ : ∃ field, host.type.attributes[1]? = some field ∧
      field.type = .text := by
    rw [isHost]
    exact ⟨_, rfl, rfl⟩
  have located : host.type.slot? "ansible_host" = some 1 := by
    rw [isHost]
    rfl
  have within : 1 < host.values.length := by
    rw [conforms.complete]
    exact (List.getElem?_eq_some_iff.mp placed).1
  have stored : host.values[1]? = some host.values[1] := List.getElem?_eq_getElem within
  have kind := (conforms.slots 1 field host.values[1] placed stored).kind
  have got : host.get "ansible_host" = .ok host.values[1] := by
    rw [Entity.get, Entity.slot_eq_ok_iff.mpr located, Success.bind_ok, Entity.valueAt, stored]
    rfl
  rw [isText] at kind
  rw [Entity.getText, got]
  cases value : host.values[1] with
  | null => exact ⟨none, rfl⟩
  | text address => exact ⟨some address, rfl⟩
  | _ =>
    rw [value] at kind
    simp [Value.primitive?, AttributeType.primitive] at kind

/-- Each host is asked for its address until one has the given one. -/
theorem Runner.anyAddress_eq_ok (address : String) {entries : List (String × Entity)}
    (readable : ∀ entry ∈ entries, ∃ own, entry.2.getText "ansible_host" = .ok own) :
    ∃ found, Runner.anyAddress address entries = .ok found ∧ (found = true ↔
      ∃ entry ∈ entries, entry.2.get "ansible_host" = .ok (.text address)) := by
  induction entries with
  | nil => exact ⟨false, rfl, by simp⟩
  | cons entry rest ih =>
    rw [List.forall_mem_cons] at readable
    obtain ⟨own, taken⟩ := readable.1
    obtain ⟨found, later, found_iff⟩ := ih readable.2
    have here : own = some address ↔ entry.2.get "ansible_host" = .ok (.text address) := by
      rw [Entity.get_eq_ok_iff Value.noConfusion, ← Entity.getText_eq_ok_some_iff, taken,
        Except.ok.injEq]
    obtain ⟨name, host⟩ := entry
    simp only [Runner.anyAddress, taken, Success.bind_ok]
    by_cases same : own = some address
    · refine ⟨true, if_pos same, ?_⟩
      simp [here.mp same]
    · refine ⟨found, by rw [if_neg same, later], ?_⟩
      rw [found_iff]
      simp [mt here.mpr same]

/-- The hosts of an inventory are a map from the beginning, and they always stay one. -/
theorem Entity.exists_hosts {inventory : Entity}
    (isInventory : inventory.type = Catalogue.inventory) (conforms : inventory.Conforms) :
    ∃ hosts, inventory.getMap "hosts" = .ok hosts := by
  obtain ⟨field, placed, isMap, filled⟩ : ∃ field, inventory.type.attributes[0]? = some field ∧
      field.type.primitive = .map ∧ field.default ≠ .null := by
    rw [isInventory]
    exact ⟨_, rfl, rfl, Value.noConfusion⟩
  have located : inventory.type.slot? "hosts" = some 0 := by
    rw [isInventory]
    rfl
  have within : 0 < inventory.values.length := by
    rw [conforms.complete]
    exact (List.getElem?_eq_some_iff.mp placed).1
  have stored : inventory.values[0]? = some inventory.values[0] := List.getElem?_eq_getElem within
  have slot := conforms.slots 0 field inventory.values[0] placed stored
  have given : inventory.values[0] ≠ .null := fun isNull => filled (slot.null isNull)
  have kind := slot.kind given
  rw [isMap] at kind
  cases value : inventory.values[0] with
  | map hosts => exact ⟨hosts, Entity.getMap_eq_ok_iff.mpr ⟨0, located, value ▸ stored⟩⟩
  | null => exact absurd value given
  | _ =>
    rw [value] at kind
    simp [Value.primitive?] at kind

theorem Entity.contains_host {inventory : Entity} {hosts : KeyedCollection}
    (taken : inventory.getMap "hosts" = .ok hosts) {entry : String × Entity}
    (member : entry ∈ hosts.entries) : inventory.Contains entry.2 := by
  obtain ⟨slot, _, stored⟩ := Entity.getMap_eq_ok_iff.mp taken
  have inside : entry.2 ∈ (Value.map hosts).entities := List.mem_map_of_mem member
  have child := Entity.mem_children.mpr ⟨_, List.mem_of_getElem? stored, inside⟩
  exact Entity.Contains.of_child child entry.2.contains_self

theorem Runner.hasHost_turn {State : Type} {space : Workspace} (reached : space.Reachable)
    {runner : Runner State} (held : .entity runner.inventory ∈ space.targets) (name : String) :
    Turn runner.inventory (.hasHost name) [] (.known (runner.hasHost name)) runner.inventory := by
  apply Turn.looked
  case present =>
    intro isInventory
    have own := reached.conformsThroughout held runner.inventory.contains_self
    exact Entity.exists_hosts isInventory own
  case missing =>
    intro error refused
    rw [Runner.hasHost, refused]
    rfl
  case decided =>
    intro hosts taken areHosts
    have readable : ∀ entry ∈ hosts.entries, ∃ own, entry.2.getText "ansible_host" = .ok own := by
      intro entry member
      have conforms := reached.conformsThroughout held (Entity.contains_host taken member)
      exact Entity.exists_address (areHosts entry member) conforms
    obtain ⟨found, asked, found_iff⟩ := Runner.anyAddress_eq_ok name readable
    have keyed_iff : hosts.contains name = true ↔ ∃ entry ∈ hosts.entries, entry.1 = name := by
      simp [KeyedCollection.contains]
    by_cases keyed : hosts.contains name = true
    · obtain ⟨entry, member, same⟩ := keyed_iff.mp keyed
      refine ⟨true, ?_, fun _ => ⟨entry, member, .inl same⟩, fun _ => rfl⟩
      rw [Runner.hasHost, taken, Success.bind_ok, if_pos keyed]
      rfl
    · refine ⟨found, ?_, ?_⟩
      · rw [Runner.hasHost, taken, Success.bind_ok, if_neg keyed, asked]
        rfl
      · rw [found_iff]
        refine exists_congr fun entry => and_congr_right fun member => ?_
        have differs : entry.1 ≠ name := fun same => keyed (keyed_iff.mpr ⟨entry, member, same⟩)
        exact (or_iff_right differs).symm

end Known

/-! ## Whole histories -/

section Histories

variable {State : Type}

/-- Hosts that are to be added are at hand. -/
def Ask.SuppliedBy (space : Workspace) : Ask → Prop
  | .request (.addHost host) => .entity host ∈ space.targets
  | _ => True

theorem addHost_turn (runner : Runner State) (host : Entity) :
    Turn runner.inventory (.request (.addHost host)) []
      (.answered ((Request.addHost host).answer runner).1)
      ((Request.addHost host).answer runner).2.inventory := by
  simp only [Request.answer, Runner.addHost]
  cases added : Runner.inventoryWithHost runner.inventory host with
  | error refusal => exact .notAdded added
  | ok changed =>
    obtain ⟨hosts, taken, rest⟩ := Success.bind_eq_ok.mp added
    obtain ⟨⟨replaced, extended⟩, put, same⟩ := Success.bind_eq_ok.mp rest
    obtain rfl := Except.ok.inj same
    exact .added taken put

/-- Only a host that is added changes the inventory. -/
theorem Turn.inventory_eq_or {inventory next : Entity} {ask : Ask} {exchanges : List Exchange}
    {reply : Reply} (turn : Turn inventory ask exchanges reply next) :
    next = inventory ∨ (∃ host, ask = .request (.addHost host)) ∧ reply = .answered (.ok none) := by
  induction turn with
  | added => exact .inr ⟨⟨_, rfl⟩, rfl⟩
  | performed _ _ _ ih =>
    rcases ih with same | ⟨⟨host, isAdd⟩, _⟩
    · exact .inl same
    · exact nomatch isAdd
  | _ => exact .inl rfl

/-- What is asked takes one step, and the watched engine notes just the exchanges of this step. -/
theorem Ask.takes_turn {space : Workspace} (reached : space.Reachable) {runner : Runner State}
    (held : .entity runner.inventory ∈ space.targets) (ask : Ask) (noted : List Exchange) :
    ∃ exchanges,
      ask.answer (runner.watched noted) =
        ((ask.answer runner).1, (ask.answer runner).2.watched (noted ++ exchanges)) ∧
      Turn runner.inventory ask exchanges (ask.answer runner).1
        (ask.answer runner).2.inventory := by
  cases ask with
  | hasHost name =>
    refine ⟨[], ?_, Runner.hasHost_turn reached held name⟩
    rw [List.append_nil]
    rfl
  | request asked =>
    cases asked with
    | addHost host =>
      refine ⟨[], ?_, addHost_turn runner host⟩
      rw [List.append_nil]
      simp only [answer, Request.answer, Runner.addHost, Runner.watched]
      cases Runner.inventoryWithHost runner.inventory host <;> rfl
    | run playbook =>
      obtain ⟨exchanges, watched, turn⟩ := run_turn runner playbook noted
      exact ⟨exchanges, by rw [answer, watched]; rfl, turn⟩
    | perform operation extra =>
      obtain ⟨playbook, built, plays⟩ := operation.exists_playbook extra
      have same (any : Type) (other : Runner any) :
          (Request.perform operation extra).answer other = (Request.run playbook).answer other := by
        simp only [Request.answer, Runner.perform, built]
      obtain ⟨exchanges, watched, turn⟩ := run_turn runner playbook noted
      refine ⟨exchanges, ?_, ?_⟩
      · rw [answer, same, watched, answer, same]
      · rw [answer, same]
        exact .performed built plays turn

/-- The next inventory is at hand as well, in a workspace that has lost nothing. -/
theorem Ask.answer_reachable {space : Workspace} (reached : space.Reachable)
    {runner : Runner State} (held : .entity runner.inventory ∈ space.targets) {ask : Ask}
    (given : ask.SuppliedBy space) : ∃ next : Workspace, next.Reachable ∧
      .entity (ask.answer runner).2.inventory ∈ next.targets ∧
        ∀ target ∈ space.targets, target ∈ next.targets := by
  obtain ⟨exchanges, _, turn⟩ := ask.takes_turn reached held []
  rcases turn.inventory_eq_or with same | ⟨⟨host, rfl⟩, reply⟩
  · exact ⟨space, reached, same ▸ held, fun _ member => member⟩
  · have added : (runner.addHost host).1 = .ok () := by
      have answered := Reply.answered.inj reply
      cases outcome : (runner.addHost host).1 with
      | ok _ => rfl
      | error refusal =>
        simp only [Request.answer, outcome] at answered
        contradiction
    refine ⟨_, Runner.addHost_reachable reached held given added, List.mem_cons_self, ?_⟩
    exact fun target member => List.mem_cons_of_mem _ member

theorem Ask.SuppliedBy.mono {space next : Workspace} {ask : Ask} (given : ask.SuppliedBy space)
    (kept : ∀ target ∈ space.targets, target ∈ next.targets) : ask.SuppliedBy next := by
  cases ask with
  | hasHost name => trivial
  | request asked =>
    cases asked with
    | addHost host => exact kept _ given
    | _ => trivial

/--
A runner follows the step relation, and its engine is called for the exchanges of the steps and for
nothing else.
-/
theorem Runner.follows_history {space : Workspace} (reached : space.Reachable)
    {runner : Runner State} (held : .entity runner.inventory ∈ space.targets) {asks : List Ask}
    (given : ∀ ask ∈ asks, ask.SuppliedBy space) (noted : List Exchange) :
    ∃ exchanges,
      (runner.watched noted).answers asks =
        ((runner.answers asks).1, (runner.answers asks).2.watched (noted ++ exchanges)) ∧
      History runner.inventory asks exchanges (runner.answers asks).1
        (runner.answers asks).2.inventory := by
  induction asks generalizing space runner noted with
  | nil => exact ⟨[], by rw [List.append_nil]; rfl, .nil⟩
  | cons ask rest ih =>
    rw [List.forall_mem_cons] at given
    obtain ⟨exchanges, watched, turn⟩ := ask.takes_turn reached held noted
    obtain ⟨next, nextReached, nextHeld, kept⟩ := Ask.answer_reachable reached held given.1
    have stillGiven : ∀ later ∈ rest, later.SuppliedBy next :=
      fun later member => (given.2 later member).mono kept
    obtain ⟨others, remaining, history⟩ := ih nextReached nextHeld stillGiven (noted ++ exchanges)
    refine ⟨exchanges ++ others, ?_, .cons turn history⟩
    rw [answers, watched, remaining, ← List.append_assoc]
    rfl

end Histories

/-- The engine breaks at its first call and reports a failure at its second one. -/
theorem Catalogue.leaf_history :
    let engine : Engine Nat :=
      ⟨fun calls _ => (if calls = 0 then .error "broken" else .ok ⟨"failed", [], []⟩, calls + 1)⟩
    let runner : Runner Nat := ⟨engine, 0, inventoryOf []⟩
    let asks : List Ask := [.hasHost "leaf", .request (.addHost leaf), .hasHost "leaf",
      .request (.run ⟨task, []⟩), .request (.run ⟨play, []⟩),
      .request (.perform (.deletePort "leaf" "p1") [])]
    (runner.answers asks).1 = [.known (.ok false), .answered (.ok none), .known (.ok true),
      .answered (.error (.entity (.typeMismatch "playbook" "index<Play>" "index<Task>"))),
      .answered (.error (.engine "broken")), .answered (.error (.failed ⟨"failed", [], []⟩))] ∧
    ∃ exchanges, History (inventoryOf []) asks exchanges (runner.answers asks).1
      (inventoryOf [("leaf", leaf)]) := by
  intro engine runner asks
  have held : .entity runner.inventory ∈ [Target.entity (inventoryOf [("leaf", leaf)]),
      .entity (inventoryOf []), .entity leaf] := List.mem_cons_of_mem _ List.mem_cons_self
  have given : ∀ ask ∈ asks, ask.SuppliedBy ⟨types.reverse,
      [.entity (inventoryOf [("leaf", leaf)]), .entity (inventoryOf []), .entity leaf]⟩ := by
    simp [asks, Ask.SuppliedBy]
  obtain ⟨exchanges, _, history⟩ := Runner.follows_history leaf_reachable held given []
  exact ⟨rfl, exchanges, history⟩

end NetworkAutomation
