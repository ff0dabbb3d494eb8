/-
This file proves that operations that fail leave no trace in what they were applied to.
-/

import NetworkAutomation.Proofs.CommandsInPlace
import NetworkAutomation.Proofs.Inventories
import NetworkAutomation.Proofs.Paths
import NetworkAutomation.Runner.Basic

namespace NetworkAutomation

open InPlace

/-! ## Paths -/

/-- The program works at the end of the path, and every part on the way is changed in its place. -/
def InPlace.along {α : Type} (program : InPlace EntityError Target α) :
    List Segment → InPlace PathError Target α
  | [] => program.reporting .refused
  | segment :: path =>
      within (fun target => target.descend segment) (fun target => target.replace segment)
        (program.along path)

theorem InPlace.Performs.along {α : Type} {program : InPlace EntityError Target α}
    {operation : Target → Checked (α × Target)} (performs : program.Performs operation)
    (path : List Segment) :
    (program.along path).Performs fun target => target.edit operation path := by
  induction path with
  | nil =>
      intro target
      refine (performs.reporting PathError.refused target).trans ?_
      simp only [Target.edit_nil]
      cases operation target <;> rfl
  | cons segment path ih =>
      intro target
      refine (ih.within ?_ target).trans ?_
      · intro whole part entered
        exact (Target.descend_eq_ok_iff.mp entered).replace_self
      · rfl

/-! ## Runners -/

/-- What a runner is asked for. -/
inductive Request where
  | addHost (host : Entity)
  | run (playbook : OrderedCollection)
  | perform (operation : Operation) (extra : Mapping)

namespace Request

variable {State : Type}

/-- Adding a host reports no status. -/
def answer (request : Request) (runner : Runner State) :
    Runner.Answer State (Option RunStatus) :=
  match request with
  | .addHost host => ((runner.addHost host).1.map fun _ => none, (runner.addHost host).2)
  | .run playbook => ((runner.run playbook).1.map some, (runner.run playbook).2)
  | .perform operation extra =>
      ((runner.perform operation extra).1.map some, (runner.perform operation extra).2)

/-- The engine may change its own state before its reply is judged. -/
def runInPlace (playbook : OrderedCollection) :
    InPlace RunError (Runner State) (Option RunStatus) := do
  let runner ← current
  check (Runner.ofChecked (Runner.checkPlaybook playbook))
  let (reply, state) := runner.engine.respond runner.state
    ⟨playbook.serialize, runner.inventory.serialize⟩
  write { runner with state := state }
  let status ← check (Runner.judge reply)
  return some status

/-- A host is added to the hosts where they stand in the inventory. -/
def inPlace : Request → InPlace RunError (Runner State) (Option RunStatus)
  | .addHost host =>
      within (fun runner => Runner.ofChecked (runner.inventory.getMap "hosts"))
        (fun runner hosts =>
          { runner with inventory := runner.inventory.replaceField "hosts" (.map hosts) })
        ((fun _ => none) <$> (KeyedCommand.add host).inPlace.reporting .entity)
  | .run playbook => runInPlace playbook
  | .perform operation extra => do
      let playbook ← check (Runner.ofChecked (operation.playbook extra))
      runInPlace playbook

theorem runInPlace_exec (playbook : OrderedCollection) (runner : Runner State) :
    (runInPlace playbook).exec runner = (Request.run playbook).answer runner := by
  simp only [runInPlace, answer, Runner.run, exec_current_bind]
  cases Runner.checkPlaybook playbook with
  | error refusal => rfl
  | ok checked =>
      simp only [Runner.ofChecked, exec_check_ok_bind, exec_write_bind]
      cases Runner.judge (runner.engine.respond runner.state
        ⟨playbook.serialize, runner.inventory.serialize⟩).1 <;> rfl

theorem inPlace_exec (request : Request) (runner : Runner State) :
    request.inPlace.exec runner = request.answer runner := by
  cases request with
  | addHost host =>
      have performs := (KeyedCommand.add host).inPlace_performs.reporting RunError.entity
      rw [inPlace]
      refine ((performs.map fun _ => none).within ?_ runner).trans ?_
      · intro whole hosts entered
        have taken : whole.inventory.getMap "hosts" = .ok hosts := by
          cases taken : whole.inventory.getMap "hosts" with
          | error refusal => simp [taken, Runner.ofChecked] at entered
          | ok own => simpa [taken, Runner.ofChecked] using entered
        rw [(Entity.getMap_eq_ok_iff.mp taken).replaceField]
      · simp only [answer, Runner.addHost, Runner.inventoryWithHost]
        cases taken : runner.inventory.getMap "hosts" with
        | error refusal => rfl
        | ok hosts =>
            simp only [Runner.ofChecked, Success.bind_ok, KeyedCommand.run]
            cases hosts.add host <;> rfl
  | run playbook => exact runInPlace_exec playbook runner
  | perform operation extra =>
      simp only [inPlace, answer, Runner.perform]
      cases operation.playbook extra with
      | error refusal => rfl
      | ok playbook => exact runInPlace_exec playbook runner

/-- A run changes the state of the engine and nothing else. -/
theorem run_inventory (playbook : OrderedCollection) (runner : Runner State) :
    (runner.run playbook).2.inventory = runner.inventory := by
  unfold Runner.run
  split <;> rfl

theorem answer_inventory_of_error {request : Request} {runner : Runner State} {error : RunError}
    (failed : (request.answer runner).1 = .error error) :
    (request.answer runner).2.inventory = runner.inventory := by
  cases request with
  | addHost host =>
      simp only [answer, Runner.addHost] at failed ⊢
      split at failed
      next => contradiction
      next => rfl
  | run playbook => exact run_inventory playbook runner
  | perform operation extra =>
      simp only [answer, Runner.perform]
      cases operation.playbook extra with
      | error refusal => rfl
      | ok playbook => exact run_inventory playbook runner

end Request

/--
Written out as programs that change their target in its place, the operations still leave it as it
was where they fail, together with all that encloses it.
-/
theorem failure_leaves_no_trace {State : Type} :
    (∀ (command : Command) (path : List Segment) (root : Target),
      (command.inPlace.along path).exec root = settle (root.edit command.run path) root ∧
      ∀ error, ((command.inPlace.along path).exec root).1 = .error error →
        ((command.inPlace.along path).exec root).2 = root) ∧
    ∀ (request : Request) (runner : Runner State),
      request.inPlace.exec runner = request.answer runner ∧
      ∀ error, (request.inPlace.exec runner).1 = .error error →
        (request.inPlace.exec runner).2.inventory = runner.inventory := by
  constructor
  · intro command path root
    have performs := command.inPlace_performs.along path
    refine ⟨performs root, fun error failed => ?_⟩
    exact (performs.unchanged failed).1
  · intro request runner
    have same := request.inPlace_exec runner
    refine ⟨same, fun error failed => ?_⟩
    rw [same] at failed ⊢
    exact Request.answer_inventory_of_error failed

/-- The second host is malformed, and an engine breaks after it has counted the call. -/
theorem Catalogue.leaf_left_alone :
    let malformed : Command := .keyed (.deserialize [("first", .null), ("second", .text "")])
    let root : Target := .entity (inventoryOf [("leaf", leaf)])
    let runner : Runner Nat :=
      ⟨⟨fun calls _ => (.error "broken", calls + 1)⟩, 0, inventoryOf [("leaf", leaf)]⟩
    let after := (Request.run ⟨play, []⟩).inPlace.exec runner
    (malformed.inPlace.along [.map "hosts"]).exec root =
        (.error (.refused (.malformedDocument "Host" "entry 'second' must be a mapping, got str")),
          root) ∧
      after.1 = .error (.engine "broken") ∧ after.2.state = 1 ∧
      after.2.inventory = runner.inventory := by
  intro malformed root runner after
  have commands := (@failure_leaves_no_trace Nat).1 malformed [.map "hosts"] root
  have requests := (@failure_leaves_no_trace Nat).2 (.run ⟨play, []⟩) runner
  have broken : after.1 = .error (.engine "broken") := rfl
  exact ⟨Prod.ext rfl (commands.2 _ rfl), broken, rfl, requests.2 _ broken⟩

end NetworkAutomation
