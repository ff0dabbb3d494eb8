/-
This file gives meaning to programs that change a state in its place, one write after another.
-/

import NetworkAutomation.Proofs.Success

namespace NetworkAutomation

/-- What a program wrote before it failed stays written. -/
abbrev InPlace (ε σ α : Type) := ExceptT ε (StateM σ) α

namespace InPlace

variable {ε δ σ τ α β : Type}

def exec (program : InPlace ε σ α) (state : σ) : Except ε α × σ :=
  (ExceptT.run program).run state

def current : InPlace ε σ σ := get

def write (changed : σ) : InPlace ε σ Unit := set changed

/-- A check writes nothing, and the program ends where it fails. -/
def check (checked : Except ε α) : InPlace ε σ α :=
  match checked with
  | .ok value => pure value
  | .error error => throw error

/-- The program works on a value of its own, which is lost where the program fails. -/
def onOwn (program : InPlace ε τ α) (value : τ) : Except ε τ :=
  (program.exec value).1.map fun _ => (program.exec value).2

/-- The program works on a part of the state, which is put back as the program left it. -/
def within (enter : σ → Except ε τ) (put : σ → τ → σ) (program : InPlace ε τ α) :
    InPlace ε σ α :=
  ExceptT.mk fun whole =>
    match enter whole with
    | .ok part => ((program.exec part).1, put whole (program.exec part).2)
    | .error error => (.error error, whole)

/-- The program fails with errors of another sort. -/
def reporting (report : ε → δ) (program : InPlace ε σ α) : InPlace δ σ α :=
  ExceptT.mk fun state => ((program.exec state).1.mapError report, (program.exec state).2)

@[simp] theorem exec_pure (value : α) (state : σ) :
    (pure value : InPlace ε σ α).exec state = (.ok value, state) := rfl

@[simp] theorem exec_throw (error : ε) (state : σ) :
    (throw error : InPlace ε σ α).exec state = (.error error, state) := rfl

@[simp] theorem exec_write (changed state : σ) :
    (write changed : InPlace ε σ Unit).exec state = (.ok (), changed) := rfl

@[simp] theorem exec_write_bind (changed : σ) (next : Unit → InPlace ε σ β) (state : σ) :
    (write changed >>= next).exec state = (next ()).exec changed := rfl

@[simp] theorem exec_write_map (answer : Unit → β) (changed state : σ) :
    (answer <$> write changed : InPlace ε σ β).exec state = (.ok (answer ()), changed) := rfl

@[simp] theorem exec_current_bind (next : σ → InPlace ε σ β) (state : σ) :
    (current >>= next).exec state = (next state).exec state := rfl

@[simp] theorem exec_check_ok (value : α) (state : σ) :
    (check (.ok value) : InPlace ε σ α).exec state = (.ok value, state) := rfl

@[simp] theorem exec_check_error (error : ε) (state : σ) :
    (check (.error error) : InPlace ε σ α).exec state = (.error error, state) := rfl

@[simp] theorem exec_check_ok_bind (value : α) (next : α → InPlace ε σ β) (state : σ) :
    (check (.ok value) >>= next).exec state = (next value).exec state := rfl

@[simp] theorem exec_check_error_bind (error : ε) (next : α → InPlace ε σ β) (state : σ) :
    (check (.error error) >>= next).exec state = (.error error, state) := rfl

/-- The new state counts after a success, and the former one after a failure. -/
def settle (result : Except ε (α × σ)) (state : σ) : Except ε α × σ :=
  match result with
  | .ok (answer, changed) => (.ok answer, changed)
  | .error error => (.error error, state)

@[simp] theorem settle_ok (answer : α) (changed state : σ) :
    settle (.ok (answer, changed) : Except ε (α × σ)) state = (.ok answer, changed) := rfl

@[simp] theorem settle_error (error : ε) (state : σ) :
    settle (.error error : Except ε (α × σ)) state = (.error error, state) := rfl

/-- The program has the effect of an operation that gives its new state only where it succeeds. -/
def Performs (program : InPlace ε σ α) (operation : σ → Except ε (α × σ)) : Prop :=
  ∀ state, program.exec state = settle (operation state) state

/-- A program with the effect of an operation leaves no trace where it fails. -/
theorem Performs.unchanged {program : InPlace ε σ α} {operation : σ → Except ε (α × σ)}
    (performs : program.Performs operation) {state : σ} {error : ε}
    (failed : (program.exec state).1 = .error error) :
    (program.exec state).2 = state ∧ operation state = .error error := by
  rw [performs state] at failed ⊢
  cases result : operation state with
  | ok answered =>
      rw [result] at failed
      exact nomatch failed
  | error own =>
      rw [result] at failed
      exact ⟨rfl, congrArg Except.error (Except.error.inj failed)⟩

/-- A part that is put back unchanged leaves no trace in the whole. -/
theorem Performs.within {program : InPlace ε τ α} {operation : τ → Except ε (α × τ)}
    (performs : program.Performs operation) {enter : σ → Except ε τ} {put : σ → τ → σ}
    (back : ∀ whole part, enter whole = .ok part → put whole part = whole) :
    (within enter put program).Performs fun whole => do
      let part ← enter whole
      let (answer, changed) ← operation part
      return (answer, put whole changed) := by
  intro whole
  change (match enter whole with
    | .ok part => ((program.exec part).1, put whole (program.exec part).2)
    | .error error => (.error error, whole)) = _
  beta_reduce
  cases entered : enter whole with
  | error error => rfl
  | ok part =>
      simp only [Success.bind_ok, performs part]
      cases operation part with
      | ok answered => rfl
      | error error => simp only [settle_error, Success.bind_error, back whole part entered]

theorem Performs.map {program : InPlace ε σ α} {operation : σ → Except ε (α × σ)}
    (performs : program.Performs operation) (view : α → β) :
    (view <$> program).Performs fun state => do
      let (answer, changed) ← operation state
      return (view answer, changed) := by
  intro state
  have mapped : (view <$> program).exec state =
      ((program.exec state).1.map view, (program.exec state).2) := by
    simp only [exec, ExceptT.run_map, StateT.run_map]
    rfl
  rw [mapped, performs state]
  dsimp only
  cases operation state <;> rfl

theorem Performs.reporting {program : InPlace ε σ α} {operation : σ → Except ε (α × σ)}
    (performs : program.Performs operation) (report : ε → δ) :
    (program.reporting report).Performs fun state => (operation state).mapError report := by
  intro state
  change ((program.exec state).1.mapError report, (program.exec state).2) = _
  rw [performs state]
  dsimp only
  cases operation state <;> rfl

end InPlace

end NetworkAutomation
