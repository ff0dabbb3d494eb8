/-
This file says when a computation that may be refused succeeds, and what its parts then gave.
-/

import Mathlib.Data.List.Forall2

namespace NetworkAutomation.Success

variable {ε α β : Type} {related : α → β → Prop}

theorem bind_eq_ok {first : Except ε α} {next : α → Except ε β} {result : β} :
    (first >>= next) = .ok result ↔ ∃ value, first = .ok value ∧ next value = .ok result := by
  cases first with
  | error refusal => simp [bind, Except.bind]
  | ok value => simp [bind, Except.bind]

/-- A check comes before the rest, and it gives nothing to the rest. -/
theorem check_bind_eq_ok {check : Except ε Unit} {next : Unit → Except ε β} {result : β} :
    (check >>= next) = .ok result ↔ check = .ok () ∧ next () = .ok result := by
  cases check with
  | error refusal => simp [bind, Except.bind]
  | ok value => simp [bind, Except.bind]

/-- A computation is refused where its first part is, or where the rest is refused behind it. -/
theorem bind_eq_error {first : Except ε α} {next : α → Except ε β} {refusal : ε} :
    (first >>= next) = .error refusal ↔ first = .error refusal ∨
      ∃ value, first = .ok value ∧ next value = .error refusal := by
  cases first with
  | error own => simp [bind, Except.bind]
  | ok value => simp [bind, Except.bind]

/-- Nothing that is refused is added where only the result is wrapped. -/
theorem bind_pure_eq_error {first : Except ε α} {wrap : α → β} {refusal : ε} :
    (first >>= fun value => pure (wrap value)) = .error refusal ↔ first = .error refusal := by
  cases first <;> simp [bind, Except.bind, pure, Except.pure]

@[simp] theorem bind_ok (value : α) (next : α → Except ε β) :
    ((Except.ok value : Except ε α) >>= next) = next value := rfl

@[simp] theorem bind_error (refusal : ε) (next : α → Except ε β) :
    ((Except.error refusal : Except ε α) >>= next) = .error refusal := rfl

@[simp] theorem pure_eq_ok (value : α) : (pure value : Except ε α) = .ok value := rfl

/-- A computation that is known to succeed has a value. -/
def value : (computed : Except ε α) → computed.isOk = true → α
  | .ok value, _ => value

theorem eq_ok_value {computed : Except ε α} (succeeds : computed.isOk = true) :
    computed = .ok (value computed succeeds) := by
  cases computed with
  | error refusal => exact nomatch succeeds
  | ok result => rfl

/-- A list is worked off when each of its members is. -/
theorem mapM_eq_ok_iff {step : α → Except ε β} {inputs : List α} {outputs : List β} :
    inputs.mapM step = .ok outputs ↔
      List.Forall₂ (fun input output => step input = .ok output) inputs outputs := by
  induction inputs generalizing outputs with
  | nil =>
      rw [List.mapM_nil, List.forall₂_nil_left_iff, pure_eq_ok, Except.ok.injEq]
      exact eq_comm
  | cons input rest ih =>
      rw [List.mapM_cons, bind_eq_ok, List.forall₂_cons_left_iff]
      constructor
      · rintro ⟨output, first, remaining⟩
        obtain ⟨others, later, same⟩ := bind_eq_ok.mp remaining
        exact ⟨output, others, first, ih.mp later, (Except.ok.inj same).symm⟩
      · rintro ⟨output, others, first, later, rfl⟩
        exact ⟨output, first, bind_eq_ok.mpr ⟨others, ih.mpr later, rfl⟩⟩

/-- An optional result of a list is one of each of its members. -/
theorem mapM_eq_some_iff {step : α → Option β} {inputs : List α} {outputs : List β} :
    inputs.mapM step = some outputs ↔
      List.Forall₂ (fun input output => step input = some output) inputs outputs := by
  induction inputs generalizing outputs with
  | nil =>
      rw [List.mapM_nil, List.forall₂_nil_left_iff, Option.pure_def, Option.some.injEq]
      exact eq_comm
  | cons input rest ih =>
      simp only [List.mapM_cons, Option.bind_eq_bind, Option.bind_eq_some_iff, Option.pure_def,
        List.forall₂_cons_left_iff, ih, Option.some.injEq]
      constructor
      · rintro ⟨output, first, others, later, same⟩
        exact ⟨output, others, first, later, same.symm⟩
      · rintro ⟨output, others, first, later, same⟩
        exact ⟨output, first, others, later, same.symm⟩

/-- Each input has an output, so the inputs have outputs one by one. -/
theorem exists_related_list {inputs : List α}
    (each : ∀ input ∈ inputs, ∃ output, related input output) :
    ∃ outputs, List.Forall₂ related inputs outputs := by
  induction inputs with
  | nil => exact ⟨[], .nil⟩
  | cons input rest ih =>
      rw [List.forall_mem_cons] at each
      obtain ⟨output, first⟩ := each.1
      obtain ⟨outputs, later⟩ := ih each.2
      exact ⟨output :: outputs, .cons first later⟩

theorem map_eq_of_related {γ : Type} {first : α → γ} {second : β → γ}
    {inputs : List α} {outputs : List β} (all : List.Forall₂ related inputs outputs)
    (same : ∀ input output, related input output → second output = first input) :
    outputs.map second = inputs.map first := by
  induction all with
  | nil => rfl
  | cons head _ ih => rw [List.map_cons, List.map_cons, same _ _ head, ih]

/-- Two lists that a third one relates step by step are related. -/
theorem related_through {γ : Type} {middle : List α} {inputs : List γ} {outputs : List β}
    {first : γ → α → Prop} {composed : γ → β → Prop} (before : List.Forall₂ first inputs middle)
    (after : List.Forall₂ related middle outputs)
    (compose : ∀ input between output, first input between → related between output →
      composed input output) : List.Forall₂ composed inputs outputs := by
  induction before generalizing outputs with
  | nil =>
      cases after
      exact .nil
  | cons head _ ih =>
      cases after with
      | cons next later => exact .cons (compose _ _ _ head next) (ih later)

/-- Every member of a list that was worked off comes from one before. -/
theorem exists_source {inputs : List α} {outputs : List β}
    (all : List.Forall₂ related inputs outputs) {output : β} (member : output ∈ outputs) :
    ∃ input ∈ inputs, related input output := by
  induction all with
  | nil => exact absurd member List.not_mem_nil
  | cons first _ ih =>
      rcases List.mem_cons.mp member with rfl | later
      · exact ⟨_, List.mem_cons_self, first⟩
      · obtain ⟨input, inRest, holds⟩ := ih later
        exact ⟨input, List.mem_cons_of_mem _ inRest, holds⟩

theorem forM_eq_ok_iff {check : α → Except ε Unit} {inputs : List α} :
    inputs.forM check = .ok () ↔ ∀ input ∈ inputs, check input = .ok () := by
  induction inputs with
  | nil => simp [List.forM]
  | cons input rest ih =>
      rw [List.forM, bind_eq_ok, List.forall_mem_cons, ← ih]
      constructor
      · rintro ⟨_, first, later⟩
        exact ⟨first, later⟩
      · rintro ⟨first, later⟩
        exact ⟨(), first, later⟩

/-- The first input that is refused decides. -/
theorem mapM_eq_error_iff {step : α → Except ε β} {inputs : List α} {refusal : ε} :
    inputs.mapM step = .error refusal ↔ ∃ before input after,
      inputs = before ++ input :: after ∧
        (∀ earlier ∈ before, ∃ output, step earlier = .ok output) ∧
        step input = .error refusal := by
  induction inputs with
  | nil => simp [List.mapM_nil]
  | cons first rest ih =>
      rw [List.mapM_cons]
      cases taken : step first with
      | ok output =>
          have later : (rest.mapM step >>= fun outputs => pure (output :: outputs)) =
              .error refusal ↔ rest.mapM step = .error refusal := by
            cases rest.mapM step <;> simp [bind, Except.bind]
          rw [bind_ok, later, ih]
          constructor
          · rintro ⟨before, input, after, rfl, earlier, refused⟩
            exact ⟨first :: before, input, after, rfl,
              List.forall_mem_cons.mpr ⟨⟨output, taken⟩, earlier⟩, refused⟩
          · rintro ⟨before, input, after, split, earlier, refused⟩
            cases before with
            | nil =>
                obtain ⟨rfl, rfl⟩ := List.cons.inj split
                exact nomatch taken.symm.trans refused
            | cons other before =>
                obtain ⟨rfl, rfl⟩ := List.cons.inj split
                exact ⟨before, input, after, rfl, (List.forall_mem_cons.mp earlier).2, refused⟩
      | error cause =>
          rw [bind_error]
          constructor
          · intro same
            exact ⟨[], first, rest, rfl, fun _ member => absurd member List.not_mem_nil,
              taken.trans (congrArg Except.error (Except.error.inj same))⟩
          · rintro ⟨before, input, after, split, earlier, refused⟩
            cases before with
            | nil =>
                obtain ⟨rfl, rfl⟩ := List.cons.inj split
                exact congrArg Except.error (Except.error.inj (taken.symm.trans refused))
            | cons other before =>
                obtain ⟨rfl, rfl⟩ := List.cons.inj split
                obtain ⟨output, accepted⟩ := (List.forall_mem_cons.mp earlier).1
                exact nomatch taken.symm.trans accepted

/-- Checks are refused like any other step, and they give nothing. -/
theorem forM_eq_error_iff {check : α → Except ε Unit} {inputs : List α} {refusal : ε} :
    inputs.forM check = .error refusal ↔ ∃ before input after,
      inputs = before ++ input :: after ∧ (∀ earlier ∈ before, check earlier = .ok ()) ∧
        check input = .error refusal := by
  have asMap : inputs.forM check = (inputs.mapM check).map fun _ => () := by
    induction inputs with
    | nil => rfl
    | cons first rest ih =>
        rw [List.forM, List.mapM_cons, ih]
        cases check first with
        | error refusal => rfl
        | ok accepted => cases rest.mapM check <;> rfl
  have refused : inputs.forM check = .error refusal ↔ inputs.mapM check = .error refusal := by
    rw [asMap]
    cases inputs.mapM check <;> simp [Except.map]
  simp only [refused, mapM_eq_error_iff, Unique.exists_iff]

/-- What each step preserves holds at the end of a fold that succeeds. -/
theorem foldlM_preserves {step : β → α → Except ε β} (invariant : β → Prop) {inputs : List α}
    {initial final : β} (start : invariant initial)
    (preserved : ∀ state input next, input ∈ inputs → invariant state →
      step state input = .ok next → invariant next)
    (folded : inputs.foldlM step initial = .ok final) : invariant final := by
  induction inputs generalizing initial with
  | nil =>
      obtain rfl := Except.ok.inj folded
      exact start
  | cons input rest ih =>
      rw [List.foldlM_cons] at folded
      obtain ⟨middle, first, later⟩ := bind_eq_ok.mp folded
      have held := preserved initial input middle List.mem_cons_self start first
      refine ih held (fun state other next member => ?_) later
      exact preserved state other next (List.mem_cons_of_mem _ member)

/-- A fold that succeeds took a step with each of its inputs. -/
theorem exists_step_of_foldlM {step : β → α → Except ε β} {inputs : List α} {initial final : β}
    (folded : inputs.foldlM step initial = .ok final) {input : α} (member : input ∈ inputs) :
    ∃ state next, step state input = .ok next := by
  induction inputs generalizing initial with
  | nil => exact absurd member List.not_mem_nil
  | cons first rest ih =>
      rw [List.foldlM_cons] at folded
      obtain ⟨middle, taken, later⟩ := bind_eq_ok.mp folded
      rcases List.mem_cons.mp member with rfl | inRest
      · exact ⟨initial, middle, taken⟩
      · exact ih later inRest

/-- A fold that is refused was refused at one of its inputs, behind those before it. -/
theorem exists_failed_of_foldlM {step : β → α → Except ε β} {inputs : List α} {initial : β}
    {refusal : ε} (folded : inputs.foldlM step initial = .error refusal) :
    ∃ before input after state, inputs = before ++ input :: after ∧
      before.foldlM step initial = .ok state ∧ step state input = .error refusal := by
  induction inputs generalizing initial with
  | nil => exact nomatch folded
  | cons first rest ih =>
      rw [List.foldlM_cons] at folded
      rcases bind_eq_error.mp folded with failed | ⟨middle, taken, later⟩
      · exact ⟨[], first, rest, initial, rfl, rfl, failed⟩
      · obtain ⟨before, input, after, state, rfl, passed, failed⟩ := ih later
        refine ⟨first :: before, input, after, state, rfl, ?_, failed⟩
        rw [List.foldlM_cons, taken, bind_ok, passed]

/-- Each output is made from its input and from the outputs before it. -/
inductive InTurn (made : List β → α → β → Prop) : List β → List α → List β → Prop where
  | nil {before : List β} : InTurn made before [] []
  | cons {before outputs : List β} {input : α} {inputs : List α} {output : β}
      (first : made before input output) (later : InTurn made (before ++ [output]) inputs outputs) :
      InTurn made before (input :: inputs) (output :: outputs)

namespace InTurn

variable {made : List β → α → β → Prop} {before outputs : List β} {inputs : List α}

/-- Whatever all of the outputs before one imply holds one by one. -/
theorem forall₂ (turns : InTurn made before inputs outputs)
    (implied : ∀ earlier input output, earlier ⊆ before ++ outputs → made earlier input output →
      related input output) : List.Forall₂ related inputs outputs := by
  induction turns with
  | nil => exact .nil
  | @cons before outputs input inputs output first _ ih =>
      refine .cons (implied before input output (List.subset_append_left _ _) first) (ih ?_)
      intro earlier input output within holds
      rw [List.append_assoc, List.singleton_append] at within
      exact implied earlier input output within holds

theorem imp {implied : List β → α → β → Prop} (turns : InTurn made before inputs outputs)
    (each : ∀ earlier input output, made earlier input output → implied earlier input output) :
    InTurn implied before inputs outputs := by
  induction turns with
  | nil => exact .nil
  | cons first _ ih => exact .cons (each _ _ _ first) ih

theorem at_place (turns : InTurn made before inputs outputs) {place : Nat} {output : β}
    (placed : outputs[place]? = some output) : ∃ input, inputs[place]? = some input ∧
      made (before ++ outputs.take place) input output := by
  induction turns generalizing place with
  | nil => simp at placed
  | @cons before outputs input inputs result first _ ih =>
      cases place with
      | zero =>
          obtain rfl := Option.some.inj placed
          exact ⟨input, rfl, by simpa using first⟩
      | succ place =>
          obtain ⟨later, inRange, holds⟩ := ih placed
          exact ⟨later, inRange, by simpa using holds⟩

end InTurn

/-- A fold whose steps each append one output makes these outputs in turn. -/
theorem inTurn_of_foldlM {σ : Type} {step : σ → α → Except ε σ} (state : List β → σ)
    {made : List β → α → β → Prop} {before : List β} {inputs : List α} {final : σ}
    (appends : ∀ before input next, step (state before) input = .ok next →
      ∃ output, next = state (before ++ [output]) ∧ made before input output)
    (folded : inputs.foldlM step (state before) = .ok final) :
    ∃ outputs, final = state (before ++ outputs) ∧ InTurn made before inputs outputs := by
  induction inputs generalizing before with
  | nil =>
      obtain rfl := Except.ok.inj folded
      exact ⟨[], by rw [List.append_nil], .nil⟩
  | cons input rest ih =>
      rw [List.foldlM_cons] at folded
      obtain ⟨next, taken, folded⟩ := bind_eq_ok.mp folded
      obtain ⟨output, rfl, first⟩ := appends before input next taken
      obtain ⟨outputs, rfl, later⟩ := ih folded
      exact ⟨output :: outputs, by rw [List.append_assoc, List.singleton_append],
        .cons first later⟩

end NetworkAutomation.Success
