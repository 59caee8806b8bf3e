import Mathlib

/-! Labelled transition systems: runs, runs whose every step meets a condition
on the state before it, and the induction rule that carries an invariant over
them. -/

namespace Rush.Library.Runs

variable {σ ι : Type}

/-- The state a list of labels leads to, if every one of its steps can be taken. -/
def run (step : σ → ι → Option σ) : σ → List ι → Option σ
  | state, [] => some state
  | state, label :: labels => (step state label).bind fun next => run step next labels

/-- The states reached from a start state by steps that all meet `allowed`. -/
inductive Guarded (step : σ → ι → Option σ) (start : σ → Prop) (allowed : σ → ι → Prop) :
    σ → Prop
  | start {state : σ} (initial : start state) : Guarded step start allowed state
  | next (state : σ) (label : ι) {after : σ} (before : Guarded step start allowed state)
      (permitted : allowed state label) (taken : step state label = some after) :
      Guarded step start allowed after

def Reachable (step : σ → ι → Option σ) (start : σ → Prop) : σ → Prop :=
  Guarded step start fun _ _ => True

variable {step : σ → ι → Option σ} {start : σ → Prop} {allowed : σ → ι → Prop}

/-- An invariant that holds at the start and survives every permitted step holds
in every state a permitted run reaches. -/
theorem guarded_invariant (invariant : σ → Prop)
    (initial : ∀ state, start state → invariant state)
    (preserved : ∀ state label after, invariant state → allowed state label →
      step state label = some after → invariant after)
    {state : σ} (reached : Guarded step start allowed state) : invariant state := by
  induction reached with
  | start begins => exact initial _ begins
  | next state label _ permitted taken ih => exact preserved state label _ ih permitted taken

theorem guarded_mono {wider : σ → ι → Prop}
    (weaken : ∀ state label, allowed state label → wider state label) {state : σ}
    (reached : Guarded step start allowed state) : Guarded step start wider state := by
  induction reached with
  | start begins => exact .start begins
  | next state label _ permitted taken ih =>
      exact .next state label ih (weaken state label permitted) taken

theorem reachable_run {state after : σ} {labels : List ι} (before : Reachable step start state)
    (taken : run step state labels = some after) : Reachable step start after := by
  induction labels generalizing state with
  | nil =>
      obtain rfl : state = after := Option.some.inj taken
      exact before
  | cons label labels ih =>
      obtain ⟨next, moved, rest⟩ := Option.bind_eq_some_iff.mp taken
      exact ih (.next state label before trivial moved) rest

theorem run_append (state : σ) (front back : List ι) :
    run step state (front ++ back) = (run step state front).bind fun middle =>
      run step middle back := by
  induction front generalizing state with
  | nil => rfl
  | cons label front ih =>
      rw [List.cons_append, run, run]
      cases step state label with
      | none => rfl
      | some next => exact ih next

def checkedRun (step : σ → ι → Option σ) (check : σ → ι → Bool) : σ → List ι → Option σ
  | state, [] => some state
  | state, label :: labels =>
      if check state label then
        (step state label).bind fun next => checkedRun step check next labels
      else none

theorem run_of_checkedRun {check : σ → ι → Bool} {state after : σ} {labels : List ι}
    (taken : checkedRun step check state labels = some after) :
    run step state labels = some after := by
  induction labels generalizing state with
  | nil => exact taken
  | cons label labels ih =>
      rw [checkedRun, Option.ite_none_right_eq_some] at taken
      obtain ⟨next, moved, rest⟩ := Option.bind_eq_some_iff.mp taken.2
      exact Option.bind_eq_some_iff.mpr ⟨next, moved, ih rest⟩

theorem guarded_checkedRun {check : σ → ι → Bool}
    (sound : ∀ state label, check state label = true → allowed state label)
    {state after : σ} {labels : List ι} (before : Guarded step start allowed state)
    (taken : checkedRun step check state labels = some after) :
    Guarded step start allowed after := by
  induction labels generalizing state with
  | nil =>
      obtain rfl : state = after := Option.some.inj taken
      exact before
  | cons label labels ih =>
      rw [checkedRun, Option.ite_none_right_eq_some] at taken
      obtain ⟨checked, taken⟩ := taken
      obtain ⟨next, moved, rest⟩ := Option.bind_eq_some_iff.mp taken
      exact ih (.next state label before (sound state label checked) moved) rest

theorem reachable_shown {fact : σ → Prop} [DecidablePred fact] {state : σ} {labels : List ι}
    (initial : start state) (shown : ((run step state labels).any fun after => fact after) = true) :
    ∃ after, Reachable step start after ∧ fact after := by
  obtain ⟨after, ran, holds⟩ := (Option.any_eq_true _ _).mp shown
  exact ⟨after, reachable_run (.start initial) ran, of_decide_eq_true holds⟩

theorem guarded_shown {check : σ → ι → Bool} {fact : σ → Prop} [DecidablePred fact]
    (sound : ∀ state label, check state label = true → allowed state label)
    {state : σ} {labels : List ι} (initial : start state)
    (shown : ((checkedRun step check state labels).any fun after => fact after) = true) :
    ∃ after, Guarded step start allowed after ∧ fact after := by
  obtain ⟨after, ran, holds⟩ := (Option.any_eq_true _ _).mp shown
  exact ⟨after, guarded_checkedRun sound (.start initial) ran, of_decide_eq_true holds⟩

end Rush.Library.Runs
