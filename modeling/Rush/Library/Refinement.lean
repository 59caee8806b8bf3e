import Mathlib

/-! Systems that answer requests. Where each step of one system is matched by a step of
another that gives the same answer, the other can give the answers of every run. -/

namespace Rush.Library

variable {σ τ ι α : Type} {serves : σ → ι → α → σ → Prop} {spec : τ → ι → α → τ → Prop}

/-- A run by the requests it has served, with their answers. -/
inductive Trace (serves : σ → ι → α → σ → Prop) (first : σ) : List (ι × α) → σ → Prop
  | begun : Trace serves first [] first
  | served {calls : List (ι × α)} {state after : σ} {request : ι} {answer : α}
      (before : Trace serves first calls state) (now : serves state request answer after) :
      Trace serves first (calls ++ [(request, answer)]) after

def Simulates (related : σ → τ → Prop) (serves : σ → ι → α → σ → Prop)
    (spec : τ → ι → α → τ → Prop) : Prop :=
  ∀ state model request answer after, related state model → serves state request answer after →
    ∃ next, spec model request answer next ∧ related after next

theorem Simulates.trace {related : σ → τ → Prop} (simulates : Simulates related serves spec)
    {first state : σ} {model : τ} {calls : List (ι × α)} (begins : related first model)
    (run : Trace serves first calls state) :
    ∃ next, Trace spec model calls next ∧ related state next := by
  induction run with
  | begun => exact ⟨model, .begun, begins⟩
  | served before now ih =>
      obtain ⟨middle, ran, relates⟩ := ih
      obtain ⟨next, answers, still⟩ := simulates _ _ _ _ _ relates now
      exact ⟨next, .served ran answers, still⟩

end Rush.Library
