import Mathlib

/-! Supervision strategies: how often and after which delays a failed start is
tried again. -/

namespace Rush.Actor

abbrev Duration := Nat

structure NoIntervalStrategy where
  maxRetries : Nat
  deriving DecidableEq, Repr

structure FixedIntervalStrategy where
  maxRetries : Nat
  duration : Duration
  deriving DecidableEq, Repr

structure CustomIntervalStrategy where
  durations : List Duration
  maxRetries : Nat
  deriving DecidableEq, Repr

def CustomIntervalStrategy.new (durations : List Duration) : CustomIntervalStrategy :=
  ⟨durations, durations.length⟩

inductive Strategy where
  | noInterval (strategy : NoIntervalStrategy)
  | fixedInterval (strategy : FixedIntervalStrategy)
  | customInterval (strategy : CustomIntervalStrategy)
  deriving DecidableEq, Repr

namespace Strategy

def maxRetries : Strategy → Nat
  | .noInterval strategy => strategy.maxRetries
  | .fixedInterval strategy => strategy.maxRetries
  | .customInterval strategy => strategy.maxRetries

def nextBackoff : Strategy → Option Duration × Strategy
  | .noInterval strategy => (none, .noInterval strategy)
  | .fixedInterval strategy => (some strategy.duration, .fixedInterval strategy)
  | .customInterval ⟨[], maxRetries⟩ => (none, .customInterval ⟨[], maxRetries⟩)
  | .customInterval ⟨duration :: durations, maxRetries⟩ =>
      (some duration, .customInterval ⟨durations, maxRetries⟩)

end Strategy

inductive SupervisionStrategy where
  | stop
  | retry (strategy : Strategy)
  deriving DecidableEq, Repr

end Rush.Actor
