import Rush.Library.Attempts
import Rush.Actor.Error
import Rush.Actor.Supervision

/-! `ActorRef::retry_ask`: asks until an answer comes or the strategy's retries are
used up, with the strategy's delays in between. -/

namespace Rush.Actor

open Rush.Library Attempts

inductive RetryEvent (R : Type) where
  | asked (result : Except Error R)
  | backoff (delay : Option Duration)
  | slept (duration : Duration)

/-- What a run returns, what it has done, and what it leaves of the strategy. -/
structure RetryRun (R : Type) where
  result : Except Error R
  events : List (RetryEvent R)
  strategy : Strategy

variable {R : Type}

def RetryRun.following (run : RetryRun R) (events : List (RetryEvent R)) : RetryRun R :=
  { run with events := events ++ run.events }

def retryLoop (ask : Nat → Except Error R) (maxAttempts : Nat) :
    Nat → Nat → Strategy → RetryRun R
  | 0, _, strategy => ⟨.error .retryLimitExceeded, [], strategy⟩
  | remaining + 1, attempt, strategy =>
      match ask attempt with
      | .ok response => ⟨.ok response, [.asked (.ok response)], strategy⟩
      | .error error =>
          if attempt < maxAttempts then
            match strategy.nextBackoff with
            | (some backoff, left) =>
                (retryLoop ask maxAttempts remaining (attempt + 1) left).following
                  [.asked (.error error), .backoff (some backoff), .slept backoff]
            | (none, left) =>
                (retryLoop ask maxAttempts remaining (attempt + 1) left).following
                  [.asked (.error error), .backoff none]
          else
            (retryLoop ask maxAttempts remaining (attempt + 1) strategy).following
              [.asked (.error error)]

def retryAsk (ask : Nat → Except Error R) (strategy : Strategy) : RetryRun R :=
  let maxAttempts := strategy.maxRetries
  if maxAttempts = 0 then ⟨.error .retryLimitExceeded, [], strategy⟩
  else retryLoop ask maxAttempts maxAttempts 1 strategy

namespace Strategy

/-- The strategy after a number of requests for a delay. -/
def after (strategy : Strategy) : Nat → Strategy
  | 0 => strategy
  | requests + 1 => (strategy.after requests).nextBackoff.2

def delay (strategy : Strategy) (request : Nat) : Option Duration :=
  (strategy.after request).nextBackoff.1

end Strategy

def pause : Option Duration → List (RetryEvent R)
  | some duration => [.backoff (some duration), .slept duration]
  | none => [.backoff none]

/-- The ask of an index, with a pause before each but the first. -/
def turn (ask : Nat → Except Error R) (strategy : Strategy) (index : Nat) :
    List (RetryEvent R) :=
  (if index = 0 then [] else pause (strategy.delay (index - 1))) ++ [.asked (ask (index + 1))]

section Loop

variable {ask : Nat → Except Error R} {limit asked : Nat}

theorem retryLoop_paused {remaining attempt : Nat} {strategy : Strategy} {error : Error}
    (refused : ask attempt = .error error) (more : attempt < limit) :
    retryLoop ask limit (remaining + 1) attempt strategy =
      (retryLoop ask limit remaining (attempt + 1) strategy.nextBackoff.2).following
        (.asked (ask attempt) :: pause strategy.nextBackoff.1) := by
  simp only [retryLoop, refused, if_pos more]
  rcases strategy.nextBackoff with ⟨delay, left⟩
  cases delay <;> rfl

/-- The loop after a number of failed asks: the turns that are left, the answer if
there is one in time, and the strategy after one request between two asks. -/
theorem retryLoop_spec (strategy : Strategy) (remaining : Nat) (within : asked < limit)
    (rounds : remaining + asked = limit)
    (failed : AllFailed ask asked) :
    let run := retryLoop ask limit remaining (asked + 1) (strategy.after asked)
    let count := made ask limit
    run.events = .asked (ask (asked + 1)) ::
        (List.range' (asked + 1) (count - (asked + 1))).flatMap (turn ask strategy) ∧
      run.result =
        (if firstSuccess ask ≤ limit then ask count else .error .retryLimitExceeded) ∧
      run.strategy = strategy.after (count - 1) := by
  induction remaining generalizing asked with
  | zero => omega
  | succ remaining ih =>
      intro run count
      cases outcome : ask (asked + 1) with
      | ok response =>
          have answered : (ask (asked + 1)).isOk := by rw [outcome]; rfl
          have last : count = asked + 1 := made_succeeded within failed answered
          have inTime : firstSuccess ask ≤ limit := firstSuccess_le within failed answered
          rw [last, if_pos inTime, Nat.sub_self, Nat.add_sub_cancel, outcome]
          simp only [run, retryLoop, outcome]
          exact ⟨rfl, trivial, trivial⟩
      | error error =>
          have failedNext : AllFailed ask (asked + 1) :=
            allFailed_succ failed (by rw [outcome]; rfl)
          by_cases more : asked + 1 < limit
          · obtain ⟨events, result, left⟩ := ih more (by omega) failedNext
            have later : asked + 1 < count := lt_made more failedNext
            have length : count - (asked + 1) = count - (asked + 1 + 1) + 1 := by omega
            have paused : run = _ := retryLoop_paused outcome more
            rw [paused]
            refine ⟨?_, result, left⟩
            have turned : turn ask strategy (asked + 1) =
                pause (strategy.delay asked) ++ [.asked (ask (asked + 1 + 1))] := by
              rw [turn, if_neg (Nat.succ_ne_zero asked), Nat.add_sub_cancel]
            rw [length, List.range'_succ, List.flatMap_cons, turned, ← outcome, List.append_assoc]
            exact congrArg (fun rest => .asked (ask (asked + 1)) ::
              (pause (strategy.delay asked) ++ rest)) events
          · obtain rfl : limit = asked + 1 := by omega
            obtain rfl : remaining = 0 := by omega
            have last : count = asked + 1 := made_exhausted failedNext
            have late : ¬ firstSuccess ask ≤ (asked + 1 : Nat) :=
              not_le_of_gt (lt_firstSuccess failedNext)
            rw [last, if_neg late, Nat.sub_self, Nat.add_sub_cancel]
            simp only [run, retryLoop, outcome, if_neg more]
            exact ⟨rfl, rfl, rfl⟩

end Loop

/-- `retry_ask` asks until the first answer and at most as often as the strategy
has retries, returns that answer or `RetryLimitExceeded`, and between two asks
requests one delay and sleeps for it. -/
theorem retry_ask_spec (ask : Nat → Except Error R) (strategy : Strategy) :
    let run := retryAsk ask strategy
    let count := made ask strategy.maxRetries
    run.events = (List.range count).flatMap (turn ask strategy) ∧
      run.result = (if firstSuccess ask ≤ strategy.maxRetries then ask count
        else .error .retryLimitExceeded) ∧
      run.strategy = strategy.after (count - 1) := by
  intro run count
  have none : AllFailed ask 0 := allFailed_zero
  by_cases zero : strategy.maxRetries = 0
  · have empty : count = 0 := by
      have last := made_exhausted none
      rw [← zero] at last
      exact last.trans zero
    have late : ¬ firstSuccess ask ≤ strategy.maxRetries := by
      rw [zero]
      exact not_le_of_gt (lt_firstSuccess none)
    rw [empty, if_neg late]
    simp only [run, retryAsk, if_pos zero]
    exact ⟨rfl, trivial, rfl⟩
  · have positive : 0 < strategy.maxRetries := Nat.pos_of_ne_zero zero
    obtain ⟨events, result, left⟩ := retryLoop_spec strategy strategy.maxRetries positive rfl none
    have some : 0 < count := lt_made positive none
    have started : run = retryLoop ask strategy.maxRetries strategy.maxRetries 1 strategy := by
      simp only [run, retryAsk, if_neg zero]
    obtain ⟨rest, length⟩ := Nat.exists_eq_add_of_lt some
    rw [started]
    refine ⟨?_, result, left⟩
    rw [length, Nat.zero_add, List.range_eq_range', List.range'_succ, List.flatMap_cons]
    have rest_eq : rest = count - (0 + 1) := by omega
    rw [rest_eq]
    exact events

end Rush.Actor
