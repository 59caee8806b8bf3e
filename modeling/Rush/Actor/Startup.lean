import Rush.Library.Attempts
import Rush.Actor.Step

/-! `ActorRunner::init` from the first attempt to the first `select!` or to the end
of the task, as the list of what it does. A hook may call its context any number
of times before it returns; that leaves the runner where it is. -/

namespace Rush.Actor

open Rush.Library Attempts

/-- What the awaits of a start return: the attempts, numbered from one, the send of
the Stopped signal and `post_stop`. -/
structure StartOutcomes where
  attempt : Nat → Except Error Unit
  emission : Outcome
  postStop : Except Error Unit

inductive StartEvent where
  | attempted (hook : Hook) (result : Except Error Unit)
  | slept (duration : Duration)
  /-- A value goes through `init_sender`. -/
  | answered (answer : Option Error)
  /-- The first `select!` of `run`. -/
  | entered
  | emitted (signal : ActorSignal)
  | postStopped (result : Except Error Unit)
  | terminated

namespace ActorRunner

/-- What an arm of the loop of `init` shows: an answer through `init_sender`, the
entry into `run` or the end of the task. -/
def shown (before after : ActorRunner) : List StartEvent :=
  (if before.initSender && !after.initSender then after.initAnswer.toList.map .answered else []) ++
    match after.control with
    | .select => [.entered]
    | .ended => [.terminated]
    | _ => []

/-- An arm or an await of `init`, with the number of attempts made. In `run` and
after the end nothing is left to do. -/
def advance (self : ActorId) (outcomes : StartOutcomes) (attempts : Nat) (runner : ActorRunner) :
    List StartEvent × Nat × ActorRunner :=
  match runner.control with
  | .lifecycle => (runner.shown (runner.init self), attempts, runner.init self)
  | .sleep duration => ([.slept duration], attempts, runner.beginRestart)
  | .hook .postStop =>
      ([.postStopped outcomes.postStop], attempts,
        runner.hookReturns self .postStop outcomes.postStop)
  | .hook hook =>
      ([.attempted hook (outcomes.attempt (attempts + 1))], attempts + 1,
        runner.hookReturns self hook (outcomes.attempt (attempts + 1)))
  | .calling (.emit _ signal) point =>
      ([.emitted signal], attempts, runner.resume self point outcomes.emission)
  | _ => ([], attempts, runner)

def startUp (self : ActorId) (outcomes : StartOutcomes) :
    Nat → Nat → ActorRunner → List StartEvent × ActorRunner
  | 0, _, runner => ([], runner)
  | steps + 1, attempts, runner =>
      let (events, attempts, moved) := runner.advance self outcomes attempts
      let (rest, last) := startUp self outcomes steps attempts moved
      (events ++ rest, last)

end ActorRunner

def SupervisionStrategy.limit : SupervisionStrategy → Nat
  | .stop => 0
  | .retry strategy => strategy.maxRetries

/-- The sleep before an attempt to restart: `supervision_strategy()` gives a new
strategy each time. -/
def SupervisionStrategy.sleep : SupervisionStrategy → List StartEvent
  | .stop => []
  | .retry strategy => strategy.nextBackoff.1.toList.map .slept

/-- An attempt to restart with the sleep before it. -/
def restartTurn (strategy : SupervisionStrategy) (outcomes : StartOutcomes) (index : Nat) :
    List StartEvent :=
  strategy.sleep ++ [.attempted .preRestart (outcomes.attempt (index + 1))]

namespace ActorRunner

/-- What a runner says through `init_sender`, if it still has it. -/
def answers (runner : ActorRunner) (answer : Option Error) : List StartEvent :=
  if runner.initSender then [.answered answer] else []

def startError (path : ActorPath) (retries : Nat) : Error :=
  .createActor s!"Actor {path} failed to start after {retries} retries."

def failing (runner : ActorRunner) (outcomes : StartOutcomes) : List StartEvent :=
  runner.answers (some (startError runner.path runner.strategy.limit)) ++
    [.emitted (.stopped runner.path), .postStopped outcomes.postStop, .terminated]

section Steps

variable {self : ActorId} {outcomes : StartOutcomes} {runner : ActorRunner}

theorem startUp_succ (steps attempts : Nat) :
    runner.startUp self outcomes (steps + 1) attempts =
      ((runner.advance self outcomes attempts).1 ++
        ((runner.advance self outcomes attempts).2.2.startUp self outcomes steps
          (runner.advance self outcomes attempts).2.1).1,
        ((runner.advance self outcomes attempts).2.2.startUp self outcomes steps
          (runner.advance self outcomes attempts).2.1).2) := rfl

theorem startUp_idle (idle : runner.control = .select ∨ runner.control = .ended)
    (steps attempts : Nat) : runner.startUp self outcomes steps attempts = ([], runner) := by
  induction steps with
  | zero => rfl
  | succ steps ih =>
      have still : runner.advance self outcomes attempts = ([], attempts, runner) := by
        rcases idle with within | within <;> simp only [advance, within]
      rw [startUp_succ, still]
      exact ih

theorem startUp_step {attempts after : Nat} {events : List StartEvent} {moved : ActorRunner}
    (did : runner.advance self outcomes attempts = (events, after, moved)) (steps : Nat) :
    runner.startUp self outcomes (steps + 1) attempts =
      (events ++ (moved.startUp self outcomes steps after).1,
        (moved.startUp self outcomes steps after).2) := by
  rw [startUp_succ, did]

theorem startUp_started (lifecycle : runner.lifecycle = .started)
    (within : runner.control = .lifecycle) (steps attempts : Nat) :
    runner.startUp self outcomes (steps + 1) attempts =
      (runner.answers none ++ [.entered], runner.enterRun) := by
  have arm : runner.init self = runner.enterRun := by simp only [init, lifecycle]
  have did : runner.advance self outcomes attempts =
      (runner.answers none ++ [.entered], attempts, runner.enterRun) := by
    simp only [advance, within, arm]
    cases waiting : runner.initSender <;> simp [shown, enterRun, answers, waiting]
  rw [startUp_step did, startUp_idle (.inl rfl), List.append_nil]

theorem startUp_failed (lifecycle : runner.lifecycle = .failed)
    (within : runner.control = .lifecycle) (told : runner.initSender = false)
    (steps attempts : Nat) :
    ∃ last, runner.startUp self outcomes (steps + 5) attempts =
      ([.emitted (.stopped runner.path), .postStopped outcomes.postStop, .terminated], last) ∧
      last.control = .ended ∧ last.initSender = false := by
  have failed : runner.advance self outcomes attempts =
      ([], attempts, { runner with lifecycle := .stopped }) := by
    simp [advance, within, init, lifecycle, shown, told]
  let stopped : ActorRunner := { runner with lifecycle := .stopped }
  have stopping : stopped.advance self outcomes attempts = ([], attempts, { stopped with
      control := .calling (.emit self (.stopped runner.path)) .emitStopped }) := by
    simp [stopped, advance, within, init, shown, told]
  let posting : ActorRunner := { stopped with control := .hook .postStop }
  let ending : ActorRunner := { stopped with lifecycle := .terminated, control := .lifecycle }
  have ended : ending.advance self outcomes attempts =
      ([.terminated], attempts, { ending with control := .ended }) := by
    simp [ending, stopped, advance, init, shown, told]
  refine ⟨{ ending with control := .ended }, ?_, rfl, told⟩
  have announced : { stopped with
        control := .calling (.emit self (.stopped runner.path)) .emitStopped }.advance self outcomes
          attempts = ([.emitted (.stopped runner.path)], attempts, posting) := by
    cases outcomes.emission <;> rfl
  have posted : posting.advance self outcomes attempts =
      ([.postStopped outcomes.postStop], attempts, ending) := rfl
  have idle := @startUp_idle self outcomes { ending with control := .ended } (.inr rfl) steps attempts
  rw [startUp_step failed, startUp_step stopping, startUp_step announced, startUp_step posted,
    startUp_step ended, idle]
  rfl

def retried (self : ActorId) (runner : ActorRunner) (result : Except Error Unit) : ActorRunner :=
  runner.beginRestart.hookReturns self .preRestart result

theorem startUp_retried (lifecycle : runner.lifecycle = .restarted)
    (within : runner.control = .lifecycle) (more : runner.retries < runner.strategy.limit)
    (steps attempts : Nat) :
    ∃ left, steps ≤ left ∧
      runner.startUp self outcomes (steps + 3) attempts =
        (restartTurn runner.strategy outcomes attempts ++
          ((runner.retried self (outcomes.attempt (attempts + 1))).startUp self outcomes left
            (attempts + 1)).1,
          ((runner.retried self (outcomes.attempt (attempts + 1))).startUp self outcomes left
            (attempts + 1)).2) := by
  have attempted : runner.beginRestart.advance self outcomes attempts =
      ([.attempted .preRestart (outcomes.attempt (attempts + 1))], attempts + 1,
        runner.retried self (outcomes.attempt (attempts + 1))) := rfl
  cases policy : runner.strategy with
  | stop =>
      rw [policy] at more
      cases more
  | retry strategy =>
      rw [policy, SupervisionStrategy.limit] at more
      cases backoff : strategy.nextBackoff.1 with
      | none =>
          have arm : runner.init self = runner.beginRestart := by
            simp only [init, lifecycle, applySupervisionStrategy, policy, if_pos more, backoff]
          have began : runner.advance self outcomes attempts =
              ([], attempts, runner.beginRestart) := by
            simp [advance, within, arm, shown, beginRestart]
          refine ⟨steps + 1, Nat.le_succ steps, ?_⟩
          rw [startUp_step began, startUp_step attempted, restartTurn, SupervisionStrategy.sleep,
            backoff]
          rfl
      | some duration =>
          let asleep : ActorRunner := { runner with control := .sleep duration }
          have arm : runner.init self = asleep := by
            simp only [init, lifecycle, applySupervisionStrategy, policy, if_pos more, backoff,
              asleep]
          have slept : runner.advance self outcomes attempts = ([], attempts, asleep) := by
            simp [advance, within, arm, shown, asleep]
          have began : asleep.advance self outcomes attempts =
              ([.slept duration], attempts, runner.beginRestart) := rfl
          refine ⟨steps, Nat.le_refl steps, ?_⟩
          rw [startUp_step slept, startUp_step began, startUp_step attempted, restartTurn,
            SupervisionStrategy.sleep, backoff]
          rfl

theorem startUp_gaveUp (lifecycle : runner.lifecycle = .restarted)
    (within : runner.control = .lifecycle) (spent : runner.retries = runner.strategy.limit)
    (steps attempts : Nat) :
    ∃ last, runner.startUp self outcomes (steps + 6) attempts = (runner.failing outcomes, last) ∧
      last.control = .ended ∧ last.initSender = false := by
  have arm : runner.init self = runner.failStart := by
    cases policy : runner.strategy with
    | stop => simp only [init, lifecycle, applySupervisionStrategy, policy]
    | retry strategy =>
        have none : ¬ runner.retries < strategy.maxRetries := by
          rw [spent, policy]
          exact Nat.lt_irrefl _
        simp only [init, lifecycle, applySupervisionStrategy, policy, if_neg none]
  have refused : runner.advance self outcomes attempts =
      (runner.answers (some (startError runner.path runner.strategy.limit)), attempts,
        runner.failStart) := by
    simp only [advance, within, arm]
    cases waiting : runner.initSender <;>
      simp [shown, failStart, answers, waiting, startError, spent]
  obtain ⟨last, failed, ended, told⟩ :=
    @startUp_failed self outcomes runner.failStart rfl rfl rfl steps attempts
  refine ⟨last, ?_, ended, told⟩
  rw [startUp_step refused, failed]
  rfl

theorem startUp_restarted (remaining : Nat) (lifecycle : runner.lifecycle = .restarted)
    (within : runner.control = .lifecycle)
    (left : runner.retries + remaining = runner.strategy.limit) {steps attempts : Nat}
    (enough : 3 * remaining + 6 ≤ steps) (failed : AllFailed outcomes.attempt attempts) :
    let total := attempts + remaining
    let count := made outcomes.attempt total
    ∃ last, runner.startUp self outcomes steps attempts =
        ((List.range' attempts (count - attempts)).flatMap (restartTurn runner.strategy outcomes) ++
          (if firstSuccess outcomes.attempt ≤ total then runner.answers none ++ [.entered]
            else runner.failing outcomes), last) ∧
      last.control = (if firstSuccess outcomes.attempt ≤ total then .select else .ended) ∧
      last.initSender = false := by
  induction remaining generalizing runner steps attempts with
  | zero =>
      intro total count
      have none : count = attempts := made_exhausted failed
      have late : ¬ firstSuccess outcomes.attempt ≤ total := not_le_of_gt (lt_firstSuccess failed)
      obtain ⟨extra, rfl⟩ := Nat.exists_eq_add_of_le' enough
      obtain ⟨last, gaveUp, ended, told⟩ :=
        @startUp_gaveUp self outcomes runner lifecycle within left extra attempts
      refine ⟨last, ?_, ?_, told⟩
      · rw [none, Nat.sub_self, if_neg late]
        exact gaveUp
      · rw [if_neg late]
        exact ended
  | succ remaining ih =>
      intro total count
      obtain ⟨extra, rfl⟩ : ∃ extra, steps = extra + 3 := Nat.exists_eq_add_of_le' (by omega)
      have more : runner.retries < runner.strategy.limit := by omega
      obtain ⟨later, bound, turned⟩ :=
        @startUp_retried self outcomes runner lifecycle within more extra attempts
      have later_made : attempts < count := lt_made (Nat.lt_add_of_pos_right remaining.succ_pos) failed
      have length : count - attempts = count - (attempts + 1) + 1 := by omega
      rw [turned, length, List.range'_succ, List.flatMap_cons, List.append_assoc]
      cases outcome : outcomes.attempt (attempts + 1) with
      | ok value =>
          have succeeded : (outcomes.attempt (attempts + 1)).isOk := by rw [outcome]; rfl
          have early : attempts < total := Nat.lt_add_of_pos_right remaining.succ_pos
          have last : count = attempts + 1 := made_succeeded early failed succeeded
          have inTime : firstSuccess outcomes.attempt ≤ total :=
            firstSuccess_le early failed succeeded
          obtain ⟨final, rfl⟩ : ∃ final, later = final + 1 := Nat.exists_eq_add_of_le' (by omega)
          have entered := @startUp_started self outcomes (runner.retried self (.ok value)) rfl rfl
            final (attempts + 1)
          rw [entered, if_pos inTime, if_pos inTime, last, Nat.sub_self]
          exact ⟨_, rfl, rfl, rfl⟩
      | error error =>
          have failedNext : AllFailed outcomes.attempt (attempts + 1) :=
            allFailed_succ failed (by rw [outcome]; rfl)
          have within : 3 * remaining + 6 ≤ later := by omega
          have rest := @ih (runner.retried self (.error error)) lifecycle rfl
            ((Nat.succ_add_eq_add_succ _ _).trans left) later (attempts + 1) within failedNext
          have counted : attempts + 1 + remaining = total := Nat.succ_add_eq_add_succ _ _
          rw [counted] at rest
          obtain ⟨last, events, ended, told⟩ := rest
          exact ⟨last, by rw [events]; rfl, ended, told⟩

end Steps

theorem answer_kept {world next : World} {id : ActorId} {runner moved : ActorRunner}
    {choice : World.Choice} (moves : World.RunnerStep world id runner choice next moved)
    (told : runner.initSender = false) :
    moved.initSender = false ∧ moved.initAnswer = runner.initAnswer := by
  cases moves with
  | init =>
      have arm := runner.init_arm id
      generalize runner.init id = moved at arm
      cases arm with
      | started => exact ⟨rfl, by simp [enterRun, told]⟩
      | gaveUp => exact ⟨rfl, by simp [failStart, told]⟩
      | _ => exact ⟨told, rfl⟩
  | @returned hook result =>
      have arm := runner.hookReturns_arm id hook result
      generalize runner.hookReturns id hook result = moved at arm
      cases arm <;> exact ⟨told, rfl⟩
  | @signal emitter signal => cases signal <;> exact ⟨told, rfl⟩
  | @action action => cases action <;> exact ⟨told, rfl⟩
  | @access _ _ point _ progress =>
      cases progress with
      | call next => exact ⟨told, rfl⟩
      | «return» outcome =>
          have arm := runner.resume_arm id point outcome
          rw [proceed]
          generalize runner.resume id point outcome = moved at arm
          cases arm <;> exact ⟨told, rfl⟩
  | _ => exact ⟨told, rfl⟩

end ActorRunner

/-- A start calls `pre_start` and then `pre_restart` up to the first success and at
most once more than the strategy allows retries. Success is answered before `run` is
entered; failure is answered, announced as Stopped, followed by `post_stop` and the
end of the task. Nothing is answered after that. -/
theorem start_up (self : ActorId) (path : ActorPath) (supervisor : Supervisor)
    (strategy : SupervisionStrategy) (outcomes : StartOutcomes) (extra : Nat) :
    let total := strategy.limit + 1
    let count := made outcomes.attempt total
    let success := firstSuccess outcomes.attempt ≤ total
    let run := (ActorRunner.new path supervisor strategy).startUp self outcomes
      (3 * strategy.limit + 8 + extra) 0
    run.1 = .attempted .preStart (outcomes.attempt 1) ::
        (List.range' 1 (count - 1)).flatMap (restartTurn strategy outcomes) ++
        (if success then [.answered none, .entered]
          else [.answered (some (ActorRunner.startError path strategy.limit)),
            .emitted (.stopped path), .postStopped outcomes.postStop, .terminated]) ∧
      run.2.control = (if success then .select else .ended) ∧
      run.2.initSender = false ∧
      ∀ world next runner moved choice,
        World.RunnerStep world self runner choice next moved → runner.initSender = false →
          moved.initSender = false ∧ moved.initAnswer = runner.initAnswer := by
  intro total count success run
  let created : ActorRunner :=
    { ActorRunner.new path supervisor strategy with control := .hook .preStart }
  let after := created.hookReturns self .preStart (outcomes.attempt 1)
  have began : (ActorRunner.new path supervisor strategy).advance self outcomes 0 =
      ([], 0, created) := rfl
  have attempted : created.advance self outcomes 0 =
      ([.attempted .preStart (outcomes.attempt 1)], 1, after) := rfl
  have fuel : 3 * strategy.limit + 8 + extra = 3 * strategy.limit + 6 + extra + 1 + 1 := by omega
  suffices told : ∃ last, after.startUp self outcomes (3 * strategy.limit + 6 + extra) 1 =
        ((List.range' 1 (count - 1)).flatMap (restartTurn strategy outcomes) ++
          (if success then created.answers none ++ [.entered] else created.failing outcomes), last) ∧
      last.control = (if success then .select else .ended) ∧ last.initSender = false by
    obtain ⟨last, events, ended, told⟩ := told
    have moved : run = (.attempted .preStart (outcomes.attempt 1) ::
        ((List.range' 1 (count - 1)).flatMap (restartTurn strategy outcomes) ++
          (if success then created.answers none ++ [.entered] else created.failing outcomes)),
        last) := by
      simp only [run, fuel]
      rw [ActorRunner.startUp_step began, ActorRunner.startUp_step attempted, events]
      rfl
    rw [moved]
    exact ⟨rfl, ended, told, fun _ _ _ _ _ => ActorRunner.answer_kept⟩
  have none : AllFailed outcomes.attempt 0 := allFailed_zero
  cases outcome : outcomes.attempt 1 with
  | ok value =>
      have succeeded : (outcomes.attempt 1).isOk := by rw [outcome]; rfl
      have once : count = 1 := made_succeeded (Nat.succ_pos _) none succeeded
      have inTime : success := firstSuccess_le (Nat.succ_pos _) none succeeded
      have entered := @ActorRunner.startUp_started self outcomes
        (created.hookReturns self .preStart (.ok value)) rfl rfl (3 * strategy.limit + 5 + extra) 1
      have left : 3 * strategy.limit + 6 + extra = 3 * strategy.limit + 5 + extra + 1 := by omega
      simp only [after, outcome]
      rw [left, entered, once, if_pos inTime, if_pos inTime]
      exact ⟨_, rfl, rfl, rfl⟩
  | error error =>
      have failed : AllFailed outcomes.attempt 1 := allFailed_succ none (by rw [outcome]; rfl)
      have rest := @ActorRunner.startUp_restarted self outcomes
        (created.hookReturns self .preStart (.error error)) strategy.limit rfl rfl
        (Nat.zero_add _) _ 1 (Nat.le_add_right _ extra) failed
      have counted : 1 + strategy.limit = total := Nat.add_comm _ _
      simp only [after, outcome]
      rw [counted] at rest
      exact rest

/-- The attempts to restart, each after a delay of its own. -/
def progressive (outcomes : StartOutcomes) (durations : List Duration) : List StartEvent :=
  durations.zipIdx.flatMap fun (duration, index) =>
    [.slept duration, .attempted .preRestart (outcomes.attempt (index + 1))]

def StartEvent.slept? : StartEvent → Option Duration
  | .slept duration => some duration
  | _ => none

section Backoff

variable {outcomes : StartOutcomes}

theorem progressive_sleeps (durations : List Duration) :
    (progressive outcomes durations).filterMap StartEvent.slept? = durations := by
  rw [progressive, List.filterMap_flatMap]
  have each (pair : Duration × Nat) : List.filterMap StartEvent.slept?
      [.slept pair.1, .attempted .preRestart (outcomes.attempt (pair.2 + 1))] = [pair.1] := rfl
  simp only [each]
  rw [← List.map_eq_flatMap, List.zipIdx_map_fst]

theorem restartTurns_custom (first : Duration) (rest : List Duration) (count start : Nat) :
    (List.range' start count).flatMap
        (restartTurn (.retry (.customInterval (.new (first :: rest)))) outcomes) =
      ((List.replicate count first).zipIdx start).flatMap fun (duration, index) =>
        [.slept duration, .attempted .preRestart (outcomes.attempt (index + 1))] := by
  induction count generalizing start with
  | zero => rfl
  | succ count ih =>
      rw [List.range'_succ, List.flatMap_cons, ih, List.replicate_succ, List.zipIdx_cons,
        List.flatMap_cons]
      rfl

theorem ending_sleeps (runner : ActorRunner) (success : Prop) [Decidable success] :
    (if success then runner.answers none ++ [.entered] else runner.failing outcomes).filterMap
      StartEvent.slept? = [] := by
  cases waiting : runner.initSender <;>
    split <;> simp [ActorRunner.answers, ActorRunner.failing, waiting, StartEvent.slept?]

/-- The restarts of an actor sleep for the strategy's durations, one after the other,
exactly if those they come to are all the same. -/
theorem custom_backoff_iff (self : ActorId) (runner : ActorRunner) (outcomes : StartOutcomes)
    (durations : List Duration) (extra : Nat) :
    let reached := durations.take (made outcomes.attempt durations.length)
    let restarting : ActorRunner :=
      { runner with
        lifecycle := .restarted
        control := .lifecycle
        retries := 0
        strategy := .retry (.customInterval (.new durations)) }
    progressive outcomes reached <+:
        (restarting.startUp self outcomes (3 * durations.length + 6 + extra) 0).1 ↔
      ∀ duration ∈ reached, durations.head? = some duration := by
  intro reached restarting
  have none : AllFailed outcomes.attempt 0 := allFailed_zero
  obtain ⟨last, run, _, _⟩ := @ActorRunner.startUp_restarted self outcomes restarting
    durations.length rfl rfl (Nat.zero_add _) _ 0 (Nat.le_add_right _ extra) none
  rw [Nat.zero_add, Nat.sub_zero] at run
  rw [run]
  have quiet := @ending_sleeps outcomes restarting
    (firstSuccess outcomes.attempt ≤ durations.length) inferInstance
  generalize (if firstSuccess outcomes.attempt ≤ durations.length then
    restarting.answers Option.none ++ [.entered] else restarting.failing outcomes) = ending at quiet
  have length : reached.length = made outcomes.attempt durations.length := by
    rw [List.length_take, Nat.min_eq_left (made_le _ _)]
  cases given : durations with
  | nil => simp [reached, given, progressive]
  | cons first rest =>
      have slept : restarting.strategy = .retry (.customInterval (.new (first :: rest))) := by
        rw [← given]
      have turns : (List.range' 0 reached.length).flatMap (restartTurn restarting.strategy outcomes) =
          progressive outcomes (List.replicate reached.length first) := by
        rw [slept]
        exact restartTurns_custom first rest reached.length 0
      have equal : reached = List.replicate reached.length first ↔
          ∀ duration ∈ reached, durations.head? = some duration := by
        rw [List.eq_replicate_iff, given]
        simp only [true_and, List.head?_cons, Option.some.injEq, eq_comm]
      rw [← given, ← length, turns, ← equal]
      constructor
      · intro shown
        have sleeps := shown.filterMap StartEvent.slept?
        rw [List.filterMap_append, quiet, List.append_nil, progressive_sleeps,
          progressive_sleeps] at sleeps
        exact sleeps.eq_of_length (List.length_replicate).symm
      · intro same
        rw [← same]
        exact List.prefix_append _ _

theorem second_delay_missing :
    let outcomes : StartOutcomes :=
      ⟨fun _ => .error (.store "unavailable"), .done, .ok ()⟩
    let restarting : ActorRunner :=
      { ActorRunner.new (.ofText "/user/a") .system (.retry (.customInterval (.new [1, 2]))) with
        lifecycle := .restarted }
    ¬ progressive outcomes [1, 2] <+: (restarting.startUp 0 outcomes 12 0).1 := by
  intro outcomes restarting shown
  have sleeps := shown.filterMap StartEvent.slept?
  rw [progressive_sleeps] at sleeps
  have same : (restarting.startUp 0 outcomes 12 0).1.filterMap StartEvent.slept? = [1, 1] := rfl
  rw [same] at sleeps
  exact absurd sleeps (by decide)

end Backoff

end Rush.Actor
