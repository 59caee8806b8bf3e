import Rush.Actor.Orphans
import Rush.Actor.Signals

/-! Whether the system waits for its root actors before it shuts down. The loop of
the `SystemRunner` ends when it finds no child in the registry, from which
`stop_children` has taken the root actors before they stop. -/

namespace Rush.Actor

open Rush.Library Runs

def SystemPoint.exits : SystemPoint → Bool
  | .cancelled | .hasChilds => true
  | .childError | .childFault | .removeChild => false

def Call.counts : Call → Option ActorPath
  | .stopChildren parent | .hasChilds parent => some parent
  | _ => none

def SystemControl.exitsUnder : SystemControl → Option ActorPath
  | .calling call point => if point.exits then call.counts else none
  | .select | .ended => none

def SystemRunner.Open (runner : SystemRunner) : Prop :=
  runner.shutdownFlag = false ∧ runner.control ≠ .ended ∧
    ∀ call point, runner.control = .calling call point → point.exits = false

namespace SystemRunner

variable {runner : SystemRunner}

theorem Open.proceed (isOpen : runner.Open) {call : Call} {point : SystemPoint}
    (within : runner.control = .calling call point) (progress : Progress) :
    (runner.proceed point progress).Open := by
  obtain ⟨flag, _, quiet⟩ := isOpen
  have stays := quiet call point within
  cases progress with
  | call next =>
      refine ⟨flag, nofun, ?_⟩
      intro other here moved
      cases moved
      exact stays
  | «return» outcome =>
      change (runner.resume point outcome).Open
      have arm := runner.resume_arm point outcome
      generalize runner.resume point outcome = moved at arm
      cases arm with
      | ended last =>
          rcases last with rfl | rfl
          · cases stays
          · cases stays
      | counts _ shutdown => cases flag.symm.trans shutdown
      | serves => exact ⟨flag, nofun, nofun⟩

theorem Open.takeSignal (isOpen : runner.Open) (emitter : ActorId) (signal : ActorSignal) :
    (runner.takeSignal emitter signal).Open := by
  cases signal with
  | _ =>
      refine ⟨isOpen.1, nofun, ?_⟩
      intro call point moved
      cases moved
      rfl

end SystemRunner

namespace World

/-- A root actor that has come to its end: it runs no more, has not panicked, and its
Stopped signal is not in the queue. -/
def Settled (world : World) (id : ActorId) : Prop :=
  world.running .system id = false ∧ world.panicked id = false ∧
    ∀ sent ∈ world.waiting .system, sent.1 = id → sent.2.isStopped = false

/-- When the loop looks for children before it ends and finds none registered, the
given root actors have come to their ends. -/
def RootsTell (roots : List ActorId) (world : World) : Label → Prop
  | .task .runner _ => ∀ parent ∈ world.runner.control.exitsUnder,
      world.getChilds parent = ∅ → ∀ id ∈ roots, world.Settled id
  | .task (.actor _) _ | .task (.client _) _ | .cancel => True

instance (world : World) (id : ActorId) : Decidable (world.Settled id) :=
  inferInstanceAs (Decidable (_ ∧ _ ∧ _))

instance (roots : List ActorId) (world : World) :
    (label : Label) → Decidable (world.RootsTell roots label)
  | .task .runner _ => inferInstanceAs (Decidable (∀ parent ∈ world.runner.control.exitsUnder, _))
  | .task (.actor _) _ | .task (.client _) _ | .cancel => inferInstanceAs (Decidable True)

/-- Once the loop has ended, the given root actors have emitted their Stopped
signals and these have been processed. -/
def ShutdownWaits (world : World) (roots : List ActorId) : Prop :=
  world.runner.control = .ended →
    ∀ id ∈ roots, id ∈ world.history.emitted ∧ id ∈ world.history.processed

variable {world next after : World} {label : Label} {roots : List ActorId}

theorem Access.cancelled {supervisor : Supervisor} {call : Call} {progress : Progress}
    (access : Access world supervisor call next progress) : next.cancelled = world.cancelled := by
  cases access with
  | @emitRefused child signal => cases signal <;> rfl
  | @emitted child signal => cases signal <;> rfl
  | _ => rfl

inductive RunnerOf (world after : World) : Label → Prop
  | own {choice : Choice} {next : World} {moved : SystemRunner}
      (moves : SystemStep world choice next moved) (here : after = next.setSystemRunner moved)
      (token : after.cancelled = world.cancelled) : RunnerOf world after (.task .runner choice)
  | other {task : Task} {choice : Choice} (apart : task ≠ .runner)
      (same : after.runner = world.runner) (token : after.cancelled = world.cancelled) :
      RunnerOf world after (.task task choice)
  | cancel (same : after.runner = world.runner) (token : after.cancelled = true) :
      RunnerOf world after .cancel

theorem step_runnerOf (taken : step world label = some after) : RunnerOf world after label := by
  cases label with
  | cancel =>
      cases taken
      exact .cancel rfl rfl
  | task task choice =>
      cases task with
      | client id =>
          obtain ⟨next, call, moves, rfl⟩ := clientStep_cases taken
          cases moves with
          | began => exact .other nofun rfl rfl
          | access within access => exact .other nofun access.tasks.1 access.cancelled
      | actor id =>
          obtain ⟨runner, next, moved, found, moves, rfl⟩ := actorStep_cases taken
          cases moves with
          | access within access => exact .other nofun access.tasks.1 access.cancelled
          | _ => exact .other nofun rfl rfl
      | runner =>
          obtain ⟨next, moved, moves, rfl⟩ := runnerStep_cases taken
          refine .own moves rfl ?_
          cases moves with
          | access within access => exact access.cancelled
          | _ => rfl

theorem step_open (before : world.cancelled = false → world.runner.Open)
    (taken : step world label = some after) (uncancelled : after.cancelled = false) :
    after.runner.Open := by
  cases step_runnerOf taken with
  | cancel same token => cases token.symm.trans uncancelled
  | other apart same token =>
      rw [same]
      exact before (token.symm.trans uncancelled)
  | own moves here token =>
      subst here
      have isOpen := before (token.symm.trans uncancelled)
      cases moves with
      | cancelled within cancelled => cases cancelled.symm.trans (token.symm.trans uncancelled)
      | signal => exact isOpen.takeSignal _ _
      | access within access => exact isOpen.proceed within _

theorem open_reached (reached : Reachable step Initial world) :
    world.cancelled = false → world.runner.Open := by
  refine guarded_invariant (fun world => world.cancelled = false → world.runner.Open) ?_ ?_ reached
  · rintro world ⟨config, rfl⟩ _
    exact ⟨rfl, nofun, nofun⟩
  · exact fun world label after before _ taken => step_open before taken

def Delivered (world : World) (id : ActorId) : Prop :=
  (∃ sent ∈ world.waiting .system, sent.1 = id ∧ sent.2.isStopped = true) ∨
    (∃ path, world.callOf .runner = some (.removeChild path (some id))) ∨
      id ∈ world.history.processed

/-- What the loop keeps while it waits for the root actors. -/
structure Waits (world : World) (roots : List ActorId) : Prop where
  mine : ∀ id ∈ roots, id ∈ world.history.created ∧
    ∃ path, world.identityOf id = some (path, .system)
  delivered : world.runner.control ≠ .ended → ∀ id ∈ roots, id ∈ world.history.emitted →
    world.Delivered id
  complete : world.ShutdownWaits roots

theorem Delivered.later {id : ActorId} (delivered : world.Delivered id)
    (taken : step world label = some after) : after.Delivered id := by
  rcases delivered with ⟨⟨emitter, signal⟩, waits, rfl, stopped⟩ | ⟨path, calling⟩ | processed
  · rcases step_waiting taken waits with later | ⟨rfl, selects, rest, received⟩
    · exact .inl ⟨_, later, rfl, stopped⟩
    · have select : world.runner.control = .select := of_decide_eq_true selects
      change world.runnerStep .signal = some after at taken
      obtain ⟨next, moved, moves, rfl⟩ := runnerStep_cases taken
      cases moves with
      | signal within first =>
          cases first.symm.trans received
          cases signal with
          | stopped child => exact .inr (.inl ⟨child, rfl⟩)
          | _ => cases stopped
      | access within access => cases within.symm.trans select
  · cases label with
    | cancel =>
        cases taken
        exact .inr (.inl ⟨path, calling⟩)
    | task task choice =>
        by_cases here : task = .runner
        · subst here
          cases step_task taken with
          | own idle follows begins => cases calling.symm.trans idle
          | access calls access follows continues =>
              cases calls.symm.trans calling
              cases access with
              | childRemoved =>
                  right
                  right
                  rw [follows.history]
                  exact List.mem_append_left _ (Option.mem_toList.mpr rfl)
        · have kept : after.callOf .runner = world.callOf .runner := by
            cases step_task taken with
            | own idle follows begins => exact follows.others .runner (Ne.symm here)
            | access calls access follows continues =>
                exact (follows.others .runner (Ne.symm here)).trans (access.callOf .runner)
          exact .inr (.inl ⟨path, kept.trans calling⟩)
  · exact .inr (.inr ((step_within taken).processed id processed))

/-- A root actor at its end that ran before has emitted, and its signal has been
processed, when the loop is at an exit test. -/
theorem Waits.settled (waits : world.Waits roots) {parent : ActorPath}
    (exits : world.runner.control.exitsUnder = some parent) {id : ActorId} (member : id ∈ roots)
    (settled : world.Settled id) :
    id ∈ world.history.emitted ∧ id ∈ world.history.processed := by
  obtain ⟨created, path, identity⟩ := waits.mine id member
  obtain ⟨still, calm, unqueued⟩ := settled
  have emitted : id ∈ world.history.emitted := by
    by_contra silent
    obtain ⟨runner, found, same⟩ := Option.map_eq_some_iff.mp identity
    have unpanicked : runner.panicked = false := by
      rw [World.panicked, found, Option.any_some] at calm
      exact calm
    have runs := running_iff.mpr
      ⟨runner, found, congrArg Prod.snd same, created, silent, unpanicked⟩
    cases runs.symm.trans still
  have going : world.runner.control ≠ .ended := by
    intro ended
    rw [ended] at exits
    cases exits
  refine ⟨emitted, ?_⟩
  rcases waits.delivered going id member emitted with ⟨sent, queued, own, stopped⟩ | ⟨_, calling⟩ | done
  · cases (unqueued sent queued own).symm.trans stopped
  · rw [callOf] at calling
    cases within : world.runner.control with
    | calling call point =>
        rw [within] at exits calling
        cases calling
        rw [SystemControl.exitsUnder] at exits
        split at exits
        · cases exits
        · cases exits
    | _ =>
        rw [within] at calling
        cases calling
  · exact done

theorem exits_of_ended (taken : step world label = some after)
    (going : world.runner.control ≠ .ended) (ended : after.runner.control = .ended) :
    (∃ choice, label = .task .runner choice) ∧
      ∃ parent, world.runner.control.exitsUnder = some parent ∧ world.getChilds parent = ∅ := by
  cases step_runnerOf taken with
  | cancel same token => exact absurd (same ▸ ended) going
  | other apart same token => exact absurd (same ▸ ended) going
  | @own choice next moved moves here token =>
      subst here
      refine ⟨⟨choice, rfl⟩, ?_⟩
      cases moves with
      | cancelled => cases ended
      | @signal emitter signal => cases signal <;> cases ended
      | @access choice call point _ progress within access =>
          cases progress with
          | call => cases ended
          | «return» outcome =>
              change (world.runner.resume point outcome).control = .ended at ended
              have arm := world.runner.resume_arm point outcome
              generalize world.runner.resume point outcome = moved at arm ended
              cases arm with
              | ended last =>
                  obtain ⟨parent, which, empty⟩ := access.found_none
                  refine ⟨parent, ?_, empty⟩
                  rw [within, SystemControl.exitsUnder]
                  rcases which with rfl | rfl <;> rcases last with rfl | rfl <;> rfl
              | counts => cases ended
              | serves => cases ended

theorem step_waits (phased : world.Phased) (waits : world.Waits roots)
    (permitted : world.RootsTell roots label) (taken : step world label = some after) :
    after.Waits roots := by
  have within := step_within taken
  constructor
  case mine =>
    intro id member
    obtain ⟨created, path, identity⟩ := waits.mine id member
    exact ⟨within.created id created, path, step_identity taken identity⟩
  case delivered =>
    intro going id member emitted
    have before : world.runner.control ≠ .ended := by
      intro ended
      apply going
      cases step_runnerOf taken with
      | cancel same => rw [same, ended]
      | other apart same => rw [same, ended]
      | own moves => cases moves with
        | _ within => cases within.symm.trans ended
    by_cases old : id ∈ world.history.emitted
    · exact (waits.delivered before id member old).later taken
    · obtain ⟨_, path, identity⟩ := waits.mine id member
      obtain ⟨runner, found, same⟩ := Option.map_eq_some_iff.mp identity
      have root : runner.supervisor = .system := congrArg Prod.snd same
      obtain ⟨child, queued⟩ := step_emits phased taken found
        (by rw [root]; exact decide_eq_false before) old emitted
      rw [root] at queued
      exact .inl ⟨_, queued, rfl, rfl⟩
  case complete =>
    intro ended id member
    by_cases before : world.runner.control = .ended
    · obtain ⟨emitted, processed⟩ := waits.complete before id member
      exact ⟨within.emitted id emitted, within.processed id processed⟩
    · obtain ⟨⟨choice, rfl⟩, parent, exits, empty⟩ := exits_of_ended taken before ended
      obtain ⟨emitted, processed⟩ :=
        waits.settled exits member (permitted parent exits empty id member)
      exact ⟨within.emitted id emitted, within.processed id processed⟩

/-- The loop ends only after every root actor that ran when the token was cancelled
has emitted and its signal has been processed, in every run in which an exit test
that finds no registered child finds all of them at their ends. -/
theorem shutdown_waits (reached : Reachable step Initial world) (first : world.cancelled = false)
    (run : Guarded step (fun state => state = { world with cancelled := true })
      (RootsTell (world.runningChildren .system)) after) :
    after.ShutdownWaits (world.runningChildren .system) := by
  have cancelled : Reachable step Initial { world with cancelled := true } :=
    .next world .cancel reached trivial rfl
  have invariant : after.Phased ∧ after.Waits (world.runningChildren .system) := by
    refine guarded_invariant
      (fun state => state.Phased ∧ state.Waits (world.runningChildren .system)) ?_ ?_ run
    · rintro state rfl
      refine ⟨phased_reached cancelled, ?_⟩
      constructor
      case mine =>
        intro id member
        obtain ⟨runner, found, root, created, _⟩ := running_iff.mp (mem_runningChildren.mp member)
        exact ⟨created, runner.path, Option.map_eq_some_iff.mpr ⟨runner, found, by rw [← root]; rfl⟩⟩
      case delivered =>
        intro _ id member emitted
        obtain ⟨_, _, _, _, silent, _⟩ := running_iff.mp (mem_runningChildren.mp member)
        exact absurd emitted silent
      case complete => exact fun ended => absurd ended (open_reached reached first).2.1
    · rintro state label after ⟨phased, waits⟩ permitted taken
      exact ⟨step_phased phased taken, step_waits phased waits permitted taken⟩
  exact invariant.2.complete

section Scenarios

def shutdownAsks (name : String) : List Label :=
  [Label.task .runner .cancellation, .task .runner .proceed, .task .runner (.order [rootPath / name])] ++
    List.replicate 3 (Label.task .runner .proceed)

theorem signal_ends_shutdown :
    ∃ world after, Reachable step Initial world ∧ world.cancelled = false ∧
      world.runningChildren .system = [0] ∧
      Guarded step (fun state => state = { world with cancelled := true })
        (RootsTell (world.runningChildren .system)) after ∧
      after.ShutdownWaits (world.runningChildren .system) ∧ after.runner.control = .ended := by
  have begun : ((Runs.run step (World.new Config.default) (creates 0 "a")).any fun world =>
      world.cancelled = false ∧ world.runningChildren .system = [0] ∧
        ((Runs.checkedRun step (fun state label => decide (state.RootsTell [0] label))
          { world with cancelled := true }
          (shutdownAsks "a" ++ takesStop 0 ++ announces 0 ++ .task .runner .signal ::
            List.replicate 3 (.task .runner .proceed))).any fun after =>
              after.runner.control = .ended) = true) = true := by
    decide
  obtain ⟨world, ran, facts⟩ := (Option.any_eq_true _ _).mp begun
  obtain ⟨first, roots, later⟩ := of_decide_eq_true facts
  obtain ⟨after, checked, ended⟩ := (Option.any_eq_true _ _).mp later
  have reached : Reachable step Initial world := reachable_run (.start ⟨_, rfl⟩) ran
  have run : Guarded step (fun state => state = { world with cancelled := true })
      (RootsTell (world.runningChildren .system)) after := by
    rw [roots]
    exact guarded_checkedRun (fun _ _ => of_decide_eq_true) (.start rfl) checked
  exact ⟨world, after, reached, first, roots, run, shutdown_waits reached first run,
    of_decide_eq_true ended⟩

/-- A second turn of the cancellation branch ends the loop while a root actor runs. -/
theorem second_cancellation_ends_shutdown :
    ¬ ∀ world after, Reachable step Initial world → world.cancelled = false →
      Guarded step (fun state => state = { world with cancelled := true }) (fun _ _ => True)
        after → after.ShutdownWaits (world.runningChildren .system) := by
  intro claimed
  have begun : ((Runs.run step (World.new Config.default) (creates 0 "a")).any fun world =>
      world.cancelled = false ∧ world.runningChildren .system = [0] ∧
        ((Runs.run step { world with cancelled := true }
          (shutdownAsks "a" ++ [Label.task .runner .cancellation, .task .runner .proceed])).any
            fun after => after.runner.control = .ended ∧ 0 ∉ after.history.emitted) = true) =
        true := by
    decide
  obtain ⟨world, ran, facts⟩ := (Option.any_eq_true _ _).mp begun
  obtain ⟨first, roots, later⟩ := of_decide_eq_true facts
  obtain ⟨after, moved, outcome⟩ := (Option.any_eq_true _ _).mp later
  obtain ⟨ended, silent⟩ := of_decide_eq_true outcome
  have reached : Reachable step Initial world := reachable_run (.start ⟨_, rfl⟩) ran
  have run : Reachable step (fun state => state = { world with cancelled := true }) after :=
    reachable_run (.start rfl) moved
  have told := claimed world after reached first run ended 0
  rw [roots] at told
  exact silent (told List.mem_cons_self).1

end Scenarios

end World

end Rush.Actor
