import Rush.Actor.Restart
import Rush.Actor.RunLoop
import Rush.Actor.Startup

/-! The order in which the hooks of an actor are called. What an observer notes of an
actor's task, over any run, is a word of one small automaton: the life that the runner gives
to its actor. -/

namespace Rush.Actor

open Rush.Library Runs

/-- What is noted of an actor's task. -/
inductive HookEvent where
  | called (hook : Hook)
  | returned (hook : Hook) (result : Except Error Unit)
  | panicked (hook : Hook)
  /-- `run` takes a Restart. -/
  | restarts
  /-- `run` takes a child's Stopped. -/
  | childStopped
  deriving DecidableEq

def Hook.runs : Hook → Bool
  | .handle | .onChildError _ _ | .onChildFault _ _ | .preStop => true
  | .preStart | .preRestart | .postStop => false

/-- The stages of an actor's life. -/
inductive Stage where
  | created
  | starting
  /-- `mayEnd` after a `pre_stop` and after a child's Stopped. -/
  | up (mayEnd : Bool)
  | inHook (hook : Hook)
  /-- A Restart has been taken. -/
  | leaving
  /-- The start or so many restarts have failed. -/
  | down (failures : Nat)
  | restarting (attempt : Nat)
  | stopping
  | ended
  | panicked
  deriving DecidableEq

namespace Stage

def mayStop (limit : Nat) : Stage → Bool
  | .up mayEnd => mayEnd
  | .leaving => true
  | .down failures => limit ≤ failures
  | _ => false

def failures? : Stage → Option Nat
  | .leaving => some 0
  | .down failures => some failures
  | _ => none

def within? : Stage → Option Hook
  | .starting => some .preStart
  | .restarting _ => some .preRestart
  | .inHook hook => some hook
  | .stopping => some .postStop
  | _ => none

/-- The life of an actor, whose restart is tried at most `limit` times in a row. -/
def next (limit : Nat) (stage : Stage) : HookEvent → Option Stage
  | .called .preStart => if stage = .created then some .starting else none
  | .called .preRestart => do
      let failures ← stage.failures?
      if failures < limit then some (.restarting (failures + 1)) else none
  | .called .postStop => if stage.mayStop limit then some .stopping else none
  | .called hook =>
      match stage with
      | .up _ => some (.inHook hook)
      | _ => none
  | .returned hook result =>
      match stage, result with
      | .starting, .ok () => if hook = .preStart then some (.up false) else none
      | .starting, .error _ => if hook = .preStart then some (.down 0) else none
      | .restarting _, .ok () => if hook = .preRestart then some (.up false) else none
      | .restarting attempt, .error _ => if hook = .preRestart then some (.down attempt) else none
      | .inHook within, _ => if hook = within then some (.up (hook = .preStop)) else none
      | .stopping, _ => if hook = .postStop then some .ended else none
      | _, _ => none
  | .panicked hook => if stage.within? = some hook then some .panicked else none
  | .restarts =>
      match stage with
      | .up _ => some .leaving
      | _ => none
  | .childStopped =>
      match stage with
      | .up _ => some (.up true)
      | _ => none

end Stage

namespace ActorRunner

variable (runner moved : ActorRunner)

/-- The hook that a runner enters by a step from outside all hooks. -/
def entered : List HookEvent :=
  match moved.control with
  | .hook hook => [.called hook]
  | _ => []

def notes (choice : World.Choice) : List HookEvent :=
  match runner.control with
  | .hook hook =>
      match choice with
      | .returns result => [.returned hook result]
      | .panics => [.panicked hook]
      | _ => []
  | .select =>
      match moved.control with
      | .calling .restartChildren _ => [.restarts]
      | .calling _ _ => [.childStopped]
      | _ => moved.entered
  | .calling _ (.hook _) => []
  | _ => moved.entered

def Within (stage : Stage) : Hook → Prop
  | .preStart => stage = .starting ∧ runner.retries = 0
  | .preRestart => stage = .restarting runner.retries ∧ runner.lifecycle = .restarted
  | .postStop => stage = .stopping
  | hook => stage = .inHook hook ∧ runner.retries = 0

def At (stage : Stage) : Prop :=
  match runner.control with
  | .lifecycle =>
      match runner.lifecycle with
      | .created => stage = .created ∧ runner.retries = 0
      | .started => (∃ mayEnd, stage = .up mayEnd) ∧ runner.retries = 0
      | .restarted => stage.failures? = some runner.retries
      | .failed | .stopped => stage.mayStop runner.strategy.limit = true
      | .terminated => stage = .ended
  | .hook hook | .calling _ (.hook hook) => runner.Within stage hook
  | .sleep _ => stage.failures? = some runner.retries ∧
      runner.retries < runner.strategy.limit ∧ runner.lifecycle = .restarted
  | .select => (∃ mayEnd, stage = .up mayEnd) ∧ runner.retries = 0
  | .calling _ .preStopFault | .calling _ .stopChildren | .calling _ .stopFault
  | .calling _ .removeChild | .calling _ .hasChilds => stage = .up true ∧ runner.retries = 0
  | .calling _ .restartChildren | .calling _ .restartFault =>
      stage = .leaving ∧ runner.retries = 0
  | .calling _ .emitStopped => stage.mayStop runner.strategy.limit = true
  | .ended => stage = .ended
  | .panicked => stage = .panicked

section Steps

variable {runner moved : ActorRunner} {stage later : Stage} {id : ActorId}

def Lives (stage : Stage) (noted : List HookEvent) (moved : ActorRunner) : Prop :=
  ∃ next, Runs.run (Stage.next moved.strategy.limit) stage noted = some next ∧ moved.At next

theorem lives_quiet (here : moved.At stage) : Lives stage [] moved := ⟨stage, rfl, here⟩

theorem lives_noted (later : Stage) {event : HookEvent}
    (goes : stage.next moved.strategy.limit event = some later) (there : moved.At later) :
    Lives stage [event] moved := by
  refine ⟨later, ?_, there⟩
  rw [Runs.run, goes]
  rfl

theorem begin_lives (failed : stage.failures? = some runner.retries)
    (fewer : runner.retries < runner.strategy.limit) (lifecycle : runner.lifecycle = .restarted) :
    Lives stage runner.beginRestart.entered runner.beginRestart := by
  refine lives_noted (.restarting (runner.retries + 1)) ?_ ⟨rfl, lifecycle⟩
  simp [Stage.next, failed, beginRestart, fewer]

theorem fail_lives (failed : stage.failures? = some runner.retries)
    (none : runner.strategy.limit ≤ runner.retries) :
    Lives stage runner.failStart.entered runner.failStart := by
  refine lives_quiet ?_
  show stage.mayStop runner.strategy.limit = true
  cases stage with
  | leaving => rfl
  | down failures =>
      cases failed
      exact decide_eq_true none
  | _ => cases failed

theorem supervision_lives (failed : stage.failures? = some runner.retries)
    (lifecycle : runner.lifecycle = .restarted) :
    Lives stage runner.applySupervisionStrategy.entered runner.applySupervisionStrategy := by
  rw [applySupervisionStrategy]
  split
  case h_1 strategy =>
    refine fail_lives failed ?_
    rw [strategy]
    exact Nat.zero_le _
  case h_2 strategy given =>
    have limit : runner.strategy.limit = strategy.maxRetries := by
      rw [given]
      rfl
    split
    case isTrue fewer =>
      rw [← limit] at fewer
      split
      case h_1 => exact lives_quiet ⟨failed, fewer, lifecycle⟩
      case h_2 => exact begin_lives failed fewer lifecycle
    case isFalse none =>
      refine fail_lives failed ?_
      rw [limit]
      exact Nat.not_lt.mp none

theorem init_lives (within : runner.control = .lifecycle) (here : runner.At stage) :
    Lives stage (runner.init id).entered (runner.init id) := by
  rw [At, within] at here
  rw [init]
  cases lifecycle : runner.lifecycle with
  | created =>
      rw [lifecycle] at here
      obtain ⟨rfl, fresh⟩ := here
      exact lives_noted .starting rfl ⟨rfl, fresh⟩
  | started =>
      rw [lifecycle] at here
      exact lives_quiet here
  | restarted =>
      rw [lifecycle] at here
      exact supervision_lives here lifecycle
  | failed =>
      rw [lifecycle] at here
      have silent : ({ runner with lifecycle := .stopped } : ActorRunner).entered = [] := by
        simp [entered, within]
      dsimp only
      rw [silent]
      refine lives_quiet ?_
      rw [At]
      simp only [within]
      exact here
  | stopped =>
      rw [lifecycle] at here
      exact lives_quiet here
  | terminated =>
      rw [lifecycle] at here
      exact lives_quiet here

theorem returned_lives {hook : Hook} (result : Except Error Unit)
    (here : runner.Within stage hook) :
    Lives stage [.returned hook result] (runner.hookReturns id hook result) := by
  have arm := hookReturns_arm id runner hook result
  generalize runner.hookReturns id hook result = moved at arm
  cases arm with
  | started =>
      obtain ⟨rfl, fresh⟩ := here
      exact lives_noted (.up false) rfl ⟨⟨false, rfl⟩, fresh⟩
  | startFailed =>
      obtain ⟨rfl, fresh⟩ := here
      exact lives_noted (.down 0) rfl (congrArg some fresh.symm)
  | restarted =>
      obtain ⟨rfl, _⟩ := here
      exact lives_noted (.up false) rfl ⟨⟨false, rfl⟩, rfl⟩
  | restartFailed =>
      obtain ⟨rfl, lifecycle⟩ := here
      refine lives_noted (.down runner.retries) rfl ?_
      rw [At]
      simp only [lifecycle]
      rfl
  | stopping | stopFault =>
      obtain ⟨rfl, fresh⟩ := here
      exact lives_noted (.up true) rfl ⟨rfl, fresh⟩
  | ended =>
      obtain rfl : stage = .stopping := here
      exact lives_noted .ended rfl rfl
  | served result serves =>
      have up : stage = .inHook hook ∧ runner.retries = 0 ∧ hook ≠ .preStop := by
        rcases serves with rfl | ⟨child, error, rfl | rfl⟩
        all_goals
          refine ⟨here.1, here.2, ?_⟩
          intro same
          cases same
      obtain ⟨rfl, fresh, other⟩ := up
      refine lives_noted (.up false) ?_ ⟨⟨false, rfl⟩, fresh⟩
      simp [Stage.next, other]

theorem serves_lives (hook : Hook) {mayEnd : Bool} (runs : hook.runs = true)
    (fresh : runner.retries = 0) (control : moved.control = .hook hook)
    (same : moved.retries = runner.retries) :
    Lives (.up mayEnd) moved.entered moved := by
  have noted : moved.entered = [.called hook] := by
    rw [entered, control]
  have there : moved.Within (.inHook hook) hook := by
    cases hook with
    | preStart | preRestart | postStop => cases runs
    | _ => exact ⟨rfl, same.trans fresh⟩
  rw [noted]
  refine lives_noted (.inHook hook) ?_ ?_
  · cases hook with
    | preStart | preRestart | postStop => cases runs
    | _ => rfl
  · rw [At, control]
    exact there

theorem resume_lives {call : Call} {point : Point} (outcome : Outcome)
    (own : ∀ hook, point ≠ .hook hook) (within : runner.control = .calling call point)
    (here : runner.At stage) :
    Lives stage (runner.resume id point outcome).entered (runner.resume id point outcome) := by
  rw [At, within] at here
  have arm := resume_arm id runner point outcome
  generalize runner.resume id point outcome = moved at arm
  cases arm with
  | hook hook => exact absurd rfl (own hook)
  | leftFailed error fault =>
      refine lives_quiet ?_
      rcases fault with rfl | rfl | rfl
      all_goals
        obtain ⟨rfl, _⟩ := here
        rfl
  | stopping => exact lives_quiet here
  | stopFailed => exact lives_quiet here
  | noChildren =>
      obtain ⟨rfl, _⟩ := here
      exact lives_quiet rfl
  | waits | faultTold | serves =>
      obtain ⟨rfl, fresh⟩ := here
      exact lives_quiet ⟨⟨true, rfl⟩, fresh⟩
  | restartFailed => exact lives_quiet here
  | leftRestarted restarts =>
      refine lives_quiet ?_
      rcases restarts with rfl | rfl
      all_goals
        obtain ⟨rfl, fresh⟩ := here
        exact congrArg some fresh.symm
  | counts => exact lives_quiet here
  | leftStopped =>
      obtain ⟨rfl, _⟩ := here
      exact lives_quiet rfl
  | announced =>
      refine lives_noted .stopping ?_ rfl
      rw [Stage.next]
      exact if_pos here

theorem proceed_lives {call : Call} {point : Point} {progress : Progress}
    (own : ∀ hook, point ≠ .hook hook) (within : runner.control = .calling call point)
    (here : runner.At stage) :
    Lives stage (runner.proceed id point progress).entered (runner.proceed id point progress) := by
  cases progress with
  | call later =>
      refine lives_quiet ?_
      rw [At, within] at here
      cases point with
      | hook hook => exact absurd rfl (own hook)
      | _ => exact here
  | «return» outcome => exact resume_lives outcome own within here

theorem step_lives {world next : World} {choice : World.Choice}
    (moves : World.RunnerStep world id runner choice next moved) (here : runner.At stage) :
    Lives stage (runner.notes moved choice) moved := by
  cases moves with
  | init within =>
      rw [notes, within]
      exact init_lives within here
  | woke within =>
      rw [notes, within]
      rw [At, within] at here
      exact begin_lives here.1 here.2.1 here.2.2
  | requested within =>
      rw [notes, within]
      rw [At, within] at here
      exact lives_quiet here
  | tooDeep within =>
      rw [notes, within]
      exact lives_quiet here
  | returned within =>
      rw [notes, within]
      rw [At, within] at here
      exact returned_lives _ here
  | @panicked hook within =>
      rw [notes, within]
      rw [At, within] at here
      refine lives_noted .panicked ?_ rfl
      have inside : stage.within? = some hook := by
        cases hook with
        | preStart | preRestart | preStop | handle | onChildError | onChildFault =>
            rw [here.1]
            rfl
        | postStop =>
            rw [show stage = .stopping from here]
            rfl
      rw [Stage.next]
      exact if_pos inside
  | message within =>
      rw [notes, within]
      rw [At, within] at here
      obtain ⟨⟨mayEnd, rfl⟩, fresh⟩ := here
      exact serves_lives .handle rfl fresh rfl rfl
  | @signal emitter signal _ within =>
      rw [notes, within]
      rw [At, within] at here
      obtain ⟨⟨mayEnd, rfl⟩, fresh⟩ := here
      cases signal with
      | error child error => exact serves_lives (.onChildError child error) rfl fresh rfl rfl
      | fault child error => exact serves_lives (.onChildFault child error) rfl fresh rfl rfl
      | stopped child => exact lives_noted (.up true) rfl ⟨rfl, fresh⟩
  | @action action _ within =>
      rw [notes, within]
      rw [At, within] at here
      obtain ⟨⟨mayEnd, rfl⟩, fresh⟩ := here
      cases action with
      | stop => exact serves_lives .preStop rfl fresh rfl rfl
      | restart => exact lives_noted .leaving rfl ⟨rfl, fresh⟩
  | @access _ call point _ progress within =>
      rw [notes, within]
      cases point with
      | hook hook =>
          rw [At, within] at here
          cases progress with
          | call | «return» => exact lives_quiet here
      | _ =>
          refine proceed_lives ?_ within here
          intro hook same
          cases same

end Steps

end ActorRunner

/-- The system with what is noted of each actor. -/
structure Noted where
  world : World
  notes : ActorId → List HookEvent

namespace Noted

def noteOf (world after : World) : World.Label → Option (ActorId × List HookEvent)
  | .task (.actor id) choice => do
      let runner ← world.actors[id]?
      let moved ← after.actors[id]?
      return (id, runner.notes moved choice)
  | _ => none

def note (notes : ActorId → List HookEvent) : Option (ActorId × List HookEvent) →
    ActorId → List HookEvent
  | some (id, events) => Function.update notes id (notes id ++ events)
  | none => notes

def step (noted : Noted) (label : World.Label) : Option Noted :=
  (noted.world.step label).map fun after =>
    { world := after, notes := note noted.notes (noteOf noted.world after label) }

def Initial (noted : Noted) : Prop := World.Initial noted.world ∧ noted.notes = fun _ => []

variable {noted after : Noted} {label : World.Label}

structure Living (noted : Noted) : Prop where
  lives : ∀ (id : ActorId) (runner : ActorRunner), noted.world.actors[id]? = some runner →
    ∃ stage, Runs.run (Stage.next runner.strategy.limit) .created (noted.notes id) = some stage ∧
      runner.At stage
  unborn : ∀ id, noted.world.actors[id]? = none → noted.notes id = []

theorem note_other {world next : World} {id : ActorId}
    (other : ∀ choice, label ≠ .task (.actor id) choice) :
    note noted.notes (noteOf world next label) id = noted.notes id := by
  cases noting : noteOf world next label with
  | none => rfl
  | some entry =>
      obtain ⟨there, events⟩ := entry
      refine Function.update_of_ne ?_ _ _
      rintro rfl
      cases label with
      | cancel => cases noting
      | task task choice =>
          cases task with
          | runner | client => cases noting
          | actor holder =>
              obtain ⟨runner, _, noting⟩ := Option.bind_eq_some_iff.mp noting
              obtain ⟨moved, _, same⟩ := Option.bind_eq_some_iff.mp noting
              cases same
              exact other choice rfl

theorem living_step (living : noted.Living) (taken : noted.step label = some after) :
    after.Living := by
  obtain ⟨world, went, rfl⟩ := Option.map_eq_some_iff.mp taken
  have grown := World.step_size went
  constructor
  case lives =>
    intro id moved found
    show ∃ stage, Runs.run _ _ (note noted.notes (noteOf noted.world world label) id) = _ ∧ _
    by_cases own : ∃ choice, label = .task (.actor id) choice
    · obtain ⟨choice, rfl⟩ := own
      obtain ⟨runner, _, _, was, _⟩ := World.actorStep_cases went
      obtain ⟨next, moves, _⟩ := World.step_own went was found
      obtain ⟨stage, life, here⟩ := living.lives id runner was
      obtain ⟨later, goesOn, there⟩ := ActorRunner.step_lives moves here
      have noting : noteOf noted.world world (.task (.actor id) choice) =
          some (id, runner.notes moved choice) := by
        rw [noteOf, was, found]
        rfl
      refine ⟨later, ?_, there⟩
      rw [noting, note, Function.update_self, run_append, moves.strategy, life]
      rw [moves.strategy] at goesOn
      exact goesOn
    · have other (choice : World.Choice) : label ≠ .task (.actor id) choice :=
        fun same => own ⟨choice, same⟩
      rw [note_other other]
      cases World.step_origin went found with
      | own labelled => exact absurd labelled (other _)
      | kept was => exact living.lives id moved was
      | spawned path supervisor strategy absent new =>
          rw [living.unborn id absent]
          subst new
          exact ⟨.created, rfl, rfl, rfl⟩
  case unborn =>
    intro id absent
    have before : noted.world.actors[id]? = none := by
      rw [List.getElem?_eq_none_iff] at absent ⊢
      exact grown.trans absent
    have other (choice : World.Choice) : label ≠ .task (.actor id) choice := by
      rintro rfl
      obtain ⟨runner, _, _, was, _⟩ := World.actorStep_cases went
      cases before.symm.trans was
    exact (note_other other).trans (living.unborn id before)

theorem living_reached (reached : Reachable step Initial noted) : noted.Living := by
  refine guarded_invariant Living ?_ (fun _ _ _ living _ taken => living_step living taken) reached
  rintro noted ⟨⟨config, new⟩, none⟩
  constructor
  case lives =>
    intro id runner found
    rw [new] at found
    cases found
  case unborn => exact fun id _ => congrFun none id

/-- The hooks of an actor, in any run of the system, are called in the order of its life:
`pre_start` first; messages, signals and `pre_stop` only while it is up; a restart only
after a failure or a Restart and no more often in a row than the strategy allows;
`post_stop` only after `pre_stop`, a child's Stopped, a Restart or a start that is given up,
and nothing after it. Each hook returns before the next one is called. -/
theorem hooks_in_order (reached : Reachable step Initial noted) (id : ActorId)
    (runner : ActorRunner) (found : noted.world.actors[id]? = some runner) :
    ∃ stage, Runs.run (Stage.next runner.strategy.limit) .created (noted.notes id) = some stage ∧
      runner.At stage :=
  (living_reached reached).lives id runner found

theorem stopped_in_order : ∃ (noted : Noted) (runner : ActorRunner), noted.world.actors[0]? = some runner ∧
    noted.notes 0 = [.called .preStart, .returned .preStart (.ok ()), .called .handle,
      .returned .handle (.ok ()), .called .preStop, .returned .preStop (.ok ()),
      .called .postStop] ∧
    ∃ stage, Runs.run (Stage.next runner.strategy.limit) .created (noted.notes 0) = some stage ∧
      runner.At stage := by
  have taken : ((Runs.run step ⟨World.new Config.default, fun _ => []⟩
      (World.creates 0 "p" ++ [.task (.actor 0) .message, .task (.actor 0) (.returns (.ok ()))] ++
        World.stopsActor "p" ++ World.takesStop 0 ++ World.announces 0)).any fun noted => noted.world.actors.length = 1 ∧
          noted.notes 0 = [.called .preStart, .returned .preStart (.ok ()), .called .handle,
            .returned .handle (.ok ()), .called .preStop, .returned .preStop (.ok ()),
            .called .postStop]) = true := by
    decide
  obtain ⟨noted, reached, one, notes⟩ : ∃ noted, Reachable step Initial noted ∧ _ :=
    reachable_shown ⟨⟨_, rfl⟩, rfl⟩ taken
  have within : 0 < noted.world.actors.length := by
    rw [one]
    exact Nat.one_pos
  have found := List.getElem?_eq_getElem within
  exact ⟨noted, _, found, notes, hooks_in_order reached 0 _ found⟩

end Noted

end Rush.Actor
