import Rush.Actor.History
import Rush.Library.Runs

/-! Which control a runner can have in which lifecycle, and when its own Stopped
signal goes out. -/

namespace Rush.Actor

open Rush.Library Runs

def Hook.lifecycle : Hook → ActorLifecycle
  | .preStart => .created
  | .preRestart => .restarted
  | .postStop => .stopped
  | .preStop | .handle | .onChildError _ _ | .onChildFault _ _ => .started

def Point.lifecycle : Point → ActorLifecycle
  | .hook during => during.lifecycle
  | .emitStopped => .stopped
  | .preStopFault | .stopChildren | .stopFault | .restartChildren | .restartFault | .removeChild
  | .hasChilds => .started

def Control.lifecycle? : Control → Option ActorLifecycle
  | .lifecycle | .panicked => none
  | .hook during => some during.lifecycle
  | .sleep _ => some .restarted
  | .select => some .started
  | .calling _ point => some point.lifecycle
  | .ended => some .terminated

def Control.inPostStop : Control → Bool
  | .hook .postStop | .calling _ (.hook .postStop) => true
  | _ => false

def ActorSignal.isStopped : ActorSignal → Bool
  | .stopped _ => true
  | _ => false

/-- The calls that the runner `self` of `path` can be in before it goes on at a point. -/
def Call.At (self : ActorId) (path : ActorPath) : Point → Call → Prop
  | .hook _, .emit child signal => child = self ∧ signal.isStopped = false
  | .hook _, _ => True
  | .preStopFault, .emit child signal | .stopFault, .emit child signal
  | .restartFault, .emit child signal => child = self ∧ signal.isStopped = false
  | .emitStopped, .emit child signal => child = self ∧ signal.isStopped = true
  | .stopChildren, .stopChildren parent | .stopChildren, .stopListed parent
  | .hasChilds, .hasChilds parent => parent = path
  | .stopChildren, .stopChild _ (some _) | .stopChildren, .takeSender _ (some _)
  | .stopChildren, .sendStop _ (some _) | .restartChildren, .restartChildren
  | .restartChildren, .sendRestart _ _ | .removeChild, .removeChild _ (some _)
  | .removeChild, .removeSender _ => True
  | _, _ => False

theorem Call.At.emitter {self : ActorId} {path : ActorPath} {point : Point} {child : ActorId}
    {signal : ActorSignal} (at_ : (Call.emit child signal).At self path point) :
    child = self ∧ (signal.isStopped = true → point = .emitStopped) := by
  cases point with
  | hook | preStopFault | stopFault | restartFault =>
      exact ⟨at_.1, fun stopped => absurd stopped (by rw [at_.2]; exact nofun)⟩
  | emitStopped => exact ⟨at_.1, fun _ => rfl⟩
  | _ => exact at_.elim

namespace ActorRunner

/-- The runner has announced its end or is about to. -/
def Ending (runner : ActorRunner) : Prop :=
  runner.lifecycle = .stopped ∨ runner.lifecycle = .terminated

def Closed (runner : ActorRunner) : Prop :=
  runner.lifecycle = .terminated ∨ runner.control.inPostStop = true

structure InPhase (id : ActorId) (runner : ActorRunner) : Prop where
  phase : ∀ lifecycle ∈ runner.control.lifecycle?, runner.lifecycle = lifecycle
  calls : ∀ call point, runner.control = .calling call point → call.At id runner.path point

variable {self : ActorId} {runner moved : ActorRunner}

theorem InPhase.at (control : Control) {lifecycle : ActorLifecycle} (here : moved.control = control)
    (same : moved.lifecycle = lifecycle) (known : control.lifecycle? = some lifecycle)
    (quiet : control.call? = none) : moved.InPhase self := by
  constructor
  case phase =>
    intro other found
    rw [here, known] at found
    rw [same, Option.some.inj found]
  case calls =>
    intro call point calling
    rw [← here, calling] at quiet
    cases quiet

theorem InPhase.idle (atLoop : moved.control = .lifecycle) : moved.InPhase self := by
  constructor
  case phase =>
    rw [atLoop]
    exact nofun
  case calls =>
    intro call point calling
    cases atLoop.symm.trans calling

theorem InPhase.at_hook (hook : Hook) (here : moved.control = .hook hook)
    (same : moved.lifecycle = hook.lifecycle) : moved.InPhase self :=
  InPhase.at (.hook hook) here same rfl rfl

theorem InPhase.at_select (here : moved.control = .select) (same : moved.lifecycle = .started) :
    moved.InPhase self :=
  InPhase.at .select here same rfl rfl

theorem InPhase.in_call (call : Call) (point : Point) (here : moved.control = .calling call point)
    (same : moved.lifecycle = point.lifecycle) (fits : call.At self moved.path point) :
    moved.InPhase self := by
  constructor
  case phase =>
    intro lifecycle found
    rw [here] at found
    rw [same, Option.some.inj found]
  case calls =>
    intro other there calling
    rw [here] at calling
    cases calling
    exact fits

theorem InPhase.init : (runner.init self).InPhase self ∨ (runner.init self).control = runner.control := by
  have arm := runner.init_arm self
  generalize runner.init self = moved at arm
  cases arm with
  | created lifecycle => exact .inl (InPhase.at_hook .preStart rfl lifecycle)
  | started lifecycle => exact .inl (InPhase.at_select rfl lifecycle)
  | gaveUp => exact .inl (InPhase.idle rfl)
  | slept duration lifecycle => exact .inl (InPhase.at (.sleep duration) rfl lifecycle rfl rfl)
  | retried lifecycle => exact .inl (InPhase.at_hook .preRestart rfl lifecycle)
  | failed => exact .inr rfl
  | terminated lifecycle => exact .inl (InPhase.at .ended rfl lifecycle rfl rfl)
  | stopped lifecycle =>
      exact .inl (InPhase.in_call (.emit self (.stopped runner.path)) .emitStopped rfl lifecycle ⟨rfl, rfl⟩)

theorem InPhase.hookReturns (inPhase : runner.InPhase self) {hook : Hook}
    (within : runner.control = .hook hook) (result : Except Error Unit) :
    (runner.hookReturns self hook result).InPhase self := by
  have lifecycle := inPhase.phase hook.lifecycle (by rw [within]; rfl)
  have arm := runner.hookReturns_arm self hook result
  generalize runner.hookReturns self hook result = moved at arm
  cases arm with
  | stopping =>
      exact InPhase.in_call (.stopChildren runner.path) .stopChildren rfl lifecycle rfl
  | stopFault error =>
      exact InPhase.in_call (.emit self (.fault runner.path error)) .preStopFault rfl lifecycle ⟨rfl, rfl⟩
  | served result serves =>
      have started : hook.lifecycle = .started := by
        rcases serves with rfl | ⟨child, error, rfl | rfl⟩ <;> rfl
      exact InPhase.at_select rfl (lifecycle.trans started)
  | _ => exact InPhase.idle rfl

theorem InPhase.resume (inPhase : runner.InPhase self) {call : Call} {point : Point}
    (within : runner.control = .calling call point) (outcome : Outcome) :
    (runner.resume self point outcome).InPhase self := by
  have lifecycle := inPhase.phase point.lifecycle (by rw [within]; rfl)
  have arm := runner.resume_arm self point outcome
  generalize runner.resume self point outcome = moved at arm
  cases arm with
  | hook hook => exact InPhase.at_hook hook rfl lifecycle
  | stopping =>
      exact InPhase.in_call (.stopChildren runner.path) .stopChildren rfl lifecycle rfl
  | stopFailed error =>
      exact InPhase.in_call (.emit self (.fault runner.path error)) .stopFault rfl lifecycle ⟨rfl, rfl⟩
  | restartFailed error =>
      exact InPhase.in_call (.emit self (.fault runner.path error)) .restartFault rfl lifecycle ⟨rfl, rfl⟩
  | counts =>
      exact InPhase.in_call (.hasChilds runner.path) .hasChilds rfl lifecycle rfl
  | announced => exact InPhase.at_hook .postStop rfl lifecycle
  | leftFailed | noChildren | leftRestarted | leftStopped => exact InPhase.idle rfl
  | faultTold | serves => exact InPhase.at_select rfl lifecycle
  | waits =>
      have same : runner.awaitAsked.lifecycle = runner.lifecycle := rfl
      exact InPhase.at_select rfl (same.trans lifecycle)

theorem InPhase.takeSignal (started : runner.lifecycle = .started) (emitter : ActorId)
    (signal : ActorSignal) : (runner.takeSignal emitter signal).InPhase self := by
  cases signal with
  | error child error =>
      exact @InPhase.at_hook self { runner with control := .hook (.onChildError child error) }
        (.onChildError child error) rfl started
  | fault child error =>
      exact @InPhase.at_hook self { runner with control := .hook (.onChildFault child error) }
        (.onChildFault child error) rfl started
  | stopped child =>
      exact @InPhase.in_call self
        { runner with
          control := .calling (.removeChild (runner.path / child.key) (some emitter)) .removeChild }
        (.removeChild (runner.path / child.key) (some emitter)) .removeChild rfl started trivial

theorem InPhase.takeAction (started : runner.lifecycle = .started) (running : List ActorId)
    (action : ChildAction) : (runner.takeAction running action).InPhase self := by
  cases action with
  | stop =>
      exact @InPhase.at_hook self
        { runner with
          control := .hook .preStop
          history :=
            { runner.history with stopConsumed := true, stopTaken := true, asked := running } }
        .preStop rfl started
  | restart =>
      exact @InPhase.in_call self
        { runner with control := .calling .restartChildren .restartChildren }
        .restartChildren .restartChildren rfl started trivial

end ActorRunner

namespace World

variable {world next : World} {id : ActorId} {runner moved : ActorRunner} {choice : Choice}

theorem Access.not_emit {supervisor : Supervisor} {call : Call} {child : ActorId}
    {signal : ActorSignal}
    (access : Access world supervisor call next (.call (.emit child signal))) : False := by
  cases access.leadsTo

theorem Access.stays {supervisor : Supervisor} {call goesOn : Call}
    (access : Access world supervisor call next (.call goesOn)) {self : ActorId}
    {path : ActorPath} {point : Point} (fits : call.At self path point) :
    goesOn.At self path point := by
  have leads := access.leadsTo
  cases point with
  | hook hook => cases leads <;> trivial
  | stopChildren =>
      cases leads with
      | counted => exact fits
      | firstStop | nextStop => trivial
      | @entryTaken here rest | @senderTaken here rest child =>
          cases rest with
          | none => exact fits.elim
          | some rest => trivial
      | _ => exact fits.elim
  | restartChildren =>
      cases leads with
      | firstRestart | nextRestart => trivial
      | _ => exact fits.elim
  | removeChild =>
      cases leads with
      | removed => trivial
      | _ => exact fits.elim
  | _ => cases leads <;> exact fits.elim

theorem ContextRequest.call_at {request : ContextRequest} {self : ActorId} {path : ActorPath}
    {call : Call} (asked : request.call self path = some call) (hook : Hook) :
    call.At self path (.hook hook) := by
  cases request with
  | emitError error | emitFault error =>
      cases asked
      exact ⟨rfl, rfl⟩
  | createChild name strategy =>
      simp only [ContextRequest.call, Option.ite_none_left_eq_some] at asked
      obtain ⟨_, asked⟩ := asked
      cases asked
      trivial
  | _ =>
      cases asked
      trivial

theorem inPhase_step (inPhase : runner.InPhase id)
    (moves : RunnerStep world id runner choice next moved) : moved.InPhase id := by
  cases moves with
  | init within =>
      rcases ActorRunner.InPhase.init with done | same
      · exact done
      · exact ActorRunner.InPhase.idle (same.trans within)
  | woke within =>
      exact ActorRunner.InPhase.at_hook .preRestart rfl
        (inPhase.phase .restarted (by rw [within]; rfl))
  | @requested hook request call within asked =>
      exact ActorRunner.InPhase.in_call call (.hook hook) rfl
        (inPhase.phase hook.lifecycle (by rw [within]; rfl)) (ContextRequest.call_at asked hook)
  | tooDeep => exact inPhase
  | returned within => exact inPhase.hookReturns within _
  | panicked =>
      constructor
      case phase => exact nofun
      case calls =>
        intro call point calling
        cases calling
  | message within =>
      exact ActorRunner.InPhase.at_hook .handle rfl
        (inPhase.phase .started (by rw [within]; rfl))
  | @signal emitter signal signals within received =>
      have started := inPhase.phase .started (by rw [within]; rfl)
      exact ActorRunner.InPhase.takeSignal started emitter signal
  | @action action actions within received =>
      have started := inPhase.phase .started (by rw [within]; rfl)
      exact ActorRunner.InPhase.takeAction started _ action
  | @access _ call point _ progress within access =>
      cases progress with
      | «return» outcome => exact inPhase.resume within outcome
      | call goesOn =>
          have during := inPhase.phase point.lifecycle (by rw [within]; rfl)
          exact ActorRunner.InPhase.in_call goesOn point rfl during
            (access.stays (inPhase.calls call point within))

theorem ending_step (inPhase : runner.InPhase id)
    (moves : RunnerStep world id runner choice next moved) (ending : runner.Ending) :
    moved.Ending := by
  have notStarted {lifecycle : ActorLifecycle} (known : runner.control.lifecycle? = some lifecycle) :
      lifecycle = .stopped ∨ lifecycle = .terminated := by
    rw [← inPhase.phase lifecycle known]
    exact ending
  cases moves with
  | init within =>
      have arm := runner.init_arm id
      generalize runner.init id = moved at arm
      cases arm with
      | gaveUp lifecycle => rcases ending with here | here <;> cases lifecycle.symm.trans here
      | failed lifecycle => exact .inl rfl
      | _ => exact ending
  | @returned hook result within =>
      have during := @notStarted hook.lifecycle (by rw [within]; rfl)
      have arm := runner.hookReturns_arm id hook result
      generalize runner.hookReturns id hook result = moved at arm
      cases arm with
      | ended => exact .inr rfl
      | served result serves =>
          rcases serves with rfl | ⟨child, error, rfl | rfl⟩ <;>
            rcases during with here | here <;> cases here
      | _ => rcases during with here | here <;> cases here
  | signal within | action within =>
      have during := @notStarted .started (by rw [within]; rfl)
      rcases during with here | here <;> cases here
  | @access _ call point _ progress within access =>
      have during := @notStarted point.lifecycle (by rw [within]; rfl)
      cases progress with
      | call goesOn => exact ending
      | «return» outcome =>
          have arm := runner.resume_arm id point outcome
          change (runner.resume id point outcome).Ending
          generalize runner.resume id point outcome = moved at arm
          cases arm with
          | hook | announced => exact ending
          | leftFailed error fault =>
              rcases fault with rfl | rfl | rfl <;> rcases during with here | here <;> cases here
          | leftRestarted restarts =>
              rcases restarts with rfl | rfl <;> rcases during with here | here <;> cases here
          | _ => rcases during with here | here <;> cases here
  | _ => exact ending

theorem panicked_step (moves : RunnerStep world id runner choice next moved)
    (panicked : moved.panicked = true) : choice = .panics := by
  cases moves with
  | init within =>
      have arm := runner.init_arm id
      generalize runner.init id = moved at arm panicked
      cases arm with
      | failed => simp [ActorRunner.panicked, within] at panicked
      | _ => cases panicked
  | tooDeep within => simp [ActorRunner.panicked, within] at panicked
  | @returned hook result within =>
      have arm := runner.hookReturns_arm id hook result
      generalize runner.hookReturns id hook result = moved at arm panicked
      cases arm <;> cases panicked
  | panicked => rfl
  | @signal emitter signal => cases signal <;> cases panicked
  | @action action => cases action <;> cases panicked
  | @access _ call point _ progress =>
      cases progress with
      | call goesOn => cases panicked
      | «return» outcome =>
          have arm := runner.resume_arm id point outcome
          change (runner.resume id point outcome).panicked = true at panicked
          generalize runner.resume id point outcome = moved at arm panicked
          cases arm <;> cases panicked
  | _ => cases panicked

theorem announce_stopped {child : ActorId} {signal : ActorSignal} (stopped : signal.isStopped = true) :
    child ∈ (world.announce child signal).history.emitted := by
  cases signal with
  | stopped path => exact List.mem_cons_self
  | _ => cases stopped

theorem closed_step (inPhase : runner.InPhase id)
    (moves : RunnerStep world id runner choice next moved) (closed : moved.Closed) :
    runner.Closed ∨ id ∈ next.history.emitted := by
  have kept (away : moved.control.inPostStop = false)
      (same : moved.lifecycle = .terminated → runner.lifecycle = .terminated) : runner.Closed := by
    rcases closed with terminated | stopping
    · exact .inl (same terminated)
    · cases away.symm.trans stopping
  cases moves with
  | init within =>
      left
      have arm := runner.init_arm id
      generalize runner.init id = moved at arm closed kept
      cases arm with
      | failed => exact kept (by rw [within]; rfl) nofun
      | gaveUp => exact kept rfl nofun
      | _ => exact kept rfl fun same => same
  | woke | message | panicked => exact .inl (kept rfl fun same => same)
  | @requested hook request call within =>
      left
      rcases closed with terminated | stopping
      · exact .inl terminated
      · right
        rw [within]
        cases hook <;> first | rfl | cases stopping
  | tooDeep => exact .inl closed
  | @returned hook result within =>
      left
      have arm := runner.hookReturns_arm id hook result
      generalize runner.hookReturns id hook result = moved at arm closed kept
      cases arm with
      | ended => exact .inr (by rw [within]; rfl)
      | started | startFailed | restarted => exact kept rfl nofun
      | _ => exact kept rfl fun same => same
  | @signal emitter signal => cases signal <;> exact .inl (kept rfl fun same => same)
  | @action action => cases action <;> exact .inl (kept rfl fun same => same)
  | @access _ call point _ progress within access =>
      have fits := inPhase.calls call point within
      cases progress with
      | call goesOn =>
          left
          rcases closed with terminated | stopping
          · exact .inl terminated
          · right
            rw [within]
            cases point with
            | hook hook => cases hook <;> first | rfl | cases stopping
            | _ => cases stopping
      | «return» outcome =>
          have arm := runner.resume_arm id point outcome
          change (runner.resume id point outcome).Closed at closed
          change (runner.resume id point outcome).control.inPostStop = false →
            ((runner.resume id point outcome).lifecycle = .terminated → _) → _ at kept
          generalize runner.resume id point outcome = moved at arm closed kept
          cases arm with
          | hook hook =>
              left
              rcases closed with terminated | stopping
              · exact .inl terminated
              · right
                rw [within]
                cases hook <;> first | rfl | cases stopping
          | announced =>
              right
              cases call with
              | emit child signal =>
                  obtain ⟨rfl, stopped⟩ := fits
                  cases access with
                  | emitRefused | emitted => exact announce_stopped stopped
              | _ => exact fits.elim
          | leftFailed | noChildren | leftRestarted | leftStopped => exact .inl (kept rfl nofun)
          | _ => exact .inl (kept rfl fun same => same)

section Announced

variable {after : World} {label : Label}

theorem outside_quiet {task : Task} (outside : ∀ id, task ≠ .actor id)
    (taken : step world (.task task choice) = some after) (child : ActorId) (signal : ActorSignal) :
    after.callOf task ≠ some (.emit child signal) := by
  intro emits
  cases task with
  | actor id => exact outside id rfl
  | client id =>
      obtain ⟨next, call, moves, rfl⟩ := clientStep_cases taken
      rw [setClient_callOf] at emits
      cases moves with
      | @began request => cases request <;> cases emits
      | @access _ _ progress within access =>
          cases progress with
          | call goesOn =>
              cases emits
              exact access.not_emit
          | «return» outcome => cases emits
  | runner =>
      obtain ⟨next, moved, moves, rfl⟩ := runnerStep_cases taken
      cases moves with
      | cancelled => cases emits
      | @signal emitter signal => cases signal <;> cases emits
      | @access _ call point _ progress within access =>
          cases progress with
          | call goesOn =>
              cases emits
              exact access.not_emit
          | «return» outcome => cases world.runner.resume_counts point outcome _ emits

structure Phased (world : World) : Prop where
  inPhase : ∀ (id : ActorId) (runner : ActorRunner),
    world.actors[id]? = some runner → runner.InPhase id
  outside : ∀ task child signal, world.callOf task = some (.emit child signal) →
    ∃ id, task = .actor id
  announced : ∀ id ∈ world.history.emitted,
    ∃ runner, world.actors[id]? = some runner ∧ runner.Ending
  closed : ∀ (id : ActorId) (runner : ActorRunner), world.actors[id]? = some runner →
    runner.Closed → id ∈ world.history.emitted

theorem Phased.emits (phased : world.Phased) {task : Task} {child : ActorId} {signal : ActorSignal}
    (calling : world.callOf task = some (.emit child signal)) :
    ∃ runner point, task = .actor child ∧ world.actors[child]? = some runner ∧
      runner.control = .calling (.emit child signal) point ∧
      (signal.isStopped = true → point = .emitStopped) := by
  obtain ⟨id, rfl⟩ := phased.outside task child signal calling
  obtain ⟨runner, found, within⟩ := Option.bind_eq_some_iff.mp calling
  cases control : runner.control with
  | calling call point =>
      rw [control] at within
      cases within
      obtain ⟨rfl, stopping⟩ := ((phased.inPhase id runner found).calls _ _ control).emitter
      exact ⟨runner, point, rfl, found, control, stopping⟩
  | _ =>
      rw [control] at within
      cases within

theorem inPhase_new (path : ActorPath) (supervisor : Supervisor) (strategy : SupervisionStrategy) :
    (ActorRunner.new path supervisor strategy).InPhase id :=
  ActorRunner.InPhase.idle rfl

theorem step_ending (phased : world.Phased) (taken : step world label = some after)
    (found : world.actors[id]? = some runner) (ending : runner.Ending) :
    ∃ moved, after.actors[id]? = some moved ∧ moved.Ending := by
  have bound := (List.getElem?_eq_some_iff.mp found).1
  obtain ⟨moved, foundAfter⟩ : ∃ moved, after.actors[id]? = some moved :=
    ⟨_, List.getElem?_eq_getElem (lt_of_lt_of_le bound (step_size taken))⟩
  refine ⟨moved, foundAfter, ?_⟩
  cases step_origin taken foundAfter with
  | own labelled was moves =>
      obtain rfl := Option.some.inj (found.symm.trans was)
      exact ending_step (phased.inPhase id runner found) moves ending
  | kept was =>
      obtain rfl := Option.some.inj (found.symm.trans was)
      exact ending
  | spawned path supervisor strategy absent => cases absent.symm.trans found

theorem emitted_ending (phased : world.Phased) (taken : step world label = some after)
    {child : ActorId} (fresh : child ∉ world.history.emitted)
    (emitted : child ∈ after.history.emitted) :
    ∃ runner, after.actors[child]? = some runner ∧ runner.Ending := by
  cases label with
  | cancel =>
      cases taken
      exact absurd emitted fresh
  | task task choice =>
      have here : task = .actor child ∧ ∃ path, world.callOf task = some (.emit child (.stopped path)) := by
        cases step_task taken with
        | access calling access follows continues =>
            rw [follows.history] at emitted
            rcases access.emitted_cases emitted with old | ⟨path, rfl⟩
            · exact absurd old fresh
            · obtain ⟨_, _, rfl, _⟩ := phased.emits calling
              exact ⟨rfl, path, calling⟩
        | own idle follows begins =>
            rw [follows.history] at emitted
            exact absurd emitted fresh
      obtain ⟨rfl, path, calling⟩ := here
      obtain ⟨runner, point, _, found, control, atEnd⟩ := phased.emits calling
      obtain rfl := atEnd rfl
      have lifecycle := (phased.inPhase child runner found).phase .stopped (by rw [control]; rfl)
      exact step_ending phased taken found (.inl lifecycle)

theorem step_phased (phased : world.Phased) (taken : step world label = some after) :
    after.Phased := by
  constructor
  case inPhase =>
    intro id moved foundAfter
    cases step_origin taken foundAfter with
    | own labelled found moves => exact inPhase_step (phased.inPhase id _ found) moves
    | kept found => exact phased.inPhase id moved found
    | spawned path supervisor strategy absent new =>
        subst new
        exact inPhase_new path supervisor strategy
  case outside =>
    intro task child signal emits
    cases label with
    | cancel =>
        cases taken
        exact phased.outside task child signal (by cases task <;> exact emits)
    | task other choice =>
        by_cases actor : ∃ id, task = .actor id
        · exact actor
        · have outside (id : ActorId) : task ≠ .actor id := fun same => actor ⟨id, same⟩
          by_cases here : task = other
          · subst here
            exact absurd emits (outside_quiet outside taken child signal)
          · refine phased.outside task child signal ?_
            cases step_task taken with
            | access _ access follows _ =>
                rw [follows.others task here, access.callOf] at emits
                exact emits
            | own _ follows _ =>
                rw [follows.others task here] at emits
                exact emits
  case announced =>
    intro id emitted
    by_cases old : id ∈ world.history.emitted
    · obtain ⟨runner, found, ending⟩ := phased.announced id old
      exact step_ending phased taken found ending
    · exact emitted_ending phased taken old emitted
  case closed =>
    intro id moved foundAfter closed
    cases step_origin taken foundAfter with
    | own labelled found _ =>
        subst labelled
        obtain ⟨next, moves, rfl⟩ := step_own taken found foundAfter
        rcases closed_step (phased.inPhase id _ found) moves closed with before | emitted
        · exact (step_within taken).emitted id (phased.closed id _ found before)
        · exact emitted
    | kept found => exact (step_within taken).emitted id (phased.closed id moved found closed)
    | spawned path supervisor strategy absent new =>
        subst new
        rcases closed with terminated | stopping
        · cases terminated
        · cases stopping

theorem new_phased (config : Config) : (new config).Phased := by
  constructor
  case inPhase => exact fun _ _ found => nomatch found
  case outside => exact fun task _ _ calling => by cases task <;> cases calling
  case announced => exact fun _ emitted => nomatch emitted
  case closed => exact fun _ _ found => nomatch found

theorem phased_reached {allowed : World → Label → Prop}
    (reached : Guarded step Initial allowed world) : world.Phased := by
  refine guarded_invariant Phased ?_ ?_ reached
  · rintro world ⟨config, rfl⟩
    exact new_phased config
  · exact fun world label after phased _ taken => step_phased phased taken

end Announced

end World

end Rush.Actor
