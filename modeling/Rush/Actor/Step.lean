import Rush.Actor.Access

/-! A step of a task, taken apart: at most one access of the call it is in, then
its own code up to the next await point, which touches only the task's own control
and the channels it receives from. -/

namespace Rush.Actor

open Rush.Library

def Call.BegunBy (task : Task) : Call → Prop
  | .createActor _ _ | .stopChildren _ | .stopChild _ none | .removeChild _ _ | .hasChilds _
  | .emit _ _ => True
  | .restartChildren => ∃ id, task = .actor id
  | _ => False

inductive Call.LeadsTo : Call → Call → Prop
  | spawned {path : ActorPath} {strategy : SupervisionStrategy} (child : ActorId) :
      LeadsTo (.createActor path strategy) (.initResult child)
  | started {child : ActorId} : LeadsTo (.initResult child) (.insertEntry child)
  | startFailed {child : ActorId} (error : Error) :
      LeadsTo (.initResult child) (.dropEntry child error)
  | entryDropped {child : ActorId} {error : Error} :
      LeadsTo (.dropEntry child error) (.dropSender child error)
  | entryInserted {child : ActorId} : LeadsTo (.insertEntry child) (.insertSender child)
  | counted {parent : ActorPath} : LeadsTo (.stopChildren parent) (.stopListed parent)
  | firstStop {parent path : ActorPath} {rest : List ActorPath} :
      LeadsTo (.stopListed parent) (.stopChild path (some rest))
  | entryTaken {path : ActorPath} {rest : Option (List ActorPath)} :
      LeadsTo (.stopChild path rest) (.takeSender path rest)
  | senderTaken {path : ActorPath} {rest : Option (List ActorPath)} (child : ActorId) :
      LeadsTo (.takeSender path rest) (.sendStop child rest)
  | nextStop {child : ActorId} {path : ActorPath} {rest : List ActorPath} :
      LeadsTo (.sendStop child (some (path :: rest))) (.stopChild path (some rest))
  | firstRestart {child : ActorId} {rest : List ActorId} :
      LeadsTo .restartChildren (.sendRestart child rest)
  | nextRestart {first child : ActorId} {rest : List ActorId} :
      LeadsTo (.sendRestart first (child :: rest)) (.sendRestart child rest)
  | removed {path : ActorPath} {emitter : Option ActorId} :
      LeadsTo (.removeChild path emitter) (.removeSender path)

def Progress.Continues (task : Task) (control : Option Call) : Progress → Prop
  | .call next => control = some next
  | .return _ => ∀ call, control = some call → call.BegunBy task

theorem ContextRequest.call_begun (request : ContextRequest) (id : ActorId) (path : ActorPath)
    (call : Call) (asked : request.call id path = some call) : call.BegunBy (.actor id) := by
  cases request with
  | createChild name strategy =>
      simp only [ContextRequest.call, Option.ite_none_left_eq_some] at asked
      obtain ⟨_, asked⟩ := asked
      cases asked
      trivial
  | restartChildren =>
      cases asked
      exact ⟨id, rfl⟩
  | _ =>
      cases asked
      trivial

theorem SystemRequest.call_begun (request : SystemRequest) (task : Task) :
    request.call.BegunBy task := by
  cases request <;> trivial

namespace ActorRunner

variable (self : ActorId) (runner : ActorRunner)

def identity : ActorPath × Supervisor := (runner.path, runner.supervisor)

inductive InitArm : ActorRunner → Prop
  | created (lifecycle : runner.lifecycle = .created) :
      InitArm { runner with control := .hook .preStart }
  | started (lifecycle : runner.lifecycle = .started) : InitArm runner.enterRun
  | gaveUp (lifecycle : runner.lifecycle = .restarted) : InitArm runner.failStart
  | slept (duration : Duration) (lifecycle : runner.lifecycle = .restarted) :
      InitArm { runner with control := .sleep duration }
  | retried (lifecycle : runner.lifecycle = .restarted) : InitArm runner.beginRestart
  | failed (lifecycle : runner.lifecycle = .failed) : InitArm { runner with lifecycle := .stopped }
  | stopped (lifecycle : runner.lifecycle = .stopped) :
      InitArm { runner with control := .calling (.emit self (.stopped runner.path)) .emitStopped }
  | terminated (lifecycle : runner.lifecycle = .terminated) :
      InitArm { runner with control := .ended }

theorem supervision_arm (lifecycle : runner.lifecycle = .restarted) :
    InitArm self runner runner.applySupervisionStrategy := by
  rw [applySupervisionStrategy]
  split
  · exact .gaveUp lifecycle
  · split
    · split
      · exact .slept _ lifecycle
      · exact .retried lifecycle
    · exact .gaveUp lifecycle

theorem init_arm : InitArm self runner (runner.init self) := by
  rw [init]
  split
  case h_1 lifecycle => exact .created lifecycle
  case h_2 lifecycle => exact .started lifecycle
  case h_3 lifecycle => exact runner.supervision_arm self lifecycle
  case h_4 lifecycle => exact .failed lifecycle
  case h_5 lifecycle => exact .stopped lifecycle
  case h_6 lifecycle => exact .terminated lifecycle

inductive HookArm : Hook → Except Error Unit → ActorRunner → Prop
  | started : HookArm .preStart (.ok ()) { runner with lifecycle := .started, control := .lifecycle }
  | startFailed (error : Error) :
      HookArm .preStart (.error error)
        { runner with lifecycle := .restarted, control := .lifecycle }
  | restarted :
      HookArm .preRestart (.ok ())
        { runner with lifecycle := .started, retries := 0, control := .lifecycle }
  | restartFailed (error : Error) :
      HookArm .preRestart (.error error) { runner with control := .lifecycle }
  | stopping :
      HookArm .preStop (.ok ())
        { runner with
          control := .calling (.stopChildren runner.path) .stopChildren
          history := { runner.history with preStopRan := true } }
  | stopFault (error : Error) :
      HookArm .preStop (.error error)
        { runner with
          control := .calling (.emit self (.fault runner.path error)) .preStopFault
          history := { runner.history with preStopRan := true } }
  | ended (result : Except Error Unit) :
      HookArm .postStop result { runner with lifecycle := .terminated, control := .lifecycle }
  | served {hook : Hook} (result : Except Error Unit)
      (serves : hook = .handle ∨ ∃ child error,
        hook = .onChildError child error ∨ hook = .onChildFault child error) :
      HookArm hook result { runner with control := .select }

theorem hookReturns_arm (hook : Hook) (result : Except Error Unit) :
    HookArm self runner hook result (runner.hookReturns self hook result) := by
  cases hook with
  | handle => exact .served result (.inl rfl)
  | onChildError child error => exact .served result (.inr ⟨child, error, .inl rfl⟩)
  | onChildFault child error => exact .served result (.inr ⟨child, error, .inr rfl⟩)
  | postStop => exact .ended result
  | preStart =>
      cases result with
      | ok => exact .started
      | error error => exact .startFailed error
  | preRestart =>
      cases result with
      | ok => exact .restarted
      | error error => exact .restartFailed error
  | preStop =>
      cases result with
      | ok => exact .stopping
      | error error => exact .stopFault error

inductive ResumeArm : Point → Outcome → ActorRunner → Prop
  | hook (hook : Hook) (outcome : Outcome) :
      ResumeArm (.hook hook) outcome { runner with control := .hook hook }
  | leftFailed {point : Point} (error : Error)
      (fault : point = .preStopFault ∨ point = .stopFault ∨ point = .restartFault) :
      ResumeArm point (.failed error) (runner.leaveRun .failed)
  | stopping {outcome : Outcome} (told : ∀ error, outcome ≠ .failed error) :
      ResumeArm .preStopFault outcome
        { runner with control := .calling (.stopChildren runner.path) .stopChildren }
  | stopFailed (error : Error) :
      ResumeArm .stopChildren (.failed error)
        { runner with
          control := .calling (.emit self (.fault runner.path error)) .stopFault
          history := { runner.history with asked := [] } }
  | noChildren :
      ResumeArm .stopChildren (.children false) (runner.awaitAsked.leaveRun .stopped)
  | waits {outcome : Outcome} (told : ∀ error, outcome ≠ .failed error)
      (some : outcome ≠ .children false) :
      ResumeArm .stopChildren outcome { runner.awaitAsked with control := .select }
  | faultTold {outcome : Outcome} (told : ∀ error, outcome ≠ .failed error) :
      ResumeArm .stopFault outcome { runner with control := .select }
  | restartFailed (error : Error) :
      ResumeArm .restartChildren (.failed error)
        { runner with
          control := .calling (.emit self (.fault runner.path error)) .restartFault }
  | leftRestarted {point : Point} {outcome : Outcome}
      (restarts : point = .restartChildren ∨ point = .restartFault)
      (told : ∀ error, outcome ≠ .failed error) :
      ResumeArm point outcome (runner.leaveRun .restarted)
  | counts (outcome : Outcome) :
      ResumeArm .removeChild outcome
        { runner with control := .calling (.hasChilds runner.path) .hasChilds }
  | serves : ResumeArm .hasChilds (.children true) { runner with control := .select }
  | leftStopped {outcome : Outcome} (none : outcome ≠ .children true) :
      ResumeArm .hasChilds outcome (runner.leaveRun .stopped)
  | announced (outcome : Outcome) :
      ResumeArm .emitStopped outcome { runner with control := .hook .postStop }

theorem resume_arm (point : Point) (outcome : Outcome) :
    ResumeArm self runner point outcome (runner.resume self point outcome) := by
  cases point with
  | hook hook => exact .hook hook outcome
  | removeChild => exact .counts outcome
  | emitStopped => exact .announced outcome
  | preStopFault =>
      cases outcome with
      | failed error => exact .leftFailed error (.inl rfl)
      | _ => exact .stopping nofun
  | stopChildren =>
      cases outcome with
      | failed error => exact .stopFailed error
      | children found =>
          cases found with
          | false => exact .noChildren
          | true => exact .waits nofun nofun
      | _ => exact .waits nofun nofun
  | stopFault =>
      cases outcome with
      | failed error => exact .leftFailed error (.inr (.inl rfl))
      | _ => exact .faultTold nofun
  | restartChildren =>
      cases outcome with
      | failed error => exact .restartFailed error
      | _ => exact .leftRestarted (.inl rfl) nofun
  | restartFault =>
      cases outcome with
      | failed error => exact .leftFailed error (.inr (.inr rfl))
      | _ => exact .leftRestarted (.inr rfl) nofun
  | hasChilds =>
      cases outcome with
      | children found =>
          cases found with
          | false => exact .leftStopped nofun
          | true => exact .serves
      | _ => exact .leftStopped nofun

theorem hookReturns_stopTaken (hook : Hook) (result : Except Error Unit) :
    (runner.hookReturns self hook result).history.stopTaken = runner.history.stopTaken := by
  have arm := runner.hookReturns_arm self hook result
  generalize runner.hookReturns self hook result = moved at arm
  cases arm <;> rfl

theorem resume_stopTaken (point : Point) (outcome : Outcome) :
    (runner.resume self point outcome).history.stopTaken = runner.history.stopTaken := by
  have arm := runner.resume_arm self point outcome
  generalize runner.resume self point outcome = moved at arm
  cases arm <;> rfl

theorem proceed_stopTaken (point : Point) (progress : Progress) :
    (runner.proceed self point progress).history.stopTaken = runner.history.stopTaken := by
  cases progress with
  | call next => rfl
  | «return» outcome => exact runner.resume_stopTaken self point outcome

theorem init_identity : (runner.init self).identity = runner.identity := by
  have arm := runner.init_arm self
  generalize runner.init self = moved at arm
  cases arm <;> rfl

theorem hookReturns_identity (hook : Hook) (result : Except Error Unit) :
    (runner.hookReturns self hook result).identity = runner.identity := by
  have arm := runner.hookReturns_arm self hook result
  generalize runner.hookReturns self hook result = moved at arm
  cases arm <;> rfl

theorem takeSignal_identity (emitter : ActorId) (signal : ActorSignal) :
    (runner.takeSignal emitter signal).identity = runner.identity := by
  cases signal <;> rfl

theorem takeAction_identity (running : List ActorId) (action : ChildAction) :
    (runner.takeAction running action).identity = runner.identity := by
  cases action <;> rfl

theorem resume_identity (point : Point) (outcome : Outcome) :
    (runner.resume self point outcome).identity = runner.identity := by
  have arm := runner.resume_arm self point outcome
  generalize runner.resume self point outcome = moved at arm
  cases arm <;> rfl

theorem proceed_identity (point : Point) (progress : Progress) :
    (runner.proceed self point progress).identity = runner.identity := by
  cases progress with
  | call next => rfl
  | «return» outcome => exact runner.resume_identity self point outcome

theorem hookReturns_begins (hook : Hook) (result : Except Error Unit) (call : Call)
    (begun : (runner.hookReturns self hook result).control.call? = some call) :
    call.BegunBy (.actor self) := by
  have arm := runner.hookReturns_arm self hook result
  generalize runner.hookReturns self hook result = moved at arm begun
  cases arm <;> cases begun <;> trivial

theorem takeSignal_begins (emitter : ActorId) (signal : ActorSignal) (call : Call)
    (begun : (runner.takeSignal emitter signal).control.call? = some call) :
    call.BegunBy (.actor self) := by
  cases signal <;> cases begun
  trivial

theorem takeAction_begins (running : List ActorId) (action : ChildAction) (call : Call)
    (begun : (runner.takeAction running action).control.call? = some call) :
    call.BegunBy (.actor self) := by
  cases action <;> cases begun
  exact ⟨self, rfl⟩

theorem resume_begins (point : Point) (outcome : Outcome) (call : Call)
    (begun : (runner.resume self point outcome).control.call? = some call) :
    call.BegunBy (.actor self) := by
  have arm := runner.resume_arm self point outcome
  generalize runner.resume self point outcome = moved at arm begun
  cases arm <;> cases begun <;> trivial

theorem proceed_continues (point : Point) (progress : Progress) :
    progress.Continues (.actor self) (runner.proceed self point progress).control.call? := by
  cases progress with
  | call next => rfl
  | «return» outcome => exact fun call begun => runner.resume_begins self point outcome call begun

end ActorRunner

namespace SystemRunner

variable (runner : SystemRunner)

inductive ResumeArm : SystemPoint → Outcome → SystemRunner → Prop
  | ended {point : SystemPoint} (last : point = .cancelled ∨ point = .hasChilds) :
      ResumeArm point (.children false) { runner with control := .ended }
  | counts (outcome : Outcome) (shutdown : runner.shutdownFlag = true) :
      ResumeArm .removeChild outcome
        { runner with control := .calling (.hasChilds rootPath) .hasChilds }
  | serves (point : SystemPoint) (outcome : Outcome) :
      ResumeArm point outcome { runner with control := .select }

theorem resume_arm (point : SystemPoint) (outcome : Outcome) :
    ResumeArm runner point outcome (runner.resume point outcome) := by
  cases point with
  | removeChild =>
      rw [resume]
      split
      case isTrue shutdown => exact .counts outcome shutdown
      case isFalse => exact .serves .removeChild outcome
  | childError => cases outcome <;> exact .serves _ _
  | childFault => cases outcome <;> exact .serves _ _
  | cancelled =>
      cases outcome with
      | children found =>
          cases found with
          | false => exact .ended (.inl rfl)
          | true => exact .serves _ _
      | _ => exact .serves _ _
  | hasChilds =>
      cases outcome with
      | children found =>
          cases found with
          | false => exact .ended (.inr rfl)
          | true => exact .serves _ _
      | _ => exact .serves _ _

theorem resume_counts (point : SystemPoint) (outcome : Outcome) (call : Call)
    (begun : (runner.resume point outcome).control.call? = some call) :
    call = .hasChilds rootPath := by
  have arm := runner.resume_arm point outcome
  generalize runner.resume point outcome = moved at arm begun
  cases arm <;> cases begun
  rfl

end SystemRunner

namespace World

/-- What the task of the actor `id` does to the shared state and to its runner. -/
inductive RunnerStep (world : World) (id : ActorId) (runner : ActorRunner) :
    Choice → World → ActorRunner → Prop
  | init {choice : Choice} (within : runner.control = .lifecycle) :
      RunnerStep world id runner choice world (runner.init id)
  | woke {choice : Choice} {duration : Duration} (within : runner.control = .sleep duration) :
      RunnerStep world id runner choice world runner.beginRestart
  | requested {hook : Hook} {request : ContextRequest} {call : Call}
      (within : runner.control = .hook hook) (asked : request.call id runner.path = some call) :
      RunnerStep world id runner (.context request) world
        { runner with control := .calling call (.hook hook) }
  | tooDeep {hook : Hook} {request : ContextRequest} (within : runner.control = .hook hook) :
      RunnerStep world id runner (.context request) world runner
  | returned {hook : Hook} {result : Except Error Unit} (within : runner.control = .hook hook) :
      RunnerStep world id runner (.returns result) world (runner.hookReturns id hook result)
  | panicked {hook : Hook} (within : runner.control = .hook hook) :
      RunnerStep world id runner .panics world { runner with control := .panicked }
  | message (within : runner.control = .select) :
      RunnerStep world id runner .message world runner.takeMessage
  | signal {emitter : ActorId} {signal : ActorSignal} {signals : Channel (ActorId × ActorSignal)}
      (within : runner.control = .select)
      (received : (world.handlers (.actor id)).signals.receive = some ((emitter, signal), signals)) :
      RunnerStep world id runner .signal (world.setSignals (.actor id) signals)
        (runner.takeSignal emitter signal)
  | action {action : ChildAction} {actions : Channel ChildAction}
      (within : runner.control = .select)
      (received : (world.actions id).receive = some (action, actions)) :
      RunnerStep world id runner .action (world.setActions id actions)
        (runner.takeAction (world.runningChildren (.actor id)) action)
  | access {choice : Choice} {call : Call} {point : Point} {next : World} {progress : Progress}
      (within : runner.control = .calling call point)
      (access : Access world (.actor id) call next progress) :
      RunnerStep world id runner choice next (runner.proceed id point progress)

theorem setRunner_same {world : World} {id : ActorId} {runner : ActorRunner}
    (found : world.actors[id]? = some runner) : world.setRunner id runner = world := by
  have same : world.actors.set id runner = world.actors := by
    apply List.ext_getElem?
    intro other
    rw [List.getElem?_set]
    split
    case isTrue here =>
      subst here
      obtain ⟨bound, _⟩ := List.getElem?_eq_some_iff.mp found
      rw [if_pos bound, found]
    case isFalse => rfl
  rw [setRunner, same]

theorem actorStep_cases {world after : World} {id : ActorId} {choice : Choice}
    (taken : world.actorStep id choice = some after) :
    ∃ runner next moved, world.actors[id]? = some runner ∧
      RunnerStep world id runner choice next moved ∧ after = next.setRunner id moved := by
  obtain ⟨runner, found, taken⟩ := Option.bind_eq_some_iff.mp taken
  refine ⟨runner, ?_⟩
  cases within : runner.control with
  | lifecycle =>
      simp only [within] at taken
      cases taken
      exact ⟨_, _, found, .init within, rfl⟩
  | hook hook =>
      simp only [within] at taken
      cases choice with
      | context request =>
          cases asked : request.call id runner.path with
          | none =>
              simp only [asked] at taken
              cases taken
              exact ⟨_, _, found, .tooDeep within, (setRunner_same found).symm⟩
          | some call =>
              simp only [asked] at taken
              cases taken
              exact ⟨_, _, found, .requested within asked, rfl⟩
      | returns result =>
          cases taken
          exact ⟨_, _, found, .returned within, rfl⟩
      | panics =>
          cases taken
          exact ⟨_, _, found, .panicked within, rfl⟩
      | _ => cases taken
  | sleep duration =>
      simp only [within] at taken
      cases taken
      exact ⟨_, _, found, .woke within, rfl⟩
  | select =>
      simp only [within] at taken
      cases choice with
      | message =>
          cases taken
          exact ⟨_, _, found, .message within, rfl⟩
      | signal =>
          obtain ⟨⟨⟨emitter, signal⟩, signals⟩, received, taken⟩ := Option.bind_eq_some_iff.mp taken
          cases taken
          exact ⟨_, _, found, .signal within received, rfl⟩
      | action =>
          obtain ⟨⟨action, actions⟩, received, taken⟩ := Option.bind_eq_some_iff.mp taken
          cases taken
          exact ⟨_, _, found, .action within received, rfl⟩
      | _ => cases taken
  | calling call point =>
      simp only [within] at taken
      obtain ⟨⟨next, progress⟩, access, taken⟩ := Option.bind_eq_some_iff.mp taken
      cases taken
      exact ⟨_, _, found, .access within (callStep_access access), rfl⟩
  | ended =>
      simp only [within] at taken
      cases taken
  | panicked =>
      simp only [within] at taken
      cases taken

namespace RunnerStep

variable {world next : World} {id : ActorId} {runner moved : ActorRunner} {choice : Choice}

theorem unfinished (moves : RunnerStep world id runner choice next moved) :
    runner.finished = false := by
  cases moves with
  | _ within => simp [ActorRunner.finished, ActorRunner.panicked, within]

theorem identity (moves : RunnerStep world id runner choice next moved) :
    moved.identity = runner.identity := by
  cases moves with
  | init => exact runner.init_identity id
  | returned => exact runner.hookReturns_identity id _ _
  | signal => exact runner.takeSignal_identity _ _
  | action => exact runner.takeAction_identity _ _
  | access => exact runner.proceed_identity id _ _
  | _ => rfl

end RunnerStep

section Lookup

variable (world : World) (id other : ActorId)

def identityOf : Option (ActorPath × Supervisor) := world.actors[id]?.map ActorRunner.identity

def stopTaken : Bool := world.actors[id]?.any fun runner => runner.history.stopTaken

variable {world id} in
theorem identityOf_found {runner : ActorRunner} (found : world.actors[id]? = some runner) :
    world.identityOf id = some runner.identity :=
  Option.map_eq_some_iff.mpr ⟨runner, found, rfl⟩

variable {world id} in
theorem callOf_found {runner : ActorRunner} (found : world.actors[id]? = some runner) :
    world.callOf (.actor id) = runner.control.call? := by
  rw [callOf, found]
  rfl

theorem setRunner_lookup {runner moved : ActorRunner} (found : world.actors[id]? = some runner) :
    (world.setRunner id moved).actors[other]? =
      if other = id then some moved else world.actors[other]? := by
  obtain ⟨bound, _⟩ := List.getElem?_eq_some_iff.mp found
  rw [setRunner, List.getElem?_set, if_pos bound]
  by_cases here : id = other
  · rw [if_pos here, if_pos here.symm]
  · rw [if_neg here, if_neg (Ne.symm here)]

end Lookup

/-- What a task's own code leaves alone: everything but its own control, its
signals and the front of its action channel. -/
structure Follows (task : Task) (before after : World) : Prop where
  registry : after.registry = before.registry
  senders : ∀ supervisor path, after.senderOf supervisor path = before.senderOf supervisor path
  history : after.history = before.history
  size : after.actors.length = before.actors.length
  runners : ∀ id, Task.actor id ≠ task → after.actors[id]? = before.actors[id]?
  identity : ∀ id, after.identityOf id = before.identityOf id
  finished : ∀ id, before.finished id = true → after.finished id = true
  others : ∀ other, other ≠ task → after.callOf other = before.callOf other
  queues : ∀ id,
    after.actions id = before.actions id ∧ after.stopTaken id = before.stopTaken id ∨
      ∃ action, (before.actions id).queue = action :: (after.actions id).queue ∧
        after.stopTaken id = (before.stopTaken id || decide (action = .stop))

inductive TaskStep (world : World) (task : Task) (after : World) : Prop
  | access {call : Call} {next : World} {progress : Progress}
      (calling : world.callOf task = some call)
      (access : Access world task.supervisor call next progress)
      (follows : Follows task next after) (continues : progress.Continues task (after.callOf task))
  | own (idle : world.callOf task = none) (follows : Follows task world after)
      (begins : ∀ call, after.callOf task = some call → call.BegunBy task)

section Follows

variable {before next : World} {id : ActorId} {runner moved : ActorRunner}

structure SameShared (before next : World) : Prop where
  registry : next.registry = before.registry
  senders : ∀ supervisor path, next.senderOf supervisor path = before.senderOf supervisor path
  history : next.history = before.history
  actors : next.actors = before.actors
  runner : next.runner = before.runner
  clients : next.clients = before.clients

theorem SameShared.refl (world : World) : SameShared world world :=
  ⟨rfl, fun _ _ => rfl, rfl, rfl, rfl, rfl⟩

theorem setSignals_shared (world : World) (supervisor : Supervisor)
    (signals : Channel (ActorId × ActorSignal)) :
    SameShared world (world.setSignals supervisor signals) :=
  ⟨rfl, fun holder path => world.setSignals_senderOf path supervisor holder signals,
    rfl, rfl, rfl, rfl⟩

theorem setActions_shared (world : World) (child : ActorId) (actions : Channel ChildAction) :
    SameShared world (world.setActions child actions) :=
  ⟨rfl, fun _ _ => rfl, rfl, rfl, rfl, rfl⟩

theorem setRunner_follows (shared : SameShared before next) (found : before.actors[id]? = some runner)
    (unfinished : runner.finished = false) (identity : moved.identity = runner.identity)
    (queues : ∀ other, next.actions other = before.actions other ∧
        (other = id → moved.history.stopTaken = runner.history.stopTaken) ∨
      ∃ action, other = id ∧ (before.actions id).queue = action :: (next.actions id).queue ∧
        moved.history.stopTaken = (runner.history.stopTaken || decide (action = .stop))) :
    Follows (.actor id) before (next.setRunner id moved) := by
  have foundNext : next.actors[id]? = some runner := by rw [shared.actors]; exact found
  have lookup (other : ActorId) : (next.setRunner id moved).actors[other]? =
      if other = id then some moved else before.actors[other]? := by
    rw [setRunner_lookup next id other foundNext, shared.actors]
  constructor
  case registry => exact shared.registry
  case senders => exact shared.senders
  case history => exact shared.history
  case size => rw [setRunner, List.length_set, shared.actors]
  case runners =>
    intro other different
    rw [lookup, if_neg fun same => different (by rw [same])]
  case identity =>
    intro other
    by_cases here : other = id
    · simp [identityOf, lookup, here, found, identity]
    · simp [identityOf, lookup, here]
  case finished =>
    intro other gone
    by_cases here : other = id
    · rw [here, World.finished, found] at gone
      simp [unfinished] at gone
    · simpa [World.finished, lookup, here] using gone
  case others =>
    intro other different
    cases other with
    | actor otherId =>
        have apart : otherId ≠ id := fun same => different (by rw [same])
        simp [callOf, lookup, apart]
    | runner => exact congrArg (fun runner => runner.control.call?) shared.runner
    | client client => exact congrFun shared.clients client
  case queues =>
    intro other
    have taken : (next.setRunner id moved).stopTaken other =
        if other = id then moved.history.stopTaken else before.stopTaken other := by
      by_cases here : other = id
      · simp [stopTaken, lookup, here]
      · simp [stopTaken, lookup, here]
    have current : before.stopTaken id = runner.history.stopTaken := by
      simp [stopTaken, found]
    rcases queues other with ⟨same, kept⟩ | ⟨action, here, front, takes⟩
    · left
      refine ⟨same, ?_⟩
      rw [taken]
      by_cases here : other = id
      · rw [if_pos here, kept here, here, current]
      · rw [if_neg here]
    · right
      subst here
      exact ⟨action, front, by rw [taken, if_pos rfl, takes, current]⟩

end Follows

section Access

variable {world next : World} {supervisor : Supervisor} {call : Call} {progress : Progress}

theorem Access.leadsTo {goesOn : Call}
    (access : Access world supervisor call next (.call goesOn)) : call.LeadsTo goesOn := by
  generalize reached : Progress.call goesOn = progress at access
  cases access with
  | @listed _ paths =>
      cases paths with
      | nil => cases reached
      | cons path paths =>
          cases reached
          exact .firstStop
  | @stopSent _ rest =>
      match rest with
      | none | some [] => cases reached
      | some (path :: rest) =>
          cases reached
          exact .nextStop
  | @restartListed children =>
      cases children with
      | nil => cases reached
      | cons child rest =>
          cases reached
          exact .firstRestart
  | @restartSent _ rest =>
      cases rest with
      | nil => cases reached
      | cons child rest =>
          cases reached
          exact .nextRestart
  | spawned =>
      cases reached
      exact .spawned _
  | startFailed =>
      cases reached
      exact .startFailed _
  | senderTaken =>
      cases reached
      exact .senderTaken _
  | started | entryDropped | entryInserted | someChildren | entryTaken | childRemoved =>
      cases reached
      constructor
  | _ => cases reached

theorem Access.actors (access : Access world supervisor call next progress) :
    next.actors = world.actors ∨
      ∃ path strategy, call = .createActor path strategy ∧
        next.actors = world.actors ++ [.new path supervisor strategy] := by
  cases access with
  | spawned => exact .inr ⟨_, _, rfl, rfl⟩
  | @emitRefused child signal => cases signal <;> exact .inl rfl
  | @emitted child signal => cases signal <;> exact .inl rfl
  | _ => exact .inl rfl

theorem Access.tasks (access : Access world supervisor call next progress) :
    next.runner = world.runner ∧ next.clients = world.clients := by
  cases access with
  | @emitRefused child signal => cases signal <;> exact ⟨rfl, rfl⟩
  | @emitted child signal => cases signal <;> exact ⟨rfl, rfl⟩
  | _ => exact ⟨rfl, rfl⟩

theorem Access.lookup (access : Access world supervisor call next progress) {id : ActorId}
    {runner : ActorRunner} (found : world.actors[id]? = some runner) :
    next.actors[id]? = some runner := by
  rcases access.actors with same | ⟨_, _, _, added⟩
  · rw [same, found]
  · obtain ⟨bound, _⟩ := List.getElem?_eq_some_iff.mp found
    rw [added, List.getElem?_append_left bound, found]

theorem Access.callOf (access : Access world supervisor call next progress) (task : Task) :
    next.callOf task = world.callOf task := by
  cases task with
  | runner => exact congrArg (fun runner => runner.control.call?) access.tasks.1
  | client id => exact congrFun access.tasks.2 id
  | actor id =>
      rcases access.actors with same | ⟨_, _, _, added⟩
      · rw [World.callOf, World.callOf, same]
      · rw [World.callOf, World.callOf, added]
        rcases lt_trichotomy id world.actors.length with below | here | above
        · rw [List.getElem?_append_left below]
        · subst here
          simp [ActorRunner.new, Control.call?]
        · rw [List.getElem?_eq_none (Nat.le_of_lt above), List.getElem?_eq_none]
          rw [List.length_append, List.length_singleton]
          exact above

end Access

section Tasks

variable {world after : World} {choice : Choice}

theorem outside_follows {task : Task} {before : World} (registry : after.registry = before.registry)
    (senders : ∀ supervisor path, after.senderOf supervisor path = before.senderOf supervisor path)
    (history : after.history = before.history) (actors : after.actors = before.actors)
    (actions : after.actions = before.actions)
    (others : ∀ other, other ≠ task → after.callOf other = before.callOf other) :
    Follows task before after := by
  constructor
  case registry => exact registry
  case senders => exact senders
  case history => exact history
  case size => rw [actors]
  case runners => exact fun id _ => by rw [actors]
  case identity => exact fun id => by rw [identityOf, identityOf, actors]
  case finished => exact fun id gone => by rw [World.finished, actors]; exact gone
  case others => exact others
  case queues => exact fun id => .inl ⟨congrFun actions id, by rw [stopTaken, stopTaken, actors]⟩

theorem setSystemRunner_follows (world : World) (runner : SystemRunner) :
    Follows .runner world (world.setSystemRunner runner) := by
  refine outside_follows rfl (fun _ _ => rfl) rfl rfl rfl ?_
  intro other different
  cases other with
  | runner => exact absurd rfl different
  | _ => rfl

theorem setClient_callOf (world : World) (id : ClientId) (call : Option Call) :
    (world.setClient id call).callOf (.client id) = call :=
  Function.update_self _ _ _

theorem setClient_follows (world : World) (id : ClientId) (call : Option Call) :
    Follows (.client id) world (world.setClient id call) := by
  refine outside_follows rfl (fun _ _ => rfl) rfl rfl rfl ?_
  intro other different
  cases other with
  | client otherId => exact Function.update_of_ne (fun same => different (by rw [same])) _ _
  | _ => rfl

structure OwnStep (world : World) (id : ActorId) (runner : ActorRunner) (next : World)
    (moved : ActorRunner) : Prop where
  idle : runner.control.call? = none
  shared : SameShared world next
  queues : ∀ other, next.actions other = world.actions other ∧
      (other = id → moved.history.stopTaken = runner.history.stopTaken) ∨
    ∃ action, other = id ∧ (world.actions id).queue = action :: (next.actions id).queue ∧
      moved.history.stopTaken = (runner.history.stopTaken || decide (action = .stop))
  begins : ∀ call, moved.control.call? = some call → call.BegunBy (.actor id)

theorem own_quiet {id : ActorId} {runner moved : ActorRunner} (idle : runner.control.call? = none)
    (kept : moved.history.stopTaken = runner.history.stopTaken)
    (begins : ∀ call, moved.control.call? = some call → call.BegunBy (.actor id)) :
    OwnStep world id runner world moved :=
  ⟨idle, .refl world, fun _ => .inl ⟨rfl, fun _ => kept⟩, begins⟩

theorem RunnerStep.own {id : ActorId} {runner moved : ActorRunner} {next : World}
    (moves : RunnerStep world id runner choice next moved) :
    OwnStep world id runner next moved ∨
      ∃ call point progress, runner.control = .calling call point ∧
        Access world (.actor id) call next progress ∧ moved = runner.proceed id point progress := by
  cases moves with
  | init within =>
      left
      have idle : runner.control.call? = none := by rw [within]; rfl
      have arm := runner.init_arm id
      generalize runner.init id = moved at arm
      cases arm with
      | stopped => exact own_quiet idle rfl fun call begun => by cases begun; trivial
      | failed =>
          exact own_quiet idle rfl fun call begun => by rw [within] at begun; cases begun
      | _ => exact own_quiet idle rfl fun call begun => by cases begun
  | woke within =>
      exact .inl (own_quiet (by rw [within]; rfl) rfl fun call begun => by cases begun)
  | requested within asked =>
      refine .inl (own_quiet (by rw [within]; rfl) rfl ?_)
      intro call begun
      cases begun
      exact ContextRequest.call_begun _ id runner.path _ asked
  | tooDeep within =>
      exact .inl (own_quiet (by rw [within]; rfl) rfl fun call begun => by
        rw [within] at begun
        cases begun)
  | @returned hook result within =>
      exact .inl (own_quiet (by rw [within]; rfl) (runner.hookReturns_stopTaken id hook result)
        (runner.hookReturns_begins id hook result))
  | panicked within =>
      exact .inl (own_quiet (by rw [within]; rfl) rfl fun call begun => by cases begun)
  | message within =>
      exact .inl (own_quiet (by rw [within]; rfl) rfl fun call begun => by cases begun)
  | @signal emitter signal signals within received =>
      left
      constructor
      case idle => rw [within]; rfl
      case shared => exact setSignals_shared _ _ _
      case queues => exact fun other => .inl ⟨rfl, fun _ => by cases signal <;> rfl⟩
      case begins => exact runner.takeSignal_begins id emitter signal
  | @action action actions within received =>
      left
      constructor
      case idle => rw [within]; rfl
      case shared => exact setActions_shared _ _ _
      case queues =>
        intro other
        by_cases here : other = id
        · right
          refine ⟨action, here, ?_, ?_⟩
          · have front := Channel.receive_queue received
            simpa [setActions] using front
          · cases action <;> simp [ActorRunner.takeAction]
        · left
          exact ⟨Function.update_of_ne here _ _, fun same => absurd same here⟩
      case begins => exact runner.takeAction_begins id _ action
  | @access _ call point _ progress within access =>
      exact .inr ⟨call, point, progress, within, access, rfl⟩

theorem proceed_follows {id : ActorId} {runner : ActorRunner} {call : Call} {point : Point}
    {next : World} (found : next.actors[id]? = some runner)
    (within : runner.control = .calling call point) (progress : Progress) :
    Follows (.actor id) next (next.setRunner id (runner.proceed id point progress)) ∧
      progress.Continues (.actor id)
        ((next.setRunner id (runner.proceed id point progress)).callOf (.actor id)) := by
  have unfinished : runner.finished = false := by
    simp [ActorRunner.finished, ActorRunner.panicked, within]
  constructor
  · exact setRunner_follows (.refl next) found unfinished
      (runner.proceed_identity id point progress)
      fun _ => .inl ⟨rfl, fun _ => runner.proceed_stopTaken id point progress⟩
  · have control : (next.setRunner id (runner.proceed id point progress)).callOf (.actor id) =
        (runner.proceed id point progress).control.call? := by
      simp [callOf, setRunner_lookup next id id found]
    rw [control]
    exact runner.proceed_continues id point progress

theorem actorStep_task {id : ActorId} (taken : world.actorStep id choice = some after) :
    TaskStep world (.actor id) after := by
  obtain ⟨runner, next, moved, found, moves, rfl⟩ := actorStep_cases taken
  have calling := callOf_found found
  rcases moves.own with own | ⟨call, point, progress, within, access, rfl⟩
  · have foundNext : next.actors[id]? = some runner := by rw [own.shared.actors, found]
    refine .own (calling.trans own.idle) ?_ ?_
    · exact setRunner_follows own.shared found moves.unfinished moves.identity own.queues
    · intro call begun
      have control : (next.setRunner id moved).callOf (.actor id) = moved.control.call? := by
        simp [callOf, setRunner_lookup next id id foundNext]
      exact own.begins call (by rw [← control]; exact begun)
  · obtain ⟨follows, continues⟩ := proceed_follows (access.lookup found) within progress
    exact .access (by rw [calling, within]; rfl) access follows continues

inductive SystemStep (world : World) : Choice → World → SystemRunner → Prop
  | cancelled (within : world.runner.control = .select) (cancelled : world.cancelled = true) :
      SystemStep world .cancellation world
        { shutdownFlag := true, control := .calling (.stopChildren rootPath) .cancelled }
  | signal {emitter : ActorId} {signal : ActorSignal} {signals : Channel (ActorId × ActorSignal)}
      (within : world.runner.control = .select)
      (received : (world.handlers .system).signals.receive = some ((emitter, signal), signals)) :
      SystemStep world .signal (world.setSignals .system signals)
        (world.runner.takeSignal emitter signal)
  | access {choice : Choice} {call : Call} {point : SystemPoint} {next : World}
      {progress : Progress} (within : world.runner.control = .calling call point)
      (access : Access world .system call next progress) :
      SystemStep world choice next (world.runner.proceed point progress)

theorem runnerStep_cases (taken : world.runnerStep choice = some after) :
    ∃ next moved, SystemStep world choice next moved ∧ after = next.setSystemRunner moved := by
  cases within : world.runner.control with
  | select =>
      simp only [runnerStep, within] at taken
      cases choice with
      | cancellation =>
          simp only [Option.ite_none_right_eq_some] at taken
          obtain ⟨cancelled, taken⟩ := taken
          cases taken
          exact ⟨_, _, .cancelled within cancelled, rfl⟩
      | signal =>
          obtain ⟨⟨⟨emitter, signal⟩, signals⟩, received, taken⟩ := Option.bind_eq_some_iff.mp taken
          cases taken
          exact ⟨_, _, .signal within received, rfl⟩
      | _ => cases taken
  | calling call point =>
      simp only [runnerStep, within] at taken
      obtain ⟨⟨next, progress⟩, access, taken⟩ := Option.bind_eq_some_iff.mp taken
      cases taken
      exact ⟨_, _, .access within (callStep_access access), rfl⟩
  | ended =>
      simp only [runnerStep, within] at taken
      cases taken

theorem runner_continues (runner : SystemRunner) (next : World) (point : SystemPoint)
    (progress : Progress) : progress.Continues .runner
      ((next.setSystemRunner (runner.proceed point progress)).callOf .runner) := by
  cases progress with
  | call goesOn => rfl
  | «return» outcome =>
      intro call begun
      rw [runner.resume_counts point outcome call begun]
      trivial

theorem runnerStep_task (taken : world.runnerStep choice = some after) :
    TaskStep world .runner after := by
  obtain ⟨next, moved, moves, rfl⟩ := runnerStep_cases taken
  cases moves with
  | cancelled within =>
      refine .own (by rw [callOf, within]; rfl) (setSystemRunner_follows _ _) ?_
      intro call begun
      cases begun
      trivial
  | @signal emitter signal signals within =>
      have shared := setSignals_shared world .system signals
      refine .own (by rw [callOf, within]; rfl) ?_ ?_
      · exact outside_follows rfl shared.senders rfl rfl rfl
          (setSystemRunner_follows (world.setSignals .system signals) _).others
      · intro call begun
        cases signal <;> cases begun <;> trivial
  | @access _ call point next progress within access =>
      exact .access (by rw [callOf, within]; rfl) access (setSystemRunner_follows _ _)
        (runner_continues world.runner next point progress)

inductive ClientStep (world : World) (id : ClientId) : World → Option Call → Prop
  | began {request : SystemRequest} (idle : world.clients id = none) :
      ClientStep world id world (some request.call)
  | access {call : Call} {next : World} {progress : Progress}
      (within : world.clients id = some call) (access : Access world .system call next progress) :
      ClientStep world id next progress.call?

theorem clientStep_cases {id : ClientId} (taken : world.clientStep id choice = some after) :
    ∃ next call, ClientStep world id next call ∧ after = next.setClient id call := by
  cases within : world.clients id with
  | none =>
      simp only [clientStep, within] at taken
      cases choice with
      | system request =>
          cases taken
          exact ⟨_, _, .began within, rfl⟩
      | _ => cases taken
  | some call =>
      simp only [clientStep, within] at taken
      obtain ⟨⟨next, progress⟩, access, taken⟩ := Option.bind_eq_some_iff.mp taken
      cases taken
      exact ⟨_, _, .access within (callStep_access access), rfl⟩

theorem setClient_continues (world : World) (id : ClientId) (progress : Progress) :
    progress.Continues (.client id) ((world.setClient id progress.call?).callOf (.client id)) := by
  rw [setClient_callOf]
  cases progress with
  | call goesOn => rfl
  | «return» outcome =>
      intro call begun
      cases begun

theorem clientStep_task {id : ClientId} (taken : world.clientStep id choice = some after) :
    TaskStep world (.client id) after := by
  obtain ⟨next, moved, moves, rfl⟩ := clientStep_cases taken
  cases moves with
  | @began request idle =>
      refine .own idle (setClient_follows _ _ _) ?_
      intro call begun
      rw [setClient_callOf] at begun
      cases begun
      exact request.call_begun _
  | @access call _ progress within access =>
      exact .access within access (setClient_follows _ _ _) (setClient_continues _ id progress)

theorem step_task {task : Task} (taken : step world (.task task choice) = some after) :
    TaskStep world task after := by
  cases task with
  | actor id => exact actorStep_task taken
  | runner => exact runnerStep_task taken
  | client id => exact clientStep_task taken

theorem step_own {id : ActorId} {runner moved : ActorRunner}
    (taken : step world (.task (.actor id) choice) = some after)
    (found : world.actors[id]? = some runner) (foundAfter : after.actors[id]? = some moved) :
    ∃ next, RunnerStep world id runner choice next moved ∧ after = next.setRunner id moved := by
  obtain ⟨was, next, reached, foundWas, moves, rfl⟩ := actorStep_cases taken
  obtain rfl := Option.some.inj (found.symm.trans foundWas)
  have foundNext : next.actors[id]? = some runner := by
    rcases moves.own with own | ⟨call, point, progress, within, access, _⟩
    · rw [own.shared.actors, found]
    · exact access.lookup found
  rw [setRunner_lookup next id id foundNext, if_pos rfl] at foundAfter
  cases foundAfter
  exact ⟨next, moves, rfl⟩

inductive RunnerOrigin (world : World) (label : Label) (id : ActorId) (moved : ActorRunner) : Prop
  | own {choice : Choice} {runner : ActorRunner} {next : World}
      (labelled : label = .task (.actor id) choice) (found : world.actors[id]? = some runner)
      (moves : RunnerStep world id runner choice next moved)
  | kept (found : world.actors[id]? = some moved)
  | spawned (path : ActorPath) (supervisor : Supervisor) (strategy : SupervisionStrategy)
      (absent : world.actors[id]? = none) (new : moved = .new path supervisor strategy)

theorem Access.origin {supervisor : Supervisor} {call : Call} {next : World} {progress : Progress}
    (access : Access world supervisor call next progress) {id : ActorId} {moved : ActorRunner}
    (found : next.actors[id]? = some moved) (label : Label) :
    RunnerOrigin world label id moved := by
  rcases access.actors with same | ⟨path, strategy, _, added⟩
  · exact .kept (by rw [← same]; exact found)
  · rw [added] at found
    by_cases below : id < world.actors.length
    · rw [List.getElem?_append_left below] at found
      exact .kept found
    · rw [List.getElem?_append_right (Nat.le_of_not_lt below)] at found
      obtain ⟨_, new⟩ := List.getElem?_eq_some_iff.mp found
      rw [List.getElem_singleton] at new
      exact .spawned path supervisor strategy
        (List.getElem?_eq_none (Nat.le_of_not_lt below)) new.symm

theorem step_origin {label : Label} {id : ActorId} {moved : ActorRunner}
    (taken : step world label = some after) (found : after.actors[id]? = some moved) :
    RunnerOrigin world label id moved := by
  cases label with
  | cancel =>
      cases taken
      exact .kept found
  | task task choice =>
      by_cases here : task = .actor id
      · subst here
        obtain ⟨runner, _, _, was, _⟩ := actorStep_cases taken
        obtain ⟨next, moves, _⟩ := step_own taken was found
        exact .own rfl was moves
      · cases step_task taken with
        | access calling access follows continues =>
            rw [follows.runners id (Ne.symm here)] at found
            exact access.origin found _
        | own idle follows begins =>
            rw [follows.runners id (Ne.symm here)] at found
            exact .kept found

theorem step_size {label : Label} (taken : step world label = some after) :
    world.actors.length ≤ after.actors.length := by
  cases label with
  | cancel =>
      cases taken
      exact Nat.le_refl _
  | task task choice =>
      cases step_task taken with
      | access calling access follows continues =>
          rw [follows.size]
          rcases access.actors with same | ⟨_, _, _, added⟩
          · rw [same]
          · rw [added, List.length_append]
            exact Nat.le_add_right _ _
      | own idle follows begins => rw [follows.size]

end Tasks

end World

end Rush.Actor
