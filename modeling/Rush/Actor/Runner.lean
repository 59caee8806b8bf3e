import Rush.Actor.Signal

/-! The task of one actor: the arms of `ActorRunner::init` and of the run loop,
as functions of the runner alone. Hooks are user code: they may call their
context any number of times and return any result. -/

namespace Rush.Actor

inductive ActorLifecycle where
  | created
  | started
  | restarted
  | failed
  | stopped
  | terminated
  deriving DecidableEq, Repr

inductive Hook where
  | preStart
  | preRestart
  | preStop
  | postStop
  | handle
  | onChildError (child : ActorPath) (error : Error)
  | onChildFault (child : ActorPath) (error : Error)
  deriving DecidableEq, Repr

inductive Point where
  | hook (hook : Hook)
  | preStopFault
  | stopChildren
  | stopFault
  | restartChildren
  | restartFault
  | removeChild
  | hasChilds
  | emitStopped
  deriving DecidableEq, Repr

inductive Control where
  | lifecycle
  | hook (hook : Hook)
  | sleep (duration : Duration)
  | select
  | calling (call : Call) (point : Point)
  | ended
  | panicked
  deriving DecidableEq, Repr

def Control.call? : Control → Option Call
  | .calling call _ => some call
  | _ => none

structure RunHistory where
  /-- This run has consumed a Stop. -/
  stopConsumed : Bool := false
  /-- After it, `pre_stop` has returned. -/
  preStopRan : Bool := false
  /-- What this run returned, once it has. -/
  returned : Option ActorLifecycle := none
  /-- Some run of the actor has consumed a Stop. -/
  stopTaken : Bool := false
  /-- The children that ran when the last Stop was consumed. -/
  asked : List ActorId := []
  /-- Those of them whose `stop_children` succeeded. -/
  awaited : List ActorId := []
  deriving DecidableEq, Repr

structure ActorRunner where
  path : ActorPath
  /-- The handler that created the actor: it holds the action sender and receives
  the signals. -/
  supervisor : Supervisor
  strategy : SupervisionStrategy
  lifecycle : ActorLifecycle := .created
  retries : Nat := 0
  /-- `init_sender` has not been taken yet. -/
  initSender : Bool := true
  /-- What went through it: `some none` for `Ok(())`. -/
  initAnswer : Option (Option Error) := none
  control : Control := .lifecycle
  history : RunHistory := {}
  deriving DecidableEq, Repr

namespace ActorRunner

def new (path : ActorPath) (supervisor : Supervisor) (strategy : SupervisionStrategy) :
    ActorRunner where
  path := path
  supervisor := supervisor
  strategy := strategy

def panicked (runner : ActorRunner) : Bool := runner.control = .panicked

/-- The task is gone, and with it the receivers it owned. -/
def finished (runner : ActorRunner) : Bool := runner.control = .ended || runner.panicked

def enterRun (runner : ActorRunner) : ActorRunner :=
  { runner with
    initSender := false
    initAnswer := if runner.initSender then some none else runner.initAnswer
    control := .select
    history :=
      { runner.history with stopConsumed := false, preStopRan := false, returned := none } }

def leaveRun (runner : ActorRunner) (result : ActorLifecycle) : ActorRunner :=
  { runner with
    lifecycle := result
    control := .lifecycle
    history := { runner.history with returned := some result, asked := [] } }

def failStart (runner : ActorRunner) : ActorRunner :=
  { runner with
    lifecycle := .failed
    initSender := false
    initAnswer :=
      if runner.initSender then
        some (some (.createActor
          s!"Actor {runner.path} failed to start after {runner.retries} retries."))
      else runner.initAnswer
    control := .lifecycle }

def beginRestart (runner : ActorRunner) : ActorRunner :=
  { runner with retries := runner.retries + 1, control := .hook .preRestart }

def applySupervisionStrategy (runner : ActorRunner) : ActorRunner :=
  match runner.strategy with
  | .stop => runner.failStart
  | .retry strategy =>
      if runner.retries < strategy.maxRetries then
        match strategy.nextBackoff.1 with
        | some duration => { runner with control := .sleep duration }
        | none => runner.beginRestart
      else runner.failStart

def init (self : ActorId) (runner : ActorRunner) : ActorRunner :=
  match runner.lifecycle with
  | .created => { runner with control := .hook .preStart }
  | .started => runner.enterRun
  | .restarted => runner.applySupervisionStrategy
  | .failed => { runner with lifecycle := .stopped }
  | .stopped => { runner with control := .calling (.emit self (.stopped runner.path)) .emitStopped }
  | .terminated => { runner with control := .ended }

def stopChildren (runner : ActorRunner) : ActorRunner :=
  { runner with control := .calling (.stopChildren runner.path) .stopChildren }

def emitFault (self : ActorId) (runner : ActorRunner) (error : Error) (point : Point) :
    ActorRunner :=
  { runner with control := .calling (.emit self (.fault runner.path error)) point }

def hookReturns (self : ActorId) (runner : ActorRunner) (hook : Hook)
    (result : Except Error Unit) : ActorRunner :=
  match hook, result with
  | .preStart, .ok () => { runner with lifecycle := .started, control := .lifecycle }
  | .preStart, .error _ => { runner with lifecycle := .restarted, control := .lifecycle }
  | .preRestart, .ok () =>
      { runner with lifecycle := .started, retries := 0, control := .lifecycle }
  | .preRestart, .error _ => { runner with control := .lifecycle }
  | .preStop, .ok () =>
      { runner with history := { runner.history with preStopRan := true } }.stopChildren
  | .preStop, .error error =>
      emitFault self { runner with history := { runner.history with preStopRan := true } } error
        .preStopFault
  | .postStop, _ => { runner with lifecycle := .terminated, control := .lifecycle }
  | .handle, _ | .onChildError _ _, _ | .onChildFault _ _, _ =>
      { runner with control := .select }

def takeMessage (runner : ActorRunner) : ActorRunner := { runner with control := .hook .handle }

def takeSignal (runner : ActorRunner) (emitter : ActorId) : ActorSignal → ActorRunner
  | .error child error => { runner with control := .hook (.onChildError child error) }
  | .fault child error => { runner with control := .hook (.onChildFault child error) }
  | .stopped child =>
      { runner with
        control := .calling (.removeChild (runner.path / child.key) (some emitter)) .removeChild }

def takeAction (runner : ActorRunner) (running : List ActorId) : ChildAction → ActorRunner
  | .stop =>
      { runner with
        control := .hook .preStop
        history :=
          { runner.history with stopConsumed := true, stopTaken := true, asked := running } }
  | .restart => { runner with control := .calling .restartChildren .restartChildren }

/-- `stop_children` has succeeded for the children that were running. -/
def awaitAsked (runner : ActorRunner) : ActorRunner :=
  { runner with
    history :=
      { runner.history with
        asked := []
        awaited := runner.history.asked ++ runner.history.awaited } }

def resume (self : ActorId) (runner : ActorRunner) (point : Point) (outcome : Outcome) :
    ActorRunner :=
  match point, outcome with
  | .hook hook, _ => { runner with control := .hook hook }
  | .preStopFault, .failed _ => runner.leaveRun .failed
  | .preStopFault, _ => runner.stopChildren
  | .stopChildren, .failed error =>
      emitFault self { runner with history := { runner.history with asked := [] } } error .stopFault
  | .stopChildren, .children false => runner.awaitAsked.leaveRun .stopped
  | .stopChildren, _ => { runner.awaitAsked with control := .select }
  | .stopFault, .failed _ => runner.leaveRun .failed
  | .stopFault, _ => { runner with control := .select }
  | .restartChildren, .failed error => runner.emitFault self error .restartFault
  | .restartChildren, _ => runner.leaveRun .restarted
  | .restartFault, .failed _ => runner.leaveRun .failed
  | .restartFault, _ => runner.leaveRun .restarted
  | .removeChild, _ => { runner with control := .calling (.hasChilds runner.path) .hasChilds }
  | .hasChilds, .children true => { runner with control := .select }
  | .hasChilds, _ => runner.leaveRun .stopped
  | .emitStopped, _ => { runner with control := .hook .postStop }

def proceed (self : ActorId) (runner : ActorRunner) (point : Point) : Progress → ActorRunner
  | .call next => { runner with control := .calling next point }
  | .return outcome => runner.resume self point outcome

end ActorRunner

end Rush.Actor
