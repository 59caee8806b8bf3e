import Rush.Library.Channel
import Rush.Actor.Runner

/-! The actor system as one state: the shared registry, every supervision
handler, every actor's task, the `SystemRunner` and any number of clients. A step
lets one task go on to its next await point. -/

namespace Rush.Actor

open Rush.Library

abbrev ActorRegistry := Finmap fun _ : ActorPath => ActorId

abbrev ActionsRegistry := Finmap fun _ : ActorPath => ActorId

structure Config where
  signalBufferSize : Nat
  actionBufferSize : Nat
  signalRoom : 0 < signalBufferSize
  actionRoom : 0 < actionBufferSize

def Config.default : Config := ⟨10000, 10000, by decide, by decide⟩

/-- A handler's own part: its action senders and the channel behind its
`child_signal_sender`. A signal is queued with the instance that emitted it, which
no receiver reads. -/
structure SupervicionHandler where
  actionSenders : ActionsRegistry
  signals : Channel (ActorId × ActorSignal)

inductive SystemPoint where
  | cancelled
  | childError
  | childFault
  | removeChild
  | hasChilds
  deriving DecidableEq, Repr

inductive SystemControl where
  | select
  | calling (call : Call) (point : SystemPoint)
  | ended
  deriving DecidableEq, Repr

def SystemControl.call? : SystemControl → Option Call
  | .calling call _ => some call
  | _ => none

structure SystemRunner where
  shutdownFlag : Bool := false
  control : SystemControl := .select
  deriving DecidableEq, Repr

namespace SystemRunner

/-- The code of the `SystemRunner` after a call's `await`. -/
def resume (runner : SystemRunner) (point : SystemPoint) (outcome : Outcome) :
    SystemRunner :=
  match point, outcome with
  | .cancelled, .children false | .hasChilds, .children false => { runner with control := .ended }
  | .removeChild, _ =>
      if runner.shutdownFlag then
        { runner with control := .calling (.hasChilds rootPath) .hasChilds }
      else { runner with control := .select }
  | _, _ => { runner with control := .select }

def proceed (runner : SystemRunner) (point : SystemPoint) : Progress → SystemRunner
  | .call next => { runner with control := .calling next point }
  | .return outcome => runner.resume point outcome

def takeSignal (runner : SystemRunner) (emitter : ActorId) :
    ActorSignal → SystemRunner
  | .error child _ => { runner with control := .calling (.stopChildren child) .childError }
  | .fault _ _ => { runner with control := .calling (.stopChildren rootPath) .childFault }
  | .stopped child =>
      { runner with control := .calling (.removeChild child (some emitter)) .removeChild }

end SystemRunner

structure History where
  /-- `create_actor` has returned `Ok` for the instance. -/
  created : List ActorId := []
  /-- A `stop_child` has put a Stop in its action channel. -/
  stopSent : List ActorId := []
  /-- Its `emit_stopped` has returned. -/
  emitted : List ActorId := []
  /-- A supervisor has answered its Stopped signal by `remove_child`. -/
  processed : List ActorId := []

structure World where
  config : Config
  registry : ActorRegistry
  handlers : Supervisor → SupervicionHandler
  actions : ActorId → Channel ChildAction
  actors : List ActorRunner
  runner : SystemRunner
  clients : ClientId → Option Call
  cancelled : Bool
  history : History

inductive Task where
  | actor (id : ActorId)
  | runner
  | client (id : ClientId)
  deriving DecidableEq, Repr

def Task.supervisor : Task → Supervisor
  | .actor id => .actor id
  | .runner | .client _ => .system

namespace World

def new (config : Config) : World where
  config := config
  registry := ∅
  handlers := fun _ => ⟨∅, .empty config.signalBufferSize⟩
  actions := fun _ => .empty config.actionBufferSize
  actors := []
  runner := {}
  clients := fun _ => none
  cancelled := false
  history := {}

section Access

variable (world : World)

def setRunner (id : ActorId) (runner : ActorRunner) : World :=
  { world with actors := world.actors.set id runner }

def setSystemRunner (runner : SystemRunner) : World := { world with runner }

def setClient (id : ClientId) (call : Option Call) : World :=
  { world with clients := Function.update world.clients id call }

def register (path : ActorPath) (child : ActorId) : World :=
  { world with registry := world.registry.insert path child }

def unregister (path : ActorPath) : World :=
  { world with registry := world.registry.erase path }

def senderOf (supervisor : Supervisor) (path : ActorPath) : Option ActorId :=
  (world.handlers supervisor).actionSenders.lookup path

def setSenders (supervisor : Supervisor) (senders : ActionsRegistry) : World :=
  { world with
    handlers := Function.update world.handlers supervisor
      { world.handlers supervisor with actionSenders := senders } }

def setSignals (supervisor : Supervisor) (signals : Channel (ActorId × ActorSignal)) : World :=
  { world with
    handlers := Function.update world.handlers supervisor
      { world.handlers supervisor with signals } }

def holdSender (supervisor : Supervisor) (path : ActorPath) (child : ActorId) : World :=
  world.setSenders supervisor ((world.handlers supervisor).actionSenders.insert path child)

def dropSender (supervisor : Supervisor) (path : ActorPath) : World :=
  world.setSenders supervisor ((world.handlers supervisor).actionSenders.erase path)

def setActions (child : ActorId) (actions : Channel ChildAction) : World :=
  { world with actions := Function.update world.actions child actions }

def record (history : History) : World := { world with history }

def finished (id : ActorId) : Bool := (world.actors[id]?).all ActorRunner.finished

def signalsClosed : Supervisor → Bool
  | .system => world.runner.control = .ended
  | .actor id => world.finished id

def callOf : Task → Option Call
  | .actor id => world.actors[id]?.bind fun runner => runner.control.call?
  | .runner => world.runner.control.call?
  | .client id => world.clients id

def getChilds (parent : ActorPath) : Finset ActorPath :=
  world.registry.keys.filter fun path => path.parent = parent

def running (self : Supervisor) (child : ActorId) : Bool :=
  world.actors[child]?.any fun runner =>
    runner.supervisor = self && child ∈ world.history.created &&
      child ∉ world.history.emitted && !runner.panicked

def runningChildren (self : Supervisor) : List ActorId :=
  (List.range world.actors.length).filter (world.running self)

end Access

/-- What the environment decides in a step: the branch of a `select!`, the order in
which a map is iterated, what user code does and returns. -/
inductive Choice where
  | proceed
  | order (paths : List ActorPath)
  | senders (children : List ActorId)
  | message
  | signal
  | action
  | cancellation
  | context (request : ContextRequest)
  | system (request : SystemRequest)
  | returns (result : Except Error Unit)
  | panics

/-- What `actor_supervision` makes of tokio's send error. -/
def closedChannel (context : String) : Error := .supervision s!"{context}: channel closed"

def emitContext : ActorSignal → String
  | .error _ _ => "Failed to emit error signal"
  | .fault _ _ => "Failed to emit fault signal"
  | .stopped _ => "Failed to emit stopped signal"

def alreadyExists (path : ActorPath) : Error :=
  .supervision s!"Actor with path '{path}' already exists."

def initChannelClosed (path : ActorPath) : Error :=
  .startActor s!"Actor '{path}' initialization channel closed before completion."

def notFoundForStopping (path : ActorPath) : Error :=
  .supervision s!"Child '{path}' not found for stopping."

/-- `ActorRunner::new` and the spawning of its task. -/
def spawn (world : World) (path : ActorPath) (supervisor : Supervisor)
    (strategy : SupervisionStrategy) : World :=
  { world with actors := world.actors ++ [.new path supervisor strategy] }

/-- The end of an `emit_stopped` enters the history, whether the send succeeds or not. -/
def announce (world : World) (child : ActorId) : ActorSignal → World
  | .stopped _ => world.record { world.history with emitted := child :: world.history.emitted }
  | _ => world

/-- One access of a call on the handler of `supervisor`; `none` while it waits. -/
def callStep (world : World) (supervisor : Supervisor) (choice : Choice) :
    Call → Option (World × Progress)
  | .createActor path strategy =>
      if path ∈ world.registry then some (world, .return (.failed (alreadyExists path)))
      else some (world.spawn path supervisor strategy, .call (.initResult world.actors.length))
  | .initResult child => do
      let runner ← world.actors[child]?
      match runner.initAnswer with
      | some none => some (world, .call (.insertEntry child))
      | some (some error) => some (world, .call (.dropEntry child error))
      | none =>
          if runner.panicked then
            some (world, .call (.dropEntry child (initChannelClosed runner.path)))
          else none
  | .dropEntry child error => do
      let runner ← world.actors[child]?
      some (world.unregister runner.path, .call (.dropSender child error))
  | .dropSender child error => do
      let runner ← world.actors[child]?
      some (world.dropSender supervisor runner.path, .return (.failed error))
  | .insertEntry child => do
      let runner ← world.actors[child]?
      some (world.register runner.path child, .call (.insertSender child))
  | .insertSender child => do
      let runner ← world.actors[child]?
      some ((world.holdSender supervisor runner.path child).record
        { world.history with created := child :: world.history.created },
        .return (.created child))
  | .stopChildren parent =>
      if world.getChilds parent = ∅ then some (world, .return (.children false))
      else some (world, .call (.stopListed parent))
  | .stopListed parent =>
      match choice with
      | .order paths =>
          if paths.Nodup ∧ paths.toFinset = world.getChilds parent then
            some (world, stopNext (some paths))
          else none
      | _ => none
  | .stopChild path rest => some (world.unregister path, .call (.takeSender path rest))
  | .takeSender path rest =>
      match world.senderOf supervisor path with
      | none => some (world, .return (.failed (notFoundForStopping path)))
      | some child => some (world.dropSender supervisor path, .call (.sendStop child rest))
  | .sendStop child rest =>
      if world.finished child then
        some (world, .return (.failed (closedChannel "Failed to send stop action to child")))
      else do
        let actions ← (world.actions child).send .stop
        some ((world.setActions child actions).record
          { world.history with stopSent := child :: world.history.stopSent }, stopNext rest)
  | .restartChildren =>
      match choice with
      | .senders children =>
          if (children : Multiset ActorId) =
              (world.handlers supervisor).actionSenders.entries.map Sigma.snd then
            some (world, restartNext children)
          else none
      | _ => none
  | .sendRestart child rest =>
      if world.finished child then
        some (world, .return (.failed (closedChannel "Failed to send restart action to child")))
      else do
        let actions ← (world.actions child).send .restart
        some (world.setActions child actions, restartNext rest)
  | .removeChild path emitter =>
      some ((world.unregister path).record
        { world.history with processed := emitter.toList ++ world.history.processed },
        .call (.removeSender path))
  | .removeSender path => some (world.dropSender supervisor path, .return .done)
  | .hasChilds parent =>
      some (world, .return (.children (decide (world.getChilds parent ≠ ∅))))
  | .emit child signal => do
      let runner ← world.actors[child]?
      if world.signalsClosed runner.supervisor then
        some (world.announce child signal, .return (.failed (closedChannel (emitContext signal))))
      else do
        let signals ← (world.handlers runner.supervisor).signals.send (child, signal)
        some ((world.announce child signal).setSignals runner.supervisor signals, .return .done)

def actorStep (world : World) (id : ActorId) (choice : Choice) : Option World := do
  let runner ← world.actors[id]?
  match runner.control with
  | .lifecycle => some (world.setRunner id (runner.init id))
  | .sleep _ => some (world.setRunner id runner.beginRestart)
  | .hook hook =>
      match choice with
      | .context request =>
          match request.call id runner.path with
          | some call => some (world.setRunner id { runner with control := .calling call (.hook hook) })
          | none => some world
      | .returns result => some (world.setRunner id (runner.hookReturns id hook result))
      | .panics => some (world.setRunner id { runner with control := .panicked })
      | _ => none
  | .select =>
      -- the `else` branch needs every receiver closed; the runner's own context
      -- keeps a sender of its signal channel, so it is never taken
      match choice with
      | .message => some (world.setRunner id runner.takeMessage)
      | .signal => do
          let (sent, signals) ← (world.handlers (.actor id)).signals.receive
          some ((world.setSignals (.actor id) signals).setRunner id
            (runner.takeSignal sent.1 sent.2))
      | .action => do
          let (action, actions) ← (world.actions id).receive
          some ((world.setActions id actions).setRunner id
            (runner.takeAction (world.runningChildren (.actor id)) action))
      | _ => none
  | .calling call point => do
      let (next, progress) ← world.callStep (.actor id) choice call
      some (next.setRunner id (runner.proceed id point progress))
  | .ended | .panicked => none

def runnerStep (world : World) (choice : Choice) : Option World :=
  match world.runner.control with
  | .select =>
      match choice with
      | .cancellation =>
          if world.cancelled then
            some (world.setSystemRunner
              { shutdownFlag := true, control := .calling (.stopChildren rootPath) .cancelled })
          else none
      | .signal => do
          let (sent, signals) ← (world.handlers .system).signals.receive
          some ((world.setSignals .system signals).setSystemRunner
            (world.runner.takeSignal sent.1 sent.2))
      | _ => none
  | .calling call point => do
      let (next, progress) ← world.callStep .system choice call
      some (next.setSystemRunner (world.runner.proceed point progress))
  | .ended => none

def clientStep (world : World) (id : ClientId) (choice : Choice) : Option World :=
  match world.clients id with
  | none =>
      match choice with
      | .system request =>
          some (world.setClient id (some request.call))
      | _ => none
  | some call => do
      let (next, progress) ← world.callStep .system choice call
      some (next.setClient id progress.call?)

inductive Label where
  | task (task : Task) (choice : Choice)
  /-- The cancellation token is cancelled. -/
  | cancel

def Label.task? : Label → Option Task
  | .task owner _ => some owner
  | .cancel => none

def step (world : World) : Label → Option World
  | .task (.actor id) choice => world.actorStep id choice
  | .task .runner choice => world.runnerStep choice
  | .task (.client id) choice => world.clientStep id choice
  | .cancel => some { world with cancelled := true }

def Initial (world : World) : Prop := ∃ config, world = new config

end World

end Rush.Actor
