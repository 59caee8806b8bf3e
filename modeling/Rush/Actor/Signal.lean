import Rush.Actor.Error
import Rush.Actor.Path
import Rush.Actor.Supervision

/-! What actors and their supervisors send each other, and the points at which a
call on a supervision handler waits. Between two such points another task may
run; each point is one access to a shared map, one send or one receive. -/

namespace Rush.Actor

/-- An actor instance, numbered in the order of spawning. -/
abbrev ActorId := Nat

abbrev ClientId := Nat

/-- The owner of a `SupervicionHandler`: the system or an actor's context. -/
inductive Supervisor where
  | system
  | actor (id : ActorId)
  deriving DecidableEq, Repr

inductive ChildAction where
  | stop
  | restart
  deriving DecidableEq, Repr

inductive ActorSignal where
  | error (path : ActorPath) (error : Error)
  | fault (path : ActorPath) (error : Error)
  | stopped (path : ActorPath)
  deriving DecidableEq, Repr

inductive Call where
  -- create_actor: the registry test, the wait for `init_receiver`, the removals
  -- after a failed start and the insertions after a successful one
  | createActor (path : ActorPath) (strategy : SupervisionStrategy)
  | initResult (child : ActorId)
  | dropEntry (child : ActorId) (error : Error)
  | dropSender (child : ActorId) (error : Error)
  | insertEntry (child : ActorId)
  | insertSender (child : ActorId)
  -- stop_children: its two readings of the registry
  | stopChildren (parent : ActorPath)
  | stopListed (parent : ActorPath)
  -- stop_child: `rest` holds the paths a surrounding stop_children has left
  | stopChild (path : ActorPath) (rest : Option (List ActorPath))
  | takeSender (path : ActorPath) (rest : Option (List ActorPath))
  | sendStop (child : ActorId) (rest : Option (List ActorPath))
  | restartChildren
  | sendRestart (child : ActorId) (rest : List ActorId)
  -- remove_child: `emitter` is the sender of the signal it answers, if any
  | removeChild (path : ActorPath) (emitter : Option ActorId)
  | removeSender (path : ActorPath)
  | hasChilds (parent : ActorPath)
  | emit (child : ActorId) (signal : ActorSignal)
  deriving DecidableEq, Repr

/-- What a finished call returns. -/
inductive Outcome where
  | done
  | created (child : ActorId)
  | children (found : Bool)
  | failed (error : Error)
  deriving DecidableEq, Repr

/-- How a call goes on after one access: at its next point, or back to its caller. -/
inductive Progress where
  | call (next : Call)
  | return (outcome : Outcome)
  deriving DecidableEq, Repr

def Progress.call? : Progress → Option Call
  | .call next => some next
  | .return _ => none

/-- Where `stop_child` goes after its send: back to its own caller, or to the next
path of the `stop_children` around it. -/
def stopNext : Option (List ActorPath) → Progress
  | none => .return .done
  | some [] => .return (.children true)
  | some (path :: rest) => .call (.stopChild path (some rest))

def restartNext : List ActorId → Progress
  | [] => .return .done
  | child :: rest => .call (.sendRestart child rest)

def maxActorDepth : Nat := 100

/-- The methods an actor's hooks can call on their context. Announcing the actor's own end
(`emit_stopped`) is left to the runner. -/
inductive ContextRequest where
  | createChild (name : String) (strategy : SupervisionStrategy)
  | stopChild (name : String)
  | stopChildren
  | removeChild (name : String)
  | restartChildren
  | emitError (error : Error)
  | emitFault (error : Error)
  deriving DecidableEq, Repr

/-- The call behind a context method; `none` where it returns at once. -/
def ContextRequest.call (self : ActorId) (path : ActorPath) : ContextRequest → Option Call
  | .createChild name strategy =>
      -- "Max actor depth exceeded"
      if path.level ≥ maxActorDepth then none else some (.createActor (path / name) strategy)
  | .stopChild name => some (.stopChild (path / name) none)
  | .stopChildren => some (.stopChildren path)
  | .removeChild name => some (.removeChild (path / name) none)
  | .restartChildren => some .restartChildren
  | .emitError error => some (.emit self (.error path error))
  | .emitFault error => some (.emit self (.fault path error))

def rootPath : ActorPath := .ofText "/user"

inductive SystemRequest where
  | createActor (name : String) (strategy : SupervisionStrategy)
  | stopActor (name : String)
  | stopChildren
  | removeChild (path : ActorPath)
  | onChildError (path : ActorPath)
  | onChildFault
  deriving DecidableEq, Repr

def SystemRequest.call : SystemRequest → Call
  | .createActor name strategy => .createActor (rootPath / name) strategy
  | .stopActor name => .stopChild (rootPath / name) none
  | .stopChildren => .stopChildren rootPath
  | .removeChild path => .removeChild path none
  | .onChildError path => .stopChildren path
  | .onChildFault => .stopChildren rootPath

end Rush.Actor
