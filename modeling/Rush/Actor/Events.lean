import Rush.Library.Broadcast
import Rush.Actor.Abandoned

/-! The events of the actors: `ActorContext::emit_event`, the receivers that
`ActorRef::subscribe` makes, and the loop of `EventManager::start`, over any broadcast
channel. The only sender of an actor's events is in its context. -/

namespace Rush.Actor

open Rush.Library Runs

/-- Where the loop of `start` waits. -/
inductive EventLoop (E : Type) where
  | recv
  | notify (event : E)
  | ended
  | panicked
  deriving DecidableEq

/-- Who has a receiver that `subscribe` has returned. -/
inductive Holder (E : Type) where
  | user
  /-- An `EventManager`, in a task of its own. -/
  | manager (control : EventLoop E)
  | dropped
  deriving DecidableEq

/-- A receiver by the position it has come to among the events of its actor. -/
structure Subscription (E : Type) where
  source : ActorId
  next : Nat
  holder : Holder E
  deriving DecidableEq

def EventLoop.receives {E : Type} : Receipt E → EventLoop E
  | .value event => .notify event
  | .lagged _ => .recv
  | .closed => .ended

structure Events (E : Type) where
  host : Host
  emitted : ActorId → List E
  subscriptions : List (Subscription E)

namespace Events

variable {E : Type}

inductive Label (E : Type) where
  | host (label : Host.Label)
  /-- The channel answers what it finds: there may be no receiver. -/
  | emitEvent (id : ActorId) (event : E) (answer : Except String Unit)
  | subscribe (id : ActorId)
  /-- User code has received with a receiver of its own. -/
  | recv (receiver : Nat)
  | dropReceiver (receiver : Nat)
  | addEventHandler (receiver : Nat)
  /-- The `recv` of an event manager is ready. -/
  | turn (receiver : Nat)
  /-- The `notify` of an event manager returns, or panics. -/
  | notified (receiver : Nat) (panics : Bool)

def new (config : Config) : Events E where
  host := .new config
  emitted := fun _ => []
  subscriptions := []

def Initial (state : Events E) : Prop := ∃ config, state = new config

section Step

variable (broadcast : Broadcast E) (state : Events E)

def emitEvent (id : ActorId) (event : E) (answer : Except String Unit) :
    Except Error Unit × Events E :=
  (actorEvent answer "Failed to emit event",
    match answer with
    | .ok () => { state with
        emitted := Function.update state.emitted id (state.emitted id ++ [event]) }
    | .error _ => state)

def receive (subscription : Subscription E) : Option (Receipt E × Nat) :=
  broadcast.recv (state.emitted subscription.source)
    (state.host.world.dropped (.actor subscription.source)) subscription.next

def inHook (id : ActorId) : Bool :=
  state.host.world.actors[id]?.any fun runner =>
    match runner.control with
    | .hook _ => true
    | _ => false

def setSubscription (receiver : Nat) (subscription : Subscription E) : Events E :=
  { state with subscriptions := state.subscriptions.set receiver subscription }

def step : Label E → Option (Events E)
  | .host label =>
      (state.host.step label).map fun host => { state with host }
  | .emitEvent id event answer =>
      if state.inHook id then some (state.emitEvent id event answer).2 else none
  | .subscribe id =>
      if 0 < state.host.refs id then
        some { state with
          subscriptions := state.subscriptions ++ [⟨id, (state.emitted id).length, .user⟩] }
      else none
  | .recv receiver => do
      let subscription ← state.subscriptions[receiver]?
      match subscription.holder with
      | .user =>
          (state.receive broadcast subscription).map fun (_, next) =>
            state.setSubscription receiver { subscription with next }
      | _ => none
  | .dropReceiver receiver => do
      let subscription ← state.subscriptions[receiver]?
      match subscription.holder with
      | .user => some (state.setSubscription receiver { subscription with holder := .dropped })
      | _ => none
  | .addEventHandler receiver => do
      let subscription ← state.subscriptions[receiver]?
      match subscription.holder with
      | .user =>
          some (state.setSubscription receiver { subscription with holder := .manager .recv })
      | _ => none
  | .turn receiver => do
      let subscription ← state.subscriptions[receiver]?
      match subscription.holder with
      | .manager .recv =>
          (state.receive broadcast subscription).map fun (receipt, next) =>
            state.setSubscription receiver
              { subscription with next, holder := .manager (.receives receipt) }
      | _ => none
  | .notified receiver panics => do
      let subscription ← state.subscriptions[receiver]?
      match subscription.holder with
      | .manager (.notify _) =>
          some (state.setSubscription receiver { subscription with
            holder := .manager (if panics then .panicked else .recv) })
      | _ => none

end Step

inductive Passes (receiver : Nat) : Label E → Holder E → Holder E → Prop
  | dropped : Passes receiver (.dropReceiver receiver) .user .dropped
  | managed : Passes receiver (.addEventHandler receiver) .user (.manager .recv)
  | notified (event : E) :
      Passes receiver (.notified receiver false) (.manager (.notify event)) (.manager .recv)
  | panicked (event : E) :
      Passes receiver (.notified receiver true) (.manager (.notify event)) (.manager .panicked)

/-- Who receives, and what becomes of the receiver. -/
inductive Reads (receiver : Nat) (receipt : Receipt E) : Label E → Holder E → Holder E → Prop
  | user : Reads receiver receipt (.recv receiver) .user .user
  | manager : Reads receiver receipt (.turn receiver) (.manager .recv) (.manager (.receives receipt))

inductive Moves (broadcast : Broadcast E) (state : Events E) : Label E → Events E → Prop
  | runs {label : Host.Label} {host : Host} (taken : state.host.step label = some host) :
      Moves broadcast state (.host label) { state with host }
  | emitted {id : ActorId} {event : E} (within : state.inHook id = true) :
      Moves broadcast state (.emitEvent id event (.ok ())) { state with
        emitted := Function.update state.emitted id (state.emitted id ++ [event]) }
  | unobserved {id : ActorId} {event : E} {text : String} :
      Moves broadcast state (.emitEvent id event (.error text)) state
  | subscribed {id : ActorId} (refers : 0 < state.host.refs id) :
      Moves broadcast state (.subscribe id) { state with
        subscriptions := state.subscriptions ++ [⟨id, (state.emitted id).length, .user⟩] }
  | read {label : Label E} {receiver next : Nat} {subscription : Subscription E}
      {receipt : Receipt E} {holder : Holder E}
      (found : state.subscriptions[receiver]? = some subscription)
      (got : state.receive broadcast subscription = some (receipt, next))
      (reads : Reads receiver receipt label subscription.holder holder) :
      Moves broadcast state label (state.setSubscription receiver { subscription with next, holder })
  | passed {label : Label E} {receiver : Nat} {subscription : Subscription E} {holder : Holder E}
      (found : state.subscriptions[receiver]? = some subscription)
      (passes : Passes receiver label subscription.holder holder) :
      Moves broadcast state label (state.setSubscription receiver { subscription with holder })

theorem step_moves {broadcast : Broadcast E} {state after : Events E} {label : Label E}
    (taken : state.step broadcast label = some after) : state.Moves broadcast label after := by
  cases label with
  | host label =>
      obtain ⟨host, moved, rfl⟩ := Option.map_eq_some_iff.mp taken
      exact .runs moved
  | emitEvent id event answer =>
      rw [step, Option.ite_none_right_eq_some] at taken
      obtain ⟨within, same⟩ := taken
      obtain rfl := Option.some.inj same
      cases answer with
      | ok => exact .emitted within
      | error text => exact .unobserved
  | subscribe id =>
      rw [step, Option.ite_none_right_eq_some] at taken
      obtain ⟨refers, same⟩ := taken
      obtain rfl := Option.some.inj same
      exact .subscribed refers
  | recv receiver =>
      obtain ⟨⟨source, before, holder⟩, found, taken⟩ := Option.bind_eq_some_iff.mp taken
      split at taken
      case h_1 user =>
        obtain rfl : holder = .user := user
        obtain ⟨⟨receipt, next⟩, got, rfl⟩ := Option.map_eq_some_iff.mp taken
        exact .read found got .user
      case h_2 => cases taken
  | dropReceiver receiver =>
      obtain ⟨subscription, found, taken⟩ := Option.bind_eq_some_iff.mp taken
      split at taken
      case h_1 user =>
        cases taken
        exact .passed found (user ▸ .dropped)
      case h_2 => cases taken
  | addEventHandler receiver =>
      obtain ⟨subscription, found, taken⟩ := Option.bind_eq_some_iff.mp taken
      split at taken
      case h_1 user =>
        cases taken
        exact .passed found (user ▸ .managed)
      case h_2 => cases taken
  | turn receiver =>
      obtain ⟨subscription, found, taken⟩ := Option.bind_eq_some_iff.mp taken
      split at taken
      case h_1 waits =>
        obtain ⟨⟨receipt, next⟩, got, rfl⟩ := Option.map_eq_some_iff.mp taken
        exact .read found got (waits ▸ .manager)
      case h_2 => cases taken
  | notified receiver panics =>
      obtain ⟨subscription, found, taken⟩ := Option.bind_eq_some_iff.mp taken
      split at taken
      case h_1 event handles =>
        cases taken
        cases panics with
        | false => exact .passed found (handles ▸ .notified event)
        | true => exact .passed found (handles ▸ .panicked event)
      case h_2 => cases taken

end Events

end Rush.Actor
