import Rush.Library.Runs
import Rush.Storage.Persist

/-! The life of one persistent actor: the calls it makes, the work its children
do on their own, and its re-creation from the initial state over the stores that
are left. A crash and a stop differ only in how much of the mailboxes was
handled before, so both are a re-creation. -/

namespace Rush.Storage

open Rush.Actor Rush.Library

namespace PersistentActor

variable {S E σ : Type} [Store σ] (actor : PersistentActor S E) (gzip : Gzip)

def reopened (owner : String) (ctx : ActorContext σ) : ActorContext σ :=
  { ctx with
    storage := ctx.storage.map fun createStore name keyPrefix =>
      match ctx.journal, ctx.snapshotter with
      | some journal, some snapshotter =>
        if keyPrefix = owner ∧ name = actor.journalName then .ok journal.state.1.store
        else if keyPrefix = owner ∧ name = actor.snapshotterName then .ok snapshotter.state.store
        else createStore name keyPrefix
      | _, _ => createStore name keyPrefix
    journal := none
    snapshotter := none }

/-- `init_state` of a new instance over the stores of the old one. -/
def recover (initial : S) (ctx : ActorContext σ) : Except ActorError Unit × S × ActorContext σ :=
  actor.initState gzip initial (actor.reopened (actor.id initial) ctx)

/-- An actor with the events it has persisted with success, and what its last
`init_state` returned. -/
structure World (S E σ : Type) where
  live : S
  ctx : ActorContext σ
  persisted : List E
  outcome : Except ActorError Unit

inductive Move (E : Type) where
  | persist (event : E)
  | snapshot
  | flush
  | deliverJournal
  | deliverSnapshotter
  | recreate

def begun (initial : S) (ctx : ActorContext σ) : World S E σ :=
  let (outcome, live, ctx) := actor.initState gzip initial ctx
  { live, ctx, persisted := [], outcome }

/-- One move. An actor whose `init_state` failed does nothing but start again. -/
def move (initial : S) (world : World S E σ) (label : Move E) : Option (World S E σ) :=
  match label with
  | .recreate =>
    let (outcome, live, ctx) := actor.recover gzip initial world.ctx
    some { live, ctx, persisted := world.persisted, outcome }
  | label =>
    match world.outcome with
    | .error _ => none
    | .ok () =>
      match label with
      | .persist event =>
        let (result, live, ctx) := actor.persist gzip world.live event world.ctx
        let persisted := match result with
          | .ok _ => world.persisted ++ [event]
          | .error _ => world.persisted
        some { world with live, ctx, persisted }
      | .snapshot => some { world with ctx := (actor.snapshot gzip world.live world.ctx).2 }
      | .flush => some { world with ctx := (actor.flush gzip world.live world.ctx).2 }
      | .deliverJournal =>
        let journal := world.ctx.journal.map fun child => child.deliver (BaseJournal.handle gzip)
        some { world with ctx := { world.ctx with journal } }
      | .deliverSnapshotter =>
        let snapshotter := world.ctx.snapshotter.map fun child =>
          child.deliver BaseSnapshotter.handle
        some { world with ctx := { world.ctx with snapshotter } }
      | .recreate => none

theorem idle_drained (gzip : Gzip) {child : JournalChild σ}
    (mailbox : ∀ message ∈ child.mailbox, message = .flush) :
    child.drained (BaseJournal.handle gzip) = child.state := by
  unfold Child.drained
  generalize child.mailbox = messages at mailbox
  induction messages with
  | nil => rfl
  | cons message rest ih =>
      have flush := mailbox message List.mem_cons_self
      subst flush
      rw [List.foldl_cons]
      exact ih fun other member => mailbox other (List.mem_cons_of_mem _ member)

theorem idle_ask (gzip : Gzip) {child : JournalChild σ} (running : child.running = true)
    (mailbox : ∀ message ∈ child.mailbox, message = .flush) (message : JournalMessage) :
    child.ask (BaseJournal.handle gzip) message =
      ((BaseJournal.handle gzip child.state message).1,
        { child with state := (BaseJournal.handle gzip child.state message).2, mailbox := [] }) := by
  simp only [Child.ask, running, if_true, idle_drained gzip mailbox]

/-- Applies events one after the other, up to the first that is rejected. -/
def replay (state : S) : List E → Except ActorError Unit × S
  | [] => (.ok (), state)
  | event :: events =>
    match actor.applyEvent state event with
    | (.error err, after) => (.error err, after)
    | (.ok (), after) => replay after events

/-- What is encoded decodes to itself. -/
structure Lossless : Prop where
  state : ∀ state data, actor.toVecState state = .ok data → actor.fromSliceState data = .ok state
  event : ∀ event data, actor.toVecEvent event = .ok data → actor.fromSliceEvent data = .ok event

def Total : Prop := ∀ state event, (actor.applyEvent state event).1 = .ok ()

section Replay

variable {actor}

theorem replay_append {state middle : S} {front : List E}
    (applied : actor.replay state front = (.ok (), middle)) (back : List E) :
    actor.replay state (front ++ back) = actor.replay middle back := by
  induction front generalizing state with
  | nil =>
      cases applied
      rfl
  | cons event front ih =>
      rcases step : actor.applyEvent state event with ⟨result, next⟩
      cases result with
      | error err =>
          simp only [replay, step, Prod.mk.injEq, reduceCtorEq, false_and] at applied
      | ok value =>
          simp only [replay, step] at applied
          simp only [List.cons_append, replay, step]
          exact ih applied

theorem replay_split {state middle : S} {events : List E} {count : Nat}
    (applied : actor.replay state (events.take count) = (.ok (), middle)) :
    actor.replay middle (events.drop count) = actor.replay state events := by
  rw [← replay_append applied, List.take_append_drop]

theorem replay_concat {state middle after : S} {events : List E} {event : E}
    (applied : actor.replay state events = (.ok (), middle))
    (accepted : actor.applyEvent middle event = (.ok (), after)) :
    actor.replay state (events ++ [event]) = (.ok (), after) := by
  rw [replay_append applied]
  simp only [replay, accepted]

theorem replay_total (total : actor.Total) (state : S) (events : List E) :
    actor.replay state events =
      (.ok (), events.foldl (fun state event => (actor.applyEvent state event).2) state) := by
  induction events generalizing state with
  | nil => rfl
  | cons event events ih =>
      have accepted := total state event
      rcases applied : actor.applyEvent state event with ⟨result, after⟩
      rw [applied] at accepted
      cases accepted
      rw [List.foldl_cons, applied]
      simp only [replay, applied]
      exact ih after

theorem replayLoop_decoded {events : List E} {entries : List (UInt64 × Bytes)} (state : S)
    (decodes : List.Forall₂ (fun event data => actor.fromSliceEvent data = .ok event) events
      (entries.map Prod.snd)) :
    actor.replayLoop state entries = actor.replay state events := by
  induction entries generalizing state events with
  | nil =>
      cases decodes
      rfl
  | cons entry entries ih =>
      rcases entry with ⟨key, data⟩
      cases decodes with
      | @cons event _ events _ decoded rest =>
          rcases step : actor.applyEvent state event with ⟨result, next⟩
          cases result with
          | error err => simp only [replayLoop, replay, decoded, step]
          | ok value =>
              simp only [replayLoop, replay, decoded, step]
              exact ih next rest

end Replay

end PersistentActor

end Rush.Storage
