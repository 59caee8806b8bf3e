import Rush.Storage.Journal
import Rush.Storage.Snapshotter

/-! `PersistentActor`: the provided methods of the trait, over the journal and
snapshotter children of the actor.

A child is its state and its mailbox. A `tell` waits in the mailbox; an `ask` is
answered after everything that waits before it. Asking a child whose task has
ended fails without effect. -/

namespace Rush.Storage

open Rush.Actor

/-- What an implementation of the trait provides, with its `rmp_serde` codecs.
`applyEvent` returns the state it leaves, also when it fails. -/
structure PersistentActor (S E : Type) where
  typeName : String
  id : S → String
  applyEvent : S → E → Except ActorError Unit × S
  toVecState : S → Except String Bytes
  fromSliceState : Bytes → Except String S
  toVecEvent : E → Except String Bytes
  fromSliceEvent : Bytes → Except String E

structure Child (κ μ : Type) where
  state : κ
  mailbox : List μ
  running : Bool

namespace Child

variable {κ μ ρ : Type}

def started (state : κ) : Child κ μ := { state, mailbox := [], running := true }

def drained (handle : κ → μ → Except ActorError ρ × κ) (child : Child κ μ) : κ :=
  child.mailbox.foldl (fun state message => (handle state message).2) child.state

def ask (handle : κ → μ → Except ActorError ρ × κ) (child : Child κ μ) (message : μ) :
    Except ActorError ρ × Child κ μ :=
  if child.running then
    let (result, state) := handle (child.drained handle) message
    (result, { child with state, mailbox := [] })
  else (actorMessage (.error "channel closed") "Failed to ask message", child)

def tell (child : Child κ μ) (message : μ) : Except ActorError Unit × Child κ μ :=
  if child.running then (.ok (), { child with mailbox := child.mailbox ++ [message] })
  else (actorMessage (.error "channel closed") "Failed to tell message", child)

theorem tell_running {child : Child κ μ} (running : child.running = true) (message : μ) :
    child.tell message = (.ok (), { child with mailbox := child.mailbox ++ [message] }) := by
  rw [tell, if_pos running]

def deliver (handle : κ → μ → Except ActorError ρ × κ) (child : Child κ μ) : Child κ μ :=
  match child.mailbox with
  | [] => child
  | message :: rest => { child with state := (handle child.state message).2, mailbox := rest }

end Child

abbrev JournalChild (σ : Type) := Child (BaseJournal σ × FileSystem) JournalMessage

abbrev SnapshotterChild (σ : Type) := Child (BaseSnapshotter σ) SnapshotMessage

/-- The `StoreManager`: the store it creates for a name and a prefix. -/
abbrev StoreManager (σ : Type) := String → String → Except Error σ

/-- What the trait uses of its context. `childFault` is a failure of
`create_child` for a name other than that the child exists already. -/
structure ActorContext (σ : Type) where
  path : String
  storage : Option (StoreManager σ)
  childFault : String → Option ActorError
  files : FileSystem
  journal : Option (JournalChild σ)
  snapshotter : Option (SnapshotterChild σ)

/-- The outcome of `create_child` for a name that may be taken. -/
def ActorContext.createChild {σ : Type} (ctx : ActorContext σ) (name : String) (taken : Bool) :
    Except ActorError Unit :=
  if taken then .error (.supervision s!"Actor with path '{ctx.path}/{name}' already exists.")
  else
    match ctx.childFault name with
    | some err => .error err
    | none => .ok ()

namespace PersistentActor

variable {S E σ : Type} [Store σ] (actor : PersistentActor S E) (gzip : Gzip)

def journalName : String := s!"{actor.typeName}-Journal"

def snapshotterName : String := s!"{actor.typeName}-Snapshotter"

def createStores (state : S) (ctx : ActorContext σ) : Except ActorError Unit × ActorContext σ :=
  match ctx.storage with
  | none => (.error (.store "DB Manager not found"), ctx)
  | some createStore =>
    match createStore actor.journalName (actor.id state) with
    | .error err => (actorStore (.error err) "Failed to create journal store", ctx)
    | .ok journalStore =>
      match createStore actor.snapshotterName (actor.id state) with
      | .error err => (actorStore (.error err) "Failed to create snapshotter store", ctx)
      | .ok snapshotterStore =>
        match ctx.createChild "journal" ctx.journal.isSome with
        | .error err => (actorStore (.error err) "Failed to create journal actor", ctx)
        | .ok () =>
          let ctx := { ctx with journal := some (.started (.new journalStore, ctx.files)) }
          match ctx.createChild "snapshotter" ctx.snapshotter.isSome with
          | .error err => (actorStore (.error err) "Failed to create snapshotter actor", ctx)
          | .ok () =>
            (.ok (), { ctx with snapshotter := some (.started (.new snapshotterStore)) })

/-- The loop of `init_state`: decodes and applies one event after the other. -/
def replayLoop (state : S) : List (UInt64 × Bytes) → Except ActorError Unit × S
  | [] => (.ok (), state)
  | (_, eventData) :: events =>
    match actor.fromSliceEvent eventData with
    | .error err => (actorDeserialization (.error err) "Failed to deserialize event", state)
    | .ok event =>
      match actor.applyEvent state event with
      | (.error err, after) => (.error err, after)
      | (.ok (), after) => replayLoop after events

/-- `init_state` from the loaded sequence number on. -/
def replayFrom (state : S) (start : UInt64) (ctx : ActorContext σ) :
    Except ActorError Unit × S × ActorContext σ :=
  match ctx.journal with
  | none => (.error (.store "Journal not found"), state, ctx)
  | some journal =>
    let (response, journal) := journal.ask (BaseJournal.handle gzip) (.range (start + 1) none)
    let ctx := { ctx with journal := some journal }
    match response with
    | .error err => (actorStore (.error err) "Failed to get events from journal", state, ctx)
    | .ok (.events events) =>
      let (result, state) := actor.replayLoop state events
      (result, state, ctx)
    | .ok _ => (.ok (), state, ctx)

def initState (state : S) (ctx : ActorContext σ) : Except ActorError Unit × S × ActorContext σ :=
  match actor.createStores state ctx with
  | (.error err, ctx) => (.error err, state, ctx)
  | (.ok (), ctx) =>
    match ctx.snapshotter with
    | none => (.error (.store "Snapshotter not found"), state, ctx)
    | some snapshotter =>
      let (response, snapshotter) := snapshotter.ask BaseSnapshotter.handle .lastSnapshot
      let ctx := { ctx with snapshotter := some snapshotter }
      match response with
      | .error err => (actorStore (.error err) "Failed to get last snapshot", state, ctx)
      | .ok (.lastResult (some (start, data))) =>
        match actor.fromSliceState data with
        | .error err => (actorDeserialization (.error err) "Failed to deserialize snapshot", state, ctx)
        | .ok loaded => actor.replayFrom gzip loaded start ctx
      | .ok _ => actor.replayFrom gzip state 0 ctx

def lastSequence (ctx : ActorContext σ) : Except ActorError UInt64 × ActorContext σ :=
  match ctx.journal with
  | none => (.error (.store "Journal not found"), ctx)
  | some journal =>
    let (response, journal) := journal.ask (BaseJournal.handle gzip) .lastSequence
    let ctx := { ctx with journal := some journal }
    match response with
    | .error err => (.error err, ctx)
    | .ok (.lastSequence seq) => (.ok seq, ctx)
    | .ok _ => (.error (.store "Journal not found"), ctx)

/-- `persist`: the journal has the event before `apply_event` sees it. -/
def persist (state : S) (event : E) (ctx : ActorContext σ) :
    Except ActorError UInt64 × S × ActorContext σ :=
  match actor.toVecEvent event with
  | .error err => (actorSerialization (.error err) "Failed to serialize event", state, ctx)
  | .ok serialized =>
    match ctx.journal with
    | none => (.error (.store "Journal not found"), state, ctx)
    | some journal =>
      let (response, journal) := journal.ask (BaseJournal.handle gzip) (.put serialized)
      let ctx := { ctx with journal := some journal }
      match response with
      | .error err => (actorStore (.error err) "Failed to send event to journal", state, ctx)
      | .ok (.lastSequence sn) =>
        match actor.applyEvent state event with
        | (.error err, after) => (.error err, after, ctx)
        | (.ok (), after) => (.ok sn, after, ctx)
      | .ok _ =>
        (.error (.store "Unexpected response when putting event in journal"), state, ctx)

def snapshot (state : S) (ctx : ActorContext σ) : Except ActorError Unit × ActorContext σ :=
  match lastSequence gzip ctx with
  | (.error err, ctx) => (actorStore (.error err) "Failed to get last journal sequence", ctx)
  | (.ok sn, ctx) =>
    match actor.toVecState state with
    | .error err => (actorSerialization (.error err) "Failed to serialize state", ctx)
    | .ok data =>
      match ctx.snapshotter with
      | none => (.error (.store "Snapshotter not found"), ctx)
      | some snapshotter =>
        let (result, snapshotter) := snapshotter.tell (.saveSnapshot sn data)
        (actorStore result "Failed to send snapshot to snapshotter",
          { ctx with snapshotter := some snapshotter })

def flush (state : S) (ctx : ActorContext σ) : Except ActorError Unit × ActorContext σ :=
  match actor.snapshot gzip state ctx with
  | (.error err, ctx) => (.error err, ctx)
  | (.ok (), ctx) =>
    match ctx.journal, ctx.snapshotter with
    | none, _ => (.error (.store "Journal not found"), ctx)
    | some _, none => (.error (.store "Snapshotter not found"), ctx)
    | some journal, some snapshotter =>
      let (sent, journal) := journal.tell .flush
      let ctx := { ctx with journal := some journal }
      match actorStore sent "Failed to send flush message to journal" with
      | .error err => (.error err, ctx)
      | .ok () =>
        let (sent, snapshotter) := snapshotter.tell .flush
        (actorStore sent "Failed to send flush message to snapshotter",
          { ctx with snapshotter := some snapshotter })

end PersistentActor

end Rush.Storage
