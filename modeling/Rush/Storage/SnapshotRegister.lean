import Rush.Library.Refinement
import Rush.Storage.FjallLawful
import Rush.Storage.SnapshotActor

/-! What a `SnapshotActor` remembers. Its snapshotter is there to be one register that is
written through a queue: a load gives the state of the last save before it that the store
took, a start that of the last one delivered; a stop or a crash loses what still waits. -/

namespace Rush.Storage

open Std Rush.Actor Rush.Library

namespace SnapshotActor

section Model

variable {S σ : Type} [Store σ] (actor : SnapshotActor S)

def reopened (owner : String) (ctx : ActorContext σ) : ActorContext σ :=
  { ctx with
    storage := ctx.storage.map fun createStore name keyPrefix =>
      match ctx.snapshotter with
      | some snapshotter =>
        if keyPrefix = owner ∧ name = actor.snapshotterName then .ok snapshotter.state.store
        else createStore name keyPrefix
      | none => createStore name keyPrefix
    snapshotter := none }

inductive Request (S : Type) where
  | move (label : Move S)
  /-- `init_state` of a new instance. -/
  | recreate

def answer (life : Life S σ) : Move S → Except ActorError Unit
  | .save => (actor.save life.live life.ctx).1
  | .load => (actor.load life.live life.ctx).1
  | .flush => (flush life.ctx).1
  | .handle _ | .deliver => .ok ()

def request (initial : S) (life : Life S σ) :
    Request S → Option (Except ActorError Unit × Life S σ)
  | .move label => (actor.move life label).map fun after => (actor.answer life label, after)
  | .recreate =>
    let (result, live, ctx) := actor.initState initial (actor.reopened (actor.id initial) life.ctx)
    some (result, { live, ctx })

def outcomes (snapshotter : BaseSnapshotter σ) : List SnapshotMessage → List (Except Error Unit)
  | [] => []
  | message :: rest =>
    let later := outcomes (BaseSnapshotter.handle snapshotter message).2 rest
    match message with
    | .saveSnapshot key data => (Store.put snapshotter.store key data).1 :: later
    | _ => later

def outside (life : Life S σ) : Request S → List (Except Error Unit)
  | .move .load =>
    (life.ctx.snapshotter.map fun child => outcomes child.state child.mailbox).getD []
  | .move .deliver =>
    (life.ctx.snapshotter.map fun child => outcomes child.state (child.mailbox.take 1)).getD []
  | _ => []

def Serves (initial : S) (life : Life S σ) (request : Request S × List (Except Error Unit))
    (answer : Except ActorError Unit) (after : Life S σ) : Prop :=
  request.2 = outside life request.1 ∧ actor.request initial life request.1 = some (answer, after)

end Model

/-- What waits for the snapshotter. -/
inductive Errand (S : Type) where
  | save (state : S)
  | flush

/-- The state of the actor, the one in the register and what is on its way there. -/
structure Register (S : Type) where
  live : S
  stored : Option S
  waiting : List (Errand S)

/-- What the register holds once some errands are done, by what the store answered to their
saves. A store without faults refuses none. -/
inductive Settles {S : Type} (faultless : Prop) :
    Option S → List (Errand S) → List (Except Error Unit) → Option S → Prop
  | nothing {stored : Option S} : Settles faultless stored [] [] stored
  | flushed {stored last : Option S} {rest : List (Errand S)} {outcomes : List (Except Error Unit)}
      (settles : Settles faultless stored rest outcomes last) :
      Settles faultless stored (.flush :: rest) outcomes last
  | written {stored last : Option S} {state : S} {rest : List (Errand S)}
      {outcomes : List (Except Error Unit)}
      (settles : Settles faultless (some state) rest outcomes last) :
      Settles faultless stored (.save state :: rest) (.ok () :: outcomes) last
  | refused {stored last : Option S} {state : S} {rest : List (Errand S)} {reason : Error}
      {outcomes : List (Except Error Unit)} (faults : ¬ faultless)
      (settles : Settles faultless stored rest outcomes last) :
      Settles faultless stored (.save state :: rest) (.error reason :: outcomes) last

/-- The actor as its implementation is meant to see it: a state and a register that is
written through a queue. -/
inductive Remembers {S : Type} (actor : SnapshotActor S) (faultless : Prop) (initial : S)
    (register : Register S) : Request S × List (Except Error Unit) → Except ActorError Unit →
      Register S → Prop
  | handled {next : S} :
      Remembers actor faultless initial register (.move (.handle next), []) (.ok ())
        { register with live := next }
  | saved {data : Bytes} (encoded : actor.toVec register.live = .ok data) :
      Remembers actor faultless initial register (.move .save, []) (.ok ())
        { register with waiting := register.waiting ++ [.save register.live] }
  | unsaved {text : String} (fails : actor.toVec register.live = .error text) :
      Remembers actor faultless initial register (.move .save, [])
        (actorSerialization (.error text) "Failed to serialize snapshot") register
  | loaded {state : S} {outcomes : List (Except Error Unit)}
      (settles : Settles faultless register.stored register.waiting outcomes (some state)) :
      Remembers actor faultless initial register (.move .load, outcomes) (.ok ())
        { live := state, stored := some state, waiting := [] }
  | notFound {outcomes : List (Except Error Unit)}
      (settles : Settles faultless register.stored register.waiting outcomes none) :
      Remembers actor faultless initial register (.move .load, outcomes)
        (.error (.store "Snapshot not found")) { register with stored := none, waiting := [] }
  | flushed : Remembers actor faultless initial register (.move .flush, []) (.ok ())
      { register with waiting := register.waiting ++ [.flush] }
  | delivered {first : Errand S} {rest : List (Errand S)} {stored : Option S}
      {outcomes : List (Except Error Unit)} (waiting : register.waiting = first :: rest)
      (settles : Settles faultless register.stored [first] outcomes stored) :
      Remembers actor faultless initial register (.move .deliver, outcomes) (.ok ())
        { register with stored, waiting := rest }
  | idle (empty : register.waiting = []) :
      Remembers actor faultless initial register (.move .deliver, []) (.ok ()) register
  | recreated : Remembers actor faultless initial register (.recreate, []) (.ok ())
      { live := register.stored.getD initial, stored := register.stored, waiting := [] }

def Carries {S : Type} (actor : SnapshotActor S) : Errand S → SnapshotMessage → Prop
  | .save state, message => ∃ data, message = .saveSnapshot 0 data ∧ actor.fromSlice data = .ok state
  | .flush, message => message = .flush

variable {S σ : Type} [Store σ] [LawfulStore σ] [ReliableStore σ] {actor : SnapshotActor S}
  {faultless : Prop} {stored : Option S} {waiting : List (Errand S)} {child : SnapshotterChild σ}

structure Holds (actor : SnapshotActor S) (faultless : Prop) (stored : Option S) (store : σ) :
    Prop where
  entry : ∃ entries : EntryMap, LawfulStore.Models store entries ∧
    Option.Rel (fun state data => actor.fromSlice data = .ok state) stored entries[(0 : UInt64)]?
  reliable : faultless → ReliableStore.Reliable store

structure Keeps (actor : SnapshotActor S) (faultless : Prop) (stored : Option S) (waiting : List (Errand S))
    (child : SnapshotterChild σ) : Prop where
  running : child.running = true
  holds : Holds actor faultless stored child.state.store
  waits : List.Forall₂ (Carries actor) waiting child.mailbox

section Writes

theorem put_settles {store : σ} (holds : Holds actor faultless stored store) {state : S}
    {data : Bytes} (decodes : actor.fromSlice data = .ok state) {rest : List (Errand S)}
    {later : List (Except Error Unit)} :
    ∃ middle, Holds actor faultless middle (Store.put store 0 data).2 ∧
      ∀ last, Settles faultless middle rest later last →
        Settles faultless stored (.save state :: rest) ((Store.put store 0 data).1 :: later)
          last := by
  obtain ⟨⟨entries, models, entry⟩, reliable⟩ := holds
  rcases written : Store.put store 0 data with ⟨result, after⟩
  have sure (none : faultless) : result = .ok () ∧ ReliableStore.Reliable after := by
    obtain ⟨next, done, still⟩ := ReliableStore.put_reliable (reliable none) 0 data
    cases written.symm.trans done
    exact ⟨rfl, still⟩
  cases result with
  | ok =>
      refine ⟨some state, ⟨⟨_, LawfulStore.put_models models written, ?_⟩,
        fun none => (sure none).2⟩, fun _ settles => .written settles⟩
      rw [OrderedMap.lookup_insert, if_pos rfl]
      exact .some decodes
  | error err =>
      refine ⟨stored, ⟨⟨entries, LawfulStore.put_failed models written, entry⟩,
        fun none => (sure none).2⟩, fun _ settles => .refused ?_ settles⟩
      intro none
      cases (sure none).1

theorem handled_settles {errands : List (Errand S)} {messages : List SnapshotMessage}
    {snapshotter : BaseSnapshotter σ} (holds : Holds actor faultless stored snapshotter.store)
    (carries : List.Forall₂ (Carries actor) errands messages) :
    ∃ last, Settles faultless stored errands (outcomes snapshotter messages) last ∧
      Holds actor faultless last
        (messages.foldl (fun state message => (BaseSnapshotter.handle state message).2)
          snapshotter).store := by
  -- the answers of the store come in the order of the saves; a flush brings none
  induction carries generalizing snapshotter stored with
  | nil => exact ⟨stored, .nothing, holds⟩
  | @cons errand message errands messages first carries ih =>
      cases errand with
      | flush =>
          obtain rfl : message = .flush := first
          obtain ⟨last, settles, held⟩ := ih holds
          exact ⟨last, .flushed settles, held⟩
      | save state =>
          obtain ⟨data, rfl, decodes⟩ := first
          obtain ⟨middle, held, settled⟩ := put_settles holds decodes
          have after : Holds actor faultless middle
              (BaseSnapshotter.handle snapshotter (.saveSnapshot 0 data)).2.store := held
          obtain ⟨last, settles, still⟩ := ih after
          exact ⟨last, settled last settles, still⟩

theorem Keeps.drained (keeps : Keeps actor faultless stored waiting child) :
    ∃ last, Settles faultless stored waiting (outcomes child.state child.mailbox) last ∧
      Keeps actor faultless last []
        { child with state := child.drained BaseSnapshotter.handle, mailbox := [] } := by
  obtain ⟨last, settles, holds⟩ := handled_settles keeps.holds keeps.waits
  exact ⟨last, settles, keeps.running, holds, .nil⟩

theorem Keeps.delivered {first : Errand S}
    (keeps : Keeps actor faultless stored (first :: waiting) child) :
    ∃ last, Settles faultless stored [first] (outcomes child.state (child.mailbox.take 1)) last ∧
      Keeps actor faultless last waiting (child.deliver BaseSnapshotter.handle) := by
  obtain ⟨running, holds, waits⟩ := keeps
  obtain ⟨snapshotter, mailbox, _⟩ := child
  obtain ⟨message, rest, carries, later, rfl⟩ := List.forall₂_cons_left_iff.mp waits
  obtain ⟨last, settles, held⟩ :=
    handled_settles holds (List.Forall₂.cons carries List.Forall₂.nil)
  exact ⟨last, settles, running, held, later⟩

theorem Keeps.told (keeps : Keeps actor faultless stored waiting child) {errand : Errand S}
    {message : SnapshotMessage} (carries : Carries actor errand message) :
    Keeps actor faultless stored (waiting ++ [errand])
      { child with mailbox := child.mailbox ++ [message] } :=
  ⟨keeps.running, keeps.holds, List.rel_append keeps.waits (.cons carries .nil)⟩

end Writes

section Calls

variable {ctx : ActorContext σ} {live : S}

theorem Holds.get {store : σ} (holds : Holds actor faultless stored store) :
    Option.Rel (fun state data => actor.fromSlice data = .ok state) stored
      (Store.get store 0).toOption := by
  obtain ⟨entries, models, entry⟩ := holds.entry
  rw [LawfulStore.get_models models]
  exact entry

theorem save_keeps (live : S) (lossless : ∀ state data, actor.toVec state = .ok data →
      actor.fromSlice data = .ok state) (present : ctx.snapshotter = some child)
    (keeps : Keeps actor faultless stored waiting child) :
    (∃ text, actor.toVec live = .error text ∧ actor.save live ctx =
      (actorSerialization (.error text) "Failed to serialize snapshot", ctx)) ∨
    ∃ data after, actor.toVec live = .ok data ∧
      actor.save live ctx = (.ok (), { ctx with snapshotter := some after }) ∧
      Keeps actor faultless stored (waiting ++ [.save live]) after := by
  cases encoded : actor.toVec live with
  | error text =>
      refine .inl ⟨text, rfl, ?_⟩
      simp only [SnapshotActor.save, present, encoded]
  | ok data =>
      have carries : Carries actor (.save live) (.saveSnapshot 0 data) :=
        ⟨data, rfl, lossless live data encoded⟩
      refine .inr ⟨data, _, rfl, ?_, keeps.told carries⟩
      simp only [SnapshotActor.save, present, encoded, Child.tell_running keeps.running]
      rfl

omit [LawfulStore σ] [ReliableStore σ] in
theorem load_asked (present : ctx.snapshotter = some child) (running : child.running = true) :
    actor.load live ctx =
      let ctx := { ctx with
        snapshotter :=
          some { child with state := child.drained BaseSnapshotter.handle, mailbox := [] } }
      match (Store.get (child.drained BaseSnapshotter.handle).store 0).toOption with
      | some data =>
        match actor.fromSlice data with
        | .error err =>
          (actorDeserialization (.error err) "Failed to deserialize snapshot", live, ctx)
        | .ok loaded => (.ok (), loaded, ctx)
      | none => (.error (.store "Snapshot not found"), live, ctx) := by
  simp only [SnapshotActor.load, present, Child.ask, running, if_true, BaseSnapshotter.handle,
    BaseSnapshotter.loadSnapshot]
  cases (Store.get (child.drained BaseSnapshotter.handle).store 0).toOption <;> rfl

theorem flush_keeps (present : ctx.snapshotter = some child)
    (keeps : Keeps actor faultless stored waiting child) :
    ∃ after, flush ctx = (.ok (), { ctx with snapshotter := some after }) ∧
      Keeps actor faultless stored (waiting ++ [.flush]) after := by
  have carries : Carries actor .flush .flush := rfl
  refine ⟨_, ?_, keeps.told carries⟩
  simp only [SnapshotActor.flush, present, Child.tell_running keeps.running]
  rfl

end Calls

section Runs

variable {initial : S} {register : Register S} {life after : Life S σ}

structure Stands (actor : SnapshotActor S) (faultless : Prop) (register : Register S)
    (life : Life S σ) : Prop where
  live : life.live = register.live
  storage : life.ctx.storage.isSome = true
  childFault : life.ctx.childFault "snapshotter" = none
  child : ∃ child, life.ctx.snapshotter = some child ∧
    Keeps actor faultless register.stored register.waiting child

theorem init_stands {ctx : ActorContext σ} {store : σ} (startable : Startable ctx)
    (opens : actor.opened initial ctx = some store) (holds : Holds actor faultless stored store) :
    ∃ live ctx', actor.initState initial ctx = (.ok (), live, ctx') ∧
      Stands actor faultless ⟨stored.getD initial, stored, []⟩ { live, ctx := ctx' } := by
  refine ⟨_, _, initState_ok startable opens, ?_, ?_, startable.2, _, rfl, rfl, holds, .nil⟩
  · show actor.loaded initial store = stored.getD initial
    have read := holds.get
    rw [loaded]
    generalize (Store.get store 0).toOption = found at read
    cases read with
    | none => rfl
    | some decoded =>
        simp only [Option.bind_some, decoded]
        rfl
  · obtain ⟨createStore, storage, _⟩ := Option.bind_eq_some_iff.mp opens
    show ctx.storage.isSome = true
    rw [storage]
    rfl

theorem recreate_stands (initial : S) (stands : Stands actor faultless register life) :
    ∃ next, actor.request initial life .recreate = some (.ok (), next) ∧
      Stands actor faultless ⟨register.stored.getD initial, register.stored, []⟩ next := by
  obtain ⟨child, present, keeps⟩ := stands.child
  obtain ⟨createStore, storage⟩ := Option.isSome_iff_exists.mp stands.storage
  have opens : actor.opened initial (actor.reopened (actor.id initial) life.ctx) =
      some child.state.store := by
    simp [opened, reopened, storage, present, Except.toOption]
  have startable : Startable (actor.reopened (actor.id initial) life.ctx) :=
    ⟨rfl, stands.childFault⟩
  obtain ⟨live, ctx, done, standing⟩ := init_stands startable opens keeps.holds
  refine ⟨_, ?_, standing⟩
  rw [request, done]

theorem load_stands (stands : Stands actor faultless register life) :
    ∃ next, Remembers actor faultless initial register (.move .load, outside life (.move .load))
        (actor.load life.live life.ctx).1 next ∧
      Stands actor faultless next
        { live := (actor.load life.live life.ctx).2.1
          ctx := (actor.load life.live life.ctx).2.2 } := by
  obtain ⟨child, present, keeps⟩ := stands.child
  obtain ⟨last, settles, kept⟩ := keeps.drained
  have brought : outside life (.move .load) = outcomes child.state child.mailbox := by
    rw [outside, present]
    rfl
  rw [← brought] at settles
  have read := kept.holds.get
  rw [load_asked present keeps.running]
  revert read
  dsimp only
  generalize (Store.get (child.drained BaseSnapshotter.handle).store 0).toOption = found
  intro read
  cases read with
  | none => exact ⟨_, .notFound settles, stands.live, stands.storage, stands.childFault, _, rfl, kept⟩
  | some decoded =>
      simp only [decoded]
      exact ⟨_, .loaded settles, rfl, stands.storage, stands.childFault, _, rfl, kept⟩

theorem deliver_stands (stands : Stands actor faultless register life) :
    ∃ next, Remembers actor faultless initial register
        (.move .deliver, outside life (.move .deliver)) (.ok ()) next ∧
      Stands actor faultless next { life with ctx := { life.ctx with
        snapshotter := life.ctx.snapshotter.map fun child =>
          child.deliver BaseSnapshotter.handle } } := by
  obtain ⟨child, present, keeps⟩ := stands.child
  have brought : outside life (.move .deliver) =
      outcomes child.state (child.mailbox.take 1) := by
    rw [outside, present]
    rfl
  rw [brought, present]
  cases queue : register.waiting with
  | nil =>
      have empty : child.mailbox = [] := by
        have waits := keeps.waits
        rw [queue] at waits
        exact List.forall₂_nil_left_iff.mp waits
      have still : child.deliver BaseSnapshotter.handle = child := by
        rw [Child.deliver, empty]
      rw [empty]
      refine ⟨register, .idle queue, stands.live, stands.storage, stands.childFault, child, ?_, keeps⟩
      rw [Option.map_some, still]
  | cons first rest =>
      rw [queue] at keeps
      obtain ⟨last, settles, kept⟩ := keeps.delivered
      exact ⟨_, .delivered queue settles, stands.live, stands.storage, stands.childFault, _, rfl, kept⟩

theorem serves_remembers (lossless : ∀ state data, actor.toVec state = .ok data →
      actor.fromSlice data = .ok state) {label : Request S × List (Except Error Unit)}
    {answer : Except ActorError Unit} (stands : Stands actor faultless register life)
    (serves : actor.Serves initial life label answer after) :
    ∃ next, Remembers actor faultless initial register label answer next ∧
      Stands actor faultless next after := by
  obtain ⟨request, brought⟩ := label
  obtain ⟨same, served⟩ := serves
  obtain rfl : brought = outside life request := same
  cases request with
  | recreate =>
      obtain ⟨next, done, standing⟩ := recreate_stands initial stands
      cases done.symm.trans served
      exact ⟨_, .recreated, standing⟩
  | move label =>
      obtain ⟨moved, taken, same⟩ := Option.map_eq_some_iff.mp served
      cases same
      obtain ⟨child, present, keeps⟩ := stands.child
      cases label with
      | handle next =>
          cases taken
          exact ⟨_, .handled, rfl, stands.storage, stands.childFault, child, present, keeps⟩
      | save =>
          cases taken
          rcases save_keeps life.live lossless present keeps with
            ⟨text, refused, done⟩ | ⟨data, saved, encoded, done, kept⟩
          · rw [SnapshotActor.answer, done]
            rw [stands.live] at refused
            exact ⟨register, .unsaved refused, stands⟩
          · rw [SnapshotActor.answer, done]
            rw [stands.live] at encoded kept
            exact ⟨_, .saved encoded, stands.live, stands.storage, stands.childFault, _, rfl, kept⟩
      | load =>
          cases taken
          exact load_stands stands
      | flush =>
          cases taken
          obtain ⟨flushed, done, kept⟩ := flush_keeps present keeps
          rw [SnapshotActor.answer, done]
          exact ⟨_, .flushed, stands.live, stands.storage, stands.childFault, _, rfl, kept⟩
      | deliver =>
          cases taken
          exact deliver_stands stands

/-- An actor begun over a store that holds a state, or none. -/
def Fresh (actor : SnapshotActor S) (faultless : Prop) (initial : S) (stored : Option S)
    (life : Life S σ) : Prop :=
  ∃ ctx store, Startable ctx ∧ actor.opened initial ctx = some store ∧
    Holds actor faultless stored store ∧ actor.Begun initial ctx life

/-- However a `SnapshotActor` saves, loads, flushes and changes its state, and however often
it is created again, it answers as a register does that is written through a queue. -/
theorem register_refined (lossless : ∀ state data, actor.toVec state = .ok data →
      actor.fromSlice data = .ok state) {first : Life S σ}
    {calls : List ((Request S × List (Except Error Unit)) × Except ActorError Unit)}
    (fresh : Fresh actor faultless initial stored first)
    (run : Trace (actor.Serves initial) first calls life) :
    ∃ register,
      Trace (Remembers actor faultless initial) ⟨stored.getD initial, stored, []⟩ calls register ∧
      life.live = register.live := by
  have simulates : Simulates (fun life register => Stands actor faultless register life)
      (actor.Serves initial : Life S σ → _) (Remembers actor faultless initial) :=
    fun _ _ _ _ _ stands serves => serves_remembers lossless stands serves
  obtain ⟨ctx, store, startable, opens, holds, begun⟩ := fresh
  obtain ⟨live, ctx', done, stands⟩ := init_stands startable opens holds
  cases done.symm.trans begun
  obtain ⟨register, ran, standing⟩ := simulates.trace stands run
  exact ⟨register, ran, standing.live⟩

def tallyHost : ActorContext FjallStore :=
  { tornHost with
    storage := some fun name keyPrefix => .ok (FjallStore.createStore noEntry name keyPrefix) }

def tallied (requests : List (Request UInt8)) : Life UInt8 FjallStore :=
  let (_, live, ctx) := tally.initState 0 tallyHost
  requests.foldl (fun life request => ((tally.request 0 life request).map Prod.snd).getD life)
    { live, ctx }

def lostSave : List (Request UInt8) :=
  [.move (.handle 3), .move .save, .move .deliver, .move (.handle 8), .move .save, .recreate]

theorem waiting_save_lost : ∃ register, Trace (Remembers tally True 0) ⟨0, none, []⟩
      [((.move (.handle 3), []), .ok ()), ((.move .save, []), .ok ()),
        ((.move .deliver, [.ok ()]), .ok ()), ((.move (.handle 8), []), .ok ()),
        ((.move .save, []), .ok ()), ((.recreate, []), .ok ())] register ∧
    3 = register.live := by
  have lossless (count : UInt8) (data : Bytes) (encoded : tally.toVec count = .ok data) :
      tally.fromSlice data = .ok count := by
    cases encoded
    rfl
  have empty : Holds tally True none
      (FjallStore.createStore noEntry tally.snapshotterName (tally.id 0)) := by
    refine ⟨⟨∅, FjallStore.models_noEntry _ _, ?_⟩, fun _ => rfl⟩
    rw [ExtTreeMap.getElem?_empty]
    exact .none
  have fresh : Fresh tally True 0 none (tallied []) :=
    ⟨tallyHost, _, ⟨rfl, rfl⟩, rfl, empty, rfl⟩
  have counted : tally.Serves 0 (tallied []) (.move (.handle 3), []) (.ok ())
    (tallied (lostSave.take 1)) := ⟨rfl, rfl⟩
  have saved : tally.Serves 0 (tallied (lostSave.take 1)) (.move .save, []) (.ok ())
    (tallied (lostSave.take 2)) := ⟨rfl, rfl⟩
  have delivered : tally.Serves 0 (tallied (lostSave.take 2)) (.move .deliver, [.ok ()]) (.ok ())
    (tallied (lostSave.take 3)) := ⟨rfl, rfl⟩
  have again : tally.Serves 0 (tallied (lostSave.take 3)) (.move (.handle 8), []) (.ok ())
    (tallied (lostSave.take 4)) := ⟨rfl, rfl⟩
  have waits : tally.Serves 0 (tallied (lostSave.take 4)) (.move .save, []) (.ok ())
    (tallied (lostSave.take 5)) := ⟨rfl, rfl⟩
  have recreated : tally.Serves 0 (tallied (lostSave.take 5)) (.recreate, []) (.ok ())
    (tallied lostSave) := ⟨rfl, rfl⟩
  have last : (tallied lostSave).live = 3 := by decide
  have run := (((((Trace.begun.served counted).served saved).served delivered).served again).served
    waits).served recreated
  obtain ⟨register, remembers, live⟩ := register_refined lossless fresh run
  exact ⟨register, remembers, last.symm.trans live⟩

end Runs

end SnapshotActor

end Rush.Storage
