import Rush.Storage.JournalEvents
import Rush.Storage.Lifecycle

/-! The invariant of an actor's life: its children hold what it has persisted,
its snapshots are those of a prefix of the events, and a re-creation gives the
live state back.

`init_state` starts the replay one past the last snapshot key and takes key 0
where there is no snapshot, so event 0 is never replayed. A re-creation is
covered where that does no harm. -/

namespace Rush.Storage

open Std Rush.Actor Rush.Library

namespace PersistentActor

variable {S E σ : Type} [Store σ] [LawfulStore σ] {actor : PersistentActor S E} (gzip : Gzip)
  {initial : S}

section Meets

structure SnapshotsMeet (good : UInt64 → Bytes → Prop) (child : SnapshotterChild σ) : Prop where
  running : child.running = true
  stored : ∃ entries : EntryMap, LawfulStore.Models child.state.store entries ∧
    ∀ (key : UInt64) (data : Bytes), entries[key]? = some data → good key data
  waiting : ∀ message ∈ child.mailbox, message = .flush ∨ ∃ key data,
    message = .saveSnapshot key data ∧ good key data

variable {good : UInt64 → Bytes → Prop}

theorem meet_handle {snapshotter : BaseSnapshotter σ} {message : SnapshotMessage}
    (stored : ∃ entries : EntryMap, LawfulStore.Models snapshotter.store entries ∧
      ∀ (key : UInt64) (data : Bytes), entries[key]? = some data → good key data)
    (harmless : message = .flush ∨ ∃ key data, message = .saveSnapshot key data ∧ good key data) :
    ∃ entries : EntryMap, LawfulStore.Models (snapshotter.handle message).2.store entries ∧
      ∀ (key : UInt64) (data : Bytes), entries[key]? = some data → good key data := by
  rcases harmless with rfl | ⟨key, data, rfl, met⟩
  · exact stored
  · rcases stored with ⟨entries, models, every⟩
    rcases written : Store.put snapshotter.store key data with ⟨result, store⟩
    have after : (snapshotter.handle (.saveSnapshot key data)).2.store = store := by
      simp only [BaseSnapshotter.handle, BaseSnapshotter.saveSnapshot, written]
    rw [after]
    cases result with
    | error err => exact ⟨entries, LawfulStore.put_failed models written, every⟩
    | ok value =>
        refine ⟨_, LawfulStore.put_models models written, ?_⟩
        intro other found present
        rw [OrderedMap.lookup_insert] at present
        split at present
        · next same =>
            cases present
            exact same ▸ met
        · exact every other found present

theorem meet_deliver {child : SnapshotterChild σ} (meet : SnapshotsMeet good child) :
    SnapshotsMeet good (child.deliver BaseSnapshotter.handle) := by
  rcases child with ⟨state, mailbox, running⟩
  cases mailbox with
  | nil => exact meet
  | cons message rest =>
      refine ⟨meet.running, ?_, ?_⟩
      · exact meet_handle meet.stored (meet.waiting message List.mem_cons_self)
      · intro other member
        exact meet.waiting other (List.mem_cons_of_mem message member)

theorem meet_tell {child : SnapshotterChild σ} (meet : SnapshotsMeet good child)
    {message : SnapshotMessage}
    (harmless : message = .flush ∨ ∃ key data, message = .saveSnapshot key data ∧ good key data) :
    ∃ after, child.tell message = (.ok (), after) ∧ SnapshotsMeet good after := by
  refine ⟨_, Child.tell_running meet.running message, meet.running, meet.stored, ?_⟩
  intro other member
  rcases List.mem_append.mp member with old | added
  · exact meet.waiting other old
  · exact List.mem_singleton.mp added ▸ harmless

end Meets

section Invariant

def Truthful (actor : PersistentActor S E) (initial : S) (persisted : List E) (key : UInt64)
    (data : Bytes) : Prop :=
  key.toNat < persisted.length ∧ ∃ state, actor.fromSliceState data = .ok state ∧
    actor.replay initial (persisted.take (key.toNat + 1)) = (.ok (), state)

def Stale (actor : PersistentActor S E) (initial : S) (key : UInt64) (data : Bytes) : Prop :=
  key = 0 ∧ actor.toVecState initial = .ok data

/-- What may be in the snapshot store, with or without stale entries. -/
def Faithful (actor : PersistentActor S E) (stale : Prop) (initial : S) (persisted : List E)
    (key : UInt64) (data : Bytes) : Prop :=
  Truthful actor initial persisted key data ∨ stale ∧ Stale actor initial key data

def Decodes (actor : PersistentActor S E) (persisted : List E) (datas : List Bytes) : Prop :=
  List.Forall₂ (fun event data => actor.fromSliceEvent data = .ok event) persisted datas

structure Journaled (actor : PersistentActor S E) (persisted : List E) (child : JournalChild σ) :
    Prop where
  running : child.running = true
  mailbox : ∀ message ∈ child.mailbox, message = .flush
  events : ∃ datas, BaseJournal.Lists child.state.1 datas ∧ Decodes actor persisted datas

def SnapshotsStored (actor : PersistentActor S E) (stale : Prop) (initial : S) (persisted : List E)
    (store : σ) : Prop :=
  ∃ entries : EntryMap, LawfulStore.Models store entries ∧
    ∀ (key : UInt64) (data : Bytes), entries[key]? = some data →
      Faithful actor stale initial persisted key data

structure Snapshotted (actor : PersistentActor S E) (stale : Prop) (initial : S)
    (persisted : List E) (child : SnapshotterChild σ) : Prop where
  running : child.running = true
  stored : SnapshotsStored actor stale initial persisted child.state.store
  waiting : ∀ message ∈ child.mailbox, message = .flush ∨ ∃ key data,
    message = .saveSnapshot key data ∧ Faithful actor stale initial persisted key data

structure Sound (actor : PersistentActor S E) (stale : Prop) (initial : S) (world : World S E σ) :
    Prop where
  outcome : world.outcome = .ok ()
  replayed : actor.replay initial world.persisted = (.ok (), world.live)
  storage : world.ctx.storage.isSome = true
  childFault : world.ctx.childFault = fun _ => none
  journal : ∃ child, world.ctx.journal = some child ∧ Journaled actor world.persisted child
  snapshotter : ∃ child, world.ctx.snapshotter = some child ∧
    Snapshotted actor stale initial world.persisted child

end Invariant

section Snapshots

variable {stale : Prop} {persisted : List E}

theorem truthful_append {key : UInt64} {data : Bytes} (event : E)
    (truthful : Truthful actor initial persisted key data) :
    Truthful actor initial (persisted ++ [event]) key data := by
  rcases truthful with ⟨inside, state, decoded, replayed⟩
  refine ⟨?_, state, decoded, ?_⟩
  · rw [List.length_append]
    omega
  · rw [List.take_append_of_le_length (by omega)]
    exact replayed

theorem faithful_append {key : UInt64} {data : Bytes} (event : E)
    (faithful : Faithful actor stale initial persisted key data) :
    Faithful actor stale initial (persisted ++ [event]) key data := by
  rcases faithful with truthful | kept
  · exact .inl (truthful_append event truthful)
  · exact .inr kept

theorem snapshotted_append {child : SnapshotterChild σ} (event : E)
    (snapshotted : Snapshotted actor stale initial persisted child) :
    Snapshotted actor stale initial (persisted ++ [event]) child := by
  rcases snapshotted.stored with ⟨entries, models, faithful⟩
  refine ⟨snapshotted.running, ⟨entries, models, ?_⟩, ?_⟩
  · intro key data present
    exact faithful_append event (faithful key data present)
  · intro message member
    rcases snapshotted.waiting message member with flush | ⟨key, data, save, good⟩
    · exact .inl flush
    · exact .inr ⟨key, data, save, faithful_append event good⟩

theorem snapshotted_iff {child : SnapshotterChild σ} :
    Snapshotted actor stale initial persisted child ↔
      SnapshotsMeet (Faithful actor stale initial persisted) child :=
  ⟨fun snapshotted => ⟨snapshotted.running, snapshotted.stored, snapshotted.waiting⟩,
    fun meet => ⟨meet.running, meet.stored, meet.waiting⟩⟩

theorem snapshotted_deliver {child : SnapshotterChild σ}
    (snapshotted : Snapshotted actor stale initial persisted child) :
    Snapshotted actor stale initial persisted (child.deliver BaseSnapshotter.handle) :=
  snapshotted_iff.mpr (meet_deliver (snapshotted_iff.mp snapshotted))

end Snapshots

section Journals

variable {persisted : List E} {child : JournalChild σ}

theorem journaled_ask (journaled : Journaled actor persisted child) (message : JournalMessage) :
    child.ask (BaseJournal.handle gzip) message =
      ((BaseJournal.handle gzip child.state message).1,
        { child with state := (BaseJournal.handle gzip child.state message).2, mailbox := [] }) :=
  idle_ask gzip journaled.running journaled.mailbox message

theorem journaled_answered (journaled : Journaled actor persisted child) :
    Journaled actor persisted { child with mailbox := [] } :=
  ⟨journaled.running, fun _ member => absurd member List.not_mem_nil, journaled.events⟩

theorem journaled_deliver (journaled : Journaled actor persisted child) :
    Journaled actor persisted (child.deliver (BaseJournal.handle gzip)) := by
  rcases child with ⟨state, mailbox, running⟩
  cases mailbox with
  | nil => exact journaled
  | cons message rest =>
      have flush := journaled.mailbox message List.mem_cons_self
      subst flush
      refine ⟨journaled.running, ?_, journaled.events⟩
      intro other member
      exact journaled.mailbox other (List.mem_cons_of_mem _ member)

theorem journaled_tell_flush (journaled : Journaled actor persisted child) :
    ∃ after, child.tell .flush = (.ok (), after) ∧ Journaled actor persisted after := by
  refine ⟨_, Child.tell_running journaled.running .flush, journaled.running, ?_, journaled.events⟩
  intro message member
  rcases List.mem_append.mp member with old | added
  · exact journaled.mailbox message old
  · exact List.mem_singleton.mp added

theorem decodes_length {datas : List Bytes} (decodes : Decodes actor persisted datas) :
    persisted.length = datas.length :=
  List.Forall₂.length_eq decodes

theorem replayFrom_journaled {ctx : ActorContext σ} (present : ctx.journal = some child)
    (journaled : Journaled actor persisted child) (state : S) (start : UInt64) :
    actor.replayFrom gzip state start ctx =
      ((actor.replay state (persisted.drop (start + 1).toNat)).1,
        (actor.replay state (persisted.drop (start + 1).toNat)).2,
        { ctx with journal := some { child with mailbox := [] } }) := by
  rcases journaled.events with ⟨datas, lists, decodes⟩
  have range := BaseJournal.range_drop lists (start + 1)
  have loop : actor.replayLoop state (child.state.1.range (start + 1) none) =
      actor.replay state (persisted.drop (start + 1).toNat) := by
    apply replayLoop_decoded
    rw [range]
    exact List.forall₂_drop _ decodes
  simp only [replayFrom, present, journaled_ask gzip journaled, BaseJournal.handle, loop]

end Journals

end PersistentActor

end Rush.Storage
