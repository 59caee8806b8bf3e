import Rush.Storage.Recovery

/-! Every move of a persistent actor keeps the invariant, a re-creation where it
is covered. -/

namespace Rush.Storage

open Std Rush.Actor Rush.Library

namespace PersistentActor

variable {S E σ : Type} [Store σ] [LawfulStore σ] {actor : PersistentActor S E} (gzip : Gzip)
  {initial : S} {stale : Prop} {persisted : List E}

def FirstIdle (actor : PersistentActor S E) (initial : S) (persisted : List E) : Prop :=
  persisted = [] ∨ ∃ event rest, persisted = event :: rest ∧
    actor.applyEvent initial event = (.ok (), initial)

def SnapshotPast (actor : PersistentActor S E) (initial : S) (store : σ) : Prop :=
  ∃ key data, Store.last store = some (key, data) ∧
    ¬ (key = 0 ∧ actor.toVecState initial = .ok data)

theorem replay_firstIdle (idle : FirstIdle actor initial persisted) :
    actor.replay initial (persisted.drop 1) = actor.replay initial persisted := by
  rcases idle with rfl | ⟨event, rest, rfl, kept⟩
  · rfl
  · rw [List.drop_succ_cons, List.drop_zero]
    simp only [replay, kept]

section Init

variable {ctx : ActorContext σ} {createStore : StoreManager σ} {journalStore snapshotterStore : σ}

/-- A context in which the two stores can be created and no child exists. -/
structure Ready (actor : PersistentActor S E) (initial : S) (ctx : ActorContext σ)
    (journalStore snapshotterStore : σ) : Prop where
  storage : ∃ createStore, ctx.storage = some createStore ∧
    createStore actor.journalName (actor.id initial) = .ok journalStore ∧
    createStore actor.snapshotterName (actor.id initial) = .ok snapshotterStore
  childFault : ctx.childFault = fun _ => none
  journal : ctx.journal = none
  snapshotter : ctx.snapshotter = none

def withChildren (ctx : ActorContext σ) (journalStore snapshotterStore : σ) : ActorContext σ :=
  { ctx with
    journal := some (.started (.new journalStore, ctx.files))
    snapshotter := some (.started (.new snapshotterStore)) }

omit [LawfulStore σ] in
theorem withChildren_journal (ctx : ActorContext σ) (journalStore snapshotterStore : σ) :
    (withChildren ctx journalStore snapshotterStore).journal =
      some (.started (.new journalStore, ctx.files)) := rfl

omit [LawfulStore σ] in
theorem createStores_ready (ready : Ready actor initial ctx journalStore snapshotterStore) :
    actor.createStores initial ctx = (.ok (), withChildren ctx journalStore snapshotterStore) := by
  rcases ready with ⟨⟨createStore, storage, first, second⟩, faultless, journal, snapshotter⟩
  simp only [createStores, storage, first, second, ActorContext.createChild, faultless, journal,
    snapshotter, Option.isSome_none, Bool.false_eq_true, if_false, withChildren]

omit [LawfulStore σ] in
theorem initState_ready (ready : Ready actor initial ctx journalStore snapshotterStore) :
    actor.initState gzip initial ctx =
      match Store.last snapshotterStore with
      | some (start, data) =>
        match actor.fromSliceState data with
        | .ok loaded =>
          actor.replayFrom gzip loaded start (withChildren ctx journalStore snapshotterStore)
        | .error err =>
          (actorDeserialization (.error err) "Failed to deserialize snapshot", initial,
            withChildren ctx journalStore snapshotterStore)
      | none => actor.replayFrom gzip initial 0 (withChildren ctx journalStore snapshotterStore) := by
  have answer : (Child.started (.new snapshotterStore) : SnapshotterChild σ).ask
      BaseSnapshotter.handle .lastSnapshot =
        (.ok (.lastResult (Store.last snapshotterStore)), .started (.new snapshotterStore)) := rfl
  simp only [initState, createStores_ready ready]
  simp only [withChildren, answer]
  cases Store.last snapshotterStore with
  | none => rfl
  | some entry =>
      rcases entry with ⟨start, data⟩
      dsimp only
      cases actor.fromSliceState data <;> rfl

variable {datas : List Bytes} {live : S}

theorem snapshots_narrow {entries : EntryMap} (bounded : persisted.length ≤ LawfulStore.capacity σ)
    (faithful : ∀ (key : UInt64) (data : Bytes), entries[key]? = some data →
      Faithful actor stale initial persisted key data) :
    Narrow (LawfulStore.capacity σ) entries := by
  intro key data present
  rcases faithful key data present with truthful | kept
  · exact Nat.lt_of_lt_of_le truthful.1 bounded
  · rw [kept.2.1]
    exact LawfulStore.capacity_pos

theorem initState_replays (lossless : actor.Lossless)
    (ready : Ready actor initial ctx journalStore snapshotterStore)
    (stores : BaseJournal.Stores journalStore datas) (decodes : Decodes actor persisted datas)
    (snapshots : SnapshotsStored actor stale initial persisted snapshotterStore)
    (replayed : actor.replay initial persisted = (.ok (), live))
    (covered : FirstIdle actor initial persisted ∨ SnapshotPast actor initial snapshotterStore) :
    ∃ child, actor.initState gzip initial ctx =
        (.ok (), live, { withChildren ctx journalStore snapshotterStore with journal := some child }) ∧
      Journaled actor persisted child := by
  have bounded : persisted.length ≤ LawfulStore.capacity σ :=
    (decodes_length decodes).symm ▸ stores.1
  have journaled : Journaled actor persisted
      (.started (.new journalStore, ctx.files) : JournalChild σ) :=
    ⟨rfl, fun _ member => absurd member List.not_mem_nil,
      datas, BaseJournal.lists_new stores, decodes⟩
  have replays (state : S) (start : UInt64) :=
    replayFrom_journaled gzip (withChildren_journal ctx journalStore snapshotterStore) journaled
      state start
  have answered := journaled_answered journaled
  rcases snapshots with ⟨entries, models, faithful⟩
  have narrow := snapshots_narrow bounded faithful
  have last := LawfulStore.last_models models narrow
  have fromStart (idle : FirstIdle actor initial persisted) :
      actor.replay initial (persisted.drop ((0 : UInt64) + 1).toNat) = (.ok (), live) := by
    change actor.replay initial (persisted.drop 1) = _
    rw [replay_firstIdle idle, replayed]
  refine ⟨_, ?_, answered⟩
  rw [initState_ready gzip ready]
  cases top : Store.last snapshotterStore with
  | none =>
      rcases covered with idle | ⟨key, data, found, _⟩
      · dsimp only
        rw [replays, fromStart idle]
      · rw [top] at found
        cases found
  | some entry =>
      rcases entry with ⟨key, data⟩
      rw [top] at last
      have present := OrderedMap.toList_getLast_lookup last.symm
      dsimp only
      rcases faithful key data present with ⟨inside, state, decoded, prefixed⟩ | ⟨_, zero, encoded⟩
      · have room := LawfulStore.capacity_lt (σ := σ)
        have successor : (key + 1).toNat = key.toNat + 1 := toNat_succ (by omega)
        rw [decoded]
        dsimp only
        rw [replays, successor, replay_split prefixed, replayed]
      · rw [lossless.state initial data encoded]
        dsimp only
        rcases covered with idle | ⟨otherKey, otherData, found, past⟩
        · rw [replays, zero, fromStart idle]
        · rw [top] at found
          cases found
          exact absurd ⟨zero, encoded⟩ past

theorem initState_sound (lossless : actor.Lossless)
    (ready : Ready actor initial ctx journalStore snapshotterStore)
    (stores : BaseJournal.Stores journalStore datas) (decodes : Decodes actor persisted datas)
    (snapshots : SnapshotsStored actor stale initial persisted snapshotterStore)
    (replayed : actor.replay initial persisted = (.ok (), live))
    (covered : FirstIdle actor initial persisted ∨ SnapshotPast actor initial snapshotterStore) :
    ∃ ctx', actor.initState gzip initial ctx = (.ok (), live, ctx') ∧
      Sound actor stale initial
        { live, ctx := ctx', persisted, outcome := .ok () } := by
  rcases initState_replays gzip lossless ready stores decodes snapshots replayed covered with
    ⟨child, done, journaled⟩
  rcases ready.storage with ⟨createStore, storage, _⟩
  refine ⟨_, done, rfl, replayed, ?_, ready.childFault, ⟨child, rfl, journaled⟩, _, rfl, rfl,
    snapshots, ?_⟩
  · change ctx.storage.isSome = true
    rw [storage]
    rfl
  · intro message member
    exact absurd member List.not_mem_nil

end Init

section Moves

variable {world : World S E σ}

/-- The event is written to the journal and then rejected by `apply_event`. -/
def StoredThenRejected (actor : PersistentActor S E) (state : S) (event : E)
    (ctx : ActorContext σ) : Prop :=
  ∃ data child, actor.toVecEvent event = .ok data ∧ ctx.journal = some child ∧
    child.running = true ∧ (child.state.1.put data).1 = .ok () ∧
    (actor.applyEvent state event).1 ≠ .ok ()

/-- A re-creation that misses no event: the first one is idle, or the last
snapshot is past it. -/
def Covered (actor : PersistentActor S E) (initial : S) (world : World S E σ) : Prop :=
  FirstIdle actor initial world.persisted ∨
    ∃ child, world.ctx.snapshotter = some child ∧ SnapshotPast actor initial child.state.store

/-- The moves that keep the invariant. Without `stale`, snapshots of an empty
journal are left out as well. -/
def Allowed (actor : PersistentActor S E) (stale : Prop) (initial : S) (world : World S E σ) :
    Move E → Prop
  | .persist event => world.persisted.length < LawfulStore.capacity σ ∧
      ¬ StoredThenRejected actor world.live event world.ctx
  | .snapshot => stale ∨ world.persisted ≠ []
  | .flush => stale ∨ world.persisted ≠ []
  | .deliverJournal => True
  | .deliverSnapshotter => True
  | .recreate => Covered actor initial world

/-- An actor begun over empty stores, in a context that can start its children. -/
def Fresh (actor : PersistentActor S E) (gzip : Gzip) (initial : S) (world : World S E σ) : Prop :=
  ∃ ctx journalStore snapshotterStore, Ready actor initial ctx journalStore snapshotterStore ∧
    LawfulStore.Models journalStore ∅ ∧ LawfulStore.Models snapshotterStore ∅ ∧
    world = actor.begun gzip initial ctx

theorem fresh_sound (lossless : actor.Lossless) (fresh : Fresh actor gzip initial world) :
    Sound actor stale initial world := by
  rcases fresh with ⟨ctx, journalStore, snapshotterStore, ready, first, second, rfl⟩
  have snapshots : SnapshotsStored actor stale initial [] snapshotterStore := by
    refine ⟨∅, second, ?_⟩
    intro key data present
    rw [ExtTreeMap.getElem?_empty] at present
    cases present
  have replayed : actor.replay initial [] = (.ok (), initial) := rfl
  rcases initState_sound gzip lossless ready (BaseJournal.stores_empty first) .nil snapshots
    replayed (.inl (.inl rfl)) with ⟨ctx', done, sound⟩
  simp only [begun, done]
  exact sound

theorem persist_cases (lossless : actor.Lossless) {ctx : ActorContext σ} {child : JournalChild σ}
    (present : ctx.journal = some child) (journaled : Journaled actor persisted child)
    (room : persisted.length < LawfulStore.capacity σ) (state : S) (event : E) :
    (∃ err, actor.persist gzip state event ctx = (.error err, state, ctx)) ∨
    (∃ err after, actor.persist gzip state event ctx =
        (.error err, state, { ctx with journal := some after }) ∧
      Journaled actor persisted after) ∨
    ∃ data sn after, actor.toVecEvent event = .ok data ∧ (child.state.1.put data).1 = .ok () ∧
      Journaled actor (persisted ++ [event]) after ∧
      actor.persist gzip state event ctx =
        match actor.applyEvent state event with
        | (.error err, next) => (.error err, next, { ctx with journal := some after })
        | (.ok (), next) => (.ok sn, next, { ctx with journal := some after }) := by
  cases encoded : actor.toVecEvent event with
  | error err =>
      left
      simp only [persist, encoded]
      exact ⟨_, rfl⟩
  | ok data =>
      right
      rcases journaled.events with ⟨datas, lists, decodes⟩
      rw [decodes_length decodes] at room
      rcases BaseJournal.lists_put lists data room with
        ⟨after, done, holds, _⟩ | ⟨err, after, failed, holds, _⟩
      · right
        refine ⟨data, after.nextSequence - 1,
          { child with state := (after, child.state.2), mailbox := [] }, rfl, ?_, ?_, ?_⟩
        · rw [done]
        · refine ⟨journaled.running, fun _ member => absurd member List.not_mem_nil,
            datas ++ [data], holds, ?_⟩
          exact List.rel_append decodes (.cons (lossless.event event data encoded) .nil)
        · rcases applied : actor.applyEvent state event with ⟨result, next⟩
          cases result <;> simp only [persist, encoded, present, journaled_ask gzip journaled,
            BaseJournal.handle, done, BaseJournal.report, applied]
      · left
        have still : Journaled actor persisted
            { child with state := (after, child.state.2), mailbox := [] } :=
          ⟨journaled.running, fun _ member => absurd member List.not_mem_nil, datas, holds, decodes⟩
        simp only [persist, encoded, present, journaled_ask gzip journaled, BaseJournal.handle, failed,
          BaseJournal.report]
        exact ⟨_, _, rfl, still⟩

theorem persist_sound (lossless : actor.Lossless) (sound : Sound actor stale initial world)
    (event : E) (allowed : Allowed actor stale initial world (.persist event))
    {after : World S E σ} (taken : actor.move gzip initial world (.persist event) = some after) :
    Sound actor stale initial after := by
  rcases sound with ⟨outcome, replayed, storage, childFault, ⟨journal, hasJournal, journaled⟩,
    ⟨snapshotter, hasSnapshotter, snapshotted⟩⟩
  simp only [move, outcome, Option.some.injEq] at taken
  subst taken
  rcases persist_cases gzip lossless hasJournal journaled allowed.1 world.live event with
    ⟨err, done⟩ | ⟨err, child, done, holds⟩ | ⟨data, sn, child, encoded, stored, holds, done⟩
  · rw [done]
    exact ⟨rfl, replayed, storage, childFault, ⟨journal, hasJournal, journaled⟩,
      ⟨snapshotter, hasSnapshotter, snapshotted⟩⟩
  · rw [done]
    exact ⟨rfl, replayed, storage, childFault, ⟨child, rfl, holds⟩,
      ⟨snapshotter, hasSnapshotter, snapshotted⟩⟩
  · rcases applied : actor.applyEvent world.live event with ⟨result, next⟩
    cases result with
    | error err =>
        have rejected : (actor.applyEvent world.live event).1 ≠ .ok () := by
          rw [applied]
          exact fun same => by cases same
        exact absurd ⟨data, journal, encoded, hasJournal, journaled.running, stored, rejected⟩
          allowed.2
    | ok value =>
        simp only [applied] at done
        rw [done]
        exact ⟨rfl, replay_concat replayed applied, storage, childFault, ⟨child, rfl, holds⟩,
          ⟨snapshotter, hasSnapshotter, snapshotted_append event snapshotted⟩⟩

theorem snapshot_faithful (lossless : actor.Lossless) {live : S}
    (replayed : actor.replay initial persisted = (.ok (), live)) {child : JournalChild σ}
    (journaled : Journaled actor persisted child) {data : Bytes}
    (encoded : actor.toVecState live = .ok data) (nonempty : stale ∨ persisted ≠ []) :
    Faithful actor stale initial persisted child.state.1.latestSequence data := by
  rcases journaled.events with ⟨datas, lists, decodes⟩
  have length := decodes_length decodes
  rcases BaseJournal.lists_latest lists with ⟨empty, zero⟩ | ⟨_, latest⟩
  · have none_ : persisted = [] := by
      rw [empty, List.length_nil] at length
      exact List.length_eq_zero_iff.mp length
    rcases nonempty with holds | some_
    · right
      subst none_
      cases replayed
      exact ⟨holds, zero, encoded⟩
    · exact absurd none_ some_
  · left
    refine ⟨by omega, live, lossless.state live data encoded, ?_⟩
    rw [latest, ← length, List.take_length]
    exact replayed

section Children

variable {good : UInt64 → Bytes → Prop} {ctx : ActorContext σ} {live : S} {journal : JournalChild σ}
  {snapshotter : SnapshotterChild σ}

theorem snapshot_meets (hasJournal : ctx.journal = some journal)
    (hasSnapshotter : ctx.snapshotter = some snapshotter)
    (journaled : Journaled actor persisted journal) (meet : SnapshotsMeet good snapshotter)
    (taken : ∀ data, actor.toVecState live = .ok data → good journal.state.1.latestSequence data) :
    ∃ result journal snapshotter, actor.snapshot gzip live ctx =
        (result, { ctx with journal := some journal, snapshotter := some snapshotter }) ∧
      Journaled actor persisted journal ∧ SnapshotsMeet good snapshotter := by
  have latest : lastSequence gzip ctx = (.ok journal.state.1.latestSequence,
      { ctx with journal := some { journal with mailbox := [] } }) := by
    simp only [lastSequence, hasJournal, journaled_ask gzip journaled, BaseJournal.handle]
  cases encoded : actor.toVecState live with
  | error err =>
      simp only [snapshot, latest, encoded, hasSnapshotter]
      exact ⟨_, { journal with mailbox := [] }, snapshotter, rfl, journaled_answered journaled, meet⟩
  | ok data =>
      obtain ⟨after, told, meets⟩ := meet_tell meet (.inr ⟨_, _, rfl, taken data encoded⟩)
      refine ⟨.ok (), { journal with mailbox := [] }, after, ?_, journaled_answered journaled, meets⟩
      simp only [snapshot, latest, encoded, hasSnapshotter, told]
      rfl

theorem flush_meets (hasJournal : ctx.journal = some journal)
    (hasSnapshotter : ctx.snapshotter = some snapshotter)
    (journaled : Journaled actor persisted journal) (meet : SnapshotsMeet good snapshotter)
    (taken : ∀ data, actor.toVecState live = .ok data → good journal.state.1.latestSequence data) :
    ∃ result journal snapshotter, actor.flush gzip live ctx =
        (result, { ctx with journal := some journal, snapshotter := some snapshotter }) ∧
      Journaled actor persisted journal ∧ SnapshotsMeet good snapshotter := by
  rcases snapshot_meets gzip hasJournal hasSnapshotter journaled meet taken with
    ⟨result, journal, snapshotter, done, journaled, meets⟩
  cases result with
  | error err =>
      refine ⟨.error err, journal, snapshotter, ?_, journaled, meets⟩
      simp only [flush, done]
  | ok value =>
      rcases journaled_tell_flush journaled with ⟨told, sent, flushed⟩
      obtain ⟨after, asked, again⟩ := meet_tell meets (.inl rfl)
      refine ⟨.ok (), told, after, ?_, flushed, again⟩
      simp only [flush, done, sent, asked]
      rfl

end Children

theorem snapshot_children (lossless : actor.Lossless) (sound : Sound actor stale initial world)
    (nonempty : stale ∨ world.persisted ≠ []) :
    ∃ result journal snapshotter, actor.snapshot gzip world.live world.ctx =
        (result, { world.ctx with journal := some journal, snapshotter := some snapshotter }) ∧
      Journaled actor world.persisted journal ∧
      Snapshotted actor stale initial world.persisted snapshotter := by
  rcases sound with ⟨_, replayed, _, _, ⟨journal, hasJournal, journaled⟩,
    ⟨snapshotter, hasSnapshotter, snapshotted⟩⟩
  simp only [snapshotted_iff] at snapshotted ⊢
  exact snapshot_meets gzip hasJournal hasSnapshotter journaled snapshotted
    fun _ encoded => snapshot_faithful lossless replayed journaled encoded nonempty

theorem flush_children (lossless : actor.Lossless) (sound : Sound actor stale initial world)
    (nonempty : stale ∨ world.persisted ≠ []) :
    ∃ result journal snapshotter, actor.flush gzip world.live world.ctx =
        (result, { world.ctx with journal := some journal, snapshotter := some snapshotter }) ∧
      Journaled actor world.persisted journal ∧
      Snapshotted actor stale initial world.persisted snapshotter := by
  rcases sound with ⟨_, replayed, _, _, ⟨journal, hasJournal, journaled⟩,
    ⟨snapshotter, hasSnapshotter, snapshotted⟩⟩
  simp only [snapshotted_iff] at snapshotted ⊢
  exact flush_meets gzip hasJournal hasSnapshotter journaled snapshotted
    fun _ encoded => snapshot_faithful lossless replayed journaled encoded nonempty

theorem sound_children (sound : Sound actor stale initial world) {journal : JournalChild σ}
    {snapshotter : SnapshotterChild σ} (journaled : Journaled actor world.persisted journal)
    (snapshotted : Snapshotted actor stale initial world.persisted snapshotter) :
    Sound actor stale initial
      { live := world.live
        ctx := { world.ctx with journal := some journal, snapshotter := some snapshotter }
        persisted := world.persisted
        outcome := .ok () } :=
  ⟨rfl, sound.replayed, sound.storage, sound.childFault, ⟨journal, rfl, journaled⟩,
    ⟨snapshotter, rfl, snapshotted⟩⟩

theorem names_differ (actor : PersistentActor S E) :
    actor.snapshotterName ≠ actor.journalName := by
  intro same
  have text : actor.typeName ++ "-Snapshotter" = actor.typeName ++ "-Journal" := same
  have tail : "-Snapshotter" = "-Journal" := (String.append_right_inj _).mp text
  exact absurd tail (by decide)

omit [Store σ] [LawfulStore σ] in
theorem reopened_ready (actor : PersistentActor S E) (initial : S) {journal : JournalChild σ} {snapshotter : SnapshotterChild σ}
    {ctx : ActorContext σ} (storage : ctx.storage.isSome = true)
    (childFault : ctx.childFault = fun _ => none) (hasJournal : ctx.journal = some journal)
    (hasSnapshotter : ctx.snapshotter = some snapshotter) :
    Ready actor initial (actor.reopened (actor.id initial) ctx) journal.state.1.store
      snapshotter.state.store := by
  rcases Option.isSome_iff_exists.mp storage with ⟨createStore, created⟩
  refine ⟨?_, childFault, rfl, rfl⟩
  have different := names_differ actor
  simp only [reopened, created, hasJournal, hasSnapshotter, Option.map_some, Option.some.injEq,
    exists_eq_left', different, and_self, and_false, if_true, if_false]

theorem recover_sound (lossless : actor.Lossless) (sound : Sound actor stale initial world)
    (covered : Covered actor initial world) :
    ∃ ctx, actor.recover gzip initial world.ctx = (.ok (), world.live, ctx) ∧
      Sound actor stale initial
        { live := world.live, ctx, persisted := world.persisted, outcome := .ok () } := by
  rcases sound with ⟨_, replayed, storage, childFault, ⟨journal, hasJournal, journaled⟩,
    ⟨snapshotter, hasSnapshotter, snapshotted⟩⟩
  rcases journaled.events with ⟨datas, lists, decodes⟩
  have ready := reopened_ready actor initial storage childFault hasJournal hasSnapshotter
  have past : FirstIdle actor initial world.persisted ∨
      SnapshotPast actor initial snapshotter.state.store := by
    rcases covered with idle | ⟨child, present, past⟩
    · exact .inl idle
    · rw [hasSnapshotter] at present
      cases present
      exact .inr past
  exact initState_sound gzip lossless ready lists.stores decodes snapshotted.stored replayed past

theorem move_sound (lossless : actor.Lossless) (sound : Sound actor stale initial world)
    (label : Move E) (allowed : Allowed actor stale initial world label) {after : World S E σ}
    (taken : actor.move gzip initial world label = some after) :
    Sound actor stale initial after := by
  have outcome := sound.outcome
  cases label with
  | persist event => exact persist_sound gzip lossless sound event allowed taken
  | snapshot =>
      rcases snapshot_children gzip lossless sound allowed with
        ⟨result, journal, snapshotter, done, journaled, snapshotted⟩
      simp only [move, outcome, done, Option.some.injEq] at taken
      subst taken
      exact sound_children sound journaled snapshotted
  | flush =>
      rcases flush_children gzip lossless sound allowed with
        ⟨result, journal, snapshotter, done, journaled, snapshotted⟩
      simp only [move, outcome, done, Option.some.injEq] at taken
      subst taken
      exact sound_children sound journaled snapshotted
  | deliverJournal =>
      rcases sound with ⟨_, replayed, storage, childFault, ⟨journal, hasJournal, journaled⟩, rest⟩
      simp only [move, outcome, hasJournal, Option.map_some, Option.some.injEq] at taken
      subst taken
      exact ⟨rfl, replayed, storage, childFault, ⟨_, rfl, journaled_deliver gzip journaled⟩, rest⟩
  | deliverSnapshotter =>
      rcases sound with ⟨_, replayed, storage, childFault, rest,
        ⟨snapshotter, hasSnapshotter, snapshotted⟩⟩
      simp only [move, outcome, hasSnapshotter, Option.map_some, Option.some.injEq] at taken
      subst taken
      exact ⟨rfl, replayed, storage, childFault, rest, _, rfl,
        snapshotted_deliver snapshotted⟩
  | recreate =>
      rcases recover_sound gzip lossless sound allowed with ⟨ctx, done, again⟩
      simp only [move, done, Option.some.injEq] at taken
      subst taken
      exact again

def Lives (actor : PersistentActor S E) (gzip : Gzip) (stale : Prop) (initial : S) :
    World S E σ → Prop :=
  Runs.Guarded (actor.move gzip initial) (Fresh actor gzip initial) (Allowed actor stale initial)

theorem lives_sound (lossless : actor.Lossless) (lives : Lives actor gzip stale initial world) :
    Sound actor stale initial world := by
  apply Runs.guarded_invariant (fun world => Sound actor stale initial world) _ _ lives
  · intro world fresh
    exact fresh_sound gzip lossless fresh
  · intro world label after sound allowed taken
    exact move_sound gzip lossless sound label allowed taken

end Moves

end PersistentActor

end Rush.Storage
