import Rush.Storage.Durability

/-! Edits of a journal and the recovery after them. An edit changes the journal's
store alone; `init_state` goes by the last snapshot, which may have been taken of
events that the edit has replaced. -/

namespace Rush.Storage

open Std Rush.Actor Rush.Library

namespace PersistentActor

section Model

variable {S E σ : Type} [Store σ] (actor : PersistentActor S E) (gzip : Gzip)

def insertEvent (ctx : ActorContext σ) (sequence : UInt64) (newEvent : E) :
    Except ActorError Unit × ActorContext σ :=
  match ctx.journal with
  | none => (.error (.store "Journal not found"), ctx)
  | some journal =>
    match actor.toVecEvent newEvent with
    | .error err => (actorSerialization (.error err) "Failed to serialize event", ctx)
    | .ok bytes =>
      let (response, journal) := journal.ask (BaseJournal.handle gzip) (.insert sequence bytes)
      let ctx := { ctx with journal := some journal }
      match response with
      | .error err => (actorStore (.error err) "Failed to send insert request to journal", ctx)
      | .ok .none => (.ok (), ctx)
      | .ok _ => (.error (.store "Unexpected response when requesting insert to journal"), ctx)

def importFrom (gzip : Gzip) (ctx : ActorContext σ) (dir : String) : ActorContext σ :=
  { ctx with
    journal := ctx.journal.map fun journal =>
      (journal.ask (BaseJournal.handle gzip) (.importFrom dir)).2 }

inductive EditMove (E : Type) where
  | life (move : Move E)
  | insert (sequence : UInt64) (newEvent : E)
  | importFrom (dir : String)

/-- A move of an actor's life or an edit of its journal. -/
def edit (initial : S) (world : World S E σ) : EditMove E → Option (World S E σ)
  | .life label => actor.move gzip initial world label
  | .insert sequence newEvent =>
    some { world with ctx := (actor.insertEvent gzip world.ctx sequence newEvent).2 }
  | .importFrom dir => some { world with ctx := importFrom gzip world.ctx dir }

end Model

variable {S E σ : Type} [Store σ] [LawfulStore σ] {actor : PersistentActor S E} (gzip : Gzip)
  {initial : S} {world : World S E σ} {ctx : ActorContext σ} {history : List E}

/-- The journal of the context holds these events. -/
def JournalHolds (actor : PersistentActor S E) (history : List E) (ctx : ActorContext σ) : Prop :=
  ∃ child, ctx.journal = some child ∧ Journaled actor history child

/-- A re-creation gives the state that the events of the journal lead to. -/
def Recovered (actor : PersistentActor S E) (gzip : Gzip) (initial : S) (ctx : ActorContext σ) :
    Prop :=
  ∃ history, JournalHolds actor history ctx ∧
    actor.replay initial history =
      ((actor.recover gzip initial ctx).1, (actor.recover gzip initial ctx).2.1)

/-- The last stored snapshot is the state after the journal's events up to its key;
without a snapshot, the first event leaves the initial state as it is. -/
def SnapshotAgrees (actor : PersistentActor S E) (initial : S) (ctx : ActorContext σ) : Prop :=
  ∀ history, JournalHolds actor history ctx → ∀ child, ctx.snapshotter = some child →
    match Store.last child.state.store with
    | none => FirstIdle actor initial history
    | some (key, data) => ∃ state, actor.fromSliceState data = .ok state ∧
        actor.replay initial (history.take (key.toNat + 1)) = (.ok (), state)

/-- The moves of an edited life: the journal has room, an insert is at an existing
sequence, an import is of encoded events, and a re-creation finds a last snapshot
that agrees with the journal. -/
def Coherent (actor : PersistentActor S E) (initial : S) (world : World S E σ) :
    EditMove E → Prop
  | .life (.persist _) =>
      ∀ history, JournalHolds actor history world.ctx → history.length < LawfulStore.capacity σ
  | .life .recreate => SnapshotAgrees actor initial world.ctx
  | .insert sequence _ =>
      ∀ history, JournalHolds actor history world.ctx → sequence.toNat < history.length
  | .importFrom dir => ∀ child, world.ctx.journal = some child →
      (Store.purge child.state.1.store).1 = .ok () ∧ ∃ events : List E,
        events.length ≤ LawfulStore.capacity σ ∧
        Decodes actor events (child.state.1.importedEvents child.state.2 dir)
  | .life .snapshot | .life .flush | .life .deliverJournal | .life .deliverSnapshotter => True

structure Edited (actor : PersistentActor S E) (ctx : ActorContext σ) : Prop where
  storage : ctx.storage.isSome = true
  childFault : ctx.childFault = fun _ => none
  journal : ∃ history, JournalHolds actor history ctx
  snapshotter : ∃ child, ctx.snapshotter = some child ∧
    SnapshotsMeet (fun key _ => key.toNat < LawfulStore.capacity σ) child

section Moves

theorem edited_children (edited : Edited actor ctx) {journal : JournalChild σ}
    {snapshotter : SnapshotterChild σ} (journaled : Journaled actor history journal)
    (meet : SnapshotsMeet (fun key _ => key.toNat < LawfulStore.capacity σ) snapshotter) :
    Edited actor { ctx with journal := some journal, snapshotter := some snapshotter } :=
  ⟨edited.storage, edited.childFault, ⟨history, journal, rfl, journaled⟩, snapshotter, rfl, meet⟩

theorem edited_journal (edited : Edited actor ctx) {journal : JournalChild σ}
    (journaled : Journaled actor history journal) :
    Edited actor { ctx with journal := some journal } :=
  ⟨edited.storage, edited.childFault, ⟨history, journal, rfl, journaled⟩, edited.snapshotter⟩

theorem latest_below {child : JournalChild σ} (journaled : Journaled actor history child) :
    child.state.1.latestSequence.toNat < LawfulStore.capacity σ := by
  rcases journaled.events with ⟨datas, lists, _⟩
  rcases BaseJournal.lists_latest lists with ⟨_, zero⟩ | ⟨_, latest⟩
  · rw [zero]
    exact LawfulStore.capacity_pos
  · have bounded := lists.stores.1
    omega

omit [Store σ] [LawfulStore σ] in
theorem forall₂_set {α β : Type} {related : α → β → Prop} {left : List α} {right : List β}
    {a : α} {b : β} (every : List.Forall₂ related left right) (new : related a b) (index : Nat) :
    List.Forall₂ related (left.set index a) (right.set index b) := by
  induction every generalizing index with
  | nil => exact .nil
  | cons first rest ih =>
      cases index with
      | zero => exact .cons new rest
      | succ index => exact .cons first (ih index)

theorem insertEvent_edited (lossless : actor.Lossless) (edited : Edited actor ctx)
    {sequence : UInt64} (newEvent : E)
    (inside : ∀ history, JournalHolds actor history ctx → sequence.toNat < history.length) :
    Edited actor (actor.insertEvent gzip ctx sequence newEvent).2 := by
  obtain ⟨history, child, present, journaled⟩ := edited.journal
  have within := inside history ⟨child, present, journaled⟩
  cases encoded : actor.toVecEvent newEvent with
  | error err =>
      simp only [insertEvent, present, encoded]
      exact edited
  | ok bytes =>
      rcases journaled.events with ⟨datas, lists, decodes⟩
      rw [decodes_length decodes] at within
      have after : (actor.insertEvent gzip ctx sequence newEvent).2 =
          { ctx with
            journal := some { child with
              state := ((child.state.1.insert sequence bytes).2, child.state.2)
              mailbox := [] } } := by
        simp only [insertEvent, present, encoded, journaled_ask gzip journaled, BaseJournal.handle]
        split <;> rfl
      rw [after]
      have still {events : List E} {entries : List Bytes}
          (lists : BaseJournal.Lists (child.state.1.insert sequence bytes).2 entries)
          (decodes : Decodes actor events entries) : Journaled actor events { child with
            state := ((child.state.1.insert sequence bytes).2, child.state.2)
            mailbox := [] } :=
        ⟨journaled.running, fun _ member => absurd member List.not_mem_nil, entries, lists, decodes⟩
      rcases BaseJournal.lists_insert lists within bytes with written | kept
      · exact edited_journal edited (still written
          (forall₂_set decodes (lossless.event newEvent bytes encoded) sequence.toNat))
      · exact edited_journal edited (still kept decodes)

theorem importFrom_edited (edited : Edited actor ctx) {dir : String}
    (importable : ∀ child, ctx.journal = some child →
      (Store.purge child.state.1.store).1 = .ok () ∧ ∃ events : List E,
        events.length ≤ LawfulStore.capacity σ ∧
        Decodes actor events (child.state.1.importedEvents child.state.2 dir)) :
    Edited actor (importFrom gzip ctx dir) := by
  obtain ⟨history, child, present, journaled⟩ := edited.journal
  obtain ⟨purges, events, room, decodes⟩ := importable child present
  rcases journaled.events with ⟨datas, lists, _⟩
  rcases lists.stores with ⟨_, entries, models, _⟩
  rw [decodes_length decodes] at room
  obtain ⟨taken, starts, holds, _⟩ := BaseJournal.lists_import models child.state.2 dir purges room
  have after : importFrom gzip ctx dir =
      { ctx with
        journal := some { child with
          state := ((child.state.1.importEvents child.state.2 dir).2, child.state.2)
          mailbox := [] } } := by
    simp only [importFrom, present, Option.map_some, journaled_ask gzip journaled,
      BaseJournal.handle]
  have journaledAfter : Journaled actor (events.take taken.length) { child with
      state := ((child.state.1.importEvents child.state.2 dir).2, child.state.2)
      mailbox := [] } := by
    refine ⟨journaled.running, fun _ member => absurd member List.not_mem_nil, taken, holds, ?_⟩
    rw [List.prefix_iff_eq_take.mp starts]
    have length : taken.length ≤ (child.state.1.importedEvents child.state.2 dir).length :=
      starts.length_le
    rw [List.length_take, Nat.min_eq_left length]
    exact List.forall₂_take _ decodes
  rw [after]
  exact edited_journal edited journaledAfter

theorem recover_agrees (edited : Edited actor ctx) (agrees : SnapshotAgrees actor initial ctx) :
    ∃ history after, JournalHolds actor history ctx ∧ actor.recover gzip initial ctx =
        ((actor.replay initial history).1, (actor.replay initial history).2, after) ∧
      Edited actor after := by
  obtain ⟨history, journal, hasJournal, journaled⟩ := edited.journal
  obtain ⟨snapshotter, hasSnapshotter, meet⟩ := edited.snapshotter
  rcases journaled.events with ⟨datas, lists, decodes⟩
  rcases meet.stored with ⟨entries, models, narrow⟩
  have ready := reopened_ready actor initial edited.storage edited.childFault hasJournal
    hasSnapshotter
  have begun : Journaled actor history (.started (.new journal.state.1.store,
      (actor.reopened (actor.id initial) ctx).files) : JournalChild σ) :=
    ⟨rfl, fun _ member => absurd member List.not_mem_nil,
      datas, BaseJournal.lists_new lists.stores, decodes⟩
  have replays (state : S) (start : UInt64) := replayFrom_journaled gzip
    (withChildren_journal (actor.reopened (actor.id initial) ctx) journal.state.1.store
      snapshotter.state.store) begun state start
  have snapshots : SnapshotsMeet (fun key _ => key.toNat < LawfulStore.capacity σ)
      (.started (.new snapshotter.state.store) : SnapshotterChild σ) :=
    ⟨rfl, meet.stored, fun _ member => absurd member List.not_mem_nil⟩
  have after : Edited actor { withChildren (actor.reopened (actor.id initial) ctx)
      journal.state.1.store snapshotter.state.store with
      journal := some { (.started (.new journal.state.1.store,
        (actor.reopened (actor.id initial) ctx).files) : JournalChild σ) with mailbox := [] } } := by
    refine ⟨?_, edited.childFault, ⟨history, _, rfl, journaled_answered begun⟩, _, rfl, snapshots⟩
    rcases ready.storage with ⟨createStore, storage, _⟩
    change (actor.reopened (actor.id initial) ctx).storage.isSome = true
    rw [storage]
    rfl
  refine ⟨history, _, ⟨journal, hasJournal, journaled⟩, ?_, after⟩
  have told := agrees history ⟨journal, hasJournal, journaled⟩ snapshotter hasSnapshotter
  have last := LawfulStore.last_models models narrow
  rw [recover, initState_ready gzip ready]
  cases top : Store.last snapshotter.state.store with
  | none =>
      rw [top] at told
      dsimp only at told ⊢
      have first : actor.replay initial (history.drop ((0 : UInt64) + 1).toNat) =
          actor.replay initial history := replay_firstIdle told
      rw [replays, first]
  | some entry =>
      rcases entry with ⟨key, data⟩
      rw [top] at told last
      obtain ⟨state, decoded, prefixed⟩ := told
      have present := OrderedMap.toList_getLast_lookup last.symm
      have room := LawfulStore.capacity_lt (σ := σ)
      have below := narrow key data present
      have successor : (key + 1).toNat = key.toNat + 1 := toNat_succ (by omega)
      dsimp only
      rw [decoded]
      dsimp only
      rw [replays, successor, replay_split prefixed]

theorem persist_edited (lossless : actor.Lossless) (edited : Edited actor ctx) (state : S)
    (event : E) (room : ∀ history, JournalHolds actor history ctx →
      history.length < LawfulStore.capacity σ) :
    Edited actor (actor.persist gzip state event ctx).2.2 := by
  obtain ⟨history, child, present, journaled⟩ := edited.journal
  rcases persist_cases gzip lossless present journaled
      (room history ⟨child, present, journaled⟩) state event with
    ⟨err, done⟩ | ⟨err, after, done, holds⟩ | ⟨data, sn, after, _, _, holds, done⟩
  · rw [done]
    exact edited
  · rw [done]
    exact edited_journal edited holds
  · rcases applied : actor.applyEvent state event with ⟨result, next⟩
    rw [done, applied]
    cases result with
    | error err => exact edited_journal edited holds
    | ok value => exact edited_journal edited holds

theorem life_edited (lossless : actor.Lossless) (edited : Edited actor world.ctx) {label : Move E}
    (coherent : Coherent actor initial world (.life label)) {after : World S E σ}
    (taken : actor.move gzip initial world label = some after) : Edited actor after.ctx := by
  obtain ⟨history, journal, hasJournal, journaled⟩ := edited.journal
  obtain ⟨snapshotter, hasSnapshotter, meet⟩ := edited.snapshotter
  cases label with
  | recreate =>
      obtain ⟨_, ctx, _, done, still⟩ := recover_agrees gzip edited coherent
      rw [move, done] at taken
      cases taken
      exact still
  | persist event =>
      cases outcome : world.outcome with
      | error err => simp only [move, outcome, reduceCtorEq] at taken
      | ok value =>
          simp only [move, outcome, Option.some.injEq] at taken
          subst taken
          exact persist_edited gzip lossless edited world.live event coherent
  | snapshot =>
      cases outcome : world.outcome with
      | error err => simp only [move, outcome, reduceCtorEq] at taken
      | ok value =>
          simp only [move, outcome, Option.some.injEq] at taken
          subst taken
          obtain ⟨_, _, _, done, journaled, meet⟩ := snapshot_meets gzip hasJournal hasSnapshotter
            journaled meet fun _ (_ : actor.toVecState world.live = _) => latest_below journaled
          rw [done]
          exact edited_children edited journaled meet
  | flush =>
      cases outcome : world.outcome with
      | error err => simp only [move, outcome, reduceCtorEq] at taken
      | ok value =>
          simp only [move, outcome, Option.some.injEq] at taken
          subst taken
          obtain ⟨_, _, _, done, journaled, meet⟩ := flush_meets gzip hasJournal hasSnapshotter
            journaled meet fun _ (_ : actor.toVecState world.live = _) => latest_below journaled
          rw [done]
          exact edited_children edited journaled meet
  | deliverJournal =>
      cases outcome : world.outcome with
      | error err => simp only [move, outcome, reduceCtorEq] at taken
      | ok value =>
          simp only [move, outcome, hasJournal, Option.map_some, Option.some.injEq] at taken
          subst taken
          exact edited_journal edited (journaled_deliver gzip journaled)
  | deliverSnapshotter =>
      cases outcome : world.outcome with
      | error err => simp only [move, outcome, reduceCtorEq] at taken
      | ok value =>
          simp only [move, outcome, hasSnapshotter, Option.map_some, Option.some.injEq] at taken
          subst taken
          exact ⟨edited.storage, edited.childFault, edited.journal, _, rfl, meet_deliver meet⟩

theorem edit_edited (lossless : actor.Lossless) (edited : Edited actor world.ctx)
    {label : EditMove E} (coherent : Coherent actor initial world label) {after : World S E σ}
    (taken : actor.edit gzip initial world label = some after) : Edited actor after.ctx := by
  cases label with
  | life label => exact life_edited gzip lossless edited coherent taken
  | insert sequence newEvent =>
      cases taken
      exact insertEvent_edited gzip lossless edited newEvent coherent
  | importFrom dir =>
      cases taken
      exact importFrom_edited gzip edited coherent

theorem sound_edited {stale : Prop} (sound : Sound actor stale initial world) :
    Edited actor world.ctx := by
  obtain ⟨journal, hasJournal, journaled⟩ := sound.journal
  obtain ⟨snapshotter, hasSnapshotter, snapshotted⟩ := sound.snapshotter
  have bounded : world.persisted.length ≤ LawfulStore.capacity σ := by
    rcases journaled.events with ⟨datas, lists, decodes⟩
    rw [decodes_length decodes]
    exact lists.stores.1
  have below {key : UInt64} {data : Bytes}
      (faithful : Faithful actor stale initial world.persisted key data) :
      key.toNat < LawfulStore.capacity σ := by
    rcases faithful with truthful | ⟨_, zero, _⟩
    · exact Nat.lt_of_lt_of_le truthful.1 bounded
    · rw [zero]
      exact LawfulStore.capacity_pos
  refine ⟨sound.storage, sound.childFault, ⟨_, journal, hasJournal, journaled⟩, snapshotter,
    hasSnapshotter, snapshotted.running, ?_, ?_⟩
  · obtain ⟨entries, models, every⟩ := snapshotted.stored
    exact ⟨entries, models, fun key data present => below (every key data present)⟩
  · intro message member
    rcases snapshotted.waiting message member with flush | ⟨key, data, saves, faithful⟩
    · exact .inl flush
    · exact .inr ⟨key, data, saves, below faithful⟩

theorem edited_reached (lossless : actor.Lossless)
    (reached : Runs.Guarded (actor.edit gzip initial) (Fresh actor gzip initial)
      (Coherent actor initial) world) : Edited actor world.ctx := by
  refine Runs.guarded_invariant (fun world => Edited actor world.ctx) ?_ ?_ reached
  · intro world fresh
    have sound : Sound actor True initial world := fresh_sound gzip lossless fresh
    exact sound_edited sound
  · exact fun world label after edited coherent taken =>
      edit_edited gzip lossless edited coherent taken

/-- After any edits, a re-creation over a last snapshot that agrees with the journal
recovers the state its events lead to. -/
theorem edited_history_recovered (lossless : actor.Lossless)
    (reached : Runs.Guarded (actor.edit gzip initial) (Fresh actor gzip initial)
      (Coherent actor initial) world)
    (agrees : SnapshotAgrees actor initial world.ctx) :
    Recovered actor gzip initial world.ctx := by
  obtain ⟨history, after, holds, done, _⟩ :=
    recover_agrees gzip (edited_reached gzip lossless reached) agrees
  refine ⟨history, holds, ?_⟩
  rw [done]

end Moves

section Runs

theorem holds_length {child : JournalChild σ} (holds : JournalHolds actor history ctx)
    (present : ctx.journal = some child) :
    history.length = child.state.1.nextSequence.toNat := by
  obtain ⟨same, here, journaled⟩ := holds
  cases here.symm.trans present
  rcases journaled.events with ⟨datas, lists, decodes⟩
  rw [decodes_length decodes, lists.next]

theorem holds_first {child : JournalChild σ} {first : E} {rest : List E}
    (holds : JournalHolds actor (first :: rest) ctx) (present : ctx.journal = some child)
    (bytes : Bytes) (event : E) (entry : stored child.state.1.store 0 = some bytes)
    (decodes : actor.fromSliceEvent bytes = .ok event) : first = event := by
  obtain ⟨same, here, journaled⟩ := holds
  cases here.symm.trans present
  have begins : (first :: rest)[0]? = some first := rfl
  obtain ⟨found, at_, decoded⟩ := journaled_event journaled begins
  cases at_.symm.trans entry
  cases decoded.symm.trans decodes
  rfl

def editedLife (moves : List (EditMove Nat)) : World Nat Nat FjallStore :=
  moves.foldl (fun world label => (adder.edit BaseJournal.sampleGzip 0 world label).getD world)
    (lifeOf adder [])

def snapshotTaken : List (EditMove Nat) :=
  [.life (.persist 3), .life .snapshot, .life .deliverSnapshotter]

theorem snapshotTaken_reached : Runs.Guarded (adder.edit BaseJournal.sampleGzip 0)
    (Fresh adder BaseJournal.sampleGzip 0) (Coherent adder 0) (editedLife snapshotTaken) := by
  have room (history : List Nat) (holds : JournalHolds adder history (editedLife []).ctx) :
      history.length < LawfulStore.capacity FjallStore := by
    rw [holds_length holds rfl]
    decide
  refine .next (editedLife [.life (.persist 3), .life .snapshot]) (EditMove.life .deliverSnapshotter)
    ?_ trivial rfl
  refine .next (editedLife [.life (.persist 3)]) (EditMove.life .snapshot) ?_ trivial rfl
  exact .next (editedLife []) (EditMove.life (.persist 3)) (.start (fresh_life adder)) room rfl

theorem later_edit_recovered :
    Recovered adder BaseJournal.sampleGzip 0
      (editedLife (snapshotTaken ++ [.life (.persist 4), .insert 1 9])).ctx ∧
    (adder.recover BaseJournal.sampleGzip 0
      (editedLife (snapshotTaken ++ [.life (.persist 4), .insert 1 9])).ctx).2.1 = 12 := by
  have room (history : List Nat)
      (holds : JournalHolds adder history (editedLife snapshotTaken).ctx) :
      history.length < LawfulStore.capacity FjallStore := by
    rw [holds_length holds rfl]
    decide
  have inside (history : List Nat) (holds : JournalHolds adder history
      (editedLife (snapshotTaken ++ [.life (.persist 4)])).ctx) :
      (1 : UInt64).toNat < history.length := by
    rw [holds_length holds rfl]
    decide
  have agrees : SnapshotAgrees adder 0
      (editedLife (snapshotTaken ++ [.life (.persist 4), .insert 1 9])).ctx := by
    intro history holds child present
    cases present
    have two := holds_length holds rfl
    cases history with
    | nil => exact absurd two (by decide)
    | cons first rest =>
        have three : first = 3 :=
          holds_first holds rfl [1, 1, 1] 3 (by decide) rfl
        subst three
        exact ⟨3, rfl, rfl⟩
  refine ⟨edited_history_recovered BaseJournal.sampleGzip adder_lossless ?_ agrees, rfl⟩
  refine .next (editedLife (snapshotTaken ++ [EditMove.life (.persist 4)])) (EditMove.insert 1 9)
    ?_ inside rfl
  exact .next (editedLife snapshotTaken) (EditMove.life (.persist 4)) snapshotTaken_reached
    room rfl

/-- An edit of an event that the last snapshot covers is lost. -/
theorem covered_edit_lost :
    Runs.Guarded (adder.edit BaseJournal.sampleGzip 0) (Fresh adder BaseJournal.sampleGzip 0)
      (Coherent adder 0) (editedLife (snapshotTaken ++ [.insert 0 5])) ∧
    ¬ Recovered adder BaseJournal.sampleGzip 0
      (editedLife (snapshotTaken ++ [.insert 0 5])).ctx := by
  constructor
  · have inside (history : List Nat)
        (holds : JournalHolds adder history (editedLife snapshotTaken).ctx) :
        (0 : UInt64).toNat < history.length := by
      rw [holds_length holds rfl]
      decide
    exact .next (editedLife snapshotTaken) (EditMove.insert 0 5) snapshotTaken_reached inside rfl
  · rintro ⟨history, holds, replayed⟩
    have one := holds_length holds rfl
    match history, one with
    | [first], _ =>
        have five : first = 5 := holds_first holds rfl [1, 1, 1, 1, 1] 5 (by decide) rfl
        subst five
        exact absurd (congrArg Prod.snd replayed) (by decide)

end Runs

end PersistentActor

end Rush.Storage
