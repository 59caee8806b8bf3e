import Rush.Storage.JournalExport
import Rush.Storage.Recreation

/-! What a persistent actor's life guarantees: the recovered state, the stored
snapshots, and the effect of a failed `persist`. Each result names the moves on
which the code does not keep it. -/

namespace Rush.Storage

open Std Rush.Actor Rush.Library

namespace PersistentActor

variable {S E σ : Type} [Store σ] [LawfulStore σ] {actor : PersistentActor S E} (gzip : Gzip)
  {initial : S} {stale : Prop} {world : World S E σ}

section Recovery

/-- The moves of an actor that applies every event: the journal has room, a
re-creation is covered, and without `stale` no snapshot is taken of an empty
journal. -/
def Replayable (actor : PersistentActor S E) (stale : Prop) (initial : S) (world : World S E σ) :
    Move E → Prop
  | .persist _ => world.persisted.length < LawfulStore.capacity σ
  | .snapshot => stale ∨ world.persisted ≠ []
  | .flush => stale ∨ world.persisted ≠ []
  | .deliverJournal => True
  | .deliverSnapshotter => True
  | .recreate => Covered actor initial world

theorem replayable_allowed (total : actor.Total) (world : World S E σ) (label : Move E)
    (replayable : Replayable actor stale initial world label) :
    Allowed actor stale initial world label := by
  cases label with
  | persist event =>
      refine ⟨replayable, ?_⟩
      intro rejected
      rcases rejected with ⟨_, _, _, _, _, _, refused⟩
      exact refused (total world.live event)
  | _ => exact replayable

theorem replayable_sound (lossless : actor.Lossless) (total : actor.Total)
    (reached : Runs.Guarded (actor.move gzip initial) (Fresh actor gzip initial)
      (Replayable actor stale initial) world) : Sound actor stale initial world :=
  lives_sound gzip lossless (Runs.guarded_mono (replayable_allowed total) reached)

/-- The state of an actor whose re-creations were covered is the fold of all
events it ever persisted, and its last `init_state` succeeded. -/
theorem recovery_equals_replay (lossless : actor.Lossless) (total : actor.Total)
    (reached : Runs.Guarded (actor.move gzip initial) (Fresh actor gzip initial)
      (Replayable actor True initial) world) :
    world.outcome = .ok () ∧ world.live = world.persisted.foldl
      (fun state event => (actor.applyEvent state event).2) initial := by
  have sound := replayable_sound gzip lossless total reached
  have replayed := sound.replayed
  rw [replay_total total] at replayed
  exact ⟨sound.outcome, (congrArg Prod.snd replayed).symm⟩

end Recovery

section Snapshots

/-- Every stored snapshot is the fold of the journal's events up to its key. -/
def SnapshotsExact (actor : PersistentActor S E) (initial : S) (world : World S E σ) : Prop :=
  ∀ journal snapshotter, world.ctx.journal = some journal →
    world.ctx.snapshotter = some snapshotter →
    ∀ (key : UInt64) (data : Bytes), stored snapshotter.state.store key = some data →
      ∃ events : List E, events.length = key.toNat + 1 ∧
        (∀ (index : Nat) (event : E), events[index]? = some event → ∃ bytes,
          stored journal.state.1.store (UInt64.ofNat index) = some bytes ∧
          actor.fromSliceEvent bytes = .ok event) ∧
        actor.fromSliceState data = .ok (events.foldl
          (fun state event => (actor.applyEvent state event).2) initial)

theorem journaled_event {persisted : List E} {child : JournalChild σ}
    (journaled : Journaled actor persisted child) {index : Nat} {event : E}
    (present : persisted[index]? = some event) :
    ∃ bytes, stored child.state.1.store (UInt64.ofNat index) = some bytes ∧
      actor.fromSliceEvent bytes = .ok event := by
  rcases journaled.events with ⟨datas, lists, decodes⟩
  have room := BaseJournal.stores_length_lt lists.stores
  rcases lists.stores with ⟨_, entries, models, numbered⟩
  rcases List.getElem?_eq_some_iff.mp present with ⟨inside, same⟩
  have length := decodes_length decodes
  have position : index < datas.length := length ▸ inside
  have decoded := (List.forall₂_iff_get.mp decodes).2 index inside position
  refine ⟨datas[index], ?_, ?_⟩
  · rw [stored_models models, numbered, UInt64.toNat_ofNat_of_lt' (by omega),
      List.getElem?_eq_getElem position]
  · simp only [List.get_eq_getElem, same] at decoded
    exact decoded

/-- While no snapshot is taken of an empty journal, the snapshot keys are
truthful. -/
theorem snapshots_exact (lossless : actor.Lossless) (total : actor.Total)
    (reached : Runs.Guarded (actor.move gzip initial) (Fresh actor gzip initial)
      (Replayable actor False initial) world) : SnapshotsExact actor initial world := by
  have sound := replayable_sound gzip lossless total reached
  intro journal snapshotter hasJournal hasSnapshotter key data present
  rcases sound.journal with ⟨child, sameChild, journaled⟩
  rcases sound.snapshotter with ⟨other, sameOther, snapshotted⟩
  rw [hasJournal] at sameChild
  rw [hasSnapshotter] at sameOther
  cases sameChild
  cases sameOther
  rcases snapshotted.stored with ⟨entries, models, faithful⟩
  rw [stored_models models] at present
  rcases faithful key data present with ⟨inside, state, decoded, replayed⟩ | ⟨impossible, _⟩
  · refine ⟨world.persisted.take (key.toNat + 1), ?_, ?_, ?_⟩
    · rw [List.length_take]
      omega
    · intro index event found
      rw [List.getElem?_take] at found
      split at found
      · exact journaled_event journaled found
      · cases found
    · rw [replay_total total] at replayed
      cases replayed
      exact decoded
  · exact impossible.elim

end Snapshots

section Persist

def childView (child : JournalChild σ) : (UInt64 → Option Bytes) × UInt64 :=
  (stored child.state.1.store, child.state.1.nextSequence)

def journalView (ctx : ActorContext σ) : Option ((UInt64 → Option Bytes) × UInt64) :=
  ctx.journal.map childView

/-- A failed `persist` leaves the state and the journal as they were. -/
def AllOrNothing (actor : PersistentActor S E) (gzip : Gzip) (state : S) (event : E)
    (ctx : ActorContext σ) : Prop :=
  ∀ err after next, actor.persist gzip state event ctx = (.error err, after, next) →
    after = state ∧ journalView next = journalView ctx

/-- The journal child of the context, if there is one, holds some entries and has
only flushes waiting. -/
def JournalIdle (ctx : ActorContext σ) : Prop :=
  ∀ child, ctx.journal = some child → (∀ message ∈ child.mailbox, message = .flush) ∧
    ∃ entries, child.state.1.Models entries

theorem succ_ne_self (sequence : UInt64) : sequence + 1 ≠ sequence := by
  intro same
  have one := congrArg (fun n => n - sequence) same
  simp at one

def Takes (child : JournalChild σ) (data : Bytes) : Prop :=
  child.running = true ∧ (child.state.1.put data).1 = .ok ()

theorem put_answer {child : JournalChild σ}
    (mailbox : ∀ message ∈ child.mailbox, message = .flush) {entries : EntryMap}
    (models : child.state.1.Models entries) (data : Bytes) :
    (¬ Takes child data ∧ ∃ err after, child.ask (BaseJournal.handle gzip) (.put data) =
      (.error err, after) ∧ childView after = childView child) ∨
    (Takes child data ∧ ∃ sn after, child.ask (BaseJournal.handle gzip) (.put data) =
      (.ok (.lastSequence sn), after) ∧ childView after ≠ childView child) := by
  cases running : child.running with
  | false =>
      left
      refine ⟨?_, ?_⟩
      · intro takes
        rw [Takes, running] at takes
        cases takes.1
      · simp only [Child.ask, running, Bool.false_eq_true, if_false]
        exact ⟨_, _, rfl, rfl⟩
  | true =>
      have asked := idle_ask gzip running mailbox (.put data)
      rcases BaseJournal.put_cases models data with
        ⟨journal, done, _, advanced⟩ | ⟨err, journal, failed, holds, kept⟩
      · right
        refine ⟨⟨running, by rw [done]⟩, ?_⟩
        rw [asked]
        simp only [BaseJournal.handle, done, BaseJournal.report]
        refine ⟨_, _, rfl, ?_⟩
        intro same
        exact succ_ne_self _ (advanced.symm.trans (congrArg Prod.snd same))
      · left
        refine ⟨?_, ?_⟩
        · intro takes
          rw [Takes, failed] at takes
          cases takes.2
        · rw [asked]
          simp only [BaseJournal.handle, failed, BaseJournal.report]
          refine ⟨_, _, rfl, ?_⟩
          have entries : stored journal.store = stored child.state.1.store := by
            funext key
            rw [stored_models holds, stored_models models]
          simp only [childView, entries, kept]

/-- A call of `persist` fails without effect before the journal has the event, or
the journal has it and the outcome is that of `apply_event`. -/
theorem persist_effect (actor : PersistentActor S E) (state : S) (event : E) (ctx : ActorContext σ) (idle : JournalIdle ctx) :
    (¬ StoredThenRejected actor state event ctx ∧ ∃ err next,
      actor.persist gzip state event ctx = (.error err, state, next) ∧
      journalView next = journalView ctx) ∨
    ∃ sn next, journalView next ≠ journalView ctx ∧
      (StoredThenRejected actor state event ctx ↔ (actor.applyEvent state event).1 ≠ .ok ()) ∧
      actor.persist gzip state event ctx =
        match actor.applyEvent state event with
        | (.error err, after) => (.error err, after, next)
        | (.ok (), after) => (.ok sn, after, next) := by
  cases encoded : actor.toVecEvent event with
  | error err =>
      left
      refine ⟨?_, ?_⟩
      · intro rejected
        rcases rejected with ⟨data, _, same, _⟩
        rw [encoded] at same
        cases same
      · simp only [persist, encoded]
        exact ⟨_, _, rfl, rfl⟩
  | ok data =>
      cases present : ctx.journal with
      | none =>
          left
          refine ⟨?_, ?_⟩
          · intro rejected
            rcases rejected with ⟨_, _, _, found, _⟩
            rw [present] at found
            cases found
          · simp only [persist, encoded, present]
            exact ⟨_, _, rfl, rfl⟩
      | some child =>
          rcases idle child present with ⟨mailbox, entries, models⟩
          have takes : StoredThenRejected actor state event ctx ↔
              Takes child data ∧ (actor.applyEvent state event).1 ≠ .ok () := by
            simp only [StoredThenRejected, encoded, present, Except.ok.injEq, Option.some.injEq,
              exists_and_left, exists_eq_left', Takes, and_assoc]
          have view : journalView ctx = some (childView child) := by
            rw [journalView, present]
            rfl
          rcases put_answer gzip mailbox models data with
            ⟨refused, err, after, asked, same⟩ | ⟨taken, sn, after, asked, changed⟩
          · left
            refine ⟨fun rejected => refused (takes.mp rejected).1, ?_⟩
            simp only [persist, encoded, present, asked]
            refine ⟨_, _, rfl, ?_⟩
            rw [view, journalView, Option.map_some, same]
          · right
            refine ⟨sn, { ctx with journal := some after }, ?_, ?_, ?_⟩
            · rw [view]
              intro same
              exact changed (Option.some.inj same)
            · rw [takes]
              simp only [taken, true_and]
            · rcases applied : actor.applyEvent state event with ⟨result, next⟩
              cases result <;> simp only [persist, encoded, present, asked, applied]

/-- A failed `persist` is all-or-nothing except where the journal has stored the
event and `apply_event` then rejects it. -/
theorem allOrNothing_iff (state : S) (event : E) (ctx : ActorContext σ) (idle : JournalIdle ctx) :
    AllOrNothing actor gzip state event ctx ↔ ¬ StoredThenRejected actor state event ctx := by
  rcases persist_effect gzip actor state event ctx idle with
    ⟨never, err, next, done, same⟩ | ⟨sn, next, changed, rejected, done⟩
  · refine ⟨fun _ => never, fun _ => ?_⟩
    intro other after left failed
    rw [done] at failed
    cases failed
    exact ⟨rfl, same⟩
  · rcases applied : actor.applyEvent state event with ⟨result, after⟩
    simp only [applied] at done
    rw [applied] at rejected
    cases result with
    | error err =>
        constructor
        · intro holds
          exact absurd (holds err after next done).2 changed
        · intro accepted
          exact absurd (rejected.mpr (by simp)) accepted
    | ok value =>
        constructor
        · intro _ refused
          exact rejected.mp refused rfl
        · intro _ err other left failed
          rw [done] at failed
          cases failed

/-- `persist` is all-or-nothing exactly where no stored event is rejected, and
after a run of such calls a covered re-creation succeeds with the live state. -/
theorem persist_all_or_nothing (lossless : actor.Lossless) :
    (∀ state event (ctx : ActorContext σ), JournalIdle ctx →
      (AllOrNothing actor gzip state event ctx ↔
        ¬ StoredThenRejected actor state event ctx)) ∧
    ∀ world : World S E σ, Runs.Guarded (actor.move gzip initial) (Fresh actor gzip initial)
      (Allowed actor True initial) world → Covered actor initial world →
        (actor.recover gzip initial world.ctx).1 = .ok () ∧
          (actor.recover gzip initial world.ctx).2.1 = world.live := by
  constructor
  · intro state event ctx idle
    exact allOrNothing_iff gzip state event ctx idle
  · intro world reached covered
    have sound := lives_sound gzip lossless reached
    rcases recover_sound gzip lossless sound covered with ⟨ctx, done, _⟩
    rw [done]
    exact ⟨rfl, rfl⟩

end Persist

section Runs

def adder : PersistentActor Nat Nat where
  typeName := "Adder"
  id _ := "adder-1"
  applyEvent state event := (.ok (), state + event)
  toVecState state := .ok (List.replicate state 1)
  fromSliceState data := .ok data.length
  toVecEvent event := .ok (List.replicate event 1)
  fromSliceEvent data := .ok data.length

theorem adder_lossless : adder.Lossless := by
  constructor
  · intro state data encoded
    cases encoded
    simp [adder]
  · intro event data encoded
    cases encoded
    simp [adder]

theorem adder_total : adder.Total := fun _ _ => rfl

def emptyHost : ActorContext FjallStore where
  path := "/user/adder"
  storage := some fun name keyPrefix => .ok (FjallStore.createStore noEntry name keyPrefix)
  childFault _ := none
  files := .noFiles
  journal := none
  snapshotter := none

def lifeOf (actor : PersistentActor Nat Nat) (moves : List (Move Nat)) :
    World Nat Nat FjallStore :=
  moves.foldl (fun world label => (actor.move BaseJournal.sampleGzip 0 world label).getD world)
    (actor.begun BaseJournal.sampleGzip 0 emptyHost)

theorem fresh_life (actor : PersistentActor Nat Nat) :
    Fresh actor BaseJournal.sampleGzip 0 (lifeOf actor []) :=
  ⟨emptyHost, _, _, ⟨⟨_, rfl, rfl, rfl⟩, rfl, rfl, rfl⟩, FjallStore.models_noEntry _ _,
    FjallStore.models_noEntry _ _, rfl⟩

def snapshotLife : List (Move Nat) :=
  [.persist 3, .snapshot, .deliverSnapshotter, .persist 4, .recreate]

theorem snapshotLife_reached : Runs.Guarded (adder.move BaseJournal.sampleGzip 0)
    (Fresh adder BaseJournal.sampleGzip 0) (Replayable adder False 0)
    (lifeOf adder snapshotLife) := by
  have empty : (lifeOf adder []).persisted.length < 10 ^ 14 := by decide
  have one : (lifeOf adder [.persist 3, .snapshot, .deliverSnapshotter]).persisted.length <
      10 ^ 14 := by decide
  have some_ : False ∨ (lifeOf adder [.persist 3]).persisted ≠ [] := .inr (by decide)
  have covered : Covered adder 0
      (lifeOf adder [.persist 3, .snapshot, .deliverSnapshotter, .persist 4]) :=
    .inr ⟨_, rfl, 0, [1, 1, 1], by decide, by decide⟩
  refine .next (lifeOf adder [.persist 3, .snapshot, .deliverSnapshotter, .persist 4]) Move.recreate
    ?_ covered rfl
  refine .next (lifeOf adder [.persist 3, .snapshot, .deliverSnapshotter]) (Move.persist 4) ?_ one rfl
  refine .next (lifeOf adder [.persist 3, .snapshot]) Move.deliverSnapshotter ?_ trivial rfl
  refine .next (lifeOf adder [.persist 3]) Move.snapshot ?_ some_ rfl
  exact .next (lifeOf adder []) (Move.persist 3) (.start (fresh_life adder)) empty rfl

theorem stale_mono (world : World Nat Nat FjallStore) (label : Move Nat)
    (replayable : Replayable adder False 0 world label) : Replayable adder True 0 world label := by
  cases label with
  | snapshot => exact .inl trivial
  | flush => exact .inl trivial
  | _ => exact replayable

theorem snapshotLife_replays : (lifeOf adder snapshotLife).outcome = .ok () ∧
    (lifeOf adder snapshotLife).live = 7 :=
  recovery_equals_replay BaseJournal.sampleGzip adder_lossless adder_total
    (Runs.guarded_mono stale_mono snapshotLife_reached)

theorem snapshotLife_exact : SnapshotsExact adder 0 (lifeOf adder snapshotLife) :=
  snapshots_exact BaseJournal.sampleGzip adder_lossless adder_total snapshotLife_reached

/-- One event and a crash: the event is persisted and the recovered state does
not have it. -/
theorem first_event_not_replayed :
    Runs.Reachable (adder.move BaseJournal.sampleGzip 0) (Fresh adder BaseJournal.sampleGzip 0)
      (lifeOf adder [.persist 3, .recreate]) ∧
    (lifeOf adder [.persist 3, .recreate]).outcome = .ok () ∧
    (lifeOf adder [.persist 3, .recreate]).persisted = [3] ∧
    (lifeOf adder [.persist 3, .recreate]).live = 0 := by
  refine ⟨?_, rfl, rfl, rfl⟩
  refine .next (lifeOf adder [.persist 3]) Move.recreate ?_ trivial rfl
  exact .next (lifeOf adder []) (Move.persist 3) (.start (fresh_life adder)) trivial rfl

/-- A snapshot of the empty journal is stored under the key 0, which the first
event then takes. -/
theorem empty_snapshot_not_exact :
    Runs.Reachable (adder.move BaseJournal.sampleGzip 0) (Fresh adder BaseJournal.sampleGzip 0)
      (lifeOf adder [.snapshot, .deliverSnapshotter, .persist 3]) ∧
    ¬ SnapshotsExact adder 0 (lifeOf adder [.snapshot, .deliverSnapshotter, .persist 3]) := by
  constructor
  · refine .next (lifeOf adder [.snapshot, .deliverSnapshotter]) (Move.persist 3) ?_ trivial rfl
    refine .next (lifeOf adder [.snapshot]) Move.deliverSnapshotter ?_ trivial rfl
    exact .next (lifeOf adder []) Move.snapshot (.start (fresh_life adder)) trivial rfl
  · intro exact_
    rcases exact_ _ _ rfl rfl 0 [] (by decide) with ⟨events, length, stores, decoded⟩
    rcases List.length_eq_one_iff.mp length with ⟨event, rfl⟩
    rcases stores 0 event rfl with ⟨bytes, present, decodes⟩
    have encoded : some bytes = some [1, 1, 1] := present.symm.trans (by decide)
    cases encoded
    cases decodes
    exact absurd decoded (by decide)

def strictAdder : PersistentActor Nat Nat :=
  { adder with
    applyEvent := fun state event =>
      if event = 0 then (.error (.event "nothing to add"), state) else (.ok (), state + event) }

theorem strictAdder_lossless : strictAdder.Lossless := ⟨adder_lossless.state, adder_lossless.event⟩

def strictLife : List (Move Nat) := [.persist 3, .snapshot, .deliverSnapshotter]

theorem strictLife_reached : Runs.Guarded (strictAdder.move BaseJournal.sampleGzip 0)
    (Fresh strictAdder BaseJournal.sampleGzip 0) (Allowed strictAdder True 0)
    (lifeOf strictAdder strictLife) := by
  have room : (lifeOf strictAdder []).persisted.length < 10 ^ 14 := by decide
  have accepted : ¬ StoredThenRejected strictAdder (lifeOf strictAdder []).live 3
      (lifeOf strictAdder []).ctx := by
    intro rejected
    rcases rejected with ⟨_, _, _, _, _, _, refused⟩
    exact refused rfl
  refine .next (lifeOf strictAdder [.persist 3, .snapshot]) Move.deliverSnapshotter ?_ trivial rfl
  refine .next (lifeOf strictAdder [.persist 3]) Move.snapshot ?_ (.inl trivial) rfl
  exact .next (lifeOf strictAdder []) (Move.persist 3) (.start (fresh_life strictAdder))
    ⟨room, accepted⟩ rfl

theorem strictLife_recovers :
    (AllOrNothing strictAdder BaseJournal.sampleGzip 0 0 emptyHost) ∧
    (strictAdder.recover BaseJournal.sampleGzip 0 (lifeOf strictAdder strictLife).ctx).1 = .ok () ∧
    (strictAdder.recover BaseJournal.sampleGzip 0 (lifeOf strictAdder strictLife).ctx).2.1 = 3 := by
  have both := @persist_all_or_nothing Nat Nat FjallStore _ _ strictAdder BaseJournal.sampleGzip 0
    strictAdder_lossless
  have covered : Covered strictAdder 0 (lifeOf strictAdder strictLife) :=
    .inr ⟨_, rfl, 0, [1, 1, 1], by decide, by decide⟩
  constructor
  · have idle : JournalIdle emptyHost := by
      intro child present
      cases present
    apply (both.1 0 0 emptyHost idle).mpr
    intro rejected
    rcases rejected with ⟨_, _, _, missing, _⟩
    cases missing
  · exact both.2 _ strictLife_reached covered

/-- The refused event is in the journal, and the next `init_state` fails on it. -/
theorem refused_event_stored :
    (strictAdder.persist BaseJournal.sampleGzip 3 0
      (lifeOf strictAdder strictLife).ctx).1.isOk = false ∧
    ¬ AllOrNothing strictAdder BaseJournal.sampleGzip 3 0 (lifeOf strictAdder strictLife).ctx ∧
    (lifeOf strictAdder (strictLife ++ [.persist 0, .recreate])).outcome.isOk = false := by
  refine ⟨rfl, ?_, rfl⟩
  intro holds
  have kept := (holds _ _ _ rfl).2
  have counter := congrArg (Option.map Prod.snd) kept
  exact absurd counter (by decide)

end Runs

end PersistentActor

end Rush.Storage
