import Rush.Actor.Step
import Rush.Storage.Durability

/-! The last snapshot of a stopping actor. `flush` tells the snapshotter to save
it; the Stop comes on a channel of its own, and `select!` takes from either. -/

namespace Rush.Storage

open Rush.Actor Rush.Library

/-- The task of a snapshotter: its runner, the actor with its mailbox, and the
actions sent to it. -/
structure SnapshotterTask (σ : Type) where
  runner : ActorRunner
  child : SnapshotterChild σ
  actions : List ChildAction

inductive SnapshotterMove where
  /-- What the runner waits for outside `select!` has come. -/
  | proceed
  | message
  | action
  | sent (action : ChildAction)
  | told (message : SnapshotMessage)

def SnapshotMessage.saves : SnapshotMessage → Bool
  | .saveSnapshot _ _ => true
  | .loadSnapshot _ | .lastSnapshot | .flush => false

def childless : Call → Outcome
  | .stopChildren _ | .hasChilds _ => .children false
  | _ => .done

namespace BaseSnapshotter

variable {σ : Type} [Store σ]

def runHook (snapshotter : BaseSnapshotter σ) : Hook → Except ActorError Unit
  | .postStop => snapshotter.postStop
  | _ => .ok ()

end BaseSnapshotter

namespace SnapshotterTask

variable {σ : Type} [Store σ]

def proceed (self : ActorId) (task : SnapshotterTask σ) : Option ActorRunner :=
  match task.runner.control with
  | .lifecycle => some (task.runner.init self)
  | .sleep _ => some task.runner.beginRestart
  | .hook hook => some (task.runner.hookReturns self hook (task.child.state.runHook hook))
  | .calling call point => some (task.runner.resume self point (childless call))
  | .select | .ended | .panicked => none

def step (self : ActorId) (task : SnapshotterTask σ) : SnapshotterMove → Option (SnapshotterTask σ)
  | .proceed => (task.proceed self).map fun runner => { task with runner }
  | .message =>
    match task.runner.control, task.child.mailbox with
    | .select, message :: rest =>
      let (result, state) := BaseSnapshotter.handle task.child.state message
      some { task with
        runner := task.runner.takeMessage.hookReturns self .handle (result.map fun _ => ())
        child := { task.child with state, mailbox := rest } }
    | _, _ => none
  | .action =>
    match task.runner.control, task.actions with
    | .select, action :: rest =>
      some { task with runner := task.runner.takeAction [] action, actions := rest }
    | _, _ => none
  | .sent action =>
    if task.runner.finished then none else some { task with actions := task.actions ++ [action] }
  | .told message =>
    -- its own actor is past its `flush`, and only that sends it snapshots
    if task.runner.finished || message.saves then none
    else
      some { task with
        child := { task.child with mailbox := task.child.mailbox ++ [message] } }

/-- The snapshotter takes an action only when no snapshot waits in its mailbox. -/
def MailboxFirst (task : SnapshotterTask σ) : SnapshotterMove → Prop
  | .action => ∀ message ∈ task.child.mailbox, message.saves = false
  | .proceed | .message | .sent _ | .told _ => True

instance (task : SnapshotterTask σ) : (label : SnapshotterMove) → Decidable (task.MailboxFirst label)
  | .action => inferInstanceAs (Decidable (∀ message ∈ task.child.mailbox, _))
  | .proceed | .message | .sent _ | .told _ => inferInstanceAs (Decidable True)

end SnapshotterTask

namespace PersistentActor

variable {S E σ : Type} [Store σ] {actor : PersistentActor S E} {gzip : Gzip} {live : S}
  {ctx after : ActorContext σ}

section Flush

theorem tell_done {κ μ : Type} {child : Child κ μ} {message : μ}
    (done : (child.tell message).1 = .ok ()) :
    (child.tell message).2 = { child with mailbox := child.mailbox ++ [message] } := by
  rw [Child.tell] at done ⊢
  split at done
  case isTrue running => rw [if_pos running]
  case isFalse => cases done

theorem lastSequence_snapshotter (gzip : Gzip) (ctx : ActorContext σ) :
    (lastSequence gzip ctx).2.snapshotter = ctx.snapshotter := by
  rw [lastSequence]
  cases ctx.journal with
  | none => rfl
  | some journal =>
      dsimp only
      split <;> rfl

theorem snapshot_tells (done : actor.snapshot gzip live ctx = (.ok (), after)) :
    ∃ sequence data child, (lastSequence gzip ctx).1 = .ok sequence ∧
      actor.toVecState live = .ok data ∧ ctx.snapshotter = some child ∧
      after.snapshotter = some { child with
        mailbox := child.mailbox ++ [.saveSnapshot sequence data] } := by
  have same := lastSequence_snapshotter gzip ctx
  rw [snapshot] at done
  rcases asked : lastSequence gzip ctx with ⟨result, middle⟩
  rw [asked] at done same
  cases result with
  | error err => cases done
  | ok sequence =>
      dsimp only at done same
      cases encoded : actor.toVecState live with
      | error err =>
          rw [encoded] at done
          cases done
      | ok data =>
          rw [encoded, same] at done
          cases present : ctx.snapshotter with
          | none =>
              rw [present] at done
              cases done
          | some child =>
              rw [present] at done
              simp only [Prod.mk.injEq] at done
              obtain ⟨sent, rfl⟩ := done
              rw [actorStore, withContext_eq_ok] at sent
              exact ⟨sequence, data, child, rfl, rfl, rfl, congrArg some (tell_done sent)⟩

theorem flush_tells (done : actor.flush gzip live ctx = (.ok (), after)) :
    ∃ sequence data child, (lastSequence gzip ctx).1 = .ok sequence ∧
      actor.toVecState live = .ok data ∧ ctx.snapshotter = some child ∧
      after.snapshotter = some { child with
        mailbox := child.mailbox ++ [.saveSnapshot sequence data, .flush] } := by
  rw [flush] at done
  rcases taken : actor.snapshot gzip live ctx with ⟨result, middle⟩
  rw [taken] at done
  cases result with
  | error err => cases done
  | ok value =>
      obtain ⟨sequence, data, child, last, encoded, present, told⟩ := snapshot_tells taken
      dsimp only at done
      cases journal : middle.journal with
      | none =>
          rw [journal] at done
          cases done
      | some journalChild =>
          rw [journal, told] at done
          dsimp only at done
          split at done
          · cases done
          · simp only [Prod.mk.injEq] at done
            obtain ⟨sent, rfl⟩ := done
            rw [actorStore, withContext_eq_ok] at sent
            refine ⟨sequence, data, child, last, encoded, present, ?_⟩
            simp only [tell_done sent, List.append_assoc, List.cons_append, List.nil_append]

end Flush

section Stop

variable [LawfulStore σ] [ReliableStore σ] {task next : SnapshotterTask σ} {sequence : UInt64}
  {data : Bytes}

/-- The snapshotter of an actor whose `flush` has returned `Ok`, in its run loop and
over a store that takes every `put`. -/
def Flushed (actor : PersistentActor S E) (gzip : Gzip) (live : S) (ctx : ActorContext σ)
    (task : SnapshotterTask σ) : Prop :=
  (∃ after, actor.flush gzip live ctx = (.ok (), after) ∧ after.snapshotter = some task.child) ∧
    task.runner.control = .select ∧ (∃ entries, LawfulStore.Models task.child.state.store entries) ∧
    ReliableStore.Reliable task.child.state.store

/-- Once the snapshotter has ended, its store has the state of the flush under the
last sequence number of the flush. -/
def SnapshotKept (actor : PersistentActor S E) (gzip : Gzip) (live : S) (ctx : ActorContext σ)
    (task : SnapshotterTask σ) : Prop :=
  task.runner.control = .ended → ∀ sequence data, (lastSequence gzip ctx).1 = .ok sequence →
    actor.toVecState live = .ok data → stored task.child.state.store sequence = some data

def Waits (sequence : UInt64) (data : Bytes) (mailbox : List SnapshotMessage) : Prop :=
  ∃ front back, mailbox = front ++ .saveSnapshot sequence data :: back ∧
    ∀ message ∈ back, message.saves = false

def Saved (sequence : UInt64) (data : Bytes) (child : SnapshotterChild σ) : Prop :=
  stored child.state.store sequence = some data ∧
    ∀ message ∈ child.mailbox, message.saves = false

structure Keeping (sequence : UInt64) (data : Bytes) (task : SnapshotterTask σ) : Prop where
  models : ∃ entries, LawfulStore.Models task.child.state.store entries
  reliable : ReliableStore.Reliable task.child.state.store
  kept : Waits sequence data task.child.mailbox ∨ Saved sequence data task.child
  away : task.runner.control ≠ .select → stored task.child.state.store sequence = some data

theorem handle_reliable {snapshotter : BaseSnapshotter σ}
    (models : ∃ entries, LawfulStore.Models snapshotter.store entries)
    (reliable : ReliableStore.Reliable snapshotter.store) (message : SnapshotMessage) :
    (∃ entries, LawfulStore.Models (snapshotter.handle message).2.store entries) ∧
      ReliableStore.Reliable (snapshotter.handle message).2.store ∧
      (message.saves = false → (snapshotter.handle message).2 = snapshotter) ∧
      ∀ key bytes, message = .saveSnapshot key bytes →
        stored (snapshotter.handle message).2.store key = some bytes := by
  obtain ⟨entries, holds⟩ := models
  cases message with
  | saveSnapshot key bytes =>
      obtain ⟨store, done, again⟩ := ReliableStore.put_reliable reliable key bytes
      have moved : (snapshotter.handle (.saveSnapshot key bytes)).2.store = store := by
        simp only [BaseSnapshotter.handle, BaseSnapshotter.saveSnapshot, done]
      have written := LawfulStore.put_models holds done
      rw [moved]
      refine ⟨⟨_, written⟩, again, fun unsaved => Bool.noConfusion unsaved, ?_⟩
      rintro _ _ ⟨⟩
      rw [stored_models written, OrderedMap.lookup_insert, if_pos rfl]
  | loadSnapshot _ | lastSnapshot | flush =>
      refine ⟨⟨entries, holds⟩, reliable, fun _ => rfl, ?_⟩
      rintro _ _ ⟨⟩

theorem keeping_step {self : ActorId} {label : SnapshotterMove}
    (keeping : Keeping sequence data task) (permitted : task.MailboxFirst label)
    (taken : task.step self label = some next) : Keeping sequence data next := by
  cases label with
  | proceed =>
      obtain ⟨runner, moved, rfl⟩ := Option.map_eq_some_iff.mp taken
      refine ⟨keeping.models, keeping.reliable, keeping.kept, fun _ => keeping.away ?_⟩
      intro within
      rw [SnapshotterTask.proceed, within] at moved
      cases moved
  | message =>
      simp only [SnapshotterTask.step] at taken
      split at taken
      case h_1 message rest within mailbox =>
        cases taken
        obtain ⟨models, reliable, idle, saved⟩ :=
          handle_reliable keeping.models keeping.reliable message
        refine ⟨models, reliable, ?_, fun away => absurd rfl away⟩
        rcases keeping.kept with ⟨front, back, split, none⟩ | ⟨stays, none⟩
        · rw [mailbox] at split
          cases front with
          | nil =>
              cases split
              exact .inr ⟨saved _ _ rfl, none⟩
          | cons first front =>
              cases split
              exact .inl ⟨front, back, rfl, none⟩
        · rw [mailbox] at none
          right
          refine ⟨?_, fun other member => none other (List.mem_cons_of_mem _ member)⟩
          change stored (BaseSnapshotter.handle task.child.state message).2.store sequence = some data
          rw [idle (none message List.mem_cons_self)]
          exact stays
      case h_2 => cases taken
  | action =>
      simp only [SnapshotterTask.step] at taken
      split at taken
      case h_1 action rest within queue =>
        cases taken
        refine ⟨keeping.models, keeping.reliable, keeping.kept, fun _ => ?_⟩
        rcases keeping.kept with ⟨front, back, split, _⟩ | ⟨stays, _⟩
        · have waits : SnapshotMessage.saveSnapshot sequence data ∈ task.child.mailbox := by
            rw [split]
            exact List.mem_append_right _ List.mem_cons_self
          cases permitted _ waits
        · exact stays
      case h_2 => cases taken
  | sent action =>
      simp only [SnapshotterTask.step, Option.ite_none_left_eq_some] at taken
      cases taken.2
      exact ⟨keeping.models, keeping.reliable, keeping.kept, keeping.away⟩
  | told message =>
      simp only [SnapshotterTask.step, Option.ite_none_left_eq_some, Bool.or_eq_true, not_or,
        Bool.not_eq_true] at taken
      obtain ⟨⟨_, harmless⟩, taken⟩ := taken
      cases taken
      refine ⟨keeping.models, keeping.reliable, ?_, keeping.away⟩
      have quiet {back : List SnapshotMessage} (none : ∀ other ∈ back, other.saves = false) :
          ∀ other ∈ back ++ [message], other.saves = false := by
        intro other member
        rcases List.mem_append.mp member with old | added
        · exact none other old
        · rw [List.mem_singleton.mp added, harmless]
      rcases keeping.kept with ⟨front, back, split, none⟩ | ⟨stays, none⟩
      · exact .inl ⟨front, back ++ [message], by simp [split], quiet none⟩
      · exact .inr ⟨stays, quiet none⟩

/-- The snapshot of a successful `flush` is in the store when the snapshotter has
ended, in every run in which it takes actions only after the snapshots. -/
theorem flush_snapshot_kept {self : ActorId}
    (reached : Runs.Guarded (SnapshotterTask.step self) (Flushed actor gzip live ctx)
      SnapshotterTask.MailboxFirst task) : SnapshotKept actor gzip live ctx task := by
  intro ended sequence data last encoded
  have keeping : Keeping sequence data task := by
    refine Runs.guarded_invariant (Keeping sequence data) ?_ ?_ reached
    · rintro task ⟨⟨after, flushed, present⟩, within, models, reliable⟩
      refine ⟨models, reliable, .inl ?_, fun away => absurd within away⟩
      obtain ⟨same, bytes, child, lastSame, encodedSame, _, told⟩ := flush_tells flushed
      cases lastSame.symm.trans last
      cases encodedSame.symm.trans encoded
      have mailbox := congrArg Child.mailbox (Option.some.inj (present.symm.trans told))
      refine ⟨child.mailbox, [.flush], mailbox, ?_⟩
      intro message member
      rw [List.mem_singleton.mp member]
      rfl
    · exact fun _ _ _ keeping permitted taken => keeping_step keeping permitted taken
  refine keeping.away ?_
  intro within
  cases ended.symm.trans within

end Stop

section Runs

def servingHost : ActorContext FjallStore := (lifeOf adder [.persist 3]).ctx

def flushedTask : SnapshotterTask FjallStore where
  runner :=
    { ActorRunner.new (rootPath / "adder" / "snapshotter") (.actor 0) .stop with
      lifecycle := .started
      control := .select }
  child := ((adder.flush BaseJournal.sampleGzip 3 servingHost).2.snapshotter).getD
    (.started (.new (FjallStore.createStore noEntry adder.snapshotterName "adder-1")))
  actions := []

theorem flushedTask_flushed : Flushed adder BaseJournal.sampleGzip 3 servingHost flushedTask :=
  ⟨⟨_, rfl, rfl⟩, rfl, ⟨_, FjallStore.models_noEntry _ _⟩, rfl⟩

def takesStopAndEnds : List SnapshotterMove := .action :: List.replicate 6 .proceed

theorem messages_first_keep : ∃ task : SnapshotterTask FjallStore,
    Runs.Guarded (SnapshotterTask.step 1) (Flushed adder BaseJournal.sampleGzip 3 servingHost)
      SnapshotterTask.MailboxFirst task ∧
    SnapshotKept adder BaseJournal.sampleGzip 3 servingHost task ∧
    task.runner.control = .ended ∧ stored task.child.state.store 0 = some [1, 1, 1] := by
  have taken : ((Runs.checkedRun (SnapshotterTask.step 1)
      (fun task label => decide (SnapshotterTask.MailboxFirst task label)) flushedTask
      ([.message, .message, .sent .stop] ++ takesStopAndEnds)).any fun task =>
        task.runner.control = .ended ∧ stored task.child.state.store 0 = some [1, 1, 1]) = true := by
    decide
  obtain ⟨task, reached, facts⟩ :
      ∃ task, Runs.Guarded (SnapshotterTask.step 1)
        (Flushed adder BaseJournal.sampleGzip 3 servingHost) SnapshotterTask.MailboxFirst task ∧ _ :=
    Runs.guarded_shown (fun _ _ => of_decide_eq_true) flushedTask_flushed taken
  exact ⟨task, reached, flush_snapshot_kept reached, facts⟩

/-- A snapshotter that takes the Stop first ends without the snapshot. -/
theorem stop_first_loses_snapshot :
    ¬ ∀ task : SnapshotterTask FjallStore, Runs.Reachable (SnapshotterTask.step 1)
      (Flushed adder BaseJournal.sampleGzip 3 servingHost) task →
        SnapshotKept adder BaseJournal.sampleGzip 3 servingHost task := by
  intro claimed
  have taken : ((Runs.run (SnapshotterTask.step 1) flushedTask
      (.sent .stop :: takesStopAndEnds)).any fun task =>
        task.runner.control = .ended ∧ stored task.child.state.store 0 = none) = true := by
    decide
  obtain ⟨task, reached, ended, lost⟩ :
      ∃ task, Runs.Reachable (SnapshotterTask.step 1)
        (Flushed adder BaseJournal.sampleGzip 3 servingHost) task ∧ _ :=
    Runs.reachable_shown flushedTask_flushed taken
  have last : (lastSequence BaseJournal.sampleGzip servingHost).1 = .ok 0 := rfl
  cases (claimed task reached ended 0 [1, 1, 1] last rfl).symm.trans lost

end Runs

end PersistentActor

end Rush.Storage
