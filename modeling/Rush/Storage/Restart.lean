import Rush.Actor.Step
import Rush.Storage.Durability

/-! The restart of a persistent actor. `pre_restart` calls `pre_start`, and that
runs `init_state` over the children the first run has left in the registry. -/

namespace Rush.Storage

open Rush.Actor Rush.Library

/-- Both children stand in the registry, whatever has become of their tasks. -/
def ActorContext.HasChildren {σ : Type} (ctx : ActorContext σ) : Prop :=
  ctx.journal.isSome = true ∧ ctx.snapshotter.isSome = true

namespace PersistentActor

variable {S E σ : Type} [Store σ] (actor : PersistentActor S E) (gzip : Gzip)

def preStart (state : S) (ctx : ActorContext σ) : Except ActorError Unit × S × ActorContext σ :=
  actor.initState gzip state ctx

def preRestart (state : S) (ctx : ActorContext σ) : Except ActorError Unit × S × ActorContext σ :=
  actor.preStart gzip state ctx

/-- What a restarted task finds: the stores as the children left them, and the
children under the names they have. -/
def restarted (owner : String) (ctx : ActorContext σ) : ActorContext σ :=
  { actor.reopened owner ctx with journal := ctx.journal, snapshotter := ctx.snapshotter }

/-- The task of an actor between a failed start or a Restart and its next run. -/
structure Restarting (S σ : Type) where
  runner : ActorRunner
  live : S
  ctx : ActorContext σ

inductive RestartMove (σ : Type) where
  | runner
  /-- The children go on: they answer, take a Restart of their own, or end. -/
  | children (journal : JournalChild σ) (snapshotter : SnapshotterChild σ)

/-- The `Restarted` arm of `init` with its delay and its `pre_restart`. -/
def restartStep (self : ActorId) (restarting : Restarting S σ) :
    RestartMove σ → Option (Restarting S σ)
  | .children journal snapshotter =>
    some { restarting with
      ctx := { restarting.ctx with journal := some journal, snapshotter := some snapshotter } }
  | .runner =>
    match restarting.runner.control with
    | .lifecycle =>
      if restarting.runner.lifecycle = .restarted then
        some { restarting with runner := restarting.runner.init self }
      else none
    | .sleep _ => some { restarting with runner := restarting.runner.beginRestart }
    | .hook .preRestart =>
      let (result, live, ctx) := actor.preRestart gzip restarting.live restarting.ctx
      some { runner := restarting.runner.hookReturns self .preRestart result, live, ctx }
    | _ => none

/-- An actor with a Retry strategy whose run has returned `Restarted`, or whose
`pre_start` has failed. -/
def Restarts (initial : S) (world : World S E σ) (restarting : Restarting S σ) : Prop :=
  restarting.runner.lifecycle = .restarted ∧ restarting.runner.control = .lifecycle ∧
    (∃ strategy, restarting.runner.strategy = .retry strategy ∧ 0 < strategy.maxRetries) ∧
    restarting.live = world.live ∧
    restarting.ctx = actor.restarted (actor.id initial) world.ctx

/-- The call returns `Ok` with the fold of the persisted events. -/
def Recovers (initial : S) (persisted : List E) (restarting : Restarting S σ) : Prop :=
  (actor.preRestart gzip restarting.live restarting.ctx).1 = .ok () ∧
    (actor.preRestart gzip restarting.live restarting.ctx).2.1 =
      persisted.foldl (fun state event => (actor.applyEvent state event).2) initial

section Again

variable {actor} {ctx : ActorContext σ} {restarting after : Restarting S σ}

variable (actor) in
theorem createStores_again (state : S) (children : ctx.HasChildren) :
    ∃ err, actor.createStores state ctx = (.error err, ctx) := by
  obtain ⟨exists_, refused⟩ : ∃ err, ctx.createChild "journal" ctx.journal.isSome = .error err := by
    rw [children.1]
    exact ⟨_, rfl⟩
  cases storage : ctx.storage with
  | none => exact ⟨_, by simp only [createStores, storage]; rfl⟩
  | some createStore =>
      cases first : createStore actor.journalName (actor.id state) with
      | error err => exact ⟨_, by simp only [createStores, storage, first]; rfl⟩
      | ok journalStore =>
          cases second : createStore actor.snapshotterName (actor.id state) with
          | error err => exact ⟨_, by simp only [createStores, storage, first, second]; rfl⟩
          | ok snapshotterStore =>
              exact ⟨_, by simp only [createStores, storage, first, second, refused]; rfl⟩

variable (actor) in
theorem preRestart_again (state : S) (children : ctx.HasChildren) :
    ∃ err, actor.preRestart gzip state ctx = (.error err, state, ctx) := by
  obtain ⟨err, failed⟩ := createStores_again actor state children
  exact ⟨err, by simp only [preRestart, preStart, initState, failed]⟩

theorem restartStep_children {self : ActorId} {label : RestartMove σ}
    (children : restarting.ctx.HasChildren)
    (taken : actor.restartStep gzip self restarting label = some after) :
    after.ctx.HasChildren := by
  cases label with
  | children journal snapshotter =>
      cases taken
      exact ⟨rfl, rfl⟩
  | runner =>
      simp only [restartStep] at taken
      split at taken
      · split at taken
        · cases taken
          exact children
        · cases taken
      · cases taken
        exact children
      · obtain ⟨err, failed⟩ := preRestart_again actor gzip restarting.live children
        rw [failed] at taken
        cases taken
        exact children
      · cases taken

variable {self : ActorId} {initial : S} {world : World S E σ}

theorem restart_children (children : world.ctx.HasChildren)
    (restarted : Runs.Reachable (actor.restartStep gzip self) (actor.Restarts initial world)
      restarting) : restarting.ctx.HasChildren := by
  refine Runs.guarded_invariant (fun restarting => restarting.ctx.HasChildren) ?_ ?_ restarted
  · rintro restarting ⟨_, _, _, _, ctx⟩
    rw [ctx]
    exact children
  · exact fun _ _ _ before _ taken => restartStep_children gzip before taken

theorem restart_never_starts (children : world.ctx.HasChildren)
    (restarted : Runs.Reachable (actor.restartStep gzip self) (actor.Restarts initial world)
      restarting) :
    restarting.runner.lifecycle = .restarted ∨ restarting.runner.lifecycle = .failed := by
  have invariant : restarting.ctx.HasChildren ∧
      (restarting.runner.lifecycle = .restarted ∨ restarting.runner.lifecycle = .failed) := by
    refine Runs.guarded_invariant (fun restarting => restarting.ctx.HasChildren ∧
      (restarting.runner.lifecycle = .restarted ∨ restarting.runner.lifecycle = .failed)) ?_ ?_
      restarted
    · rintro restarting ⟨lifecycle, _, _, _, ctx⟩
      rw [ctx]
      exact ⟨children, .inl lifecycle⟩
    · rintro restarting label after ⟨present, stays⟩ _ taken
      refine ⟨restartStep_children gzip present taken, ?_⟩
      cases label with
      | children journal snapshotter =>
          cases taken
          exact stays
      | runner =>
          simp only [restartStep] at taken
          split at taken
          · split at taken
            case isTrue lifecycle =>
              cases taken
              have arm := restarting.runner.init_arm self
              generalize restarting.runner.init self = moved at arm
              cases arm with
              | gaveUp => exact .inr rfl
              | slept | retried => exact .inl lifecycle
              | created other | started other | failed other | stopped other | terminated other =>
                  cases lifecycle.symm.trans other
            case isFalse => cases taken
          · cases taken
            exact stays
          · obtain ⟨err, failed⟩ := preRestart_again actor gzip restarting.live present
            rw [failed] at taken
            cases taken
            exact stays
          · cases taken
  exact invariant.2

/-- No `pre_restart` over registered children recovers the actor. -/
theorem restart_never_recovers (children : world.ctx.HasChildren)
    (restarted : Runs.Reachable (actor.restartStep gzip self) (actor.Restarts initial world)
      restarting) : ¬ actor.Recovers gzip initial world.persisted restarting := by
  rintro ⟨done, _⟩
  obtain ⟨err, failed⟩ := preRestart_again actor gzip restarting.live
    (restart_children gzip children restarted)
  rw [failed] at done
  cases done

end Again

section Runs

def restartingAdder : Restarting Nat FjallStore where
  runner :=
    { ActorRunner.new (rootPath / "adder") .system (.retry (.noInterval ⟨3⟩)) with
      lifecycle := .restarted }
  live := 3
  ctx := restarted adder "adder-1" (lifeOf adder [.persist 3]).ctx

def atPreRestart : Restarting Nat FjallStore :=
  { restartingAdder with runner := restartingAdder.runner.init 0 }

theorem atPreRestart_reached : Runs.Reachable (adder.restartStep BaseJournal.sampleGzip 0)
    (adder.Restarts 0 (lifeOf adder [.persist 3])) atPreRestart :=
  .next restartingAdder .runner (.start ⟨rfl, rfl, ⟨_, rfl, by decide⟩, rfl, rfl⟩) trivial rfl

theorem restarted_adder_fails :
    atPreRestart.runner.control = .hook .preRestart ∧
      ¬ adder.Recovers BaseJournal.sampleGzip 0 (lifeOf adder [.persist 3]).persisted
        atPreRestart :=
  ⟨rfl, restart_never_recovers BaseJournal.sampleGzip ⟨rfl, rfl⟩ atPreRestart_reached⟩

theorem registered_journal_refuses_restart :
    ¬ ∀ (world : World Nat Nat FjallStore) (restarting : Restarting Nat FjallStore),
      Runs.Reachable (adder.move BaseJournal.sampleGzip 0) (Fresh adder BaseJournal.sampleGzip 0)
        world → world.ctx.HasChildren →
      Runs.Reachable (adder.restartStep BaseJournal.sampleGzip 0) (adder.Restarts 0 world)
        restarting → restarting.runner.control = .hook .preRestart →
      adder.Recovers BaseJournal.sampleGzip 0 world.persisted restarting := by
  intro claimed
  have life : Runs.Reachable (adder.move BaseJournal.sampleGzip 0)
      (Fresh adder BaseJournal.sampleGzip 0) (lifeOf adder [.persist 3]) :=
    .next (lifeOf adder []) (Move.persist 3) (.start (fresh_life adder)) trivial rfl
  have recovers := claimed _ _ life ⟨rfl, rfl⟩ atPreRestart_reached rfl
  have failed : (adder.preRestart BaseJournal.sampleGzip atPreRestart.live
      atPreRestart.ctx).1.isOk = false := rfl
  rw [recovers.1] at failed
  cases failed

end Runs

end PersistentActor

end Rush.Storage
