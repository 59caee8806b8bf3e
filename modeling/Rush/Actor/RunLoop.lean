import Rush.Actor.Step
import Rush.Library.Runs

/-! What makes a run loop return Stopped. The Stopped-signal branch returns as
soon as the registry holds no child, whether a stop is in progress or not. -/

namespace Rush.Actor

open Rush.Library Runs

/-- `pre_stop` is running or waits for a call it made. -/
def Control.inPreStop : Control → Bool
  | .hook .preStop | .calling _ (.hook .preStop) => true
  | _ => false

def Control.afterPreStop : Control → Bool
  | .calling _ .preStopFault | .calling _ .stopChildren | .calling _ .stopFault => true
  | _ => false

namespace ActorRunner

structure InOrder (runner : ActorRunner) : Prop where
  consumed : runner.control.inPreStop = true ∨ runner.control.afterPreStop = true →
    runner.history.stopConsumed = true
  flushed : runner.history.stopConsumed = true → runner.control.inPreStop = false →
    runner.control ≠ .panicked → runner.history.preStopRan = true
  returned : runner.history.returned = some .stopped →
    runner.history.stopConsumed = true ∧ runner.history.preStopRan = true
  counting : ∀ call, runner.control = .calling call .hasChilds → ∃ parent, call = .hasChilds parent

def stopRecord (runner : ActorRunner) : Bool × Bool × Option ActorLifecycle :=
  (runner.history.stopConsumed, runner.history.preStopRan, runner.history.returned)

variable {runner moved : ActorRunner}

theorem InOrder.congr (ordered : runner.InOrder) (same : moved.stopRecord = runner.stopRecord)
    (before : moved.control.inPreStop = runner.control.inPreStop)
    (after : moved.control.afterPreStop = true → runner.control.afterPreStop = true)
    (alive : runner.control ≠ .panicked)
    (counting : ∀ call, moved.control = .calling call .hasChilds → ∃ parent, call = .hasChilds parent) :
    moved.InOrder := by
  simp only [stopRecord, Prod.mk.injEq] at same
  obtain ⟨consumed, ran, returned⟩ := same
  constructor
  case consumed =>
    intro stopping
    rw [consumed]
    rcases stopping with inside | outside
    · exact ordered.consumed (.inl (before ▸ inside))
    · exact ordered.consumed (.inr (after outside))
  case flushed =>
    intro stopped outside _
    rw [ran]
    exact ordered.flushed (consumed ▸ stopped) (before ▸ outside) alive
  case returned =>
    rw [consumed, ran, returned]
    exact ordered.returned
  case counting => exact counting

def plain : Control → Bool
  | .hook .preStop | .calling _ (.hook .preStop) | .calling _ .preStopFault
  | .calling _ .stopChildren | .calling _ .stopFault | .calling _ .hasChilds => false
  | _ => true

theorem InOrder.toPlain (ordered : runner.InOrder) (same : moved.stopRecord = runner.stopRecord)
    (outside : runner.control.inPreStop = false) (alive : runner.control ≠ .panicked)
    (calm : plain moved.control = true) : moved.InOrder := by
  have before : moved.control.inPreStop = false ∧ moved.control.afterPreStop = false := by
    revert calm
    cases moved.control with
    | hook hook => cases hook <;> simp [plain, Control.inPreStop, Control.afterPreStop]
    | calling call point =>
        cases point with
        | hook hook => cases hook <;> simp [plain, Control.inPreStop, Control.afterPreStop]
        | _ => simp [plain, Control.inPreStop, Control.afterPreStop]
    | _ => simp [Control.inPreStop, Control.afterPreStop]
  refine ordered.congr same (before.1.trans outside.symm) ?_ alive ?_
  · rw [before.2]
    exact fun impossible => nomatch impossible
  · intro call counts
    rw [counts] at calm
    cases calm

theorem InOrder.enterRun : runner.enterRun.InOrder := by
  constructor
  case consumed => exact fun stopping => by rcases stopping with inside | inside <;> cases inside
  case flushed => exact fun consumed => nomatch consumed
  case returned => exact fun returned => nomatch returned
  case counting => exact fun call counts => nomatch counts

theorem InOrder.init (self : ActorId) (ordered : runner.InOrder)
    (within : runner.control = .lifecycle) : (runner.init self).InOrder := by
  have outside : runner.control.inPreStop = false := by rw [within]; rfl
  have alive : runner.control ≠ .panicked := by rw [within]; exact nofun
  have arm := runner.init_arm self
  generalize runner.init self = moved at arm
  cases arm with
  | started => exact InOrder.enterRun
  | failed => exact ordered.toPlain rfl outside alive (by rw [within]; rfl)
  | _ => exact ordered.toPlain rfl outside alive rfl

theorem InOrder.leaveRun (ordered : runner.InOrder) (result : ActorLifecycle)
    (outside : runner.control.inPreStop = false) (alive : runner.control ≠ .panicked)
    (asked : result = .stopped → runner.history.stopConsumed = true) :
    (runner.leaveRun result).InOrder := by
  constructor
  case consumed => exact fun stopping => by rcases stopping with inside | inside <;> cases inside
  case flushed => exact fun consumed _ _ => ordered.flushed consumed outside alive
  case returned =>
    intro returned
    have consumed := asked (Option.some.inj returned)
    exact ⟨consumed, ordered.flushed consumed outside alive⟩
  case counting => exact fun call counts => nomatch counts

theorem InOrder.hookReturns (self : ActorId) (ordered : runner.InOrder) {hook : Hook}
    (within : runner.control = .hook hook) (result : Except Error Unit) :
    (runner.hookReturns self hook result).InOrder := by
  have alive : runner.control ≠ .panicked := by rw [within]; exact nofun
  cases hook with
  | preStop =>
      have consumed := ordered.consumed (.inl (by rw [within]; rfl))
      cases result with
      | ok =>
          exact ⟨fun _ => consumed, fun _ _ _ => rfl, fun _ => ⟨consumed, rfl⟩, fun _ counts => nomatch counts⟩
      | error error =>
          exact ⟨fun _ => consumed, fun _ _ _ => rfl, fun _ => ⟨consumed, rfl⟩, fun _ counts => nomatch counts⟩
  | _ => cases result <;> exact ordered.toPlain rfl (by rw [within]; rfl) alive rfl

theorem InOrder.takeAction (ordered : runner.InOrder) (within : runner.control = .select)
    (running : List ActorId) (action : ChildAction) :
    (runner.takeAction running action).InOrder := by
  have alive : runner.control ≠ .panicked := by rw [within]; exact nofun
  cases action with
  | stop =>
      constructor
      case consumed => exact fun _ => rfl
      case flushed => exact fun _ inside => nomatch inside
      case returned => exact fun returned => ⟨rfl, (ordered.returned returned).2⟩
      case counting => exact fun call counts => nomatch counts
  | restart => exact ordered.toPlain rfl (by rw [within]; rfl) alive rfl

/-- The code after a call keeps the order, if the count of the children left comes
out empty only in a run that has consumed a Stop. -/
theorem InOrder.resume (self : ActorId) (ordered : runner.InOrder) {call : Call} {point : Point}
    (within : runner.control = .calling call point) (outcome : Outcome)
    (asked : point = .hasChilds → outcome ≠ .children true → runner.history.stopConsumed = true) :
    (runner.resume self point outcome).InOrder := by
  have alive : runner.control ≠ .panicked := by rw [within]; exact nofun
  cases point with
  | hook hook =>
      refine ordered.congr rfl ?_ (fun impossible => ?_) alive fun _ counts => nomatch counts
      · rw [within]
        cases hook <;> rfl
      · cases hook <;> cases impossible
  | preStopFault =>
      have consumed := ordered.consumed (.inr (by rw [within]; rfl))
      have outside : runner.control.inPreStop = false := by rw [within]; rfl
      have stopping : runner.stopChildren.InOrder :=
        ⟨fun _ => consumed, fun _ _ _ => ordered.flushed consumed outside alive, ordered.returned,
          fun _ counts => nomatch counts⟩
      cases outcome with
      | failed error => exact ordered.leaveRun .failed outside alive nofun
      | _ => exact stopping
  | stopChildren =>
      have consumed := ordered.consumed (.inr (by rw [within]; rfl))
      have outside : runner.control.inPreStop = false := by rw [within]; rfl
      have awaited : runner.awaitAsked.InOrder :=
        ⟨ordered.consumed, ordered.flushed, ordered.returned, ordered.counting⟩
      have select : ({ runner.awaitAsked with control := .select } : ActorRunner).InOrder :=
        awaited.toPlain rfl outside alive rfl
      cases outcome with
      | failed error =>
          exact ⟨fun _ => consumed, fun _ _ _ => ordered.flushed consumed outside alive,
            ordered.returned, fun _ counts => nomatch counts⟩
      | children found =>
          cases found with
          | false => exact awaited.leaveRun .stopped outside alive fun _ => consumed
          | true => exact select
      | _ => exact select
  | stopFault =>
      have outside : runner.control.inPreStop = false := by rw [within]; rfl
      cases outcome with
      | failed error => exact ordered.leaveRun .failed outside alive nofun
      | _ => exact ordered.toPlain rfl outside alive rfl
  | restartChildren =>
      have outside : runner.control.inPreStop = false := by rw [within]; rfl
      cases outcome with
      | failed error => exact ordered.toPlain rfl outside alive rfl
      | _ => exact ordered.leaveRun .restarted outside alive nofun
  | restartFault =>
      have outside : runner.control.inPreStop = false := by rw [within]; rfl
      cases outcome with
      | failed error => exact ordered.leaveRun .failed outside alive nofun
      | _ => exact ordered.leaveRun .restarted outside alive nofun
  | removeChild =>
      have outside : runner.control.inPreStop = false := by rw [within]; rfl
      refine ordered.congr rfl outside.symm (fun impossible => nomatch impossible) alive ?_
      intro call counts
      cases counts
      exact ⟨_, rfl⟩
  | hasChilds =>
      have outside : runner.control.inPreStop = false := by rw [within]; rfl
      have select : ({ runner with control := .select } : ActorRunner).InOrder :=
        ordered.toPlain rfl outside alive rfl
      cases outcome with
      | children found =>
          cases found with
          | true => exact select
          | false => exact ordered.leaveRun .stopped outside alive fun _ => asked rfl nofun
      | _ => exact ordered.leaveRun .stopped outside alive fun _ => asked rfl nofun
  | emitStopped =>
      exact ordered.toPlain rfl (by rw [within]; rfl) alive rfl

end ActorRunner

namespace World

variable {world after : World}

def countsUnder : Control → Option ActorPath
  | .calling (.hasChilds parent) .hasChilds => some parent
  | _ => none

/-- A run loop that has not consumed a Stop finds a registered child left whenever
it counts its children after a Stopped signal. -/
def LeavesAnotherChild (world : World) : Label → Prop
  | .task (.actor id) _ => ∀ runner ∈ world.actors[id]?, ∀ parent ∈ countsUnder runner.control,
      runner.history.stopConsumed = true ∨ world.getChilds parent ≠ ∅
  | _ => True

instance (world : World) : (label : Label) → Decidable (world.LeavesAnotherChild label)
  | .task (.actor id) _ => inferInstanceAs (Decidable (∀ runner ∈ world.actors[id]?,
      ∀ parent ∈ countsUnder runner.control,
        runner.history.stopConsumed = true ∨ world.getChilds parent ≠ ∅))
  | .task .runner _ | .task (.client _) _ | .cancel => inferInstanceAs (Decidable True)

/-- A run that returned Stopped has consumed a Stop before and run `pre_stop`. -/
def StopsWhenAsked (world : World) : Prop :=
  ∀ id : ActorId, ∀ runner ∈ world.actors[id]?, runner.history.returned = some .stopped →
    runner.history.stopConsumed = true ∧ runner.history.preStopRan = true

theorem inOrder_step {id : ActorId} {runner moved : ActorRunner} {choice : Choice} {next : World}
    (ordered : runner.InOrder) (found : world.actors[id]? = some runner)
    (permitted : world.LeavesAnotherChild (.task (.actor id) choice))
    (moves : RunnerStep world id runner choice next moved) : moved.InOrder := by
  have alive : runner.control ≠ .panicked := by
    have unfinished := moves.unfinished
    intro panicked
    simp [ActorRunner.finished, ActorRunner.panicked, panicked] at unfinished
  cases moves with
  | init within => exact ordered.init id within
  | woke within => exact ordered.toPlain rfl (by rw [within]; rfl) alive rfl
  | @requested hook request call within asked =>
      refine ordered.congr rfl ?_ (fun impossible => ?_) alive fun _ counts => by cases counts
      · rw [within]
        cases hook <;> rfl
      · cases hook <;> cases impossible
  | tooDeep => exact ordered
  | returned within => exact ordered.hookReturns id within _
  | panicked within =>
      constructor
      case consumed => exact fun stopping => by rcases stopping with inside | inside <;> cases inside
      case flushed => exact fun _ _ alive => absurd rfl alive
      case returned => exact ordered.returned
      case counting =>
        intro call counts
        cases counts
  | message within => exact ordered.toPlain rfl (by rw [within]; rfl) alive rfl
  | @signal emitter signal signals within received =>
      cases signal <;> exact ordered.toPlain rfl (by rw [within]; rfl) alive rfl
  | action within received => exact ordered.takeAction within _ _
  | @access _ call point _ progress within access =>
      cases progress with
      | call goesOn =>
          refine ordered.congr rfl ?_ (fun stopping => ?_) alive ?_
          · rw [within]
            cases point with
            | hook hook => cases hook <;> rfl
            | _ => rfl
          · rw [within]
            cases point <;> exact stopping
          · intro other counts
            cases counts
            obtain ⟨parent, rfl⟩ := ordered.counting _ within
            cases access
      | «return» outcome =>
          refine ordered.resume id within outcome ?_
          rintro rfl empty
          obtain ⟨parent, rfl⟩ := ordered.counting _ within
          cases access
          rcases permitted runner found parent (by rw [within]; rfl) with consumed | left
          · exact consumed
          · exact absurd (by rw [decide_eq_true left]) empty

theorem inOrder_new (path : ActorPath) (supervisor : Supervisor) (strategy : SupervisionStrategy) :
    (ActorRunner.new path supervisor strategy).InOrder := by
  constructor
  case consumed => exact fun stopping => by rcases stopping with inside | inside <;> cases inside
  case flushed => exact fun consumed => nomatch consumed
  case returned => exact fun returned => nomatch returned
  case counting => exact fun call counts => nomatch counts

theorem inOrder_reached (reached : Guarded step Initial LeavesAnotherChild world) :
    ∀ id : ActorId, ∀ runner ∈ world.actors[id]?, runner.InOrder := by
  refine guarded_invariant (fun world => ∀ id : ActorId, ∀ runner ∈ world.actors[id]?,
    runner.InOrder) ?_ ?_ reached
  · rintro world ⟨config, rfl⟩ id runner found
    cases found
  · intro world label after every permitted taken id moved foundAfter
    cases step_origin taken foundAfter with
    | own labelled found moves =>
        subst labelled
        exact inOrder_step (every _ _ found) found permitted moves
    | kept found => exact every id moved found
    | spawned path supervisor strategy absent new =>
        subst new
        exact inOrder_new path supervisor strategy

/-- As long as no count of the children left comes out empty before a Stop, every
run that returns Stopped was asked to. -/
theorem stops_when_asked (reached : Guarded step Initial LeavesAnotherChild world) :
    world.StopsWhenAsked :=
  fun id runner found => (inOrder_reached reached id runner found).returned

theorem run_callOf {task : Task} {labels : List Label} (taken : Runs.run step world labels = some after)
    (waits : ∀ label ∈ labels, label.task? ≠ some task) :
    after.callOf task = world.callOf task := by
  induction labels generalizing world with
  | nil =>
      obtain rfl : world = after := Option.some.inj taken
      rfl
  | cons label labels ih =>
      obtain ⟨next, moved, rest⟩ := Option.bind_eq_some_iff.mp taken
      rw [ih rest fun later member => waits later (List.mem_cons_of_mem _ member)]
      cases label with
      | cancel =>
          cases moved
          cases task <;> rfl
      | task other choice =>
          have apart : task ≠ other := by
            rintro rfl
            exact waits _ List.mem_cons_self rfl
          cases step_task moved with
          | access _ access follows _ => rw [follows.others task apart, access.callOf]
          | own _ follows _ => exact follows.others task apart

section Scenarios

def starts (id : ActorId) : List Label :=
  [.task (.actor id) .proceed, .task (.actor id) (.returns (.ok ())), .task (.actor id) .proceed]

/-- `create_actor` by the first client, undisturbed; the new instance is `child`. -/
def creates (child : ActorId) (name : String) : List Label :=
  [Label.task (.client 0) (.system (.createActor name .stop)), .task (.client 0) .proceed] ++
    starts child ++ List.replicate 3 (Label.task (.client 0) .proceed)

/-- `create_child` in a handler of `parent`, undisturbed. -/
def createsChild (parent child : ActorId) (name : String) : List Label :=
  [Label.task (.actor parent) .message, .task (.actor parent) (.context (.createChild name .stop)),
    .task (.actor parent) .proceed] ++
    starts child ++ List.replicate 3 (Label.task (.actor parent) .proceed) ++
    [Label.task (.actor parent) (.returns (.ok ()))]

def stopsActor (name : String) : List Label :=
  .task (.client 0) (.system (.stopActor name)) :: List.replicate 3 (.task (.client 0) .proceed)

def stopsChild (parent : ActorId) (name : String) : List Label :=
  [Label.task (.actor parent) .message, .task (.actor parent) (.context (.stopChild name))] ++
    List.replicate 3 (Label.task (.actor parent) .proceed) ++
    [Label.task (.actor parent) (.returns (.ok ()))]

def takesStop (id : ActorId) : List Label :=
  [.task (.actor id) .action, .task (.actor id) (.returns (.ok ())), .task (.actor id) .proceed]

def announces (id : ActorId) : List Label := List.replicate 2 (.task (.actor id) .proceed)

def takesStopped (id : ActorId) : List Label :=
  .task (.actor id) .signal :: List.replicate 3 (.task (.actor id) .proceed)

end Scenarios

theorem asked_parent_stops :
    ∃ world, Guarded step Initial LeavesAnotherChild world ∧ world.StopsWhenAsked ∧
      (world.actors[0]?.map fun runner => runner.history.returned) = some (some .stopped) := by
  have taken : ((Runs.checkedRun step (fun world label => decide (world.LeavesAnotherChild label))
      (World.new Config.default)
      (creates 0 "p" ++ createsChild 0 1 "a" ++ createsChild 0 2 "b" ++ stopsChild 0 "a" ++
        takesStop 1 ++ announces 1 ++ takesStopped 0 ++ stopsActor "p" ++
        [Label.task (.actor 0) .action, .task (.actor 0) (.returns (.ok ())), .task (.actor 0) .proceed,
          .task (.actor 0) (.order [rootPath / "p" / "b"])] ++
        List.replicate 3 (Label.task (.actor 0) .proceed) ++ takesStop 2 ++ announces 2 ++
        takesStopped 0)).any fun world =>
          (world.actors[0]?.map fun runner => runner.history.returned) = some (some .stopped)) =
      true := by
    decide
  obtain ⟨world, reached, returned⟩ : ∃ world, Guarded step Initial LeavesAnotherChild world ∧ _ :=
    guarded_shown (fun _ _ => of_decide_eq_true) ⟨_, rfl⟩ taken
  exact ⟨world, reached, stops_when_asked reached, returned⟩

/-- A parent whose only child is stopped by `stop_child` returns Stopped unasked. -/
theorem child_stop_stops_parent :
    ¬ ∀ world, Reachable step Initial world → world.StopsWhenAsked := by
  intro claimed
  have taken : ((Runs.run step (World.new Config.default)
      (creates 0 "p" ++ createsChild 0 1 "c" ++ stopsChild 0 "c" ++ takesStop 1 ++ announces 1 ++
        takesStopped 0)).any fun world =>
          (world.actors[0]?.map fun runner =>
            (runner.history.returned, runner.history.stopConsumed)) =
              some (some .stopped, false)) = true := by
    decide
  obtain ⟨world, reached, returned⟩ : ∃ world, Reachable step Initial world ∧ _ :=
    reachable_shown ⟨_, rfl⟩ taken
  obtain ⟨runner, found, history⟩ := Option.map_eq_some_iff.mp returned
  rw [Prod.mk.injEq] at history
  have asked := claimed world reached 0 runner found history.1
  rw [history.2] at asked
  exact nomatch asked.1

end World

end Rush.Actor
