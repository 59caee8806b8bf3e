import Rush.Actor.Actions
import Rush.Actor.Phase
import Rush.Actor.RunLoop

/-! Whether children stop before their parent. A parent leaves its run loop when it
finds no child in the registry, from which `stop_child` has taken the children
before they stop. -/

namespace Rush.Actor

open Rush.Library Runs

def Hook.serves : Hook → Bool
  | .handle | .onChildError _ _ | .onChildFault _ _ => true
  | .preStart | .preRestart | .preStop | .postStop => false

def Control.serves : Control → Bool
  | .select | .panicked | .calling _ .removeChild | .calling _ .hasChilds => true
  | .hook during | .calling _ (.hook during) => during.serves
  | _ => false

def ActorRunner.Serving (runner : ActorRunner) : Prop :=
  runner.lifecycle = .started ∧ runner.control.serves = true

namespace World

section Running

variable {world : World} {self : Supervisor} {child : ActorId}

theorem mem_runningChildren :
    child ∈ world.runningChildren self ↔ world.running self child = true := by
  rw [runningChildren, List.mem_filter, List.mem_range, and_iff_right_iff_imp]
  intro running
  obtain ⟨runner, found, _⟩ := (Option.any_eq_true _ _).mp running
  exact (List.getElem?_eq_some_iff.mp found).1

theorem running_iff :
    world.running self child = true ↔ ∃ runner, world.actors[child]? = some runner ∧
      runner.supervisor = self ∧ child ∈ world.history.created ∧
      child ∉ world.history.emitted ∧ runner.panicked = false := by
  rw [running, Option.any_eq_true]
  simp [and_assoc]

end Running

def panicked (world : World) (id : ActorId) : Bool := (world.actors[id]?).any ActorRunner.panicked

def looksUnder : Control → Option ActorPath
  | .calling (.stopChildren parent) .stopChildren | .calling (.hasChilds parent) .hasChilds =>
      some parent
  | _ => none

/-- An actor that has taken a Stop and finds no registered child has no running one,
and none of those it asked to stop has panicked. -/
def RegistryTells (world : World) : Label → Prop
  | .task (.actor id) _ => ∀ runner ∈ world.actors[id]?, ∀ parent ∈ looksUnder runner.control,
      runner.history.stopTaken = true → world.getChilds parent = ∅ →
        world.runningChildren (.actor id) = [] ∧
          ∀ child ∈ runner.history.asked ++ runner.history.awaited, world.panicked child = false
  | _ => True

instance (world : World) : (label : Label) → Decidable (world.RegistryTells label)
  | .task (.actor id) _ => inferInstanceAs (Decidable (∀ runner ∈ world.actors[id]?,
      ∀ parent ∈ looksUnder runner.control, runner.history.stopTaken = true →
        world.getChilds parent = ∅ → world.runningChildren (.actor id) = [] ∧
          ∀ child ∈ runner.history.asked ++ runner.history.awaited, world.panicked child = false))
  | .task .runner _ | .task (.client _) _ | .cancel => inferInstanceAs (Decidable True)

/-- An actor that has emitted its Stopped signal has no child left that ran when it
took its Stop, if `stop_children` succeeded for them. -/
def ChildrenStopFirst (world : World) : Prop :=
  ∀ id ∈ world.history.emitted, ∀ runner ∈ world.actors[id]?,
    ∀ child ∈ runner.history.awaited, child ∈ world.history.emitted

/-- What an actor knows of the children that ran when it took its Stop. -/
structure Stopping (world : World) (id : ActorId) (runner : ActorRunner) : Prop where
  taken : ∀ child, child ∈ runner.history.asked ∨ child ∈ runner.history.awaited →
    runner.history.stopTaken = true
  mine : ∀ child, child ∈ runner.history.asked ∨ child ∈ runner.history.awaited →
    child ∈ world.history.created ∧ ∃ path, world.identityOf child = some (path, .actor id)
  awaiting : ∀ child ∈ runner.history.awaited, child ∈ world.history.emitted ∨ runner.Serving

variable {world next after : World} {id : ActorId} {runner moved : ActorRunner} {choice : Choice}

theorem Stopping.keep (stopping : world.Stopping id runner)
    (asked : ∀ child ∈ moved.history.asked, child ∈ runner.history.asked)
    (awaited : moved.history.awaited = runner.history.awaited)
    (taken : moved.history.stopTaken = runner.history.stopTaken)
    (serving : runner.Serving → moved.Serving) : world.Stopping id moved := by
  have before {child : ActorId}
      (known : child ∈ moved.history.asked ∨ child ∈ moved.history.awaited) :
      child ∈ runner.history.asked ∨ child ∈ runner.history.awaited := by
    rw [awaited] at known
    exact known.imp_left (asked child)
  constructor
  case taken =>
    intro child known
    rw [taken]
    exact stopping.taken child (before known)
  case mine => exact fun child known => stopping.mine child (before known)
  case awaiting =>
    intro child member
    rw [awaited] at member
    exact (stopping.awaiting child member).imp_right serving

theorem not_serving {control : Control} (within : runner.control = control)
    (busy : control.serves = false) : ¬ runner.Serving := by
  rintro ⟨_, serves⟩
  rw [within, busy] at serves
  cases serves

theorem Stopping.emitted_of_quiet (stopping : world.Stopping id runner)
    (quiet : world.runningChildren (.actor id) = []) {child : ActorId}
    (known : child ∈ runner.history.asked ∨ child ∈ runner.history.awaited)
    (calm : world.panicked child = false) : child ∈ world.history.emitted := by
  obtain ⟨created, path, identity⟩ := stopping.mine child known
  obtain ⟨other, found, same⟩ := Option.map_eq_some_iff.mp identity
  by_contra silent
  have running : world.running (.actor id) child = true := by
    refine running_iff.mpr ⟨other, found, congrArg Prod.snd same, created, silent, ?_⟩
    rw [panicked, found] at calm
    exact calm
  rw [← mem_runningChildren, quiet] at running
  cases running

theorem Stopping.init (stopping : world.Stopping id runner) (within : runner.control = .lifecycle) :
    world.Stopping id (runner.init id) := by
  have busy : ¬ runner.Serving := not_serving within rfl
  have arm := runner.init_arm id
  generalize runner.init id = moved at arm
  cases arm <;> exact stopping.keep (fun _ member => member) rfl rfl fun serving => absurd serving busy

theorem Stopping.hookReturns (stopping : world.Stopping id runner) {hook : Hook}
    (within : runner.control = .hook hook) (result : Except Error Unit) :
    world.Stopping id (runner.hookReturns id hook result) := by
  have arm := runner.hookReturns_arm id hook result
  generalize runner.hookReturns id hook result = moved at arm
  cases arm with
  | served => exact stopping.keep (fun _ member => member) rfl rfl fun serving => ⟨serving.1, rfl⟩
  | _ =>
      exact stopping.keep (fun _ member => member) rfl rfl fun serving =>
        absurd serving (not_serving within rfl)

theorem Stopping.takeAction (stopping : world.Stopping id runner)
    (untaken : runner.history.stopTaken = false) (action : ChildAction) :
    world.Stopping id (runner.takeAction (world.runningChildren (.actor id)) action) := by
  have unknown {child : ActorId} (member : child ∈ runner.history.awaited) : False := by
    have taken := stopping.taken child (.inr member)
    rw [untaken] at taken
    cases taken
  cases action with
  | restart =>
      exact ⟨stopping.taken, stopping.mine, fun child member => (unknown member).elim⟩
  | stop =>
      constructor
      case taken => exact fun _ _ => rfl
      case mine =>
        rintro child (ran | old)
        · obtain ⟨other, found, supervisor, created, _⟩ :=
            running_iff.mp (mem_runningChildren.mp ran)
          exact ⟨created, other.path, Option.map_eq_some_iff.mpr ⟨other, found, by
            rw [ActorRunner.identity, supervisor]⟩⟩
        · exact (unknown old).elim
      case awaiting => exact fun child member => (unknown member).elim

theorem Access.found_none {supervisor : Supervisor} {call : Call}
    (access : Access world supervisor call next (.return (.children false))) :
    ∃ parent, (call = .stopChildren parent ∨ call = .hasChilds parent) ∧
      world.getChilds parent = ∅ := by
  generalize returned : Progress.return (.children false) = progress at access
  cases access with
  | noChildren empty => exact ⟨_, .inl rfl, empty⟩
  | @childsCounted parent =>
      cases nonempty : decide (world.getChilds parent ≠ ∅) with
      | false => exact ⟨parent, .inr rfl, not_not.mp (of_decide_eq_false nonempty)⟩
      | true =>
          rw [nonempty] at returned
          cases returned
  | @listed parent paths => rcases paths with _ | ⟨path, paths⟩ <;> cases returned
  | @stopSent child rest => rcases rest with _ | _ | ⟨path, paths⟩ <;> cases returned
  | @restartListed children => rcases children with _ | ⟨child, rest⟩ <;> cases returned
  | @restartSent child rest => rcases rest with _ | ⟨next, rest⟩ <;> cases returned
  | _ => cases returned

theorem Access.counted {supervisor : Supervisor} {parent : ActorPath} {outcome : Outcome}
    (access : Access world supervisor (.hasChilds parent) next (.return outcome))
    (none : outcome ≠ .children true) : outcome = .children false := by
  cases access with
  | childsCounted =>
      cases nonempty : decide (world.getChilds parent ≠ ∅) with
      | false => rfl
      | true =>
          rw [nonempty] at none
          exact absurd rfl none

theorem Stopping.resume (stopping : world.Stopping id runner) (inPhase : runner.InPhase id)
    (found : world.actors[id]? = some runner)
    (permitted : world.RegistryTells (.task (.actor id) choice)) {call : Call} {point : Point}
    (within : runner.control = .calling call point) {outcome : Outcome}
    (access : Access world (.actor id) call next (.return outcome)) :
    world.Stopping id (runner.resume id point outcome) := by
  have fits := inPhase.calls call point within
  -- every child it knows of has announced its end when the registry shows none
  have settled (left : outcome = .children false)
      (here : point = .stopChildren ∨ point = .hasChilds) {child : ActorId}
      (known : child ∈ runner.history.asked ∨ child ∈ runner.history.awaited) :
      child ∈ world.history.emitted := by
    subst left
    obtain ⟨parent, which, empty⟩ := access.found_none
    have looks : looksUnder runner.control = some parent := by
      rw [within]
      rcases which with rfl | rfl <;> rcases here with rfl | rfl
      · rfl
      · exact fits.elim
      · exact fits.elim
      · rfl
    obtain ⟨quiet, calm⟩ :=
      permitted runner found parent looks (stopping.taken child known) empty
    exact stopping.emitted_of_quiet quiet known (calm child (List.mem_append.mpr known))
  have arm := runner.resume_arm id point outcome
  generalize runner.resume id point outcome = moved at arm
  cases arm with
  | hook hook =>
      refine stopping.keep (fun _ member => member) rfl rfl fun serving => ⟨serving.1, ?_⟩
      rw [← serving.2, within]
      rfl
  | leftFailed error fault =>
      have busy : ¬ runner.Serving := by
        rcases fault with rfl | rfl | rfl <;> exact not_serving within rfl
      exact stopping.keep nofun rfl rfl fun serving => absurd serving busy
  | leftRestarted restarts =>
      have busy : ¬ runner.Serving := by
        rcases restarts with rfl | rfl <;> exact not_serving within rfl
      exact stopping.keep nofun rfl rfl fun serving => absurd serving busy
  | stopFailed =>
      exact stopping.keep nofun rfl rfl fun serving => absurd serving (not_serving within rfl)
  | noChildren =>
      constructor
      case taken =>
        rintro child (gone | member)
        · cases gone
        · exact stopping.taken child (List.mem_append.mp member)
      case mine =>
        rintro child (gone | member)
        · cases gone
        · exact stopping.mine child (List.mem_append.mp member)
      case awaiting =>
        exact fun child member => .inl (settled rfl (.inl rfl) (List.mem_append.mp member))
  | waits =>
      have started := inPhase.phase .started (by rw [within]; rfl)
      constructor
      case taken =>
        rintro child (gone | member)
        · cases gone
        · exact stopping.taken child (List.mem_append.mp member)
      case mine =>
        rintro child (gone | member)
        · cases gone
        · exact stopping.mine child (List.mem_append.mp member)
      case awaiting => exact fun child member => .inr ⟨started, rfl⟩
  | counts | serves =>
      exact stopping.keep (fun _ member => member) rfl rfl fun serving => ⟨serving.1, rfl⟩
  | leftStopped none =>
      have left : outcome = .children false := by
        cases call with
        | hasChilds parent => exact access.counted none
        | _ => exact fits.elim
      constructor
      case taken =>
        rintro child (gone | member)
        · cases gone
        · exact stopping.taken child (.inr member)
      case mine =>
        rintro child (gone | member)
        · cases gone
        · exact stopping.mine child (.inr member)
      case awaiting => exact fun child member => .inl (settled left (.inr rfl) (.inr member))
  | stopping | faultTold | restartFailed | announced =>
      exact stopping.keep (fun _ member => member) rfl rfl fun serving =>
        absurd serving (not_serving within rfl)

theorem stopping_step (custodial : world.Custodial) (inPhase : runner.InPhase id)
    (stopping : world.Stopping id runner) (found : world.actors[id]? = some runner)
    (permitted : world.RegistryTells (.task (.actor id) choice))
    (moves : RunnerStep world id runner choice next moved) : world.Stopping id moved := by
  cases moves with
  | init within => exact stopping.init within
  | woke within =>
      exact stopping.keep (fun _ member => member) rfl rfl fun serving =>
        absurd serving (not_serving within rfl)
  | requested within =>
      refine stopping.keep (fun _ member => member) rfl rfl fun serving => ⟨serving.1, ?_⟩
      rw [← serving.2, within]
      rfl
  | tooDeep => exact stopping
  | returned within => exact stopping.hookReturns within _
  | panicked | message =>
      exact stopping.keep (fun _ member => member) rfl rfl fun serving => ⟨serving.1, rfl⟩
  | @signal emitter signal signals within =>
      cases signal <;>
        exact stopping.keep (fun _ member => member) rfl rfl fun serving => ⟨serving.1, rfl⟩
  | @action action actions within received =>
      have untaken : runner.history.stopTaken = false := by
        by_contra taken
        rw [Bool.not_eq_false] at taken
        exact custodial.no_action (by rw [stopTaken, found]; exact taken) received
      exact stopping.takeAction untaken action
  | @access _ call point _ progress within access =>
      cases progress with
      | «return» outcome => exact stopping.resume inPhase found permitted within access
      | call goesOn =>
          refine stopping.keep (fun _ member => member) rfl rfl fun serving => ⟨serving.1, ?_⟩
          rw [← serving.2, within]
          cases point <;> rfl

theorem Stopping.later {label : Label} (stopping : world.Stopping id moved)
    (taken : step world label = some after) : after.Stopping id moved := by
  constructor
  case taken => exact stopping.taken
  case mine =>
    intro child known
    obtain ⟨created, path, identity⟩ := stopping.mine child known
    exact ⟨(step_within taken).created child created, path, step_identity taken identity⟩
  case awaiting =>
    exact fun child member => (stopping.awaiting child member).imp_left ((step_within taken).emitted child)

theorem stopping_new (path : ActorPath) (supervisor : Supervisor) (strategy : SupervisionStrategy) :
    world.Stopping id (.new path supervisor strategy) := by
  constructor
  case taken =>
    rintro child (member | member)
    · cases member
    · cases member
  case mine =>
    rintro child (member | member)
    · cases member
    · cases member
  case awaiting => exact nofun

theorem stopping_reached (reached : Guarded step Initial RegistryTells world) :
    ∀ (id : ActorId) (runner : ActorRunner), world.actors[id]? = some runner →
      world.Stopping id runner := by
  have invariant : world.Custodial ∧ world.Phased ∧ ∀ (id : ActorId) (runner : ActorRunner),
      world.actors[id]? = some runner → world.Stopping id runner := by
    refine guarded_invariant (fun world => world.Custodial ∧ world.Phased ∧
      ∀ (id : ActorId) (runner : ActorRunner), world.actors[id]? = some runner →
        world.Stopping id runner) ?_ ?_ reached
    · rintro world ⟨config, rfl⟩
      exact ⟨new_custodial config, new_phased config, fun _ _ found => nomatch found⟩
    · rintro world label after ⟨custodial, phased, every⟩ permitted taken
      refine ⟨step_custodial custodial taken, step_phased phased taken, ?_⟩
      intro id moved foundAfter
      refine Stopping.later ?_ taken
      cases step_origin taken foundAfter with
      | own labelled found moves =>
          subst labelled
          exact stopping_step custodial (phased.inPhase id _ found) (every id _ found) found
            permitted moves
      | kept found => exact every id moved found
      | spawned path supervisor strategy absent new =>
          subst new
          exact stopping_new path supervisor strategy
  exact invariant.2.2

/-- Children stop before their parent in every run in which an actor that takes a
Stop finds no registered child only when no child of it is running any more. -/
theorem children_stop_first (reached : Guarded step Initial RegistryTells world) :
    world.ChildrenStopFirst := by
  intro id emitted runner found child member
  obtain ⟨same, foundSame, ending⟩ := (phased_reached reached).announced id emitted
  obtain rfl := Option.some.inj (foundSame.symm.trans found)
  rcases (stopping_reached reached id same found).awaiting child member with done | ⟨started, _⟩
  · exact done
  · rcases ending with stopped | terminated
    · cases started.symm.trans stopped
    · cases started.symm.trans terminated

section Scenarios

def parentAsksTwo : List Label :=
  creates 0 "p" ++ createsChild 0 1 "a" ++ createsChild 0 2 "b" ++ stopsActor "p" ++
    [Label.task (.actor 0) .action, .task (.actor 0) (.returns (.ok ())), .task (.actor 0) .proceed,
      .task (.actor 0) (.order [rootPath / "p" / "a", rootPath / "p" / "b"])] ++
    List.replicate 6 (Label.task (.actor 0) .proceed)

theorem two_children_stop_first :
    ∃ world, Guarded step Initial RegistryTells world ∧ world.ChildrenStopFirst ∧
      0 ∈ world.history.emitted ∧
      (world.actors[0]?.map fun runner => runner.history.awaited) = some [1, 2] := by
  have taken : ((Runs.checkedRun step (fun world label => decide (world.RegistryTells label))
      (World.new Config.default)
      (parentAsksTwo ++ takesStop 1 ++ announces 1 ++ takesStop 2 ++ announces 2 ++
        takesStopped 0 ++ announces 0)).any fun world =>
          0 ∈ world.history.emitted ∧
            (world.actors[0]?.map fun runner => runner.history.awaited) = some [1, 2]) = true := by
    decide
  obtain ⟨world, reached, facts⟩ : ∃ world, Guarded step Initial RegistryTells world ∧ _ :=
    guarded_shown (fun _ _ => of_decide_eq_true) ⟨_, rfl⟩ taken
  exact ⟨world, reached, children_stop_first reached, facts⟩

/-- A parent of two children emits its signal after the first of theirs. -/
theorem parent_stops_before_second_child :
    ¬ ∀ world, Reachable step Initial world → world.ChildrenStopFirst := by
  intro claimed
  have taken : ((Runs.run step (World.new Config.default)
      (parentAsksTwo ++ takesStop 1 ++ announces 1 ++ takesStopped 0 ++ announces 0)).any
        fun world =>
          0 ∈ world.history.emitted ∧ 2 ∉ world.history.emitted ∧
            (world.actors[0]?.map fun runner => runner.history.awaited) = some [1, 2]) = true := by
    decide
  obtain ⟨world, reached, emitted, silent, awaited⟩ : ∃ world, Reachable step Initial world ∧ _ :=
    reachable_shown ⟨_, rfl⟩ taken
  obtain ⟨runner, found, children⟩ := Option.map_eq_some_iff.mp awaited
  exact silent (claimed world reached 0 emitted runner found 2 (by rw [children]; decide))

end Scenarios

end World

end Rush.Actor
