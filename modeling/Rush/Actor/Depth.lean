import Rush.Actor.History
import Rush.Actor.RunLoop

/-! How deep the registered paths go. `create_child` tests the level of the parent and
`create_actor` nothing at all, while a name adds a level for each of its segments. -/

namespace Rush.Actor

open Rush.Library Runs

theorem ActorPath.level_div (path : ActorPath) (name : String) :
    (path / name).level = path.level + (ActorPath.segments name).length :=
  List.length_append

namespace ActorRunner

variable {runner : ActorRunner} {self : ActorId}

theorem resume_creates_none (point : Point) (outcome : Outcome) (path : ActorPath)
    (strategy : SupervisionStrategy) :
    (runner.resume self point outcome).control.call? ≠ some (.createActor path strategy) := by
  have arm := runner.resume_arm self point outcome
  generalize runner.resume self point outcome = moved at arm
  cases arm <;> exact nofun

end ActorRunner

namespace World

def DepthLimited (world : World) : Prop := ∀ path ∈ world.registry, path.level ≤ maxActorDepth

/-- The condition on a request to create an actor: where the code does not refuse it, the
segments of its name stay within the limit. -/
def NamesWithin (world : World) : Label → Prop
  | .task (.client _) (.system (.createActor name _)) =>
      rootPath.level + (ActorPath.segments name).length ≤ maxActorDepth
  | .task (.actor id) (.context (.createChild name _)) => ∀ runner ∈ world.actors[id]?,
      runner.path.level < maxActorDepth →
        runner.path.level + (ActorPath.segments name).length ≤ maxActorDepth
  | _ => True

structure Shallow (world : World) : Prop where
  entries : world.DepthLimited
  actors : ∀ id path supervisor, world.identityOf id = some (path, supervisor) →
    path.level ≤ maxActorDepth
  creations : ∀ task path strategy, world.callOf task = some (.createActor path strategy) →
    path.level ≤ maxActorDepth

variable {world after next : World} {label : Label} {path : ActorPath}
  {strategy : SupervisionStrategy}

theorem Access.creates_none {supervisor : Supervisor} {call goesOn : Call}
    (access : Access world supervisor call next (.call goesOn)) :
    goesOn ≠ .createActor path strategy := by
  rintro rfl
  cases access.leadsTo

inductive Requested (world : World) (path : ActorPath) (strategy : SupervisionStrategy) :
    Label → Prop
  | system {client : ClientId} {name : String} (named : path = rootPath / name) :
      Requested world path strategy (.task (.client client) (.system (.createActor name strategy)))
  | context {id : ActorId} {name : String} {runner : ActorRunner}
      (found : world.actors[id]? = some runner) (shallow : runner.path.level < maxActorDepth)
      (named : path = runner.path / name) :
      Requested world path strategy (.task (.actor id) (.context (.createChild name strategy)))

theorem actorStep_requested {id : ActorId} {choice : Choice}
    (taken : step world (.task (.actor id) choice) = some after)
    (calling : after.callOf (.actor id) = some (.createActor path strategy)) :
    world.callOf (.actor id) = some (.createActor path strategy) ∨
      Requested world path strategy (.task (.actor id) choice) := by
  obtain ⟨moved, foundAfter, creates⟩ := Option.bind_eq_some_iff.mp calling
  obtain ⟨runner, _, _, found, _⟩ := actorStep_cases taken
  obtain ⟨next, moves, _⟩ := step_own taken found foundAfter
  cases moves with
  | init =>
      have arm := runner.init_arm id
      generalize runner.init id = moved at arm creates
      cases arm with
      | failed =>
          exact .inl ((callOf_found found).trans creates)
      | _ => cases creates
  | @requested hook request call within asked =>
      right
      cases creates
      cases request with
      | createChild name strategy =>
          simp only [ContextRequest.call, Option.ite_none_left_eq_some] at asked
          obtain ⟨shallow, asked⟩ := asked
          cases asked
          exact .context found (Nat.lt_of_not_le shallow) rfl
      | _ => cases asked
  | tooDeep => exact .inl ((callOf_found found).trans creates)
  | @returned hook result =>
      have arm := runner.hookReturns_arm id hook result
      generalize runner.hookReturns id hook result = moved at arm creates
      cases arm <;> cases creates
  | @signal emitter signal => cases signal <;> cases creates
  | @action action => cases action <;> cases creates
  | @access _ call point next progress within access =>
      cases progress with
      | call goesOn =>
          cases creates
          exact absurd rfl access.creates_none
      | «return» outcome =>
          exact absurd creates (ActorRunner.resume_creates_none point outcome path strategy)
  | _ => cases creates

theorem runnerStep_requested {choice : Choice} (taken : world.runnerStep choice = some after)
    (calling : after.callOf .runner = some (.createActor path strategy)) : False := by
  obtain ⟨next, moved, moves, rfl⟩ := runnerStep_cases taken
  have creates : moved.control.call? = some (.createActor path strategy) := calling
  cases moves with
  | cancelled => cases creates
  | @signal emitter signal => cases signal <;> cases creates
  | @access _ call point next progress within access =>
      cases progress with
      | call goesOn =>
          cases creates
          exact access.creates_none rfl
      | «return» outcome => cases world.runner.resume_counts point outcome _ creates

theorem clientStep_requested {id : ClientId} {choice : Choice}
    (taken : world.clientStep id choice = some after)
    (calling : after.callOf (.client id) = some (.createActor path strategy)) :
    Requested world path strategy (.task (.client id) choice) := by
  cases within : world.clients id with
  | some call =>
      simp only [clientStep, within] at taken
      obtain ⟨⟨next, progress⟩, access, taken⟩ := Option.bind_eq_some_iff.mp taken
      cases taken
      rw [setClient_callOf] at calling
      cases progress with
      | call goesOn =>
          cases calling
          exact absurd rfl (callStep_access access).creates_none
      | «return» outcome => cases calling
  | none =>
      simp only [clientStep, within] at taken
      cases choice with
      | system request =>
          cases taken
          rw [setClient_callOf] at calling
          cases request <;> cases calling
          exact .system rfl
      | _ => cases taken

theorem step_requested (taken : step world label = some after) {task : Task}
    (calling : after.callOf task = some (.createActor path strategy)) :
    world.callOf task = some (.createActor path strategy) ∨
      Requested world path strategy label := by
  cases label with
  | cancel =>
      cases taken
      left
      cases task <;> exact calling
  | task owner choice =>
      by_cases here : task = owner
      · subst here
        cases task with
        | actor id => exact actorStep_requested taken calling
        | runner => exact (runnerStep_requested taken calling).elim
        | client id => exact .inr (clientStep_requested taken calling)
      · left
        cases step_task taken with
        | access _ access follows _ =>
            rw [follows.others task here, access.callOf] at calling
            exact calling
        | own _ follows _ =>
            rw [follows.others task here] at calling
            exact calling

theorem requested_shallow (names : world.NamesWithin label)
    (requested : Requested world path strategy label) : path.level ≤ maxActorDepth := by
  cases requested with
  | system named =>
      rw [named, ActorPath.level_div]
      exact names
  | context found shallow named =>
      rw [named, ActorPath.level_div]
      exact names _ found shallow

theorem step_shallow (shallow : world.Shallow) (names : world.NamesWithin label)
    (taken : step world label = some after) : after.Shallow := by
  have creations (task : Task) (path : ActorPath) (strategy : SupervisionStrategy)
      (calling : after.callOf task = some (.createActor path strategy)) :
      path.level ≤ maxActorDepth := by
    rcases step_requested taken calling with before | requested
    · exact shallow.creations task path strategy before
    · exact requested_shallow names requested
  cases label with
  | cancel =>
      cases taken
      exact ⟨shallow.entries, shallow.actors, creations⟩
  | task task choice =>
      cases step_task taken with
      | own idle follows begins =>
          refine ⟨?_, ?_, creations⟩
          · intro path entry
            rw [follows.registry] at entry
            exact shallow.entries path entry
          · intro id path supervisor identity
            rw [follows.identity] at identity
            exact shallow.actors id path supervisor identity
      | @access call next progress calling access follows continues =>
          refine ⟨?_, ?_, creations⟩
          · intro path entry
            rw [follows.registry] at entry
            cases access.registryEffect with
            | same registry =>
                rw [registry] at entry
                exact shallow.entries path entry
            | drop here registry =>
                rw [registry, Finmap.mem_erase] at entry
                exact shallow.entries path entry.2
            | insert child runner found registry =>
                rw [registry, Finmap.mem_insert] at entry
                rcases entry with rfl | old
                · exact shallow.actors child runner.path runner.supervisor
                    (identityOf_found found)
                · exact shallow.entries path old
          · intro id path supervisor identity
            rw [follows.identity] at identity
            rcases access.identity_cases identity with old | ⟨_, strategy, rfl, _, _, new⟩
            · exact shallow.actors id path supervisor old
            · cases new
              exact shallow.creations task path strategy calling

theorem new_shallow (config : Config) : (new config).Shallow := by
  constructor
  case entries => exact fun path entry => absurd entry (Finmap.notMem_empty)
  case actors => exact fun id path supervisor identity => nomatch identity
  case creations => exact fun task path strategy calling => by cases task <;> cases calling

/-- In a run whose names keep within the limit, so does the registry. -/
theorem depth_limited (reached : Guarded step Initial NamesWithin world) : world.DepthLimited := by
  refine Shallow.entries (guarded_invariant Shallow ?_ ?_ reached)
  · rintro world ⟨config, rfl⟩
    exact new_shallow config
  · exact fun world label after shallow names taken => step_shallow shallow names taken

section Check

instance (world : World) (label : Label) : Decidable (world.NamesWithin label) := by
  unfold NamesWithin
  split <;> infer_instance

end Check

section Scenarios

def manySegments (count : Nat) : String := "/".intercalate (List.replicate count "a")

theorem two_segments_limited :
    ∃ world, Guarded step Initial NamesWithin world ∧ world.DepthLimited ∧
      rootPath / "p" / "a/b" ∈ world.registry := by
  have taken : ((Runs.checkedRun step (fun world label => decide (world.NamesWithin label))
      (World.new Config.default) (creates 0 "p" ++ createsChild 0 1 "a/b")).any fun world =>
          rootPath / "p" / "a/b" ∈ world.registry) = true := by
    decide
  obtain ⟨world, reached, entry⟩ : ∃ world, Guarded step Initial NamesWithin world ∧ _ :=
    guarded_shown (fun _ _ => of_decide_eq_true) ⟨_, rfl⟩ taken
  exact ⟨world, reached, depth_limited reached, entry⟩

/-- The level of the parent is tested, not the one of the child. -/
theorem child_below_limit : ¬ ∀ world, Reachable step Initial world → world.DepthLimited := by
  intro claimed
  have taken : ((Runs.run step (World.new Config.default)
      (creates 0 "p" ++ createsChild 0 1 (manySegments 99))).any fun world =>
          rootPath / "p" / manySegments 99 ∈ world.registry) = true := by
    decide +kernel
  obtain ⟨world, reached, entry⟩ : ∃ world, Reachable step Initial world ∧ _ :=
    reachable_shown ⟨_, rfl⟩ taken
  have limited := claimed world reached _ entry
  exact absurd limited (by decide +kernel)

end Scenarios

end World

end Rush.Actor
