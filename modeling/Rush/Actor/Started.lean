import Rush.Actor.Hooks

/-! What the registry shows. An actor is found at its path only after a start of it has
succeeded. -/

namespace Rush.Actor

open Rush.Library Runs

def Began (noted : List HookEvent) : Prop :=
  .returned .preStart (.ok ()) ∈ noted ∨ .returned .preRestart (.ok ()) ∈ noted

theorem Began.append {noted : List HookEvent} (began : Began noted) (more : List HookEvent) :
    Began (noted ++ more) :=
  began.imp (List.mem_append_left more) (List.mem_append_left more)

theorem Began.after {noted : List HookEvent} (began : Began noted) (event : HookEvent) :
    Began (event :: noted) :=
  began.imp (List.mem_cons_of_mem event) (List.mem_cons_of_mem event)

namespace Stage

variable {limit : Nat} {stage later : Stage}

def running : Stage → Bool
  | .up _ | .inHook _ => true
  | _ => false

theorem next_running {event : HookEvent} (goes : stage.next limit event = some later)
    (runs : later.running = true) : stage.running = true ∨
      event = .returned .preStart (.ok ()) ∨ event = .returned .preRestart (.ok ()) := by
  cases event with
  | called hook =>
      cases hook with
      | preStart | postStop =>
          rw [next, Option.ite_none_right_eq_some] at goes
          obtain ⟨_, ⟨⟩⟩ := goes
          cases runs
      | preRestart =>
          obtain ⟨failures, _, goes⟩ := Option.bind_eq_some_iff.mp goes
          rw [Option.ite_none_right_eq_some] at goes
          obtain ⟨_, ⟨⟩⟩ := goes
          cases runs
      | _ =>
          cases stage with
          | up => exact .inl rfl
          | _ => cases goes
  | returned hook result =>
      cases stage with
      | up | inHook => exact .inl rfl
      | starting | restarting =>
          cases result with
          | ok =>
              obtain ⟨rfl, _⟩ := Option.ite_none_right_eq_some.mp goes
              simp
          | error =>
              obtain ⟨_, ⟨⟩⟩ := Option.ite_none_right_eq_some.mp goes
              cases runs
      | stopping =>
          obtain ⟨_, ⟨⟩⟩ := Option.ite_none_right_eq_some.mp goes
          cases runs
      | _ => cases goes
  | panicked =>
      obtain ⟨_, ⟨⟩⟩ := Option.ite_none_right_eq_some.mp goes
      cases runs
  | restarts | childStopped =>
      cases stage with
      | up => exact .inl rfl
      | _ => cases goes

theorem run_running {noted : List HookEvent}
    (ran : Runs.run (Stage.next limit) stage noted = some later) (runs : later.running = true) :
    stage.running = true ∨ Began noted := by
  induction noted generalizing stage with
  | nil =>
      obtain rfl := Option.some.inj ran
      exact .inl runs
  | cons event noted ih =>
      obtain ⟨next, goes, rest⟩ := Option.bind_eq_some_iff.mp ran
      rcases ih rest with up | began
      · refine (next_running goes up).imp_right ?_
        rintro (rfl | rfl)
        · exact .inl List.mem_cons_self
        · exact .inr List.mem_cons_self
      · exact .inr (began.after event)

end Stage

theorem answer_new {world next : World} {id : ActorId} {runner moved : ActorRunner}
    {choice : World.Choice} (moves : World.RunnerStep world id runner choice next moved)
    (answered : moved.initAnswer = some none) : runner.initAnswer = some none ∨
      runner.control = .lifecycle ∧ runner.lifecycle = .started := by
  cases moves with
  | init within =>
      have arm := runner.init_arm id
      generalize runner.init id = moved at arm answered
      cases arm with
      | started lifecycle => exact .inr ⟨within, lifecycle⟩
      | gaveUp =>
          left
          simp only [ActorRunner.failStart] at answered
          split at answered
          case isTrue => cases answered
          case isFalse => exact answered
      | _ => exact .inl answered
  | @returned hook result =>
      have arm := runner.hookReturns_arm id hook result
      generalize runner.hookReturns id hook result = moved at arm answered
      cases arm <;> exact .inl answered
  | @signal emitter signal => cases signal <;> exact .inl answered
  | @action action => cases action <;> exact .inl answered
  | @access _ _ point _ progress =>
      cases progress with
      | call next => exact .inl answered
      | «return» outcome =>
          have arm := runner.resume_arm id point outcome
          rw [ActorRunner.proceed] at answered
          generalize runner.resume id point outcome = moved at arm answered
          cases arm <;> exact .inl answered
  | _ => exact .inl answered

namespace Noted

variable {noted after : Noted} {label : World.Label}

structure Showing (noted : Noted) : Prop where
  answers : ∀ (id : ActorId) (runner : ActorRunner), noted.world.actors[id]? = some runner →
    runner.initAnswer = some none → Began (noted.notes id)
  calls : ∀ task child, noted.world.callOf task = some (.insertEntry child) →
    Began (noted.notes child)
  entries : ∀ path id, noted.world.registry.lookup path = some id →
    (∃ supervisor, noted.world.identityOf id = some (path, supervisor)) ∧ Began (noted.notes id)

theorem step_began (taken : noted.step label = some after) {id : ActorId}
    (began : Began (noted.notes id)) : Began (after.notes id) := by
  obtain ⟨world, _, rfl⟩ := Option.map_eq_some_iff.mp taken
  show Began (note noted.notes (noteOf noted.world world label) id)
  cases noteOf noted.world world label with
  | none => exact began
  | some entry =>
      obtain ⟨there, events⟩ := entry
      rw [note]
      by_cases here : id = there
      · rw [here, Function.update_self]
        rw [here] at began
        exact began.append events
      · rw [Function.update_of_ne here]
        exact began

theorem step_answers (living : noted.Living) (showing : noted.Showing)
    (taken : noted.step label = some after) (id : ActorId) (moved : ActorRunner)
    (found : after.world.actors[id]? = some moved) (answered : moved.initAnswer = some none) :
    Began (after.notes id) := by
  obtain ⟨world, went, same⟩ := Option.map_eq_some_iff.mp taken
  subst same
  refine step_began taken ?_
  cases World.step_origin went found with
  | @own _ runner _ _ was moves =>
      rcases answer_new moves answered with before | ⟨within, lifecycle⟩
      · exact showing.answers id runner was before
      · obtain ⟨stage, life, here⟩ := living.lives id runner was
        simp only [ActorRunner.At, within, lifecycle] at here
        obtain ⟨⟨mayEnd, rfl⟩, _⟩ := here
        rcases Stage.run_running life rfl with up | began
        · cases up
        · exact began
  | kept was => exact showing.answers id moved was answered
  | spawned path supervisor strategy _ new =>
      rw [new] at answered
      cases answered

theorem step_calls (showing : noted.Showing) (taken : noted.step label = some after)
    (task : Task) (child : ActorId)
    (calling : after.world.callOf task = some (.insertEntry child)) :
    Began (after.notes child) := by
  obtain ⟨world, went, same⟩ := Option.map_eq_some_iff.mp taken
  subst same
  refine step_began taken ?_
  have elsewhere (same : world.callOf task = noted.world.callOf task) :
      Began (noted.notes child) := showing.calls task child (same ▸ calling)
  cases label with
  | cancel =>
      cases went
      exact showing.calls task child calling
  | task mover choice =>
      by_cases here : task = mover
      case neg =>
        cases World.step_task went with
        | own _ follows => exact elsewhere (follows.others task here)
        | access _ access follows =>
            exact elsewhere ((follows.others task here).trans (access.callOf task))
      case pos =>
        subst here
        cases World.step_task went with
        | own _ _ begins => exact (begins _ calling).elim
        | @access call next progress _ access follows continues =>
            cases progress with
            | «return» => exact (continues _ calling).elim
            | call goesOn =>
                obtain rfl : goesOn = .insertEntry child :=
                  Option.some.inj (continues.symm.trans calling)
                cases access.leadsTo
                cases access with
                | started found answer => exact showing.answers child _ found answer

theorem step_entries (showing : noted.Showing) (taken : noted.step label = some after)
    (path : ActorPath) (id : ActorId)
    (entry : after.world.registry.lookup path = some id) :
    (∃ supervisor, after.world.identityOf id = some (path, supervisor)) ∧
      Began (after.notes id) := by
  obtain ⟨world, went, same⟩ := Option.map_eq_some_iff.mp taken
  subst same
  suffices before : (∃ supervisor, noted.world.identityOf id = some (path, supervisor)) ∧
      Began (noted.notes id) by
    obtain ⟨⟨supervisor, identity⟩, began⟩ := before
    exact ⟨⟨supervisor, World.step_identity went identity⟩, step_began taken began⟩
  cases label with
  | cancel =>
      cases went
      exact showing.entries path id entry
  | task task choice =>
      cases World.step_task went with
      | own idle follows =>
          rw [follows.registry] at entry
          exact showing.entries path id entry
      | @access call next progress calling access follows =>
          rw [follows.registry] at entry
          cases access.registryEffect with
          | same registry =>
              rw [registry] at entry
              exact showing.entries path id entry
          | drop here registry =>
              rw [registry] at entry
              by_cases same : path = here
              · rw [same, Finmap.lookup_erase] at entry
                cases entry
              · rw [Finmap.lookup_erase_ne same] at entry
                exact showing.entries path id entry
          | insert child runner found registry =>
              rw [registry] at entry
              by_cases same : path = runner.path
              · rw [same, Finmap.lookup_insert] at entry
                obtain rfl := Option.some.inj entry
                exact ⟨⟨runner.supervisor, by rw [same]; exact World.identityOf_found found⟩,
                  showing.calls task child calling⟩
              · rw [Finmap.lookup_insert_of_ne _ same] at entry
                exact showing.entries path id entry

/-- What the registry holds at a path is an actor of that path, and a start of it has
succeeded: nobody finds an actor that is still starting. -/
theorem registered_started (reached : Reachable step Initial noted) (path : ActorPath)
    (id : ActorId) (entry : noted.world.registry.lookup path = some id) :
    (∃ supervisor, noted.world.identityOf id = some (path, supervisor)) ∧
      Began (noted.notes id) := by
  have invariant : noted.Living ∧ noted.Showing := by
    refine guarded_invariant (fun noted => noted.Living ∧ noted.Showing) ?_ ?_ reached
    · rintro noted ⟨⟨config, new⟩, none⟩
      refine ⟨living_reached (.start ⟨⟨config, new⟩, none⟩), ?_, ?_, ?_⟩
      · intro id runner found
        rw [new] at found
        cases found
      · intro task child calling
        rw [new] at calling
        cases task <;> cases calling
      · intro path id entry
        rw [new] at entry
        cases entry
    · rintro noted label after ⟨living, showing⟩ _ taken
      exact ⟨living_step living taken, step_answers living showing taken,
        step_calls showing taken, step_entries showing taken⟩
  exact invariant.2.entries path id entry

section Scenarios

def startsAgain : List World.Label :=
  [.task (.client 0) (.system (.createActor "p" (.retry (.noInterval ⟨1⟩)))),
    .task (.client 0) .proceed, .task (.actor 0) .proceed,
    .task (.actor 0) (.returns (.error (.store "no file"))), .task (.actor 0) .proceed,
    .task (.actor 0) (.returns (.ok ())), .task (.actor 0) .proceed] ++
    List.replicate 3 (.task (.client 0) .proceed)

theorem found_after_restart : ∃ noted : Noted,
    noted.notes 0 = [.called .preStart, .returned .preStart (.error (.store "no file")),
      .called .preRestart, .returned .preRestart (.ok ())] ∧
    (∃ supervisor, noted.world.identityOf 0 = some (rootPath / "p", supervisor)) ∧
      Began (noted.notes 0) := by
  have taken : ((Runs.run step ⟨World.new Config.default, fun _ => []⟩ startsAgain).any fun noted =>
      noted.world.registry.lookup (rootPath / "p") = some 0 ∧
        noted.notes 0 = [.called .preStart, .returned .preStart (.error (.store "no file")),
          .called .preRestart, .returned .preRestart (.ok ())]) = true := by
    decide
  obtain ⟨noted, reached, entry, notes⟩ : ∃ noted, Reachable step Initial noted ∧ _ :=
    reachable_shown ⟨⟨_, rfl⟩, rfl⟩ taken
  exact ⟨noted, notes, registered_started reached _ 0 entry⟩

end Scenarios

end Noted

end Rush.Actor
