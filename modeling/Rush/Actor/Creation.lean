import Rush.Actor.Registration

/-! Concurrent creations at one path. The test whether the path is free, the two
insertions and the two removals of the clean-up are separate accesses, so they can
meet what another call has put there. -/

namespace Rush.Actor

open Rush.Library Runs

namespace World

/-- Nothing stops an actor at the path: no `stop_child`, and only signals of instances
whose creation failed are answered. -/
def CallStopless (world : World) (path : ActorPath) : Call → Prop
  | .stopChild other _ | .takeSender other _ => other ≠ path
  | .removeChild other emitter => other = path → ∃ id ∈ emitter, id ∉ world.history.created
  | _ => True

def CallApart (world : World) (path : ActorPath) (supervisor : Supervisor) : Call → Prop
  | .insertEntry child | .dropEntry child _ => ∀ runner ∈ world.actors[child]?,
      runner.path = path → world.registry.lookup path = none
  | .insertSender child | .dropSender child _ => ∀ runner ∈ world.actors[child]?,
      supervisor = .system → runner.path = path → world.senderOf .system path = none
  | .removeChild other _ => other = path → world.registry.lookup path = none
  | .removeSender other =>
      supervisor = .system → other = path → world.senderOf .system path = none
  | _ => True

def Stopless (path : ActorPath) (world : World) : Label → Prop
  | .task task _ => ∀ call ∈ world.callOf task, world.CallStopless path call
  | .cancel => True

def Apart (path : ActorPath) (world : World) : Label → Prop
  | .task task _ => ∀ call ∈ world.callOf task, world.CallApart path task.supervisor call
  | .cancel => True

def Won (world : World) (path : ActorPath) (id : ActorId) : Prop :=
  id ∈ world.history.created ∧ world.identityOf id = some (path, .system)

/-- One creation at the path has succeeded at most, and what it put into the maps is there. -/
structure OneWinner (world : World) (path : ActorPath) : Prop where
  single : ∀ first second, world.Won path first → world.Won path second → first = second
  kept : ∀ id, world.Won path id →
    world.registry.lookup path = some id ∧ world.senderOf .system path = some id

structure Inserted (world : World) (path : ActorPath) : Prop where
  known : ∀ id ∈ world.history.created, ∃ identity, world.identityOf id = some identity
  entry : ∀ task id, world.callOf task = some (.insertSender id) →
    world.identityOf id = some (path, .system) → world.registry.lookup path = some id
  won : ∀ id, world.Won path id →
    world.registry.lookup path = some id ∧ world.senderOf .system path = some id

variable {world next after : World} {label : Label} {task : Task} {path : ActorPath}

theorem Inserted.oneWinner (inserted : world.Inserted path) : world.OneWinner path := by
  constructor
  case single =>
    intro first second firstWon secondWon
    have firstEntry := (inserted.won first firstWon).1
    have secondEntry := (inserted.won second secondWon).1
    exact Option.some.inj (firstEntry.symm.trans secondEntry)
  case kept => exact inserted.won

section Accesses

variable {call : Call} {progress : Progress}

theorem Access.inserting {supervisor : Supervisor} {id : ActorId}
    (access : Access world supervisor call next (.call (.insertSender id))) :
    call = .insertEntry id ∧ ∃ runner, world.actors[id]? = some runner ∧
      next.registry = world.registry.insert runner.path id := by
  cases access.leadsTo with
  | entryInserted =>
      cases access with
      | entryInserted found => exact ⟨rfl, _, found, rfl⟩

theorem access_keeps_entry (stopless : world.CallStopless path call)
    (apart : world.CallApart path task.supervisor call)
    (access : Access world task.supervisor call next progress) {id : ActorId}
    (entry : world.registry.lookup path = some id) : next.registry.lookup path = some id := by
  have taken (free : world.registry.lookup path = none) : False := nomatch free.symm.trans entry
  cases access.registryEffect with
  | same registry => rw [registry, entry]
  | drop here registry calls =>
      have elsewhere : path ≠ here := by
        rintro rfl
        rcases calls with ⟨child, error, runner, rfl, found, rfl⟩ | ⟨rest, rfl⟩ | ⟨emitter, rfl⟩
        · exact taken (apart runner found rfl)
        · exact stopless rfl
        · exact taken (apart rfl)
      rw [registry, Finmap.lookup_erase_ne elsewhere, entry]
  | insert child runner found registry =>
      have elsewhere : path ≠ runner.path := fun here => taken (apart runner found here.symm)
      rw [registry, Finmap.lookup_insert_of_ne _ elsewhere, entry]

theorem access_keeps_sender (stopless : world.CallStopless path call)
    (apart : world.CallApart path task.supervisor call)
    (access : Access world task.supervisor call next progress) {id : ActorId}
    (sender : world.senderOf .system path = some id) : next.senderOf .system path = some id := by
  have held (free : world.senderOf .system path = none) : False := nomatch free.symm.trans sender
  cases access.senderEffect with
  | same senders => rw [senders, sender]
  | drop here senders calls =>
      rw [senders, if_neg, sender]
      rintro ⟨system, rfl⟩
      rcases calls with ⟨child, error, runner, rfl, found, rfl⟩ | ⟨rest, rfl⟩ | rfl
      · exact held (apart runner found system.symm rfl)
      · exact stopless rfl
      · exact held (apart system.symm rfl)
  | insert child runner found senders =>
      rw [senders, if_neg, sender]
      rintro ⟨system, here⟩
      exact held (apart runner found system.symm here.symm)

end Accesses

theorem own_inserted (inserted : world.Inserted path) (idle : world.callOf task = none)
    (follows : Follows task world after)
    (begins : ∀ call, after.callOf task = some call → call.BegunBy task) :
    after.Inserted path := by
  constructor
  case known =>
    intro id created
    rw [follows.history] at created
    obtain ⟨identity, known⟩ := inserted.known id created
    exact ⟨identity, by rw [follows.identity, known]⟩
  case entry =>
    intro other id calling identity
    rw [follows.identity] at identity
    rw [follows.registry]
    by_cases here : other = task
    · subst here
      exact (begins _ calling).elim
    · rw [follows.others other here] at calling
      exact inserted.entry other id calling identity
  case won =>
    rintro id ⟨created, identity⟩
    rw [follows.history] at created
    rw [follows.identity] at identity
    rw [follows.registry, follows.senders]
    exact inserted.won id ⟨created, identity⟩

theorem access_inserted {call : Call} {progress : Progress} (custodial : world.Custodial)
    (inserted : world.Inserted path) (calling : world.callOf task = some call)
    (stopless : world.CallStopless path call) (apart : world.CallApart path task.supervisor call)
    (access : Access world task.supervisor call next progress) (follows : Follows task next after)
    (continues : progress.Continues task (after.callOf task)) : after.Inserted path := by
  have before {id : ActorId} {runner : ActorRunner} {identity : ActorPath × Supervisor}
      (found : world.actors[id]? = some runner) (known : after.identityOf id = some identity) :
      runner.identity = identity := by
    have here : world.identityOf id = some runner.identity :=
      identityOf_found found
    rw [follows.identity] at known
    exact Option.some.inj ((access.identityOf here).symm.trans known)
  constructor
  case known =>
    intro id created
    rw [follows.history] at created
    rcases access.created_cases created with old | ⟨_, runner, found⟩
    · obtain ⟨identity, known⟩ := inserted.known id old
      exact ⟨identity, by rw [follows.identity]; exact access.identityOf known⟩
    · refine ⟨runner.identity, ?_⟩
      rw [follows.identity]
      exact access.identityOf (identityOf_found found)
  case entry =>
    intro other id waits identity
    rw [follows.registry]
    by_cases here : other = task
    · subst here
      cases progress with
      | «return» outcome => exact (continues _ waits).elim
      | call goesOn =>
          obtain rfl := Option.some.inj ((show _ = some goesOn from continues).symm.trans waits)
          obtain ⟨rfl, runner, found, registry⟩ := access.inserting
          obtain rfl : runner.path = path := congrArg Prod.fst (before found identity)
          rw [registry, Finmap.lookup_insert]
    · rw [follows.others other here, access.callOf] at waits
      have hand : world.held (.hand other) = some id := by simp [held, waits, Call.carries]
      obtain ⟨known, labelled, _⟩ := custodial.labelled (.hand other) id hand
      obtain ⟨runner, found, same⟩ := Option.map_eq_some_iff.mp labelled
      have here : world.identityOf id = some (path, .system) := by
        rw [← before found identity, same]
        exact labelled
      exact access_keeps_entry stopless apart access (inserted.entry other id waits here)
  case won =>
    rintro id ⟨created, identity⟩
    rw [follows.history] at created
    rw [follows.registry, follows.senders]
    rcases access.created_cases created with old | ⟨rfl, runner, found⟩
    · obtain ⟨was, known⟩ := inserted.known id old
      obtain ⟨runner, found, same⟩ := Option.map_eq_some_iff.mp known
      have here : world.identityOf id = some (path, .system) := by
        rw [← before found identity, same]
        exact known
      obtain ⟨entry, sender⟩ := inserted.won id ⟨old, here⟩
      exact ⟨access_keeps_entry stopless apart access entry,
        access_keeps_sender stopless apart access sender⟩
    · have same := before found identity
      have here : world.identityOf id = some (path, .system) :=
        Option.map_eq_some_iff.mpr ⟨runner, found, same⟩
      have entry := inserted.entry task id calling here
      obtain ⟨known, labelled, fits⟩ :=
        custodial.labelled (.hand task) id (by simp [held, calling, Call.carries])
      obtain rfl := Option.mem_unique labelled here
      refine ⟨access_keeps_entry stopless apart access entry, ?_⟩
      cases access with
      | senderInserted foundHere =>
          obtain rfl := Option.some.inj (found.symm.trans foundHere)
          rw [record_senderOf, holdSender_senderOf, if_pos ⟨fits, (congrArg Prod.fst same).symm⟩]

theorem inserted_reached (reached : Guarded step Initial
      (fun world label => world.Stopless path label ∧ world.Apart path label) world) :
    world.Inserted path := by
  have invariant : world.Custodial ∧ world.Inserted path := by
    refine guarded_invariant (fun world => world.Custodial ∧ world.Inserted path) ?_ ?_ reached
    · rintro world ⟨config, rfl⟩
      refine ⟨new_custodial config, ?_⟩
      constructor
      case known => exact fun id created => nomatch created
      case entry => exact fun task id calling => nomatch (new_callOf config task).symm.trans calling
      case won => exact fun id won => nomatch won.1
    · rintro world label after ⟨custodial, inserted⟩ ⟨stopless, apart⟩ taken
      refine ⟨step_custodial custodial taken, ?_⟩
      cases label with
      | cancel =>
          cases taken
          refine ⟨inserted.known, fun task id calling => ?_, inserted.won⟩
          exact inserted.entry task id (by cases task <;> exact calling)
      | task task choice =>
          cases step_task taken with
          | access calling access follows continues =>
              exact access_inserted custodial inserted calling (stopless _ calling)
                (apart _ calling) access follows continues
          | own idle follows begins => exact own_inserted inserted idle follows begins
  exact invariant.2

/-- One winner per path in every run in which nothing is stopped at the path and no
creation there meets what another one has put into the maps. -/
theorem one_winner (reached : Guarded step Initial
      (fun world label => world.Stopless path label ∧ world.Apart path label) world) :
    world.OneWinner path :=
  (inserted_reached reached).oneWinner

section Check

instance (world : World) (path : ActorPath) (call : Call) :
    Decidable (world.CallStopless path call) := by
  apply Call.casesOn (motive := fun call => Decidable (world.CallStopless path call)) call <;>
    intros <;> delta CallStopless <;> infer_instance

instance (world : World) (path : ActorPath) (supervisor : Supervisor) (call : Call) :
    Decidable (world.CallApart path supervisor call) := by
  apply Call.casesOn (motive := fun call => Decidable (world.CallApart path supervisor call)) call <;>
    intros <;> delta CallApart <;> infer_instance

instance (path : ActorPath) (world : World) : (label : Label) → Decidable (world.Stopless path label)
  | .task task _ => inferInstanceAs (Decidable (∀ call ∈ world.callOf task, _))
  | .cancel => inferInstanceAs (Decidable True)

instance (path : ActorPath) (world : World) : (label : Label) → Decidable (world.Apart path label)
  | .task task _ => inferInstanceAs (Decidable (∀ call ∈ world.callOf task, _))
  | .cancel => inferInstanceAs (Decidable True)

end Check

section Scenarios

def beginsCreate (client : ClientId) (name : String) : List Label :=
  [.task (.client client) (.system (.createActor name .stop)), .task (.client client) .proceed]

theorem late_call_refused :
    ∃ world, Guarded step Initial (fun world label => world.Stopless (rootPath / "a") label ∧
        world.Apart (rootPath / "a") label) world ∧
      world.OneWinner (rootPath / "a") ∧ world.Won (rootPath / "a") 0 ∧ world.clients 1 = none := by
  have taken : ((Runs.checkedRun step
      (fun world label => decide (world.Stopless (rootPath / "a") label ∧
        world.Apart (rootPath / "a") label)) (World.new Config.default)
      (creates 0 "a" ++ beginsCreate 1 "a")).any fun world =>
          0 ∈ world.history.created ∧ world.identityOf 0 = some (rootPath / "a", .system) ∧
            world.clients 1 = none) = true := by
    decide
  obtain ⟨world, reached, created, identity, refused⟩ :
      ∃ world, Guarded step Initial (fun world label => world.Stopless (rootPath / "a") label ∧
        world.Apart (rootPath / "a") label) world ∧ _ :=
    guarded_shown (fun _ _ => of_decide_eq_true) ⟨_, rfl⟩ taken
  exact ⟨world, reached, one_winner reached, ⟨created, identity⟩, refused⟩

/-- Two clients that test the path before either inserts both succeed. -/
theorem two_calls_win :
    ¬ ∀ path world, Guarded step Initial (Stopless path) world → world.OneWinner path := by
  intro claimed
  have taken : ((Runs.checkedRun step
      (fun world label => decide (world.Stopless (rootPath / "a") label))
      (World.new Config.default)
      (beginsCreate 0 "a" ++ beginsCreate 1 "a" ++ starts 0 ++ starts 1 ++
        List.replicate 3 (Label.task (.client 0) .proceed) ++
        List.replicate 3 (Label.task (.client 1) .proceed))).any fun world =>
          0 ∈ world.history.created ∧ 1 ∈ world.history.created ∧
            world.identityOf 0 = some (rootPath / "a", .system) ∧
            world.identityOf 1 = some (rootPath / "a", .system)) = true := by
    decide
  obtain ⟨world, reached, first, second, firstNamed, secondNamed⟩ :
      ∃ world, Guarded step Initial (Stopless (rootPath / "a")) world ∧ _ :=
    guarded_shown (fun _ _ => of_decide_eq_true) ⟨_, rfl⟩ taken
  exact nomatch (claimed _ world reached).single 0 1 ⟨first, firstNamed⟩ ⟨second, secondNamed⟩

end Scenarios

end World

end Rush.Actor
