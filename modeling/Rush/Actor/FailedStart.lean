import Rush.Actor.Registration

/-! What a failed creation leaves behind. The clean-up of `create_actor` removes the
failed actor's own path; what its hooks have created before stays. -/

namespace Rush.Actor

open Rush.Library Runs

namespace World

def StartedBy (world : World) (first : ActorId) : ActorId → Prop :=
  Relation.ReflTransGen (fun parent child =>
    ∃ path, world.identityOf child = some (path, .actor parent)) first

/-- Its creation has returned an error: no call has it in hand and none has returned it. -/
def CreationFailed (world : World) (id : ActorId) : Prop :=
  id ∉ world.history.created ∧ ∀ task, world.held (.hand task) ≠ some id

/-- The runner is gone and its Stopped signal, if it has emitted one, is answered. -/
def EndAnswered (world : World) (id : ActorId) : Prop :=
  world.finished id = true ∧ (id ∈ world.history.emitted → id ∈ world.history.processed)

def Cleared (world : World) (id : ActorId) : Prop :=
  ∀ other, world.StartedBy id other → other ≠ id →
    world.finished other = true ∧ ∀ path, world.registry.lookup path ≠ some other

variable {world next after : World} {label : Label} {task : Task} {id other : ActorId}
  {registry : ActorRegistry}

section StartedBy

theorem StartedBy.mono (taken : step world label = some after) (started : world.StartedBy id other) :
    after.StartedBy id other := by
  induction started with
  | refl => exact .refl
  | tail _ born ih =>
      obtain ⟨path, identity⟩ := born
      exact ih.tail ⟨path, step_identity taken identity⟩

theorem StartedBy.le (known : world.Known) (started : world.StartedBy id other) : id ≤ other := by
  induction started with
  | refl => exact Nat.le_refl _
  | tail _ born ih =>
      obtain ⟨path, identity⟩ := born
      exact ih.trans (known.supervisors _ path _ identity).le

theorem identityOf_old (taken : step world label = some after) (old : other < world.actors.length) :
    after.identityOf other = world.identityOf other := by
  have found := identityOf_found (List.getElem?_eq_getElem old)
  rw [found, step_identity taken found]

theorem StartedBy.back (known : world.Known) (taken : step world label = some after)
    (started : after.StartedBy id other) (old : other < world.actors.length) :
    world.StartedBy id other := by
  induction started with
  | refl => exact .refl
  | tail _ born ih =>
      obtain ⟨path, identity⟩ := born
      rw [identityOf_old taken old] at identity
      exact (ih ((known.supervisors _ path _ identity).trans old)).tail ⟨path, identity⟩

theorem StartedBy.carried (custodial : world.Custodial) {call : Call} {child : ActorId}
    (calling : world.callOf (.actor other) = some call) (carries : call.carries = some child)
    (started : world.StartedBy id other) : world.StartedBy id child := by
  obtain ⟨⟨path, supervisor⟩, known, fits⟩ :=
    custodial.labelled (.hand (.actor other)) child (by simp [held, calling, carries])
  obtain rfl : supervisor = .actor other := fits
  exact started.tail ⟨path, known⟩

end StartedBy

/-- The state of an attempt to start the instance `id`: what has come to the registry since
then belongs to the attempt, at paths that were free. -/
structure Attempt (registry : ActorRegistry) (world : World) (id : ActorId) : Prop where
  older : ∀ path other, registry.lookup path = some other → other < id
  kept : ∀ path other, registry.lookup path = some other → world.registry.lookup path = some other
  added : ∀ path other, world.registry.lookup path = some other →
    registry.lookup path = some other ∨ world.StartedBy id other
  free : ∀ child path supervisor, world.StartedBy id child →
    world.identityOf child = some (path, supervisor) → path ∉ registry
  returned : ∀ path, world.registry.lookup path = some id → id ∈ world.history.created ∨
    ∃ task, world.callOf task = some (.insertSender id)
  cleared : ∀ runner, world.actors[id]? = some runner → runner.finished = true → world.Cleared id

section Attempt

variable {call : Call} {progress : Progress}

theorem Attempt.unregistered (attempt : Attempt registry world id) {path : ActorPath}
    (absent : path ∉ world.registry) : path ∉ registry := by
  intro present
  obtain ⟨other, entry⟩ := Option.isSome_iff_exists.mp (Finmap.lookup_isSome.mpr present)
  exact absent (Finmap.mem_of_lookup_eq_some (attempt.kept path other entry))

theorem Attempt.elsewhere (attempt : Attempt registry world id) {child : ActorId}
    {runner : ActorRunner} (started : world.StartedBy id child)
    (found : world.actors[child]? = some runner) {path : ActorPath}
    (entry : registry.lookup path = some other) : path ≠ runner.path := by
  rintro rfl
  exact attempt.free child runner.path runner.supervisor started (identityOf_found found)
    (Finmap.mem_of_lookup_eq_some entry)

theorem RunnerStep.ends {runner moved : ActorRunner} {choice : Choice}
    (moves : RunnerStep world id runner choice next moved) (gone : moved.finished = true) :
    runner.control.call? = none := by
  cases moves with
  | @access _ call point _ progress within =>
      cases progress with
      | call goesOn => cases gone
      | «return» outcome =>
          have arm := runner.resume_arm id point outcome
          change (runner.resume id point outcome).finished = true at gone
          generalize runner.resume id point outcome = moved at arm gone
          cases arm <;> cases gone
  | init within | woke within | requested within | tooDeep within | returned within
  | panicked within | message within | signal within | action within =>
      rw [within]
      rfl

end Attempt

section Check

end Check

section Scenarios

def failsStart (id : ActorId) : List Label :=
  .task (.actor id) (.returns (.error (.message "start"))) ::
    List.replicate 4 (Label.task (.actor id) .proceed) ++
    [Label.task (.actor id) (.returns (.ok ())), .task (.actor id) .proceed]

def startsChild (parent child : ActorId) (name : String) : List Label :=
  [Label.task (.actor parent) (.context (.createChild name .stop)), .task (.actor parent) .proceed] ++
    starts child ++ List.replicate 3 (Label.task (.actor parent) .proceed)

/-- The attempt of the first client, from its test of the path on; the hooks of the new
instance take the steps `within` before they fail. -/
def attempts (within : List Label) : List Label :=
  .task (.actor 0) .proceed :: within ++ failsStart 0 ++
    List.replicate 3 (Label.task (.client 0) .proceed) ++ systemTakesStopped

theorem creationFailed_of_idle (uncreated : id ∉ world.history.created)
    (actors : ∀ runner ∈ world.actors, runner.control.call? = none)
    (runner : world.callOf .runner = none) (clients : ∀ client, world.callOf (.client client) = none) :
    world.CreationFailed id := by
  refine ⟨uncreated, fun task holds => ?_⟩
  have idle : world.callOf task = none := by
    cases task with
    | runner => exact runner
    | client client => exact clients client
    | actor other =>
        rw [callOf]
        cases found : world.actors[other]? with
        | none => rfl
        | some runner => exact actors runner (List.mem_of_getElem? found)
  rw [held, idle] at holds
  cases holds

/-- The attempt of a scenario: the call of the first client, its test of the path, and
the steps up to the answer of the Stopped signal. -/
structure Attempted (allowed : World → Label → Prop) (world begun after : World) : Prop where
  reached : Reachable step Initial world
  calling : world.callOf (.client 0) = some (.createActor (rootPath / "a") .stop)
  taken : step world (.task (.client 0) .proceed) = some begun
  run : Guarded step (fun start => start = begun) allowed after
  failed : after.CreationFailed 0
  answered : after.EndAnswered 0

def Shown (world after : World) : Prop :=
  world.callOf (.client 0) = some (.createActor (rootPath / "a") .stop) ∧
    world.actors.length = 0 ∧ world.registry = ∅ ∧ 0 ∉ after.history.created ∧
    (∀ runner ∈ after.actors, runner.control.call? = none) ∧ after.callOf .runner = none ∧
    after.callOf (.client 0) = none ∧ after.finished 0 = true ∧ 0 ∈ after.history.processed

instance (world after : World) : Decidable (Shown world after) :=
  inferInstanceAs (Decidable (_ ∧ _ ∧ _ ∧ _ ∧ _ ∧ _ ∧ _ ∧ _ ∧ _))

theorem attempted {check : World → Label → Bool} {allowed : World → Label → Prop}
    (sound : ∀ state label, check state label = true → allowed state label)
    {within : List Label} {begun : World}
    (others : ∀ label ∈ attempts within, ∀ client, label.task? ≠ some (.client (client + 1)))
    (called : Runs.run step (World.new Config.default)
      [.task (.client 0) (.system (.createActor "a" .stop))] = some world)
    (taken : step world (.task (.client 0) .proceed) = some begun)
    (ran : Runs.checkedRun step check begun (attempts within) = some after)
    (shown : Shown world after) : Attempted allowed world begun after := by
  obtain ⟨calling, _, _, uncreated, actors, runner, client, finished, processed⟩ := shown
  constructor
  case reached => exact reachable_run (.start ⟨_, rfl⟩) called
  case calling => exact calling
  case taken => exact taken
  case run => exact guarded_checkedRun sound (.start rfl) ran
  case failed =>
    refine creationFailed_of_idle uncreated actors runner ?_
    intro other
    cases other with
    | zero => exact client
    | succ other =>
        have last := @run_callOf _ _ (.client (other + 1)) _ (run_of_checkedRun ran)
          fun label member => others label member other
        have second := @run_callOf _ _ (.client (other + 1)) [.task (.client 0) .proceed]
          (Option.bind_eq_some_iff.mpr ⟨begun, taken, rfl⟩) (by simp [Label.task?])
        have first := @run_callOf _ _ (.client (other + 1)) _ called (by simp [Label.task?])
        rw [last, second, first, new_callOf]
  case answered => exact ⟨finished, fun _ => processed⟩

end Scenarios

end World

end Rush.Actor
