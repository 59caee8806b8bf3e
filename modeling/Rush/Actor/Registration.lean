import Rush.Actor.Actions
import Rush.Actor.RunLoop

/-! Registrations and the instances they name. The registry and the maps of
senders are keyed by path alone, so an access meant for one instance can hit
another of the same path. -/

namespace Rush.Actor

open Rush.Library Runs

namespace World

def Sending (world : World) (id : ActorId) : Prop :=
  ∃ task rest, world.callOf task = some (.sendStop id rest)

def Taking (world : World) (supervisor : Supervisor) (path : ActorPath) : Prop :=
  ∃ task rest, task.supervisor = supervisor ∧ world.callOf task = some (.takeSender path rest)

/-- The instance has terminated, or a Stop has been sent to it or is about to be. -/
def Leaving (world : World) (id : ActorId) : Prop :=
  id ∈ world.history.stopSent ∨ world.finished id = true ∨ world.Sending id

def Spare (world : World) (id : ActorId) : Prop := id ∉ world.history.created ∨ world.Leaving id

/-- The registrations match the life of the actors. A `stop_child` removes the entry
before it sends the Stop; in between the instance counts as being stopped. -/
structure RegistrationsMatch (world : World) : Prop where
  alive : ∀ id : ActorId, ∀ runner ∈ world.actors[id]?, id ∈ world.history.created →
    id ∉ world.history.stopSent → runner.finished = false →
    ¬ world.Sending id → ¬ world.Taking runner.supervisor runner.path →
    world.registry.lookup runner.path = some id ∧
      world.senderOf runner.supervisor runner.path = some id
  gone : ∀ id ∈ world.history.processed, world.finished id = true →
    ∀ path, world.registry.lookup path ≠ some id

/-- The condition on one access: what it takes away or replaces under its path is
spare, and a creation inserts an instance whose end has not been answered yet. -/
def CallOrderly (world : World) (spare : ActorId → Prop) (taking : Supervisor → ActorPath → Prop)
    (supervisor : Supervisor) : Call → Prop
  | .insertEntry child =>
      child ∉ world.history.processed ∧
        ∀ runner ∈ world.actors[child]?, ∀ other ∈ world.registry.lookup runner.path, spare other
  | .insertSender child => ∀ runner ∈ world.actors[child]?,
      (∀ other ∈ world.senderOf supervisor runner.path, spare other) ∧
        (world.registry.lookup runner.path = some child ∨ world.finished child = true ∨
          taking supervisor runner.path)
  | .dropEntry child _ =>
      ∀ runner ∈ world.actors[child]?, ∀ other ∈ world.registry.lookup runner.path, spare other
  | .dropSender child _ =>
      ∀ runner ∈ world.actors[child]?, ∀ other ∈ world.senderOf supervisor runner.path, spare other
  | .stopChild path _ => ∀ other ∈ world.registry.lookup path,
      spare other ∨ world.senderOf supervisor path = some other
  | .removeChild path emitter =>
      (∀ other ∈ world.registry.lookup path, spare other) ∧
        ∀ id ∈ emitter, ∀ runner ∈ world.actors[id]?,
          world.registry.lookup runner.path = some id → runner.path = path
  | .removeSender path => ∀ other ∈ world.senderOf supervisor path, spare other
  | _ => True

def Orderly (world : World) : Label → Prop
  | .task task _ => ∀ call ∈ world.callOf task,
      world.CallOrderly world.Spare world.Taking task.supervisor call
  | .cancel => True

structure Registered (world : World) : Prop where
  known : ∀ id ∈ world.history.created, ∃ identity, world.identityOf id = some identity
  named : ∀ path id, world.registry.lookup path = some id →
    id ∉ world.history.processed ∧ ∃ supervisor, world.identityOf id = some (path, supervisor)
  alive : ∀ id path supervisor, world.identityOf id = some (path, supervisor) →
    id ∈ world.history.created → ¬ world.Leaving id →
    world.senderOf supervisor path = some id ∧
      (world.registry.lookup path = some id ∨ world.Taking supervisor path)

variable {world next after : World} {label : Label} {task : Task}

theorem Registered.matches (registered : world.Registered) : world.RegistrationsMatch := by
  constructor
  case alive =>
    intro id runner found created unsent unfinished notSending notTaking
    have identity : world.identityOf id = some (runner.path, runner.supervisor) :=
      identityOf_found found
    have staying : ¬ world.Leaving id := by
      rintro (sent | finished | sending)
      · exact unsent sent
      · rw [World.finished, show world.actors[id]? = some runner from found] at finished
        exact Bool.noConfusion (unfinished.symm.trans finished)
      · exact notSending sending
    obtain ⟨sender, entry | taking⟩ := registered.alive id _ _ identity created staying
    · exact ⟨entry, sender⟩
    · exact absurd taking notTaking
  case gone =>
    intro id processed _ path entry
    exact (registered.named path id entry).1 processed

section Leaving

variable {call : Call} {progress : Progress}

theorem access_leaving (calling : world.callOf task = some call)
    (access : Access world task.supervisor call next progress) (follows : Follows task next after)
    {id : ActorId} {identity : ActorPath × Supervisor} (known : world.identityOf id = some identity)
    (leaving : world.Leaving id) : after.Leaving id := by
  rcases leaving with sent | finished | ⟨other, rest, sending⟩
  · exact .inl (by rw [follows.history]; exact access.within.stopSent id sent)
  · exact .inr (.inl (follows.finished id (by rw [access.finished known]; exact finished)))
  · by_cases here : other = task
    · subst here
      obtain rfl := Option.some.inj (calling.symm.trans sending)
      cases access with
      | stopRefused gone => exact .inr (.inl (follows.finished id gone))
      | stopSent => exact .inl (by rw [follows.history]; exact List.mem_cons_self)
    · exact .inr (.inr ⟨other, rest, by rw [follows.others other here, access.callOf]; exact sending⟩)

theorem own_leaving (idle : world.callOf task = none) (follows : Follows task world after)
    {id : ActorId} (leaving : world.Leaving id) : after.Leaving id := by
  rcases leaving with sent | finished | ⟨other, rest, sending⟩
  · exact .inl (by rw [follows.history]; exact sent)
  · exact .inr (.inl (follows.finished id finished))
  · have elsewhere : other ≠ task := by
      rintro rfl
      cases idle.symm.trans sending
    exact .inr (.inr ⟨other, rest, by rw [follows.others other elsewhere]; exact sending⟩)

end Leaving

theorem access_named {call : Call} {progress : Progress} (registered : world.Registered)
    (orderly : world.CallOrderly world.Spare world.Taking task.supervisor call)
    (access : Access world task.supervisor call next progress) (path : ActorPath) (id : ActorId)
    (entry : next.registry.lookup path = some id) :
    id ∉ next.history.processed ∧ ∃ supervisor, next.identityOf id = some (path, supervisor) := by
  have old (entry : world.registry.lookup path = some id)
      (elsewhere : ∀ here, call = .removeChild here (some id) → here ≠ path) :
      id ∉ next.history.processed ∧ ∃ supervisor, next.identityOf id = some (path, supervisor) := by
    obtain ⟨unprocessed, supervisor, identity⟩ := registered.named path id entry
    refine ⟨fun processed => ?_, supervisor, access.identityOf identity⟩
    rcases access.processed_cases processed with before | ⟨here, rfl⟩
    · exact unprocessed before
    · obtain ⟨runner, found, same⟩ := Option.map_eq_some_iff.mp identity
      have own : runner.path = path := congrArg Prod.fst same
      have resolved := orderly.2 id rfl runner found (by rw [own]; exact entry)
      exact elsewhere here rfl (resolved.symm.trans own)
  cases access.registryEffect with
  | same registry calling =>
      rw [registry] at entry
      exact old entry fun here removing => absurd removing (calling here (some id))
  | drop here registry calling =>
      have apart : path ≠ here := by
        rintro rfl
        rw [registry, Finmap.lookup_erase] at entry
        cases entry
      rw [registry, Finmap.lookup_erase_ne apart] at entry
      refine old entry ?_
      rintro other rfl rfl
      rcases calling with ⟨_, _, _, removing, _⟩ | ⟨_, removing⟩ | ⟨_, removing⟩ <;> cases removing
      exact apart rfl
  | insert child runner found registry =>
      by_cases here : path = runner.path
      · rw [registry, here, Finmap.lookup_insert] at entry
        obtain rfl := Option.some.inj entry
        refine ⟨fun processed => ?_, runner.supervisor, ?_⟩
        · rcases access.processed_cases processed with before | ⟨_, removing⟩
          · exact orderly.1 before
          · cases removing
        · rw [here]
          exact access.identityOf (identityOf_found found)
      · rw [registry, Finmap.lookup_insert_of_ne _ here] at entry
        exact old entry nofun

theorem access_sender {call : Call} {progress : Progress} (calling : world.callOf task = some call)
    (orderly : world.CallOrderly world.Spare world.Taking task.supervisor call)
    (access : Access world task.supervisor call next progress) (follows : Follows task next after)
    (continues : progress.Continues task (after.callOf task)) {id : ActorId} {path : ActorPath}
    {supervisor : Supervisor} (created : id ∈ world.history.created)
    (staying : ¬ world.Leaving id) (stays : ¬ after.Leaving id)
    (sender : world.senderOf supervisor path = some id) :
    next.senderOf supervisor path = some id := by
  have kept : ¬ world.Spare id := fun spare => spare.elim (absurd created) staying
  cases access with
  | @senderDropped child error runner found =>
      rw [dropSender_senderOf, if_neg]
      · exact sender
      · rintro ⟨rfl, rfl⟩
        exact kept (orderly runner found id sender)
  | @senderInserted child runner found =>
      rw [record_senderOf, holdSender_senderOf]
      split
      case isTrue both =>
        obtain ⟨rfl, rfl⟩ := both
        exact absurd ((orderly runner found).1 id sender) kept
      case isFalse => exact sender
  | @senderTaken here rest child held =>
      rw [dropSender_senderOf, if_neg]
      · exact sender
      · rintro ⟨rfl, rfl⟩
        obtain rfl := Option.some.inj (sender.symm.trans held)
        exact stays (.inr (.inr ⟨task, rest, continues⟩))
  | senderRemoved =>
      rw [dropSender_senderOf, if_neg]
      · exact sender
      · rintro ⟨rfl, rfl⟩
        exact kept (orderly id sender)
  | emitRefused => rw [announce_senderOf]; exact sender
  | emitted => rw [setSignals_senderOf, announce_senderOf]; exact sender
  | _ => exact sender

/-- After an orderly access, an instance that stays is still registered, or the
`stop_child` that removed its entry is about to take its sender. -/
theorem access_entry {call : Call} {progress : Progress} (custodial : world.Custodial)
    (calling : world.callOf task = some call)
    (orderly : world.CallOrderly world.Spare world.Taking task.supervisor call)
    (access : Access world task.supervisor call next progress) (follows : Follows task next after)
    (continues : progress.Continues task (after.callOf task)) {id : ActorId} {path : ActorPath}
    {supervisor : Supervisor} (identity : world.identityOf id = some (path, supervisor))
    (created : id ∈ world.history.created)
    (staying : ¬ world.Leaving id) (stays : ¬ after.Leaving id)
    (sender : world.senderOf supervisor path = some id)
    (entry : world.registry.lookup path = some id ∨ world.Taking supervisor path) :
    next.registry.lookup path = some id ∨ after.Taking supervisor path := by
  have kept : ¬ world.Spare id := fun spare => spare.elim (absurd created) staying
  rcases entry with entry | ⟨other, rest, supervised, taking⟩
  · cases access.registryEffect with
    | same registry => exact .inl (by rw [registry]; exact entry)
    | insert child runner found registry =>
        by_cases here : path = runner.path
        · exact absurd (orderly.2 runner found id (by rw [← here]; exact entry)) kept
        · exact .inl (by rw [registry, Finmap.lookup_insert_of_ne _ here]; exact entry)
    | drop here registry calls =>
        by_cases same : path = here
        · subst same
          rcases calls with ⟨child, error, runner, rfl, found, rfl⟩ | ⟨rest, rfl⟩ | ⟨emitter, rfl⟩
          · exact absurd (orderly runner found id entry) kept
          · rcases orderly id entry with spare | held
            · exact absurd spare kept
            · right
              obtain ⟨known, labelled, fits⟩ :=
                custodial.labelled (.shelf task.supervisor path) id held
              have same := (Option.mem_unique labelled identity).symm.trans fits
              cases access
              exact ⟨task, rest, (congrArg Prod.snd same).symm, continues⟩
          · exact absurd (orderly.1 id entry) kept
        · exact .inl (by rw [registry, Finmap.lookup_erase_ne same]; exact entry)
  · right
    by_cases here : other = task
    · subst here
      obtain rfl := Option.some.inj (calling.symm.trans taking)
      subst supervised
      cases access with
      | noSender absent => cases absent.symm.trans sender
      | senderTaken held =>
          obtain rfl := Option.some.inj (sender.symm.trans held)
          exact absurd (.inr (.inr ⟨other, rest, continues⟩)) stays
    · exact ⟨other, rest, supervised, by rw [follows.others other here, access.callOf]; exact taking⟩

theorem access_created {call : Call} {progress : Progress} (custodial : world.Custodial)
    (calling : world.callOf task = some call)
    (orderly : world.CallOrderly world.Spare world.Taking task.supervisor call)
    (access : Access world task.supervisor call next progress) (follows : Follows task next after)
    {id : ActorId} {path : ActorPath} {supervisor : Supervisor}
    (identity : world.identityOf id = some (path, supervisor)) (inserting : call = .insertSender id)
    (stays : ¬ after.Leaving id) :
    next.senderOf supervisor path = some id ∧
      (next.registry.lookup path = some id ∨ after.Taking supervisor path) := by
  subst inserting
  obtain ⟨known, labelled, fits⟩ :=
    custodial.labelled (.hand task) id (by simp [held, calling, Call.carries])
  obtain rfl : known = (path, supervisor) := Option.mem_unique labelled identity
  obtain rfl : supervisor = task.supervisor := fits
  obtain ⟨runner, found, same⟩ := Option.map_eq_some_iff.mp identity
  obtain rfl : runner.path = path := congrArg Prod.fst same
  have stable := access.finished identity
  cases access with
  | @senderInserted _ here foundHere =>
      obtain rfl := Option.some.inj (found.symm.trans foundHere)
      refine ⟨by rw [record_senderOf, holdSender_senderOf, if_pos ⟨rfl, rfl⟩], ?_⟩
      rcases (orderly runner found).2 with entry | finished | ⟨other, rest, supervised, taking⟩
      · exact .inl entry
      · exact absurd (.inr (.inl (follows.finished id (by rw [stable]; exact finished)))) stays
      · right
        have elsewhere : other ≠ task := by
          rintro rfl
          cases calling.symm.trans taking
        exact ⟨other, rest, supervised, by rw [follows.others other elsewhere]; exact taking⟩

theorem step_registered (custodial : world.Custodial) (registered : world.Registered)
    (orderly : world.Orderly label) (taken : step world label = some after) : after.Registered := by
  cases label with
  | cancel =>
      cases taken
      exact ⟨registered.known, registered.named, registered.alive⟩
  | task task choice =>
      cases step_task taken with
      | own idle follows begins =>
          constructor
          case known =>
            intro id created
            rw [follows.history] at created
            obtain ⟨identity, known⟩ := registered.known id created
            exact ⟨identity, by rw [follows.identity]; exact known⟩
          case named =>
            intro path id entry
            rw [follows.registry] at entry
            obtain ⟨unprocessed, supervisor, identity⟩ := registered.named path id entry
            exact ⟨by rw [follows.history]; exact unprocessed, supervisor,
              by rw [follows.identity]; exact identity⟩
          case alive =>
            intro id path supervisor identity created stays
            rw [follows.identity] at identity
            rw [follows.history] at created
            have staying : ¬ world.Leaving id := fun leaving =>
              stays (own_leaving idle follows leaving)
            obtain ⟨sender, entry⟩ := registered.alive id path supervisor identity created staying
            refine ⟨by rw [follows.senders]; exact sender, ?_⟩
            rcases entry with entry | ⟨other, rest, supervised, taking⟩
            · exact .inl (by rw [follows.registry]; exact entry)
            · have elsewhere : other ≠ task := by
                rintro rfl
                cases idle.symm.trans taking
              exact .inr ⟨other, rest, supervised, by
                rw [follows.others other elsewhere]
                exact taking⟩
      | @access call next progress calling access follows continues =>
          have orderly := orderly call calling
          have before {id : ActorId} (created : id ∈ world.history.created)
              {identity : ActorPath × Supervisor} (known : next.identityOf id = some identity) :
              world.identityOf id = some identity := by
            obtain ⟨other, there⟩ := registered.known id created
            have same := (access.identityOf there).symm.trans known
            rw [there, same]
          constructor
          case known =>
            intro id created
            rw [follows.history] at created
            rcases access.created_cases created with old | ⟨_, runner, found⟩
            · obtain ⟨identity, known⟩ := registered.known id old
              exact ⟨identity, by rw [follows.identity]; exact access.identityOf known⟩
            · refine ⟨runner.identity, ?_⟩
              rw [follows.identity]
              exact access.identityOf (identityOf_found found)
          case named =>
            intro path id entry
            rw [follows.registry] at entry
            obtain ⟨unprocessed, supervisor, identity⟩ :=
              access_named registered orderly access path id entry
            exact ⟨by rw [follows.history]; exact unprocessed, supervisor,
              by rw [follows.identity]; exact identity⟩
          case alive =>
            intro id path supervisor identity created stays
            rw [follows.identity] at identity
            rw [follows.history] at created
            rw [follows.senders, follows.registry]
            rcases access.created_cases created with old | ⟨inserting, runner, found⟩
            · have identity := before old identity
              have staying : ¬ world.Leaving id := fun leaving =>
                stays (access_leaving calling access follows identity leaving)
              obtain ⟨sender, entry⟩ := registered.alive id path supervisor identity old staying
              exact ⟨access_sender calling orderly access follows continues old staying stays sender,
                access_entry custodial calling orderly access follows continues identity old staying
                  stays sender entry⟩
            · have here : world.identityOf id = some runner.identity :=
                identityOf_found found
              have same := (access.identityOf here).symm.trans identity
              exact access_created custodial calling orderly access follows (here.trans same)
                inserting stays

theorem new_registered (config : Config) : (new config).Registered := by
  constructor
  case known => exact fun _ created => nomatch created
  case named => exact fun path _ entry => nomatch (Finmap.lookup_empty path).symm.trans entry
  case alive => exact fun _ _ _ identity => nomatch identity

theorem registered_reached (reached : Guarded step Initial Orderly world) : world.Registered := by
  refine (guarded_invariant (fun world => world.Custodial ∧ world.Registered) ?_ ?_ reached).2
  · rintro world ⟨config, rfl⟩
    exact ⟨new_custodial config, new_registered config⟩
  · rintro world label after ⟨custodial, registered⟩ orderly taken
    exact ⟨step_custodial custodial taken, step_registered custodial registered orderly taken⟩

/-- In a run of orderly steps the registrations match the life of the actors. -/
theorem registrations_match (reached : Guarded step Initial Orderly world) :
    world.RegistrationsMatch := (registered_reached reached).matches

section Check

def SpareNow (world : World) (id : ActorId) : Prop :=
  id ∉ world.history.created ∨ id ∈ world.history.stopSent ∨ world.finished id = true

instance (id : ActorId) : Decidable (world.SpareNow id) :=
  inferInstanceAs (Decidable (_ ∨ _ ∨ _))

instance (supervisor : Supervisor) (call : Call) :
    Decidable (world.CallOrderly world.SpareNow (fun _ _ => False) supervisor call) := by
  apply Call.casesOn
    (motive := fun call => Decidable (world.CallOrderly world.SpareNow (fun _ _ => False) supervisor call))
    call <;> intros <;> delta CallOrderly <;> infer_instance

theorem CallOrderly.mono {spare wider : ActorId → Prop}
    {taking further : Supervisor → ActorPath → Prop} {supervisor : Supervisor} {call : Call}
    (widen : ∀ id, spare id → wider id)
    (extend : ∀ supervisor path, taking supervisor path → further supervisor path)
    (orderly : world.CallOrderly spare taking supervisor call) :
    world.CallOrderly wider further supervisor call := by
  cases call with
  | insertEntry child =>
      exact ⟨orderly.1, fun runner found other entry => widen _ (orderly.2 runner found other entry)⟩
  | insertSender child =>
      intro runner found
      obtain ⟨senders, entry⟩ := orderly runner found
      exact ⟨fun other held => widen _ (senders other held), entry.imp_right (Or.imp_right (extend _ _))⟩
  | dropEntry child error =>
      exact fun runner found other entry => widen _ (orderly runner found other entry)
  | dropSender child error =>
      exact fun runner found other held => widen _ (orderly runner found other held)
  | stopChild path rest =>
      exact fun other entry => (orderly other entry).imp_left (widen _)
  | removeChild path emitter =>
      exact ⟨fun other entry => widen _ (orderly.1 other entry), orderly.2⟩
  | removeSender path => exact fun other held => widen _ (orderly other held)
  | _ => trivial

def orderlyNow (world : World) : Label → Bool
  | .task task _ => (world.callOf task).all fun call =>
      decide (world.CallOrderly world.SpareNow (fun _ _ => False) task.supervisor call)
  | .cancel => true

theorem orderlyNow_sound (world : World) (label : Label) (checked : world.orderlyNow label = true) :
    world.Orderly label := by
  cases label with
  | cancel => trivial
  | task task choice =>
      intro call calling
      rw [orderlyNow, show world.callOf task = some call from calling] at checked
      refine CallOrderly.mono ?_ (fun _ _ => False.elim) (of_decide_eq_true checked)
      rintro id (uncreated | sent | finished)
      · exact .inl uncreated
      · exact .inr (.inl sent)
      · exact .inr (.inr (.inl finished))

end Check

section Scenarios

def systemTakesStopped : List Label :=
  .task .runner .signal :: List.replicate 2 (.task .runner .proceed)

theorem recreated_after_end :
    ∃ world, Guarded step Initial Orderly world ∧ world.RegistrationsMatch ∧
      world.history.processed = [0] ∧
      world.registry.lookup (rootPath / "a") = some 1 := by
  have taken : ((Runs.checkedRun step orderlyNow (World.new Config.default)
      (creates 0 "a" ++ stopsActor "a" ++ takesStop 0 ++ announces 0 ++ systemTakesStopped ++
        [Label.task (.actor 0) (.returns (.ok ())), .task (.actor 0) .proceed] ++
        creates 1 "a")).any fun world =>
          world.history.processed = [0] ∧
            world.registry.lookup (rootPath / "a") = some 1) = true := by
    decide
  obtain ⟨world, reached, facts⟩ : ∃ world, Guarded step Initial Orderly world ∧ _ :=
    guarded_shown orderlyNow_sound ⟨_, rfl⟩ taken
  exact ⟨world, reached, registrations_match reached, facts⟩

/-- The late Stopped signal of an instance unregisters the one that follows it. -/
theorem late_signal_unregisters :
    ¬ ∀ world, Reachable step Initial world → world.RegistrationsMatch := by
  intro claimed
  have taken : ((Runs.run step (World.new Config.default)
      (creates 0 "a" ++ stopsActor "a" ++ creates 1 "a" ++ takesStop 0 ++ announces 0 ++
        [Label.task .runner .signal, .task .runner .proceed])).any fun world =>
          (world.actors[1]?.map fun runner => (runner.identity, runner.finished)) =
              some ((rootPath / "a", .system), false) ∧
            1 ∈ world.history.created ∧ 1 ∉ world.history.stopSent ∧
            world.registry.lookup (rootPath / "a") = none ∧
            world.senderOf .system (rootPath / "a") = some 1 ∧
            world.callOf .runner = some (.removeSender (rootPath / "a")) ∧
            world.callOf (.client 0) = none) = true := by
    decide
  obtain ⟨world, ran, facts⟩ := (Option.any_eq_true _ _).mp taken
  obtain ⟨runs, created, unsent, unregistered, sender, removing, returned⟩ := of_decide_eq_true facts
  have reached : Reachable step Initial world := reachable_run (.start ⟨_, rfl⟩) ran
  obtain ⟨runner, found, same⟩ := Option.map_eq_some_iff.mp runs
  rw [Prod.mk.injEq, ActorRunner.identity, Prod.mk.injEq] at same
  obtain ⟨⟨path, supervisor⟩, unfinished⟩ := same
  have custodial := custodial_reached reached
  have notSending : ¬ world.Sending 1 := by
    rintro ⟨task, rest, sending⟩
    have hand : world.held (.hand task) = some 1 := by rw [held, sending]; rfl
    cases custodial.exclusive.unique (.shelf .system (rootPath / "a")) (.hand task) 1 sender hand
  have notTaking : ¬ world.Taking runner.supervisor runner.path := by
    rintro ⟨task, rest, supervised, taking⟩
    cases task with
    | actor id => rw [supervisor] at supervised; cases supervised
    | runner => rw [removing] at taking; cases taking
    | client id =>
        cases id with
        | zero => rw [returned] at taking; cases taking
        | succ id =>
            have idle := @run_callOf _ _ (.client (id + 1)) _ ran (by
              simp [creates, starts, stopsActor, takesStop, announces, Label.task?])
            rw [idle, new_callOf] at taking
            cases taking
  have entry := ((claimed world reached).alive 1 runner found created unsent unfinished notSending
    notTaking).1
  rw [path, unregistered] at entry
  cases entry

end Scenarios

end World

end Rush.Actor
