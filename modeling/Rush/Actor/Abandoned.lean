import Rush.Actor.Actions
import Rush.Actor.RunLoop
import Rush.Actor.Signals

/-! An actor that nobody refers to any more. A receiver of tokio yields `None` when its
channel is empty and no sender of it is left, so beside the system run the messages that
wait and the references that user code holds; the other senders are found where the
system's state keeps them. -/

namespace Rush.Actor

open Rush.Library Runs

/-- The child to which a local of `create_actor` refers. -/
def Call.holdsRef : Call → Option ActorId
  | .initResult child | .dropEntry child _ | .dropSender child _ | .insertEntry child
  | .insertSender child => some child
  | _ => none

def Call.holdsSenders : Call → List ActorId
  | .sendRestart child rest => child :: rest
  | call => call.carries.toList

theorem Call.carries_holds {call : Call} {child : ActorId} (carries : call.carries = some child) :
    child ∈ call.holdsSenders := by
  cases call with
  | sendRestart => cases carries
  | _ => exact Option.mem_toList.mpr carries

theorem Call.holdsRef_carries {call : Call} {child : ActorId} (holds : call.holdsRef = some child) :
    call.carries = some child := by
  cases call with
  | initResult | dropEntry | dropSender | insertEntry | insertSender => exact holds
  | _ => cases holds

theorem Call.BegunBy.holdsSenders {call : Call} {task : Task} (begun : call.BegunBy task) :
    call.holdsSenders = [] := by
  cases call <;> first | rfl | exact begun.elim

inductive Owner where
  | registry (path : ActorPath)
  /-- User code, in a variable or in the state of an actor. -/
  | user
  /-- A local of the call that a task is in. -/
  | call (task : Task)
  /-- The map of action senders of a supervision handler. -/
  | handler (supervisor : Supervisor) (path : ActorPath)
  /-- The context of a runner: its handler has the sender for the signals of its own
  children, and it has the one for its own signals. -/
  | context (id : ActorId)

namespace World

/-- The handler is gone with the task that owned it. -/
def dropped (world : World) : Supervisor → Bool
  | .system => false
  | .actor id => world.actors[id]?.any ActorRunner.finished

/-- The actor whose `select!` takes a message in this step. -/
def receiver (world : World) : Label → Option ActorId
  | .task (.actor id) .message => if world.selects (.actor id) then some id else none
  | _ => none

/-- The child whose reference `create_actor` returns in this step. -/
def returned (world : World) : Label → Option ActorId
  | .task task _ =>
      match world.callOf task with
      | some (.insertSender child) => some child
      | _ => none
  | .cancel => none

end World

/-- The system with the messages that wait for each actor and the references to it that
user code holds. At a full mailbox a sender waits, so no bound is needed. -/
structure Host where
  world : World
  mailbox : ActorId → Nat
  refs : ActorId → Nat

namespace Host

inductive Label where
  | world (label : World.Label)
  /-- `get_actor` or `get_child`. -/
  | getActor (path : ActorPath) (id : ActorId)
  | cloneRef (id : ActorId)
  | dropRef (id : ActorId)
  /-- `tell` or `ask`. -/
  | tell (id : ActorId)

def grant (host : Host) : Option ActorId → ActorId → Nat
  | some child => Function.update host.refs child (host.refs child + 1)
  | none => host.refs

def step (host : Host) : Label → Option Host
  | .world label =>
      (host.world.step label).bind fun world =>
        let refs := host.grant (host.world.returned label)
        match host.world.receiver label with
        | none => some { host with world, refs }
        | some id =>
            if 0 < host.mailbox id then
              some
                { world, refs, mailbox := Function.update host.mailbox id (host.mailbox id - 1) }
            else none
  | .getActor path id =>
      if host.world.registry.lookup path = some id then
        some { host with refs := host.grant (some id) }
      else none
  | .cloneRef id =>
      if 0 < host.refs id then some { host with refs := host.grant (some id) } else none
  | .dropRef id =>
      if 0 < host.refs id then
        some { host with refs := Function.update host.refs id (host.refs id - 1) }
      else none
  | .tell id =>
      if 0 < host.refs id ∧ host.world.finished id = false then
        some { host with mailbox := Function.update host.mailbox id (host.mailbox id + 1) }
      else none

def new (config : Config) : Host := { world := .new config, mailbox := fun _ => 0, refs := fun _ => 0 }

def Initial (host : Host) : Prop := ∃ config, host = new config

section Receivers

variable (host : Host) (id : ActorId)

def mailboxSenders : Set Owner := fun owner =>
  match owner with
  | .registry path => host.world.registry.lookup path = some id
  | .user => 0 < host.refs id
  | .call task => ∃ call, host.world.callOf task = some call ∧ call.holdsRef = some id
  | _ => False

def actionSenders : Set Owner := fun owner =>
  match owner with
  | .handler supervisor path =>
      host.world.dropped supervisor = false ∧ host.world.senderOf supervisor path = some id
  | .call task => ∃ call, host.world.callOf task = some call ∧ id ∈ call.holdsSenders
  | _ => False

/-- `ActorRunner::new` puts one sender of the signals into the runner's own handler, and
`create_actor` one into the context of each child. -/
def signalSenders : Set Owner := fun owner =>
  match owner with
  | .context holder => ∃ runner, host.world.actors[holder]? = some runner ∧
      runner.finished = false ∧ (holder = id ∨ runner.supervisor = .actor id)
  | _ => False

def MailboxNone : Prop := host.mailbox id = 0 ∧ host.mailboxSenders id = ∅

def SignalsNone : Prop := host.world.waiting (.actor id) = [] ∧ host.signalSenders id = ∅

def ActionsNone : Prop := (host.world.actions id).queue = [] ∧ host.actionSenders id = ∅

/-- The `else` branch of the `select!` in `run` is taken. -/
def ElseTaken : Prop := host.MailboxNone id ∧ host.SignalsNone id ∧ host.ActionsNone id

/-- The actor is in `run`; every reference to it and its action sender are gone, nothing
waits in its mailbox and its action channel, and no child of it runs. -/
structure Abandoned : Prop where
  selects : host.world.selects (.actor id) = true
  noRefs : host.mailboxSenders id = ∅
  noSender : host.actionSenders id = ∅
  mailbox : host.mailbox id = 0
  actions : (host.world.actions id).queue = []
  childless : ∀ (child : ActorId) (runner : ActorRunner),
    host.world.actors[child]? = some runner → runner.supervisor = .actor id → runner.finished = true

end Receivers

/-- Never: the runner holds the context, the context the handler, and the handler a sender
of the signals that the runner receives. -/
theorem own_sender {host : Host} {id : ActorId} (selects : host.world.selects (.actor id) = true) :
    .context id ∈ host.signalSenders id := by
  obtain ⟨runner, found, within⟩ := (Option.any_eq_true _ _).mp selects
  refine ⟨runner, found, ?_, .inl rfl⟩
  simp [ActorRunner.finished, ActorRunner.panicked, of_decide_eq_true within]

end Host

namespace World

variable {world next after : World} {id : ActorId}

/-- Nothing of the system reaches the actor at its `select!` any more. -/
structure Cut (world : World) (id : ActorId) : Prop where
  selects : world.selects (.actor id) = true
  unlisted : ∀ path, world.registry.lookup path ≠ some id
  unshelved : ∀ supervisor path, world.dropped supervisor = false →
    world.senderOf supervisor path ≠ some id
  unheld : ∀ task call, world.callOf task = some call → id ∉ call.holdsSenders
  actions : (world.actions id).queue = []
  childless : ∀ (child : ActorId) (runner : ActorRunner),
    world.actors[child]? = some runner → runner.supervisor = .actor id → runner.finished = true
  quiet : world.waiting (.actor id) = []

theorem Cut.found (cut : world.Cut id) :
    ∃ runner, world.actors[id]? = some runner ∧ runner.control = .select := by
  obtain ⟨runner, found, within⟩ := (Option.any_eq_true _ _).mp cut.selects
  exact ⟨runner, found, of_decide_eq_true within⟩

theorem Cut.receives (cut : world.Cut id) {choice : Choice}
    (taken : step world (.task (.actor id) choice) = some after) :
    world.receiver (.task (.actor id) choice) = some id := by
  obtain ⟨runner, found, within⟩ := cut.found
  obtain ⟨was, next, moved, foundWas, moves, rfl⟩ := actorStep_cases taken
  obtain rfl := Option.some.inj (foundWas.symm.trans found)
  cases moves with
  | message => exact if_pos cut.selects
  | signal _ received =>
      have quiet := cut.quiet
      rw [waiting, Channel.receive_queue received] at quiet
      cases quiet
  | action _ received =>
      have actions := cut.actions
      rw [Channel.receive_queue received] at actions
      cases actions
  | _ other => cases within.symm.trans other

theorem receiver_task {task : Task} {choice : Choice}
    (receives : world.receiver (.task task choice) = some id) : Task.actor id = task := by
  cases task with
  | actor other =>
      cases choice with
      | message =>
          rw [receiver, Option.ite_none_right_eq_some] at receives
          exact congrArg Task.actor (Option.some.inj receives.2).symm
      | _ => cases receives
  | runner | client => cases receives

theorem returned_call {task : Task} {choice : Choice}
    (returns : world.returned (.task task choice) = some id) :
    world.callOf task = some (.insertSender id) := by
  rw [returned] at returns
  split at returns
  next child calling =>
    obtain rfl := Option.some.inj returns
    exact calling
  next => cases returns

theorem step_others {task : Task} {choice : Choice}
    (taken : step world (.task task choice) = some after) {child : ActorId}
    (other : Task.actor child ≠ task) {runner : ActorRunner}
    (found : world.actors[child]? = some runner) : after.actors[child]? = some runner := by
  cases step_task taken with
  | own idle follows begins => rw [follows.runners child other, found]
  | access calling access follows continues =>
      rw [follows.runners child other]
      exact access.lookup found

theorem step_dropped {task : Task} {choice : Choice}
    (taken : step world (.task task choice) = some after) {supervisor : Supervisor}
    (dropped : world.dropped supervisor = true) : after.dropped supervisor = true := by
  cases supervisor with
  | system => cases dropped
  | actor child =>
      obtain ⟨runner, found, finished⟩ := (Option.any_eq_true _ _).mp dropped
      have other : Task.actor child ≠ task := by
        rintro rfl
        obtain ⟨was, next, moved, foundWas, moves, _⟩ := actorStep_cases taken
        obtain rfl := Option.some.inj (foundWas.symm.trans found)
        exact absurd finished (by rw [moves.unfinished]; decide)
      exact (Option.any_eq_true _ _).mpr ⟨runner, step_others taken other found, finished⟩

theorem step_undropped {task : Task} {choice : Choice}
    (taken : step world (.task task choice) = some after) :
    world.dropped task.supervisor = false := by
  cases task with
  | actor child =>
      obtain ⟨runner, next, moved, found, moves, _⟩ := actorStep_cases taken
      rw [Task.supervisor, dropped, found, Option.any_some, moves.unfinished]
  | runner | client => rfl

theorem Access.holdsSenders_cases {supervisor : Supervisor} {call goesOn : Call}
    (access : Access world supervisor call next (.call goesOn)) {child : ActorId}
    (holds : child ∈ goesOn.holdsSenders) :
    child ∈ call.holdsSenders ∨ (∃ path, world.senderOf supervisor path = some child) ∨
      child = world.actors.length := by
  have single (carries : goesOn.carries = some child) : child ∈ call.holdsSenders ∨
      (∃ path, world.senderOf supervisor path = some child) ∨ child = world.actors.length := by
    rcases access.carries_cases carries with old | held | ⟨path, strategy, _, new⟩
    · exact .inl (Call.carries_holds old)
    · exact .inr (.inl held)
    · exact .inr (.inr new)
  cases goesOn with
  | sendRestart first rest =>
      rcases access.sendRestart_cases with ⟨_, held⟩ | ⟨before, rfl⟩
      · exact .inr (.inl (held child holds))
      · exact .inl (List.mem_cons_of_mem before holds)
  | _ => exact single (Option.mem_toList.mp holds)

section CutStep

variable {task : Task} {choice : Choice}

theorem cut_apart (cut : world.Cut id) {child : ActorId} {call : Call}
    (calling : world.callOf task = some call) (carries : call.carries = some child) : child ≠ id := by
  rintro rfl
  exact cut.unheld task call calling (Call.carries_holds carries)

theorem cut_unlisted (cut : world.Cut id) (taken : step world (.task task choice) = some after)
    (path : ActorPath) : after.registry.lookup path ≠ some id := by
  cases step_task taken with
  | own idle follows begins =>
      rw [follows.registry]
      exact cut.unlisted path
  | access calling access follows continues =>
      rw [follows.registry]
      cases access.registryEffect with
      | same registry =>
          rw [registry]
          exact cut.unlisted path
      | drop here registry =>
          rw [registry]
          by_cases same : path = here
          · rw [same, Finmap.lookup_erase]
            nofun
          · rw [Finmap.lookup_erase_ne same]
            exact cut.unlisted path
      | insert child runner found registry =>
          rw [registry]
          by_cases same : path = runner.path
          · rw [same, Finmap.lookup_insert]
            exact fun new => cut_apart cut calling rfl (Option.some.inj new)
          · rw [Finmap.lookup_insert_of_ne _ same]
            exact cut.unlisted path

theorem cut_unshelved (cut : world.Cut id) (taken : step world (.task task choice) = some after)
    {supervisor : Supervisor} {path : ActorPath} (alive : after.dropped supervisor = false) :
    after.senderOf supervisor path ≠ some id := by
  intro held
  have aliveBefore : world.dropped supervisor = false := by
    by_contra dropped
    rw [step_dropped taken (Bool.of_not_eq_false dropped)] at alive
    cases alive
  cases step_task taken with
  | own idle follows begins =>
      rw [follows.senders] at held
      exact cut.unshelved supervisor path aliveBefore held
  | access calling access follows continues =>
      rw [follows.senders] at held
      rcases access.senderOf_cases held with old | ⟨rfl, _⟩
      · exact cut.unshelved supervisor path aliveBefore old
      · exact cut_apart cut calling rfl rfl

theorem cut_unheld (cut : world.Cut id) (taken : step world (.task task choice) = some after)
    {holder : Task} {call : Call} (calling : after.callOf holder = some call) :
    id ∉ call.holdsSenders := by
  intro holds
  cases step_task taken with
  | own idle follows begins =>
      by_cases same : holder = task
      · subst same
        rw [(begins call calling).holdsSenders] at holds
        exact List.not_mem_nil holds
      · rw [follows.others holder same] at calling
        exact cut.unheld holder call calling holds
  | @access before next progress began access follows continues =>
      by_cases same : holder = task
      · subst same
        cases progress with
        | call goesOn =>
            obtain rfl := Option.some.inj (calling.symm.trans continues)
            obtain ⟨runner, found, _⟩ := cut.found
            rcases access.holdsSenders_cases holds with old | ⟨path, held⟩ | new
            · exact cut.unheld holder before began old
            · exact cut.unshelved holder.supervisor path (step_undropped taken) held
            · obtain ⟨bound, _⟩ := List.getElem?_eq_some_iff.mp found
              exact absurd new (Nat.ne_of_lt bound)
        | «return» outcome =>
            rw [(continues call calling).holdsSenders] at holds
            exact List.not_mem_nil holds
      · rw [follows.others holder same, access.callOf] at calling
        exact cut.unheld holder call calling holds

theorem cut_actions (cut : world.Cut id) (taken : step world (.task task choice) = some after) :
    (after.actions id).queue = [] := by
  have kept {before : World} (follows : Follows task before after)
      (actions : (before.actions id).queue = []) : (after.actions id).queue = [] := by
    rcases follows.queues id with ⟨same, _⟩ | ⟨action, queue, _⟩
    · rw [same, actions]
    · rw [actions] at queue
      cases queue
  cases step_task taken with
  | own idle follows begins => exact kept follows cut.actions
  | access calling access follows continues =>
      refine kept follows ?_
      cases access.actionEffect with
      | none actions =>
          rw [actions]
          exact cut.actions
      | send child action calls queue others =>
          have different : id ≠ child := by
            rintro rfl
            rcases calls with ⟨_, carries⟩ | ⟨_, rest, rfl⟩
            · exact cut_apart cut calling carries rfl
            · exact cut.unheld task _ calling List.mem_cons_self
          rw [others id different]
          exact cut.actions

theorem cut_childless (cut : world.Cut id) (other : Task.actor id ≠ task)
    (taken : step world (.task task choice) = some after) {child : ActorId} {moved : ActorRunner}
    (foundAfter : after.actors[child]? = some moved) (supervised : moved.supervisor = .actor id) :
    moved.finished = true := by
  by_cases same : Task.actor child = task
  · subst same
    obtain ⟨was, _, _, foundWas, _⟩ := actorStep_cases taken
    obtain ⟨next, moves, _⟩ := step_own taken foundWas foundAfter
    have identity := (Prod.mk.inj moves.identity).2
    have finished := cut.childless child was foundWas (identity.symm.trans supervised)
    rw [moves.unfinished] at finished
    cases finished
  · cases before : world.actors[child]? with
    | some was =>
        obtain rfl := Option.some.inj (foundAfter.symm.trans (step_others taken same before))
        exact cut.childless child moved before supervised
    | none =>
        cases step_task taken with
        | own idle follows begins =>
            rw [follows.runners child same, before] at foundAfter
            cases foundAfter
        | access calling access follows continues =>
            rw [follows.runners child same] at foundAfter
            rcases access.actors with kept | ⟨path, strategy, _, added⟩
            · rw [kept, before] at foundAfter
              cases foundAfter
            · rw [added, List.getElem?_append_right (List.getElem?_eq_none_iff.mp before)]
                at foundAfter
              obtain rfl := List.mem_singleton.mp (List.mem_of_getElem? foundAfter)
              cases task with
              | actor parent =>
                  exact absurd (congrArg Task.actor (Supervisor.actor.inj supervised).symm) other
              | runner | client => cases supervised

theorem cut_quiet (phased : world.Phased) (cut : world.Cut id)
    (taken : step world (.task task choice) = some after) : after.waiting (.actor id) = [] := by
  rw [List.eq_nil_iff_forall_not_mem]
  intro sent waits
  rcases step_waiting_cases taken waits with old | ⟨⟨emitting, calling⟩, runner, found, supervised⟩
  · rw [cut.quiet] at old
    exact List.not_mem_nil old
  · obtain ⟨was, point, _, foundWas, control, _⟩ := phased.emits calling
    obtain rfl := Option.some.inj (foundWas.symm.trans found)
    have finished := cut.childless sent.1 was found supervised
    simp [ActorRunner.finished, ActorRunner.panicked, control] at finished

theorem cut_step (phased : world.Phased) (cut : world.Cut id) (other : Task.actor id ≠ task)
    (taken : step world (.task task choice) = some after) : after.Cut id := by
  obtain ⟨runner, found, within⟩ := cut.found
  constructor
  case selects =>
    rw [selects, step_others taken other found, Option.any_some]
    exact decide_eq_true within
  case unlisted => exact cut_unlisted cut taken
  case unshelved => exact fun _ _ alive held => cut_unshelved cut taken alive held
  case unheld => exact fun _ _ calling => cut_unheld cut taken calling
  case actions => exact cut_actions cut taken
  case childless => exact fun _ _ found supervised => cut_childless cut other taken found supervised
  case quiet => exact cut_quiet phased cut taken

end CutStep

end World

namespace Host

variable {host after : Host} {id : ActorId}

theorem step_world {label : World.Label} (taken : host.step (.world label) = some after) :
    host.world.step label = some after.world ∧ after.refs = host.grant (host.world.returned label) ∧
      (∀ id, host.world.receiver label = some id → 0 < host.mailbox id) ∧
      ∀ id, host.world.receiver label ≠ some id → after.mailbox id = host.mailbox id := by
  obtain ⟨world, moved, taken⟩ := Option.bind_eq_some_iff.mp taken
  cases receives : host.world.receiver label with
  | none =>
      simp only [receives] at taken
      cases taken
      exact ⟨moved, rfl, nofun, fun _ _ => rfl⟩
  | some child =>
      simp only [receives, Option.ite_none_right_eq_some] at taken
      obtain ⟨waits, taken⟩ := taken
      cases taken
      refine ⟨moved, rfl, ?_, fun id other => Function.update_of_ne ?_ _ _⟩
      · rintro id same
        obtain rfl := Option.some.inj same
        exact waits
      · exact fun same => other (congrArg some same.symm)

theorem grant_other {child : Option ActorId} (other : child ≠ some id) :
    host.grant child id = host.refs id := by
  cases child with
  | none => rfl
  | some child => exact Function.update_of_ne (fun same => other (congrArg some same.symm)) _ _

def Label.world? : Label → Option World.Label
  | .world label => some label
  | _ => none

theorem step_same {label : Label} (taken : host.step label = some after)
    (other : label.world? = none) : after.world = host.world := by
  cases label with
  | world moved => cases other
  | getActor | cloneRef | dropRef | tell =>
      simp only [step, Option.ite_none_right_eq_some] at taken
      obtain ⟨_, taken⟩ := taken
      cases taken
      rfl

theorem reached_world (reached : Reachable step Initial host) :
    Reachable World.step World.Initial host.world := by
  induction reached with
  | start initial =>
      obtain ⟨config, rfl⟩ := initial
      exact .start ⟨config, rfl⟩
  | next host label _ _ taken ih =>
      cases label with
      | world moved => exact .next _ moved ih trivial (step_world taken).1
      | _ =>
          rw [step_same taken rfl]
          exact ih

structure Forsaken (host : Host) (id : ActorId) : Prop where
  cut : host.world.Cut id
  mailbox : host.mailbox id = 0
  refs : host.refs id = 0

theorem Abandoned.forsaken (abandoned : host.Abandoned id)
    (quiet : host.world.waiting (.actor id) = []) : host.Forsaken id := by
  have noRef (owner : Owner) : owner ∉ host.mailboxSenders id :=
    Set.eq_empty_iff_forall_notMem.mp abandoned.noRefs owner
  have noSender (owner : Owner) : owner ∉ host.actionSenders id :=
    Set.eq_empty_iff_forall_notMem.mp abandoned.noSender owner
  refine { mailbox := abandoned.mailbox, refs := Nat.eq_zero_of_not_pos (noRef .user), cut := ?_ }
  exact {
    selects := abandoned.selects
    unlisted := fun path => noRef (.registry path)
    unshelved := fun supervisor path alive held => noSender (.handler supervisor path) ⟨alive, held⟩
    unheld := fun task call calling holds => noSender (.call task) ⟨call, calling, holds⟩
    actions := abandoned.actions
    childless := abandoned.childless
    quiet }

theorem Forsaken.abandoned (forsaken : host.Forsaken id) : host.Abandoned id := by
  have cut := forsaken.cut
  refine {
    selects := cut.selects
    noRefs := Set.eq_empty_iff_forall_notMem.mpr ?_
    noSender := Set.eq_empty_iff_forall_notMem.mpr ?_
    mailbox := forsaken.mailbox
    actions := cut.actions
    childless := cut.childless }
  · rintro (path | _ | task | _ | _) holds
    case registry => exact cut.unlisted path holds
    case user => exact absurd forsaken.refs (Nat.ne_of_gt holds)
    case call =>
      obtain ⟨call, calling, refers⟩ := holds
      exact cut.unheld task call calling (Call.carries_holds (Call.holdsRef_carries refers))
    case handler => exact holds
    case context => exact holds
  · rintro (_ | _ | task | ⟨supervisor, path⟩ | _) holds
    case registry => exact holds
    case user => exact holds
    case call =>
      obtain ⟨call, calling, sends⟩ := holds
      exact cut.unheld task call calling sends
    case handler => exact cut.unshelved supervisor path holds.1 holds.2
    case context => exact holds

theorem forsaken_step {label : Label} (phased : host.world.Phased) (forsaken : host.Forsaken id)
    (taken : host.step label = some after) : after.Forsaken id := by
  have cut := forsaken.cut
  have held {other : ActorId} (held : 0 < host.refs other) : id ≠ other := by
    rintro rfl
    rw [forsaken.refs] at held
    cases held
  cases label with
  | world label =>
      obtain ⟨moved, refs, waits, mailbox⟩ := step_world taken
      cases label with
      | cancel =>
          have world : after.world = { host.world with cancelled := true } :=
            (Option.some.inj moved).symm
          refine { cut := ?_, mailbox := (mailbox id nofun).trans forsaken.mailbox, refs := ?_ }
          · rw [world]
            exact {
              selects := cut.selects
              unlisted := cut.unlisted
              unshelved
                | .system => cut.unshelved .system
                | .actor child => cut.unshelved (.actor child)
              unheld
                | .actor child => cut.unheld (.actor child)
                | .runner => cut.unheld .runner
                | .client client => cut.unheld (.client client)
              actions := cut.actions
              childless := cut.childless
              quiet := cut.quiet }
          · rw [refs]
            exact forsaken.refs
      | task task choice =>
          by_cases same : Task.actor id = task
          · subst same
            have waiting := waits id (cut.receives moved)
            rw [forsaken.mailbox] at waiting
            cases waiting
          · refine { cut := World.cut_step phased cut same moved, mailbox := ?_, refs := ?_ }
            · refine (mailbox id fun receives => ?_).trans forsaken.mailbox
              exact same (World.receiver_task receives)
            · rw [refs, grant_other fun returns => ?_, forsaken.refs]
              exact cut.unheld task _ (World.returned_call returns) List.mem_cons_self
  | getActor path other =>
      simp only [step, Option.ite_none_right_eq_some] at taken
      obtain ⟨listed, taken⟩ := taken
      cases taken
      have different : some other ≠ some id := fun same => cut.unlisted path (listed.trans same)
      exact { forsaken with refs := (grant_other different).trans forsaken.refs }
  | cloneRef other =>
      simp only [step, Option.ite_none_right_eq_some] at taken
      obtain ⟨positive, taken⟩ := taken
      cases taken
      have different : some other ≠ some id := fun same => held positive (Option.some.inj same).symm
      exact { forsaken with refs := (grant_other different).trans forsaken.refs }
  | dropRef other =>
      simp only [step, Option.ite_none_right_eq_some] at taken
      obtain ⟨positive, taken⟩ := taken
      cases taken
      exact { forsaken with
        refs := (Function.update_of_ne (held positive) _ _).trans forsaken.refs }
  | tell other =>
      simp only [step, Option.ite_none_right_eq_some] at taken
      obtain ⟨⟨positive, _⟩, taken⟩ := taken
      cases taken
      exact { forsaken with
        mailbox := (Function.update_of_ne (held positive) _ _).trans forsaken.mailbox }

theorem phased_step {label : Label} (phased : host.world.Phased)
    (taken : host.step label = some after) : after.world.Phased := by
  cases label with
  | world moved => exact World.step_phased phased (step_world taken).1
  | _ =>
      rw [step_same taken rfl]
      exact phased

theorem forsaken_run {labels : List Label} (phased : host.world.Phased)
    (forsaken : host.Forsaken id) (taken : Runs.run step host labels = some after) :
    after.Forsaken id := by
  induction labels generalizing host with
  | nil =>
      obtain rfl : host = after := Option.some.inj taken
      exact forsaken
  | cons label labels ih =>
      obtain ⟨next, moved, rest⟩ := Option.bind_eq_some_iff.mp taken
      exact ih (phased_step phased moved) (forsaken_step phased forsaken moved) rest

/-- The receiver of the signals never yields `None`, so the `else` branch is not taken
whatever has been dropped. An abandoned actor without a signal to take stays at its
`select!` for good. -/
theorem abandoned_never_ends (reached : Reachable step Initial host) (abandoned : host.Abandoned id) :
    host.MailboxNone id ∧ host.ActionsNone id ∧ ¬ host.SignalsNone id ∧ ¬ host.ElseTaken id ∧
      (host.world.waiting (.actor id) = [] → ∀ labels after, Runs.run step host labels = some after →
        after.Abandoned id) := by
  have sender := own_sender abandoned.selects
  have signals : ¬ host.SignalsNone id := by
    rintro ⟨_, none⟩
    rw [none] at sender
    exact sender
  refine ⟨⟨abandoned.mailbox, abandoned.noRefs⟩, ⟨abandoned.actions, abandoned.noSender⟩, signals,
    fun taken => signals taken.2.1, ?_⟩
  intro quiet labels after ran
  have phased := World.phased_reached (reached_world reached)
  exact (forsaken_run phased (abandoned.forsaken quiet) ran).abandoned

theorem run_world {labels : List Label} (taken : Runs.run step host labels = some after) :
    Runs.run World.step host.world (labels.filterMap Label.world?) = some after.world := by
  induction labels generalizing host with
  | nil =>
      obtain rfl : host = after := Option.some.inj taken
      rfl
  | cons label labels ih =>
      obtain ⟨next, moved, rest⟩ := Option.bind_eq_some_iff.mp taken
      cases label with
      | world label => exact Option.bind_eq_some_iff.mpr ⟨next.world, (step_world moved).1, ih rest⟩
      | _ =>
          have same := ih rest
          rw [step_same moved rfl] at same
          exact same

def removesActor : List Label :=
  (World.creates 0 "a").map .world ++ [.dropRef 0] ++
    ([.task (.client 0) (.system (.removeChild (rootPath / "a"))), .task (.client 0) .proceed,
      .task (.client 0) .proceed] : List World.Label).map .world

theorem removed_abandoned : ∃ host, Reachable step Initial host ∧ host.Abandoned 0 ∧
    host.world.waiting (.actor 0) = [] := by
  have taken : ((Runs.run step (new Config.default) removesActor).any fun host =>
      decide (host.world.selects (.actor 0) = true ∧ host.world.registry.keys = ∅ ∧
        host.world.identityOf 0 = some (rootPath / "a", .system) ∧
        host.world.senderOf .system (rootPath / "a") = none ∧
        host.world.callOf (.client 0) = none ∧ host.world.callOf (.actor 0) = none ∧
        host.mailbox 0 = 0 ∧ host.refs 0 = 0 ∧ (host.world.actions 0).queue = [] ∧
        host.world.actors.length = 1 ∧ host.world.waiting (.actor 0) = [])) = true := by
    decide
  obtain ⟨host, ran, facts⟩ := (Option.any_eq_true _ _).mp taken
  obtain ⟨selects, keys, identity, sender, client, actor, mailbox, refs, actions, length, quiet⟩ :=
    of_decide_eq_true facts
  have reached : Reachable step Initial host := reachable_run (.start ⟨_, rfl⟩) ran
  have labelled := (World.custodial_reached (reached_world reached)).labelled
  have tasks : ∀ label ∈ removesActor.filterMap Label.world?,
      label.task? = some (.client 0) ∨ label.task? = some (.actor 0) := by decide
  have idle (task : Task) : host.world.callOf task = none := by
    by_cases mine : task = .client 0 ∨ task = .actor 0
    · rcases mine with rfl | rfl
      · exact client
      · exact actor
    · have waits : ∀ label ∈ removesActor.filterMap Label.world?, label.task? ≠ some task := by
        intro label member same
        rcases tasks label member with first | second
        · exact mine (.inl (Option.some.inj (same.symm.trans first)))
        · exact mine (.inr (Option.some.inj (same.symm.trans second)))
      exact (World.run_callOf (run_world ran) waits).trans (World.new_callOf _ task)
  have forsaken : host.Forsaken 0 := by
    refine { mailbox := mailbox, refs := refs, cut := ?_ }
    constructor
    case selects => exact selects
    case unlisted =>
      intro path listed
      have member := Finmap.mem_keys.mpr (Finmap.mem_of_lookup_eq_some listed)
      rw [keys] at member
      exact absurd member (Finset.notMem_empty path)
    case unshelved =>
      intro supervisor path _ held
      obtain ⟨known, found, fits⟩ := labelled (.shelf supervisor path) 0 held
      obtain rfl := Option.some.inj (identity.symm.trans found)
      obtain ⟨rfl, rfl⟩ := Prod.mk.inj fits
      cases held.symm.trans sender
    case unheld => exact fun task call calling => nomatch (idle task).symm.trans calling
    case actions => exact actions
    case childless =>
      intro child runner found supervised
      obtain ⟨bound, _⟩ := List.getElem?_eq_some_iff.mp found
      rw [length] at bound
      obtain rfl := Nat.lt_one_iff.mp bound
      rw [World.identityOf, found] at identity
      cases supervised.symm.trans (Prod.mk.inj (Option.some.inj identity)).2
    case quiet => exact quiet
  exact ⟨host, reached, forsaken.abandoned, quiet⟩

theorem removed_actor_stays : ∃ host, host.Abandoned 0 ∧ ¬ host.ElseTaken 0 ∧
    ∀ labels after, Runs.run step host labels = some after → after.Abandoned 0 := by
  obtain ⟨host, reached, abandoned, quiet⟩ := removed_abandoned
  have never := abandoned_never_ends reached abandoned
  exact ⟨host, abandoned, never.2.2.2.1, never.2.2.2.2 quiet⟩

/-- A removed actor is abandoned, and its `select!` does not take the `else` branch. -/
theorem removed_actor_not_ended :
    ¬ ∀ host, Reachable step Initial host → ∀ id, host.Abandoned id → host.ElseTaken id := by
  intro claimed
  obtain ⟨host, reached, abandoned, _⟩ := removed_abandoned
  have sender := own_sender abandoned.selects
  rw [(claimed host reached 0 abandoned).2.1.2] at sender
  exact sender

end Host

end Rush.Actor
