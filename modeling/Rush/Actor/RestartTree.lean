import Rush.Actor.Restart
import Rush.Actor.RunLoop

/-! The restart of an actor and of everyone below it. Each passes the Restart on to its
children before its own run ends. -/

namespace Rush.Actor

open Rush.Library Runs

namespace World

variable {world after : World} {id : ActorId} {runner : ActorRunner} {supervisor : Supervisor}
  {call : Call} {next : World} {progress : Progress} {label : Label}

def ChildOf (world : World) (parent child : ActorId) : Prop :=
  (∃ path, world.identityOf child = some (path, .actor parent)) ∧ world.finished child = false

def Below (world : World) (root : ActorId) : ActorId → Prop :=
  Relation.ReflTransGen world.ChildOf root

/-- Everyone in the tree waits at its `select!`: no Stop was sent to it, no Stopped signal
waits for it, and it holds the senders of its children that run, and no others. -/
structure AtRest (world : World) (root : ActorId) : Prop where
  waits : ∀ id, world.Below root id →
    ∃ runner, world.actors[id]? = some runner ∧ runner.control = .select
  unstopped : ∀ id, world.Below root id → id ∉ world.history.stopSent
  silent : ∀ id, world.Below root id → ∀ sent ∈ world.waiting (.actor id), sent.2.isStopped = false
  holds : ∀ id, world.Below root id → ∀ child,
    world.ChildOf id child ↔ ∃ path, world.senderOf (.actor id) path = some child

def LeavesAlone (tree : ActorId → Prop) : Call → Prop
  | .insertEntry _ | .dropEntry _ _ | .stopChild _ _ | .removeChild _ _ => False
  | .sendStop child _ => ¬ tree child
  | _ => True

/-- In the tree there is nothing but the restart and calm hooks, and the others leave it alone. -/
def Undisturbed (start : World) (root : ActorId) (world : World) : Label → Prop
  | .task task choice =>
      (∀ id, task = .actor id → start.Below root id →
        ∀ runner ∈ world.actors[id]?, world.HooksCalm runner choice) ∧
      ((∀ id, task = .actor id → ¬ start.Below root id) →
        ∀ call ∈ world.callOf task, LeavesAlone (start.Below root) call)
  | .cancel => True

def TakesRestart (start : World) (root : ActorId) (world : World) : Prop :=
  (start.actions root).queue.head? = some .restart ∧
    step start (.task (.actor root) .action) = some world

def Consumed (world : World) (tree : ActorId → Prop) : Prop :=
  ∀ id, tree id → (world.actions id).queue = [] ∧ world.waiting (.actor id) = [] ∧
    ∀ runner ∈ world.actors[id]?, runner.control = .select ∨ runner.finished = true

variable {start : World} {root : ActorId}

/-- What the tree keeps to during the restart, while nobody in it gives up; `took` are
those that have taken a Restart. -/
structure Standing (start : World) (root : ActorId) (took : ActorId → Prop) (world : World) :
    Prop where
  atRest : start.AtRest root
  reached : Reachable step Initial world
  registry : world.registry = start.registry
  steady : ∀ id, start.Below root id →
    ∃ runner, world.actors[id]? = some runner ∧ runner.Steady world.registry
  unstopped : ∀ id, start.Below root id → id ∉ world.history.stopSent
  silent : ∀ id, start.Below root id →
    ∀ sent ∈ world.waiting (.actor id), sent.2.isStopped = false
  senders : ∀ id, start.Below root id → ∀ path,
    world.senderOf (.actor id) path = start.senderOf (.actor id) path
  closed : ∀ id path parent, world.identityOf id = some (path, .actor parent) →
    start.Below root parent → start.Below root id ∨ world.finished id = true
  allowed : ∀ id, start.Below root id → took id → ∀ runner ∈ world.actors[id]?,
    runner.strategy.Restarts ∨ runner.control.forwards = true
  forwarded : ∀ parent child, start.Below root parent → start.ChildOf parent child →
    took parent → took child ∨ .restart ∈ (world.actions child).queue ∨
      ∃ runner, world.actors[parent]? = some runner ∧ runner.control.Sends child

variable {start : World} {root : ActorId} {took : ActorId → Prop}

theorem Standing.alive (standing : Standing start root took world) {id : ActorId}
    (below : start.Below root id) : world.finished id = false := by
  obtain ⟨runner, found, steady⟩ := standing.steady id below
  rw [finished, found]
  exact steady.unfinished

theorem Standing.running (standing : Standing start root took world) {id : ActorId}
    (below : start.Below root id) (found : world.actors[id]? = some runner) (child : ActorId)
    (rest : List ActorId) (sending : runner.control.call? = some (.sendRestart child rest)) :
    world.finished child = false := by
  have calling : world.callOf (.actor id) = some (.sendRestart child rest) :=
    (callOf_found found).trans sending
  obtain ⟨_, held⟩ := (custodial_reached standing.reached).borrowed.held _ child rest calling
  obtain ⟨path, sender⟩ := held child List.mem_cons_self
  have before : start.senderOf (.actor id) path = some child := by
    rw [← standing.senders id below path]
    exact sender
  exact standing.alive (below.tail ((standing.atRest.holds id below child).mpr ⟨path, before⟩))

/-- What no access of a step does: it writes no registry entry, sends no Stop into the
tree and creates no child there. -/
structure AccessCalm (start : World) (root : ActorId) (world : World) (task : Task) (call : Call) :
    Prop where
  registry : ∀ {next : World} {progress : Progress},
    Access world task.supervisor call next progress → next.registry = world.registry
  unstopped : ∀ child rest, call = .sendStop child rest → ¬ start.Below root child
  childless : ∀ id path strategy, task = .actor id → start.Below root id →
    call = .createActor path strategy → path ∈ world.registry

theorem LeavesAlone.registry {tree : ActorId → Prop} (alone : LeavesAlone tree call)
    (access : Access world supervisor call next progress) : next.registry = world.registry := by
  cases access.registryEffect with
  | same registry => exact registry
  | insert => exact alone.elim
  | drop here registry calls =>
      rcases calls with ⟨_, _, _, rfl, _⟩ | ⟨_, rfl⟩ | ⟨_, rfl⟩ <;> exact alone.elim

theorem Standing.harmless (standing : Standing start root took world) {id : ActorId}
    (below : start.Below root id) (calling : world.callOf (.actor id) = some call) :
    call.Harmless world.registry := by
  obtain ⟨runner, found, steady⟩ := standing.steady id below
  obtain ⟨same, foundSame, within⟩ := Option.bind_eq_some_iff.mp calling
  obtain rfl := Option.some.inj (found.symm.trans foundSame)
  have inPhase := (phased_reached standing.reached).inPhase id runner found
  cases control : runner.control with
  | calling current point =>
      rw [control] at within
      cases within
      exact steady.harmless inPhase control
  | _ =>
      rw [control] at within
      cases within

theorem Standing.calm (standing : Standing start root took world) {task : Task} {choice : Choice}
    (undisturbed : Undisturbed start root world (.task task choice))
    (calling : world.callOf task = some call) : AccessCalm start root world task call := by
  by_cases member : ∃ id, task = .actor id ∧ start.Below root id
  · obtain ⟨id, rfl, below⟩ := member
    have harmless := standing.harmless below calling
    constructor
    case registry => exact fun access => (access.harmless harmless).registry
    case unstopped =>
      rintro child rest rfl
      exact harmless.elim
    case childless =>
      rintro _ path strategy _ _ rfl
      exact harmless
  · have alone := undisturbed.2 (fun id same below => member ⟨id, same, below⟩) call calling
    constructor
    case registry => exact fun access => alone.registry access
    case unstopped =>
      rintro child rest rfl
      exact alone
    case childless => exact fun id _ _ same below => absurd ⟨id, same, below⟩ member

theorem Standing.emission (standing : Standing start root took world) {task : Task}
    {child : ActorId} {signal : ActorSignal} {parent : ActorId} (below : start.Below root parent)
    (calling : world.callOf task = some (.emit child signal))
    (supervised : ∃ runner, world.actors[child]? = some runner ∧ runner.supervisor = .actor parent) :
    signal.isStopped = false := by
  obtain ⟨runner, point, _, found, control, stopping⟩ :=
    (phased_reached standing.reached).emits calling
  obtain ⟨same, foundSame, supervisor⟩ := supervised
  obtain rfl := Option.some.inj (found.symm.trans foundSame)
  have identity : world.identityOf child = some (runner.path, .actor parent) := by
    rw [← supervisor]
    exact identityOf_found found
  cases stopped : signal.isStopped with
  | false => rfl
  | true =>
      obtain rfl := stopping stopped
      rcases standing.closed child runner.path parent identity below with member | gone
      · obtain ⟨same, foundSame, steady⟩ := standing.steady child member
        obtain rfl := Option.some.inj (found.symm.trans foundSame)
        have held := steady.control
        rw [control] at held
        exact held.elim
      · rw [finished, found] at gone
        simp [ActorRunner.finished, ActorRunner.panicked, control] at gone

section Step

variable (standing : Standing start root took world)
  (undisturbed : Undisturbed start root world label) (taken : step world label = some after)

include standing undisturbed taken

theorem step_registry : after.registry = world.registry := by
  cases label with
  | cancel =>
      cases taken
      rfl
  | task task choice =>
      cases step_task taken with
      | access calling access follows continues =>
          rw [follows.registry, (standing.calm undisturbed calling).registry access]
      | own idle follows begins => rw [follows.registry]

theorem step_steady (below : start.Below root id) : ∃ moved, after.actors[id]? = some moved ∧
    (moved.Steady after.registry ∨ moved.GivingUp) := by
  obtain ⟨runner, found, steady⟩ := standing.steady id below
  rw [step_registry standing undisturbed taken]
  have bound := (List.getElem?_eq_some_iff.mp found).1
  obtain ⟨moved, foundAfter⟩ : ∃ moved, after.actors[id]? = some moved :=
    ⟨_, List.getElem?_eq_getElem (Nat.lt_of_lt_of_le bound (step_size taken))⟩
  refine ⟨moved, foundAfter, ?_⟩
  cases step_origin taken foundAfter with
  | kept was =>
      obtain rfl := Option.some.inj (found.symm.trans was)
      exact .inl steady
  | spawned _ _ _ absent => cases absent.symm.trans found
  | @own choice was next labelled foundWas moves =>
      obtain rfl := Option.some.inj (found.symm.trans foundWas)
      subst labelled
      have inPhase := (phased_reached standing.reached).inPhase id runner found
      have stopsLast := (custodial_reached standing.reached).stopsLast id
      exact steady_step steady inPhase (undisturbed.1 id rfl below runner found)
        (stopsLast.unsent (standing.unstopped id below)).1 (standing.silent id below)
        (standing.running below found) moves

theorem step_unstopped (below : start.Below root id) : id ∉ after.history.stopSent := by
  intro sent
  cases label with
  | cancel =>
      cases taken
      exact standing.unstopped id below sent
  | task task choice =>
      cases step_task taken with
      | own idle follows begins =>
          rw [follows.history] at sent
          exact standing.unstopped id below sent
      | access calling access follows continues =>
          rw [follows.history] at sent
          rcases access.stopSent_cases sent with old | ⟨rest, stops⟩
          · exact standing.unstopped id below old
          · exact (standing.calm undisturbed calling).unstopped id rest stops below

theorem step_senders (below : start.Below root id) (path : ActorPath) :
    after.senderOf (.actor id) path = world.senderOf (.actor id) path := by
  by_cases own : label.task? = some (.actor id)
  · cases label with
    | cancel => cases own
    | task task choice =>
        obtain rfl := Option.some.inj own
        cases step_task taken with
        | own idle follows begins => rw [follows.senders]
        | access calling access follows continues =>
            rw [follows.senders, (access.harmless (standing.harmless below calling)).senders]
  · exact step_senderOf_other own taken path

theorem step_closed {path : ActorPath} {parent : ActorId}
    (identity : after.identityOf id = some (path, .actor parent))
    (below : start.Below root parent) : start.Below root id ∨ after.finished id = true := by
  have old (identity : world.identityOf id = some (path, .actor parent)) :
      start.Below root id ∨ after.finished id = true :=
    (standing.closed id path parent identity below).imp_right
      (step_finished taken (identityOf_bound identity))
  cases label with
  | cancel =>
      cases taken
      exact old identity
  | task task choice =>
      cases step_task taken with
      | own idle follows begins =>
          rw [follows.identity] at identity
          exact old identity
      | access calling access follows continues =>
          rw [follows.identity] at identity
          rcases access.identity_cases identity with before | ⟨here, strategy, rfl, free, _, same⟩
          · exact old before
          · rw [Prod.mk.injEq] at same
            have owner : task = .actor parent := supervisor_injective rfl same.2
            have calm := standing.calm undisturbed calling
            exact absurd (calm.childless parent here strategy owner below rfl) free

theorem step_takes (below : start.Below root id) (takes : world.TakesAction label id)
    {moved : ActorRunner} (foundAfter : after.actors[id]? = some moved) :
    moved.control = .calling .restartChildren .restartChildren := by
  obtain ⟨rfl, selects⟩ := takes
  obtain ⟨runner, found, _⟩ := standing.steady id below
  have within : runner.control = .select := by
    rw [World.selects, found] at selects
    exact of_decide_eq_true selects
  obtain ⟨next, moves, rfl⟩ := step_own taken found foundAfter
  cases moves with
  | @action action actions here received =>
      have front : action ∈ (world.actions id).queue := by
        rw [Channel.receive_queue received]
        exact List.mem_cons_self
      have stopsLast := (custodial_reached standing.reached).stopsLast id
      cases action with
      | stop => exact absurd front (stopsLast.unsent (standing.unstopped id below)).1
      | restart => rfl
  | _ here => cases within.symm.trans here

theorem step_forwarded {parent child : ActorId} (below : start.Below root parent)
    (childOf : start.ChildOf parent child)
    (begun : took parent ∨ world.TakesAction label parent)
    {moved : ActorRunner} (foundAfter : after.actors[parent]? = some moved) :
    (took child ∨ world.TakesAction label child) ∨
      .restart ∈ (after.actions child).queue ∨ moved.control.Sends child := by
  obtain ⟨runner, found, steady⟩ := standing.steady parent below
  rcases begun with before | takes
  · rcases standing.forwarded parent child below childOf before with done | waits | ⟨same, foundSame, sends⟩
    · exact .inl (.inl done)
    · rcases step_action_waits taken waits with later | takes
      · exact .inr (.inl later)
      · exact .inl (.inr takes)
    · obtain rfl := Option.some.inj (found.symm.trans foundSame)
      right
      cases step_origin taken foundAfter with
      | kept was =>
          obtain rfl := Option.some.inj (found.symm.trans was)
          exact .inr sends
      | spawned _ _ _ absent => cases absent.symm.trans found
      | own labelled was =>
          subst labelled
          obtain ⟨next, moves, rfl⟩ := step_own taken found foundAfter
          have held : ∃ path, world.senderOf (.actor parent) path = some child := by
            obtain ⟨path, sender⟩ := (standing.atRest.holds parent below child).mp childOf
            exact ⟨path, by rw [standing.senders parent below path]; exact sender⟩
          exact (sends_step sends held (standing.running below found) moves).symm
  · right; right
    rw [step_takes standing undisturbed taken below takes foundAfter]
    trivial

theorem step_allowed (below : start.Below root id) (begun : took id ∨ world.TakesAction label id)
    {moved : ActorRunner} (foundAfter : after.actors[id]? = some moved)
    (steady : moved.Steady after.registry) :
    moved.strategy.Restarts ∨ moved.control.forwards = true := by
  obtain ⟨runner, found, _⟩ := standing.steady id below
  have inPhase := (phased_reached standing.reached).inPhase id runner found
  rcases begun with before | takes
  · rcases standing.allowed id below before runner found with restarts | forwards
    · left
      rw [step_strategy taken found foundAfter]
      exact restarts
    · cases step_origin taken foundAfter with
      | kept was =>
          obtain rfl := Option.some.inj (found.symm.trans was)
          exact .inr forwards
      | spawned _ _ _ absent => cases absent.symm.trans found
      | own labelled was =>
          subst labelled
          obtain ⟨next, moves, rfl⟩ := step_own taken found foundAfter
          rcases forwards_step inPhase forwards (standing.running below found) moves with
            goesOn | restarted
          · exact .inr goesOn
          · exact .inl (steady.restarts restarted)
  · right
    rw [step_takes standing undisturbed taken below takes foundAfter]
    rfl

end Step

def GivesUp (start : World) (root : ActorId) (world : World) : Prop :=
  ∃ id, start.Below root id ∧ ∃ runner, world.actors[id]? = some runner ∧ runner.GivingUp

theorem step_standing (standing : Standing start root took world)
    (undisturbed : Undisturbed start root world label) (taken : step world label = some after) :
    GivesUp start root after ∨
      Standing start root (fun id => took id ∨ world.TakesAction label id) after := by
  by_cases givesUp : GivesUp start root after
  · exact .inl givesUp
  have steady (id : ActorId) (below : start.Below root id) :
      ∃ moved, after.actors[id]? = some moved ∧ moved.Steady after.registry := by
    obtain ⟨moved, found, steady | givingUp⟩ := step_steady standing undisturbed taken below
    · exact ⟨moved, found, steady⟩
    · exact absurd ⟨id, below, moved, found, givingUp⟩ givesUp
  right
  constructor
  case atRest => exact standing.atRest
  case reached => exact .next world label standing.reached trivial taken
  case registry => rw [step_registry standing undisturbed taken, standing.registry]
  case steady => exact steady
  case unstopped => exact fun id below => step_unstopped standing undisturbed taken below
  case silent =>
    intro id below sent waits
    rcases step_waiting_cases taken waits with old | ⟨⟨task, calling⟩, supervised⟩
    · exact standing.silent id below sent old
    · exact standing.emission below calling supervised
  case senders =>
    intro id below path
    rw [step_senders standing undisturbed taken below path, standing.senders id below path]
  case closed =>
    exact fun id path parent identity below =>
      step_closed standing undisturbed taken identity below
  case allowed =>
    intro id below begun moved foundAfter
    obtain ⟨same, foundSame, steady⟩ := steady id below
    obtain rfl := Option.some.inj (foundSame.symm.trans foundAfter)
    exact step_allowed standing undisturbed taken below begun foundAfter steady
  case forwarded =>
    intro parent child below childOf begun
    obtain ⟨moved, foundAfter, _⟩ := steady parent below
    rcases step_forwarded standing undisturbed taken below childOf begun foundAfter with
      done | waits | sends
    · exact .inl done
    · exact .inr (.inl waits)
    · exact .inr (.inr ⟨moved, foundAfter, sends⟩)

theorem step_givesUp (reached : Reachable step Initial world) (taken : step world label = some after)
    (givesUp : GivesUp start root world) : GivesUp start root after := by
  obtain ⟨id, below, runner, found, givingUp⟩ := givesUp
  have bound := (List.getElem?_eq_some_iff.mp found).1
  obtain ⟨moved, foundAfter⟩ : ∃ moved, after.actors[id]? = some moved :=
    ⟨_, List.getElem?_eq_getElem (Nat.lt_of_lt_of_le bound (step_size taken))⟩
  refine ⟨id, below, moved, foundAfter, ?_⟩
  cases step_origin taken foundAfter with
  | kept was =>
      obtain rfl := Option.some.inj (found.symm.trans was)
      exact givingUp
  | spawned _ _ _ absent => cases absent.symm.trans found
  | own labelled was moves =>
      obtain rfl := Option.some.inj (found.symm.trans was)
      exact givingUp_step ((phased_reached reached).inPhase id runner found) givingUp moves

theorem AtRest.standing (atRest : start.AtRest root) (reached : Reachable step Initial start) :
    Standing start root (fun _ => False) start := by
  constructor
  case atRest => exact atRest
  case reached => exact reached
  case registry => rfl
  case steady =>
    intro id below
    obtain ⟨runner, found, within⟩ := atRest.waits id below
    have started := ((phased_reached reached).inPhase id runner found).phase .started
      (by rw [within]; rfl)
    refine ⟨runner, found, fun restarted => ?_, .inl started, fun _ => ?_, ?_⟩
    · cases started.symm.trans restarted
    · exact unretried_reached reached id runner found (.inr started)
    · rw [within]
      trivial
  case unstopped => exact atRest.unstopped
  case silent => exact atRest.silent
  case senders => exact fun _ _ _ => rfl
  case closed =>
    intro id path parent identity below
    cases gone : start.finished id with
    | true => exact .inr rfl
    | false => exact .inl (below.tail ⟨⟨path, identity⟩, gone⟩)
  case allowed => exact fun _ _ took => took.elim
  case forwarded => exact fun _ _ _ _ took => took.elim

/-- How far the restart of a tree has come. -/
structure Restarting (start : World) (root : ActorId) (world : World) : Prop where
  reached : Reachable step Initial world
  strategies : ∀ (id : ActorId) (runner : ActorRunner), start.actors[id]? = some runner →
    ∃ moved, world.actors[id]? = some moved ∧ moved.strategy = runner.strategy
  goesOn : GivesUp start root world ∨ ∃ took, took root ∧ Standing start root took world

theorem step_strategies (taken : step world label = some after)
    (strategies : ∀ (id : ActorId) (runner : ActorRunner), start.actors[id]? = some runner →
      ∃ moved, world.actors[id]? = some moved ∧ moved.strategy = runner.strategy)
    (id : ActorId) (runner : ActorRunner) (found : start.actors[id]? = some runner) :
    ∃ moved, after.actors[id]? = some moved ∧ moved.strategy = runner.strategy := by
  obtain ⟨between, foundBetween, same⟩ := strategies id runner found
  have bound := (List.getElem?_eq_some_iff.mp foundBetween).1
  obtain ⟨moved, foundAfter⟩ : ∃ moved, after.actors[id]? = some moved :=
    ⟨_, List.getElem?_eq_getElem (Nat.lt_of_lt_of_le bound (step_size taken))⟩
  exact ⟨moved, foundAfter, (step_strategy taken foundBetween foundAfter).trans same⟩

theorem takesRestart_undisturbed (start : World) (root : ActorId) :
    Undisturbed start root start (.task (.actor root) .action) :=
  ⟨fun _ _ _ _ _ => trivial, fun outside => absurd .refl (outside root rfl)⟩

theorem restarting_reached (atRest : start.AtRest root) (reached : Reachable step Initial start)
    (ran : Guarded step (TakesRestart start root) (Undisturbed start root) world) :
    Restarting start root world := by
  refine guarded_invariant (Restarting start root) ?_ ?_ ran
  · rintro world ⟨_, taken⟩
    obtain ⟨runner, found, within⟩ := atRest.waits root .refl
    have takes : start.TakesAction (.task (.actor root) .action) root :=
      ⟨rfl, by rw [selects, found, Option.any_some, within]; rfl⟩
    have undisturbed := takesRestart_undisturbed start root
    constructor
    case reached => exact .next start _ reached trivial taken
    case strategies =>
      exact step_strategies taken fun id runner found => ⟨runner, found, rfl⟩
    case goesOn =>
      refine (step_standing (atRest.standing reached) undisturbed taken).imp_right fun standing => ?_
      exact ⟨_, .inr takes, standing⟩
  · intro world label after restarting undisturbed taken
    constructor
    case reached => exact .next world label restarting.reached trivial taken
    case strategies => exact step_strategies taken restarting.strategies
    case goesOn =>
      rcases restarting.goesOn with givesUp | ⟨took, root, standing⟩
      · exact .inl (step_givesUp restarting.reached taken givesUp)
      · refine (step_standing standing undisturbed taken).imp_right fun standing => ?_
        exact ⟨_, .inl root, standing⟩

theorem Standing.all_took (standing : Standing start root took world) (begun : took root)
    (consumed : world.Consumed (start.Below root)) {id : ActorId} (below : start.Below root id) :
    took id := by
  -- down the tree: a parent that waits at its `select!` has sent to all its children
  induction below with
  | refl => exact begun
  | @tail parent child above childOf ih =>
      obtain ⟨empty, _, _⟩ := consumed child (above.tail childOf)
      obtain ⟨_, _, waits⟩ := consumed parent above
      rcases standing.forwarded parent child above childOf ih with done | queued | ⟨runner, found, sends⟩
      · exact done
      · rw [empty] at queued
        cases queued
      · rcases waits runner found with within | gone
        · rw [within] at sends
          exact sends.elim
        · have alive := standing.alive above
          rw [finished, found] at alive
          cases alive.symm.trans gone

/-- The registry is as it was, and everyone in the tree has started again. -/
structure Restored (start : World) (root : ActorId) (world : World) : Prop where
  registry : world.registry = start.registry
  started : ∀ id, start.Below root id →
    ∃ runner, world.actors[id]? = some runner ∧ runner.lifecycle = .started ∧
      runner.finished = false

theorem Standing.restored (standing : Standing start root took world)
    (consumed : world.Consumed (start.Below root)) : Restored start root world := by
  constructor
  case registry => exact standing.registry
  case started =>
    intro id below
    obtain ⟨runner, found, steady⟩ := standing.steady id below
    refine ⟨runner, found, ?_, steady.unfinished⟩
    obtain ⟨_, _, waits⟩ := consumed id below
    rcases waits runner found with within | gone
    · exact ((phased_reached standing.reached).inPhase id runner found).phase .started
        (by rw [within]; rfl)
    · cases steady.unfinished.symm.trans gone

theorem GivesUp.not_restored (givesUp : GivesUp start root world) :
    ¬ Restored start root world := by
  obtain ⟨id, below, runner, found, _, ending⟩ := givesUp
  intro restored
  obtain ⟨same, foundSame, started, _⟩ := restored.started id below
  obtain rfl := Option.some.inj (found.symm.trans foundSame)
  rcases ending with ⟨_, here | here⟩ | here | here <;> cases started.symm.trans here

/-- A restart that nothing disturbs restores the tree exactly if every strategy in it
allows a retry. -/
theorem restart_restores_iff (reached : Reachable step Initial start) (atRest : start.AtRest root)
    (ran : Guarded step (TakesRestart start root) (Undisturbed start root) world)
    (consumed : world.Consumed (start.Below root)) :
    Restored start root world ↔
      ∀ id, start.Below root id → ∀ runner ∈ start.actors[id]?, runner.strategy.Restarts := by
  have restarting := restarting_reached atRest reached ran
  rcases restarting.goesOn with givesUp | ⟨took, begun, standing⟩
  · constructor
    · exact fun restored => absurd restored givesUp.not_restored
    · intro allowed
      obtain ⟨id, below, runner, found, spent, _⟩ := givesUp
      obtain ⟨was, foundWas, _⟩ := atRest.waits id below
      obtain ⟨same, foundSame, strategy⟩ := restarting.strategies id was foundWas
      obtain rfl := Option.some.inj (found.symm.trans foundSame)
      rw [strategy] at spent
      exact absurd (allowed id below was foundWas) spent
  · refine iff_of_true (standing.restored consumed) ?_
    intro id below was foundWas
    obtain ⟨runner, found, strategy⟩ := restarting.strategies id was foundWas
    rw [← strategy]
    rcases standing.allowed id below (standing.all_took begun consumed below) runner found with
      restarts | forwards
    · exact restarts
    · obtain ⟨_, _, waits⟩ := consumed id below
      rcases waits runner found with within | gone
      · rw [within] at forwards
        cases forwards
      · have alive := standing.alive below
        rw [finished, found] at alive
        cases alive.symm.trans gone

section Check

def RestsNow (world : World) (tree : List ActorId) : Prop :=
  ∀ id ∈ tree, (world.actors[id]?.map ActorRunner.control) = some .select ∧
    id ∉ world.history.stopSent ∧
    (∀ sent ∈ world.waiting (.actor id), sent.2.isStopped = false) ∧
    ∀ child ∈ List.range world.actors.length, ∀ runner ∈ world.actors[child]?,
      runner.supervisor = .actor id → child ∈ tree ∧ runner.finished = false ∧
        world.senderOf (.actor id) runner.path = some child

instance (world : World) (tree : List ActorId) : Decidable (world.RestsNow tree) :=
  inferInstanceAs (Decidable (∀ id ∈ tree, _))

def ConsumedNow (world : World) (tree : List ActorId) : Prop :=
  ∀ id ∈ tree, (world.actions id).queue = [] ∧ world.waiting (.actor id) = [] ∧
    ∀ runner ∈ world.actors[id]?, runner.control = .select ∨ runner.finished = true

instance (world : World) (tree : List ActorId) : Decidable (world.ConsumedNow tree) :=
  inferInstanceAs (Decidable (∀ id ∈ tree, _))

def calmNow (tree : List ActorId) (world : World) : Label → Bool
  | .task (.actor id) choice => decide (id ∈ tree) &&
      (world.actors[id]?).all fun runner => decide (world.HooksCalm runner choice)
  | _ => false

variable {tree : List ActorId}

theorem RestsNow.mem (rests : start.RestsNow tree) (member : root ∈ tree)
    (below : start.Below root id) : id ∈ tree := by
  induction below with
  | refl => exact member
  | @tail parent child _ childOf ih =>
      obtain ⟨⟨path, identity⟩, _⟩ := childOf
      obtain ⟨runner, found, same⟩ := Option.map_eq_some_iff.mp identity
      have bound := (List.getElem?_eq_some_iff.mp found).1
      exact ((rests parent ih).2.2.2 child (List.mem_range.mpr bound) runner found
        (congrArg Prod.snd same)).1

theorem RestsNow.atRest (rests : start.RestsNow tree) (member : root ∈ tree)
    (reached : Reachable step Initial start) : start.AtRest root := by
  constructor
  case waits =>
    intro id below
    exact Option.map_eq_some_iff.mp (rests id (rests.mem member below)).1
  case unstopped => exact fun id below => (rests id (rests.mem member below)).2.1
  case silent => exact fun id below => (rests id (rests.mem member below)).2.2.1
  case holds =>
    intro id below child
    have every := (rests id (rests.mem member below)).2.2.2
    constructor
    · rintro ⟨⟨path, identity⟩, _⟩
      obtain ⟨runner, found, same⟩ := Option.map_eq_some_iff.mp identity
      have bound := (List.getElem?_eq_some_iff.mp found).1
      exact ⟨runner.path, (every child (List.mem_range.mpr bound) runner found
        (congrArg Prod.snd same)).2.2⟩
    · rintro ⟨path, sender⟩
      obtain ⟨identity, known, fits⟩ :=
        (custodial_reached reached).labelled (.shelf (.actor id) path) child sender
      obtain rfl : identity = (path, .actor id) := fits
      obtain ⟨runner, found, same⟩ := Option.map_eq_some_iff.mp known
      have bound := (List.getElem?_eq_some_iff.mp found).1
      obtain ⟨_, runs, _⟩ := every child (List.mem_range.mpr bound) runner found
        (congrArg Prod.snd same)
      exact ⟨⟨path, known⟩, by rw [finished, found]; exact runs⟩

theorem calmNow_sound (within : ∀ id ∈ tree, start.Below root id) (world : World) (label : Label)
    (checked : calmNow tree world label = true) : Undisturbed start root world label := by
  cases label with
  | cancel => trivial
  | task task choice =>
      cases task with
      | actor id =>
          obtain ⟨member, calm⟩ := Bool.and_eq_true_iff.mp checked
          constructor
          · rintro _ ⟨⟩ _ runner found
            rw [show world.actors[id]? = some runner from found] at calm
            exact of_decide_eq_true calm
          · exact fun outside => absurd (within id (of_decide_eq_true member)) (outside id rfl)
      | _ => cases checked

end Check

section Scenarios

def raises (parent child : ActorId) (name : String) (strategy : SupervisionStrategy) : List Label :=
  [Label.task (.actor parent) .message, .task (.actor parent) (.context (.createChild name strategy)),
    .task (.actor parent) .proceed] ++
  starts child ++ List.replicate 3 (Label.task (.actor parent) .proceed) ++
  [Label.task (.actor parent) (.returns (.ok ()))]

def retriesOnce : SupervisionStrategy := .retry (.noInterval ⟨1⟩)

def sendsRestart (strategy : SupervisionStrategy) : List Label :=
  creates 0 "g" ++ raises 0 1 "p" retriesOnce ++ raises 1 2 "c" strategy ++
    [Label.task (.actor 0) .message, .task (.actor 0) (.context .restartChildren),
      .task (.actor 0) (.senders [1]), .task (.actor 0) .proceed, .task (.actor 0) (.returns (.ok ()))]

def passesRestart : List Label :=
  [.task (.actor 1) (.senders [2]), .task (.actor 1) .proceed, .task (.actor 1) .proceed,
    .task (.actor 1) (.returns (.ok ())), .task (.actor 1) .proceed, .task (.actor 2) .action,
    .task (.actor 2) (.senders [])]

def restarts (strategy : SupervisionStrategy) (later : List Label)
    (shows : World → World → Bool) : Bool :=
  (Runs.run step (World.new Config.default) (sendsRestart strategy)).any fun start =>
    decide (start.RestsNow [1, 2]) && decide ((start.actions 1).queue.head? = some .restart) &&
      decide (start.identityOf 2 = some (rootPath / "g" / "p" / "c", .actor 1)) &&
        (step start (.task (.actor 1) .action)).any fun first =>
          (Runs.checkedRun step (calmNow [1, 2]) first (passesRestart ++ later)).any fun world =>
            decide (world.ConsumedNow [1, 2]) && shows start world

theorem restarts_run {strategy : SupervisionStrategy} {later : List Label}
    {shows : World → World → Bool} (checked : restarts strategy later shows = true) :
    ∃ start world, Reachable step Initial start ∧ start.AtRest 1 ∧
      Guarded step (TakesRestart start 1) (Undisturbed start 1) world ∧
      world.Consumed (start.Below 1) ∧ (∀ id, start.Below 1 id → id ∈ [1, 2]) ∧
      start.Below 1 2 ∧ shows start world = true := by
  obtain ⟨start, ran, checked⟩ := (Option.any_eq_true _ _).mp checked
  simp only [Bool.and_eq_true, decide_eq_true_eq] at checked
  obtain ⟨⟨⟨rests, front⟩, identity⟩, checked⟩ := checked
  obtain ⟨first, taken, checked⟩ := (Option.any_eq_true _ _).mp checked
  obtain ⟨world, followed, checked⟩ := (Option.any_eq_true _ _).mp checked
  obtain ⟨consumed, shown⟩ := Bool.and_eq_true_iff.mp checked
  have consumed := of_decide_eq_true consumed
  have reached : Reachable step Initial start := reachable_run (.start ⟨_, rfl⟩) ran
  have members (id : ActorId) (below : start.Below 1 id) : id ∈ [1, 2] :=
    rests.mem (List.mem_cons_self) below
  have child : start.Below 1 2 := by
    have waits := (rests 2 (by decide)).1
    obtain ⟨runner, found, within⟩ := Option.map_eq_some_iff.mp waits
    refine .single ⟨⟨_, identity⟩, ?_⟩
    rw [finished, found]
    simp [ActorRunner.finished, ActorRunner.panicked, within]
  have within (id : ActorId) (member : id ∈ [1, 2]) : start.Below 1 id := by
    rcases List.mem_cons.mp member with rfl | member
    · exact .refl
    · rw [List.mem_singleton.mp member]
      exact child
  refine ⟨start, world, reached, rests.atRest List.mem_cons_self reached, ?_,
    fun id below => consumed id (members id below), members, child, shown⟩
  exact guarded_checkedRun (calmNow_sound within) (.start ⟨front, taken⟩) followed

theorem tree_restored :
    ∃ start world, Guarded step (TakesRestart start 1) (Undisturbed start 1) world ∧
      start.Below 1 2 ∧ Restored start 1 world := by
  have checked : restarts retriesOnce
      [.task (.actor 2) .proceed, .task (.actor 2) (.returns (.ok ())), .task (.actor 2) .proceed]
      (fun start _ => [1, 2].all fun id =>
        (start.actors[id]?).all fun runner => decide (runner.strategy.Restarts)) = true := by
    decide
  obtain ⟨start, world, reached, atRest, ran, consumed, members, child, strategies⟩ :=
    restarts_run checked
  refine ⟨start, world, ran, child, (restart_restores_iff reached atRest ran consumed).mpr ?_⟩
  intro id below runner found
  have allowed := List.all_eq_true.mp strategies id (members id below)
  rw [show start.actors[id]? = some runner from found] at allowed
  exact of_decide_eq_true allowed

/-- A child that is restarted under the default strategy ends. -/
theorem restart_ends_child :
    ¬ ∀ (start : World) (root : ActorId) (world : World), Reachable step Initial start →
      start.AtRest root → Guarded step (TakesRestart start root) (Undisturbed start root) world →
      world.Consumed (start.Below root) → Restored start root world := by
  intro claimed
  have checked : restarts .stop
      (List.replicate 4 (Label.task (.actor 2) .proceed) ++
        [Label.task (.actor 2) (.returns (.ok ())), .task (.actor 2) .proceed] ++
        takesStopped 1 ++ announces 1 ++
        [Label.task (.actor 1) (.returns (.ok ())), .task (.actor 1) .proceed])
      (fun _ world => world.finished 2) = true := by
    decide
  obtain ⟨start, world, reached, atRest, ran, consumed, _, child, gone⟩ := restarts_run checked
  obtain ⟨runner, found, _, unfinished⟩ :=
    (claimed start 1 world reached atRest ran consumed).started 2 child
  rw [finished, found] at gone
  cases unfinished.symm.trans gone

end Scenarios

end World

end Rush.Actor
