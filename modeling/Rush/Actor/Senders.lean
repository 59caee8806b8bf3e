import Rush.Library.Custody
import Rush.Actor.History
import Rush.Library.Runs

/-! Where the action sender of an actor is. Each lies in one place: in the hand of
the call that created the actor or stops it, or in the map of its supervisor. A
sender that has sent its Stop is gone, so nothing follows a Stop. -/

namespace Rush.Actor

open Rush.Library Runs

def Call.carries : Call → Option ActorId
  | .initResult child | .dropEntry child _ | .dropSender child _ | .insertEntry child
  | .insertSender child | .sendStop child _ => some child
  | _ => none

theorem Call.BegunBy.carries {call : Call} {task : Task} (begun : call.BegunBy task) :
    call.carries = none := by
  cases call <;> first | rfl | exact begun.elim

theorem stopNext_carries (rest : Option (List ActorPath)) :
    (stopNext rest).call?.bind Call.carries = none := by
  match rest with
  | none | some [] | some (_ :: _) => rfl

theorem restartNext_carries (rest : List ActorId) :
    (restartNext rest).call?.bind Call.carries = none := by
  cases rest <;> rfl

theorem Progress.Continues.carries {progress : Progress} {task : Task} {control : Option Call}
    (continues : progress.Continues task control) :
    control.bind Call.carries = progress.call?.bind Call.carries := by
  cases progress with
  | call next =>
      rw [show control = some next from continues]
      rfl
  | «return» outcome =>
      cases begun : control with
      | none => rfl
      | some call => exact (continues call begun).carries

inductive Place where
  | shelf (supervisor : Supervisor) (path : ActorPath)
  | hand (task : Task)
  deriving DecidableEq

namespace World

def held (world : World) : Place → Option ActorId
  | .shelf supervisor path => world.senderOf supervisor path
  | .hand task => (world.callOf task).bind Call.carries

def custody (world : World) : Custody Place ActorId where
  holds := world.held
  minted := { id | id < world.actors.length }
  spent := { id | id ∈ world.history.stopSent }

section Custody

variable {world next after : World} {task : Task} {call : Call} {progress : Progress}

def settled (world next : World) (task : Task) (progress : Progress) : Custody Place ActorId where
  holds := fun
    | .shelf supervisor path => next.senderOf supervisor path
    | .hand other =>
        if other = task then progress.call?.bind Call.carries
        else (world.callOf other).bind Call.carries
  minted := { id | id < next.actors.length }
  spent := { id | id ∈ next.history.stopSent }

theorem settled_stay (calling : world.callOf task = some call)
    (senders : ∀ supervisor path, next.senderOf supervisor path = world.senderOf supervisor path)
    (size : next.actors.length = world.actors.length)
    (sent : next.history.stopSent = world.history.stopSent)
    (carries : progress.call?.bind Call.carries = call.carries) :
    settled world next task progress = world.custody := by
  ext1
  · funext place
    cases place with
    | shelf supervisor path => exact senders supervisor path
    | hand other =>
        by_cases here : other = task
        · simp [settled, custody, held, here, calling, carries]
        · simp [settled, custody, held, here]
  · simp only [settled, custody, size]
  · simp only [settled, custody, sent]

theorem settled_shelf (supervisor : Supervisor) (path : ActorPath) :
    (settled world next task progress).holds (.shelf supervisor path) =
      next.senderOf supervisor path := rfl

theorem settled_spawn (path : ActorPath) (strategy : SupervisionStrategy) :
    settled world (world.spawn path task.supervisor strategy) task
        (.call (.initResult world.actors.length)) =
      world.custody.mint (.hand task) world.actors.length := by
  ext1
  · funext place
    rw [Custody.mint_holds]
    cases place with
    | shelf supervisor other => rfl
    | hand other =>
        by_cases here : other = task
        · simp [settled, Progress.call?, Call.carries, here]
        · simp [settled, custody, held, here]
  · ext id
    simp only [settled, custody, Custody.mint, spawn, List.length_append, List.length_singleton,
      Set.mem_ofPred_eq, Set.mem_insert_iff]
    exact Nat.lt_succ_iff_lt_or_eq.trans or_comm
  · rfl

theorem settled_drop (senders : ∀ supervisor path,
      next.senderOf supervisor path = world.senderOf supervisor path)
    (size : next.actors.length = world.actors.length)
    (sent : next.history.stopSent = world.history.stopSent)
    (carries : progress.call?.bind Call.carries = none) :
    settled world next task progress = world.custody.drop (.hand task) := by
  ext1
  · funext place
    rw [Custody.drop_holds]
    cases place with
    | shelf supervisor path => exact senders supervisor path
    | hand other =>
        by_cases here : other = task
        · simp [settled, carries, here]
        · simp [settled, custody, held, here]
  · simp only [settled, custody, Custody.drop, size]
  · simp only [settled, custody, Custody.drop, sent]

theorem settled_dropSender (path : ActorPath) (calling : world.callOf task = some call)
    (carries : progress.call?.bind Call.carries = call.carries) :
    settled world (world.dropSender task.supervisor path) task progress =
      world.custody.drop (.shelf task.supervisor path) := by
  ext1
  · funext place
    rw [Custody.drop_holds]
    cases place with
    | shelf supervisor other => simp [settled, custody, held, dropSender_senderOf]
    | hand other =>
        by_cases here : other = task
        · simp [settled, custody, held, here, carries, calling]
        · simp [settled, custody, held, here]
  · rfl
  · rfl

theorem settled_failed (path : ActorPath) (carries : progress.call?.bind Call.carries = none) :
    settled world (world.dropSender task.supervisor path) task progress =
      (world.custody.drop (.shelf task.supervisor path)).drop (.hand task) := by
  ext1
  · funext place
    rw [Custody.drop_holds, Custody.drop_holds]
    cases place with
    | shelf supervisor other => simp [settled, custody, held, dropSender_senderOf]
    | hand other =>
        by_cases here : other = task
        · simp [settled, here, carries]
        · simp [settled, custody, held, here]
  · rfl
  · rfl

theorem settled_inserted {child : ActorId} (path : ActorPath) (history : History)
    (calling : world.callOf task = some (.insertSender child))
    (sent : history.stopSent = world.history.stopSent) :
    settled world ((world.holdSender task.supervisor path child).record history) task
        (.return (.created child)) =
      world.custody.handOver (.hand task) (.shelf task.supervisor path) := by
  ext1
  · funext place
    rw [Custody.handOver_holds]
    cases place with
    | shelf supervisor other =>
        have held := world.holdSender_senderOf path other task.supervisor supervisor child
        rw [settled_shelf, record_senderOf, held]
        simp [custody, World.held, calling, Call.carries]
    | hand other =>
        by_cases here : other = task
        · simp [settled, here, Progress.call?]
        · simp [settled, custody, World.held, here]
  · rfl
  · simp only [settled, custody, Custody.handOver, record, sent]

theorem settled_taken {path : ActorPath} {rest : Option (List ActorPath)} {child : ActorId}
    (found : world.senderOf task.supervisor path = some child) :
    settled world (world.dropSender task.supervisor path) task (.call (.sendStop child rest)) =
      world.custody.handOver (.shelf task.supervisor path) (.hand task) := by
  ext1
  · funext place
    rw [Custody.handOver_holds]
    cases place with
    | shelf supervisor other => simp [settled, custody, held, dropSender_senderOf]
    | hand other =>
        by_cases here : other = task
        · simp [settled, custody, held, here, Progress.call?, Call.carries, found]
        · simp [settled, custody, held, here]
  · rfl
  · rfl

theorem settled_sent {child : ActorId} {actions : Channel ChildAction} (history : History)
    (carries : progress.call?.bind Call.carries = none)
    (sent : history.stopSent = child :: world.history.stopSent) :
    settled world ((world.setActions child actions).record history) task progress =
      world.custody.spend (.hand task) child := by
  ext1
  · funext place
    show _ = (world.custody.drop (.hand task)).holds place
    rw [Custody.drop_holds]
    cases place with
    | shelf supervisor path => rfl
    | hand other =>
        by_cases here : other = task
        · simp [settled, carries, here]
        · simp [settled, custody, held, here]
  · rfl
  · ext id
    simp [settled, custody, Custody.spend, record, sent]

theorem access_custody (calling : world.callOf task = some call)
    (access : Access world task.supervisor call next progress) :
    Relation.ReflTransGen Custody.Step world.custody (settled world next task progress) := by
  have stay (senders : ∀ supervisor path,
        next.senderOf supervisor path = world.senderOf supervisor path)
      (size : next.actors.length = world.actors.length)
      (sent : next.history.stopSent = world.history.stopSent)
      (carries : progress.call?.bind Call.carries = call.carries) :
      Relation.ReflTransGen Custody.Step world.custody (settled world next task progress) := by
    rw [settled_stay calling senders size sent carries]
  cases access with
  | taken | started | startFailed | noChildren | someChildren | noSender | childsCounted =>
      exact stay (fun _ _ => rfl) rfl rfl rfl
  | entryDropped | entryInserted | entryTaken | childRemoved =>
      exact stay (fun _ _ => rfl) rfl rfl rfl
  | listed => exact stay (fun _ _ => rfl) rfl rfl (stopNext_carries _)
  | restartListed => exact stay (fun _ _ => rfl) rfl rfl (restartNext_carries _)
  | restartRefused => exact stay (fun _ _ => rfl) rfl rfl rfl
  | restartSent => exact stay (fun _ _ => rfl) rfl rfl (restartNext_carries _)
  | @emitRefused child signal =>
      exact stay (fun supervisor path => world.announce_senderOf path supervisor child signal)
        (by cases signal <;> rfl) (by cases signal <;> rfl) rfl
  | @emitted child signal runner signals found sent =>
      refine stay (fun supervisor path => ?_) (by cases signal <;> rfl) (by cases signal <;> rfl) rfl
      rw [setSignals_senderOf, announce_senderOf]
  | senderRemoved =>
      rw [settled_dropSender _ calling rfl]
      exact .single (.drop _)
  | spawned =>
      rw [settled_spawn]
      exact .single (.mint _ _ (Nat.lt_irrefl _))
  | senderDropped =>
      rw [settled_failed _ rfl]
      exact .tail (.single (.drop _)) (.drop _)
  | @senderInserted child runner found =>
      have inserted := settled_inserted runner.path
        { world.history with created := child :: world.history.created } calling rfl
      rw [inserted]
      exact .single (.handOver _ _ nofun)
  | senderTaken found =>
      rw [settled_taken found]
      exact .single (.handOver _ _ nofun)
  | stopRefused =>
      rw [settled_drop (fun _ _ => rfl) rfl rfl rfl]
      exact .single (.drop _)
  | @stopSent child rest =>
      rw [settled_sent _ (stopNext_carries rest) rfl]
      refine .single (.spend _ _ ?_)
      simp [custody, held, calling, Call.carries]

theorem follows_custody (follows : Follows task next after)
    (others : ∀ other, next.callOf other = world.callOf other)
    (continues : progress.Continues task (after.callOf task)) :
    after.custody = settled world next task progress := by
  ext1
  · funext place
    cases place with
    | shelf supervisor path => exact follows.senders supervisor path
    | hand other =>
        show (after.callOf other).bind Call.carries = ite _ _ _
        by_cases here : other = task
        · rw [if_pos here, here]
          exact continues.carries
        · rw [if_neg here, follows.others other here, others]
  · simp only [custody, settled, follows.size]
  · simp only [custody, settled, follows.history]

theorem own_custody (idle : world.callOf task = none) (follows : Follows task world after)
    (begins : ∀ call, after.callOf task = some call → call.BegunBy task) :
    after.custody = world.custody := by
  ext1
  · funext place
    cases place with
    | shelf supervisor path => exact follows.senders supervisor path
    | hand other =>
        show (after.callOf other).bind Call.carries = (world.callOf other).bind Call.carries
        by_cases here : other = task
        · rw [here, idle]
          cases begun : after.callOf task with
          | none => rfl
          | some call => exact (begins call begun).carries
        · rw [follows.others other here]
  · simp only [custody, follows.size]
  · simp only [custody, follows.history]

end Custody

section Effects

variable {world next : World} {supervisor : Supervisor} {call : Call} {progress : Progress}

inductive SenderEffect (world next : World) (supervisor : Supervisor) : Call → Prop
  | same {call : Call}
      (senders : ∀ holder path, next.senderOf holder path = world.senderOf holder path) :
      SenderEffect world next supervisor call
  | drop {call : Call} (path : ActorPath)
      (senders : ∀ holder other, next.senderOf holder other =
        if holder = supervisor ∧ other = path then none else world.senderOf holder other)
      (calling : (∃ child error runner, call = .dropSender child error ∧
          world.actors[child]? = some runner ∧ path = runner.path) ∨
        (∃ rest, call = .takeSender path rest) ∨ call = .removeSender path) :
      SenderEffect world next supervisor call
  | insert (child : ActorId) (runner : ActorRunner) (found : world.actors[child]? = some runner)
      (senders : ∀ holder other, next.senderOf holder other =
        if holder = supervisor ∧ other = runner.path then some child
        else world.senderOf holder other) :
      SenderEffect world next supervisor (.insertSender child)

theorem Access.senderEffect (access : Access world supervisor call next progress) :
    SenderEffect world next supervisor call := by
  cases access with
  | senderDropped found =>
      exact .drop _ (fun holder other => world.dropSender_senderOf _ other supervisor holder)
        (.inl ⟨_, _, _, rfl, found, rfl⟩)
  | senderTaken =>
      exact .drop _ (fun holder other => world.dropSender_senderOf _ other supervisor holder)
        (.inr (.inl ⟨_, rfl⟩))
  | senderRemoved =>
      exact .drop _ (fun holder other => world.dropSender_senderOf _ other supervisor holder)
        (.inr (.inr rfl))
  | senderInserted found =>
      refine .insert _ _ found fun holder other => ?_
      rw [record_senderOf, holdSender_senderOf]
  | emitRefused => exact .same fun holder path => announce_senderOf _ _ _ _ _
  | emitted =>
      refine .same fun holder path => ?_
      rw [setSignals_senderOf, announce_senderOf]
  | _ => exact .same fun _ _ => rfl

theorem Access.senderOf_cases (access : Access world supervisor call next progress)
    {holder : Supervisor} {path : ActorPath} {child : ActorId}
    (found : next.senderOf holder path = some child) :
    world.senderOf holder path = some child ∨
      call = .insertSender child ∧ holder = supervisor ∧
        ∃ runner, world.actors[child]? = some runner ∧ path = runner.path := by
  cases access with
  | senderInserted here =>
      rw [record_senderOf, holdSender_senderOf] at found
      split at found
      case isTrue both =>
        obtain rfl := Option.some.inj found
        exact .inr ⟨rfl, both.1, _, here, both.2⟩
      case isFalse => exact .inl found
  | senderDropped | senderTaken | senderRemoved =>
      rw [dropSender_senderOf] at found
      split at found
      · cases found
      · exact .inl found
  | emitRefused =>
      rw [announce_senderOf] at found
      exact .inl found
  | emitted =>
      rw [setSignals_senderOf, announce_senderOf] at found
      exact .inl found
  | _ => exact .inl found

theorem Access.senderOf_other (access : Access world supervisor call next progress)
    {holder : Supervisor} (other : holder ≠ supervisor) (path : ActorPath) :
    next.senderOf holder path = world.senderOf holder path := by
  have apart {here : ActorPath} : ¬ (holder = supervisor ∧ path = here) := fun both => other both.1
  cases access with
  | senderInserted => rw [record_senderOf, holdSender_senderOf, if_neg apart]
  | senderDropped | senderTaken | senderRemoved => rw [dropSender_senderOf, if_neg apart]
  | emitRefused => exact announce_senderOf _ _ _ _ _
  | emitted => rw [setSignals_senderOf, announce_senderOf]
  | _ => rfl

/-- A sender comes into the hand of a call from the call's last point, from a new
instance, or from the map of its handler. -/
theorem Access.carries_cases (access : Access world supervisor call next progress)
    {child : ActorId} (carries : progress.call?.bind Call.carries = some child) :
    call.carries = some child ∨ (∃ path, world.senderOf supervisor path = some child) ∨
      ∃ path strategy, next = world.spawn path supervisor strategy ∧
        child = world.actors.length := by
  cases access with
  | spawned =>
      cases carries
      exact .inr (.inr ⟨_, _, rfl, rfl⟩)
  | senderTaken held =>
      cases carries
      exact .inr (.inl ⟨_, held⟩)
  | listed | stopSent =>
      rw [stopNext_carries] at carries
      cases carries
  | restartListed | restartSent =>
      rw [restartNext_carries] at carries
      cases carries
  | started | startFailed | entryDropped | entryInserted => exact .inl carries
  | _ => cases carries

theorem mem_restartListed {children : List ActorId}
    (every : (children : Multiset ActorId) =
      (world.handlers supervisor).actionSenders.entries.map Sigma.snd) (child : ActorId) :
    child ∈ children ↔ ∃ path, world.senderOf supervisor path = some child := by
  rw [← Multiset.mem_coe, every, Multiset.mem_map]
  constructor
  · rintro ⟨⟨path, _⟩, entry, rfl⟩
    exact ⟨path, Finmap.lookup_eq_some_iff.mpr entry⟩
  · rintro ⟨path, held⟩
    exact ⟨⟨path, child⟩, Finmap.lookup_eq_some_iff.mp held, rfl⟩

theorem Access.sendRestart_cases {child : ActorId} {rest : List ActorId}
    (access : Access world supervisor call next (.call (.sendRestart child rest))) :
    call = .restartChildren ∧
        (∀ id ∈ child :: rest, ∃ path, world.senderOf supervisor path = some id) ∨
      ∃ first, call = .sendRestart first (child :: rest) := by
  cases access.leadsTo with
  | nextRestart => exact .inr ⟨_, rfl⟩
  | firstRestart =>
      left
      refine ⟨rfl, ?_⟩
      generalize goesOn : Progress.call (.sendRestart child rest) = progress at access
      cases access with
      | @restartListed children every =>
          cases children with
          | nil => cases goesOn
          | cons =>
              cases goesOn
              exact fun id member => (mem_restartListed every id).mp member

theorem Access.sendRestart_senders {child : ActorId} {rest : List ActorId}
    (access : Access world supervisor call next (.call (.sendRestart child rest)))
    (holder : Supervisor) (path : ActorPath) :
    next.senderOf holder path = world.senderOf holder path := by
  have leads := access.leadsTo
  generalize Progress.call (.sendRestart child rest) = progress at access
  cases leads with
  | _ => cases access <;> rfl

theorem Access.not_restartChildren
    (access : Access world supervisor call next (.call .restartChildren)) : False := by
  cases access.leadsTo

end Effects

section Invariants

variable {world next after : World} {label : Label} {task : Task}

theorem step_custody (taken : step world label = some after) :
    Relation.ReflTransGen Custody.Step world.custody after.custody := by
  cases label with
  | cancel =>
      cases taken
      exact .refl
  | task task choice =>
      cases step_task taken with
      | access calling access follows continues =>
          rw [follows_custody follows access.callOf continues]
          exact access_custody calling access
      | own idle follows begins => rw [own_custody idle follows begins]

theorem new_senderOf (config : Config) (supervisor : Supervisor) (path : ActorPath) :
    (new config).senderOf supervisor path = none := Finmap.lookup_empty path

theorem new_callOf (config : Config) (task : Task) : (new config).callOf task = none := by
  cases task <;> rfl

theorem new_held (config : Config) (place : Place) : (new config).held place = none := by
  cases place with
  | shelf supervisor path => exact new_senderOf config supervisor path
  | hand task =>
      rw [held, new_callOf]
      rfl

theorem new_exclusive (config : Config) : (new config).custody.Exclusive := by
  have nothing {place : Place} {id : ActorId} (found : (new config).custody.holds place = some id) :
      False := nomatch (new_held config place).symm.trans found
  constructor
  case unique => exact fun _ _ _ found => (nothing found).elim
  case known => exact fun _ _ found => (nothing found).elim
  case unspent => exact fun _ _ found => (nothing found).elim
  case spentKnown => exact fun id spent => nomatch spent

def Place.Fits (identity : ActorPath × Supervisor) : Place → Prop
  | .shelf supervisor path => identity = (path, supervisor)
  | .hand task => identity.2 = task.supervisor

def Labelled (world : World) : Prop :=
  ∀ place id, world.held place = some id → ∃ identity ∈ world.identityOf id,
    Place.Fits identity place

theorem access_labelled {call : Call} {progress : Progress} (labelled : world.Labelled)
    (calling : world.callOf task = some call)
    (access : Access world task.supervisor call next progress) (place : Place) (id : ActorId)
    (found : (settled world next task progress).holds place = some id) :
    ∃ identity ∈ next.identityOf id, Place.Fits identity place := by
  have old (here : Place) (lies : world.held here = some id) :
      ∃ identity ∈ next.identityOf id, Place.Fits identity here := by
    obtain ⟨identity, known, fits⟩ := labelled here id lies
    exact ⟨identity, access.identityOf known, fits⟩
  cases place with
  | shelf supervisor path =>
      rcases access.senderOf_cases found with kept | ⟨rfl, rfl, runner, here, rfl⟩
      · exact old (.shelf supervisor path) kept
      · obtain ⟨identity, known, fits⟩ := old (.hand task) (by simp [held, calling, Call.carries])
        have same : runner.identity ∈ next.identityOf id :=
          access.identityOf (Option.map_eq_some_iff.mpr ⟨runner, here, rfl⟩)
        obtain rfl : identity = runner.identity := Option.mem_unique known same
        exact ⟨_, known, Prod.ext rfl fits⟩
  | hand other =>
      simp only [settled] at found
      split at found
      case isTrue here =>
        subst here
        rcases access.carries_cases found with kept | ⟨path, lies⟩ | ⟨path, strategy, rfl, rfl⟩
        · exact old (.hand other) (by simp [held, calling, kept])
        · obtain ⟨identity, known, fits⟩ := old (.shelf other.supervisor path) lies
          exact ⟨identity, known, by rw [show identity = _ from fits]; rfl⟩
        · refine ⟨(path, other.supervisor), ?_, rfl⟩
          simp [World.identityOf, spawn, ActorRunner.identity, ActorRunner.new]
      case isFalse => exact old (.hand other) found

theorem step_labelled (labelled : world.Labelled) (taken : step world label = some after) :
    after.Labelled := by
  cases label with
  | cancel =>
      cases taken
      exact labelled
  | task task choice =>
      intro place id found
      cases step_task taken with
      | access calling access follows continues =>
          have same := follows_custody follows access.callOf continues
          have there := congrFun (congrArg Custody.holds same) place
          obtain ⟨identity, known, fits⟩ :=
            access_labelled labelled calling access place id (there.symm.trans found)
          exact ⟨identity, by rw [follows.identity]; exact known, fits⟩
      | own idle follows begins =>
          have same := own_custody idle follows begins
          have there := congrFun (congrArg Custody.holds same) place
          obtain ⟨identity, known, fits⟩ := labelled place id (there.symm.trans found)
          exact ⟨identity, by rw [follows.identity]; exact known, fits⟩

structure Borrowed (world : World) : Prop where
  begun : ∀ task, world.callOf task = some .restartChildren → ∃ id, task = .actor id
  held : ∀ task child rest, world.callOf task = some (.sendRestart child rest) →
    (∃ id, task = .actor id) ∧
      ∀ id ∈ child :: rest, ∃ path, world.senderOf task.supervisor path = some id

theorem supervisor_injective {task other : Task} {id : ActorId} (actor : other = .actor id)
    (same : other.supervisor = task.supervisor) : task = other := by
  subst actor
  cases task with
  | actor otherId =>
      cases same
      rfl
  | _ => cases same

theorem step_senderOf_other {id : ActorId} (other : label.task? ≠ some (.actor id))
    (taken : step world label = some after) (path : ActorPath) :
    after.senderOf (.actor id) path = world.senderOf (.actor id) path := by
  cases label with
  | cancel =>
      cases taken
      rfl
  | task task choice =>
      have apart : Supervisor.actor id ≠ task.supervisor := by
        intro same
        have owner : task = .actor id := supervisor_injective rfl same
        exact other (by rw [owner]; rfl)
      cases step_task taken with
      | access calling access follows continues => rw [follows.senders, access.senderOf_other apart]
      | own idle follows begins => rw [follows.senders]

theorem step_borrowed (borrowed : world.Borrowed) (taken : step world label = some after) :
    after.Borrowed := by
  cases label with
  | cancel =>
      cases taken
      exact ⟨borrowed.begun, borrowed.held⟩
  | task task choice =>
      cases step_task taken with
      | own idle follows begins =>
          have before {other : Task} {call : Call} (calling : after.callOf other = some call)
              (later : ¬ call.BegunBy other) : world.callOf other = some call := by
            by_cases here : other = task
            · subst here
              exact absurd (begins call calling) later
            · rw [← follows.others other here]
              exact calling
          constructor
          case begun =>
            intro other calling
            by_cases here : other = task
            · subst here
              exact begins _ calling
            · exact borrowed.begun other (by rw [← follows.others other here]; exact calling)
          case held =>
            intro other child rest calling
            obtain ⟨actor, every⟩ := borrowed.held other child rest (before calling nofun)
            refine ⟨actor, fun id member => ?_⟩
            obtain ⟨path, found⟩ := every id member
            exact ⟨path, by rw [follows.senders]; exact found⟩
      | @access call next progress calling access follows continues =>
          constructor
          case begun =>
            intro other restarting
            by_cases here : other = task
            · subst here
              cases progress with
              | call goesOn =>
                  obtain rfl := Option.some.inj (restarting.symm.trans continues)
                  exact access.not_restartChildren.elim
              | «return» outcome => exact continues _ restarting
            · rw [follows.others other here, access.callOf] at restarting
              exact borrowed.begun other restarting
          case held =>
            intro other child rest sending
            by_cases here : other = task
            · subst here
              cases progress with
              | call goesOn =>
                  obtain rfl := Option.some.inj (sending.symm.trans continues)
                  have same := access.sendRestart_senders
                  rcases access.sendRestart_cases with ⟨rfl, every⟩ | ⟨first, rfl⟩
                  · exact ⟨borrowed.begun other calling, fun id member => by
                      obtain ⟨path, found⟩ := every id member
                      exact ⟨path, by rw [follows.senders, same]; exact found⟩⟩
                  · obtain ⟨actor, every⟩ := borrowed.held other _ _ calling
                    exact ⟨actor, fun id member => by
                      obtain ⟨path, found⟩ := every id (List.mem_cons_of_mem first member)
                      exact ⟨path, by rw [follows.senders, same]; exact found⟩⟩
              | «return» outcome => exact absurd (continues _ sending) nofun
            · rw [follows.others other here, access.callOf] at sending
              obtain ⟨⟨id, actor⟩, every⟩ := borrowed.held other child rest sending
              refine ⟨⟨id, actor⟩, fun child member => ?_⟩
              obtain ⟨path, found⟩ := every child member
              refine ⟨path, ?_⟩
              rw [follows.senders, access.senderOf_other]
              · exact found
              · exact fun same => here (supervisor_injective actor same).symm

end Invariants

end World

end Rush.Actor
