import Rush.Actor.PathRelations
import Rush.Actor.StopCall

/-! What a parent can do with the child it creates. Creation joins the name to the
parent's path, listing compares the parents of paths, and the answer to a Stopped signal
joins the last segment of the child's path. -/

namespace Rush.Actor

open Rush.Library Runs

namespace ActorPath

/-- The three views of a new child: its parent is the actor that creates it, it is not
that actor itself, and its key leads from the actor back to it. -/
def Agree (parent : ActorPath) (name : String) : Prop :=
  (parent / name).parent = parent ∧ parent / name ≠ parent ∧
    parent / (parent / name).key = parent / name

theorem agree_iff (parent : ActorPath) (name : String) :
    Agree parent name ↔ (segments name).length = 1 := by
  have tokens : (parent / name).tokens = parent.tokens ++ segments name := rfl
  have length : (parent / name).tokens.length = parent.tokens.length + (segments name).length := by
    rw [tokens, List.length_append]
  constructor
  · rintro ⟨above, apart, _⟩
    have nonempty : (segments name).length ≠ 0 := by
      intro empty
      have none : segments name = [] := List.length_eq_zero_iff.mp empty
      have same : (parent / name).tokens = parent.tokens := by
        rw [tokens, none, List.append_nil]
      exact apart (congrArg ActorPath.mk same)
    have shorter := congrArg (fun path => path.tokens.length) above
    rw [ActorPath.parent] at shorter
    split at shorter
    · rw [List.length_take] at shorter
      omega
    · rw [List.length_nil] at shorter
      omega
  · intro single
    obtain ⟨segment, only⟩ := List.length_eq_one_iff.mp single
    rw [only] at tokens
    have again : segments segment = [segment] :=
      segments_of_mem (only ▸ List.mem_singleton_self segment)
    refine ⟨?_, ?_, ?_⟩
    · rw [ActorPath.parent, length, single, Nat.add_sub_cancel, tokens]
      split
      · rw [List.take_left]
      · have none : parent.tokens = [] := List.length_eq_zero_iff.mp (by omega)
        rw [← none]
    · intro same
      have longer := congrArg (fun path => path.tokens.length) same
      simp only [length, single] at longer
      omega
    · have key : (parent / name).key = segment := by
        rw [ActorPath.key, tokens, List.getLast?_concat]
        rfl
      have joined : (parent / segment).tokens = parent.tokens ++ [segment] := by
        rw [show (parent / segment).tokens = parent.tokens ++ segments segment from rfl, again]
      rw [key]
      exact congrArg ActorPath.mk (joined.trans tokens.symm)

end ActorPath

theorem World.not_leaving {world : World} {supervisor : Supervisor} {path : ActorPath}
    {child : ActorId} (custodial : world.Custodial)
    (sender : world.senderOf supervisor path = some child)
    (unsent : child ∉ world.history.stopSent) (alive : world.finished child = false) :
    ¬ world.Leaving child := by
  rintro (sent | gone | ⟨task, rest, sending⟩)
  · exact unsent sent
  · cases alive.symm.trans gone
  · have hand : world.held (.hand task) = some child := by rw [World.held, sending]; rfl
    cases custodial.exclusive.unique (.shelf supervisor path) (.hand task) child sender hand

namespace StopCall

open World

variable {stop after : StopCall} {label : Label} {id child : ActorId} {parent path : ActorPath}

inductive Awaiting (id child : ActorId) (parent path : ActorPath) (stop : StopCall) : Prop
  | ended (gone : stop.world.finished child = true)
  | told (asked : child ∈ stop.asked)
  | brokeOff (error : Error) (returned : stop.progress = .return (.failed error))
  | held (carried : sending stop.progress = some child)
  | before (sender : stop.world.senderOf (.actor id) path = some child)
      (here : stop.progress = .call (.stopChildren parent) ∨
        stop.progress = .call (.stopListed parent) ∨ path ∈ left stop.progress)

structure OwnChild (id child : ActorId) (path : ActorPath) (stop : StopCall) : Prop where
  tracked : Tracked (.actor id) stop
  reached : Guarded World.step Initial Orderly stop.world
  identity : stop.world.identityOf child = some (path, .actor id)
  created : child ∈ stop.world.history.created

theorem step_ownChild (own : OwnChild id child path stop) (orderly : stop.world.Orderly label)
    (taken : step (.actor id) stop label = some after) : OwnChild id child path after := by
  have moved := (step_moves own.tracked.inCall taken).world_step
  exact ⟨step_tracked own.tracked taken, .next _ label own.reached orderly moved,
    step_identity moved own.identity, (step_within moved).created child own.created⟩

theorem OwnChild.registered (own : OwnChild id child path stop)
    (alive : stop.world.finished child = false)
    (sender : stop.world.senderOf (.actor id) path = some child) {call : Call}
    (within : stop.progress = .call call) (listing : ∀ here rest, call ≠ .takeSender here rest) :
    stop.world.registry.lookup path = some child := by
  have custodial := custodial_reached own.reached
  have unsent : child ∉ stop.world.history.stopSent :=
    custodial.exclusive.unspent (.shelf (.actor id) path) child sender
  have staying : ¬ stop.world.Leaving child := not_leaving custodial sender unsent alive
  obtain ⟨_, entry | ⟨task, rest, supervised, taking⟩⟩ :=
    (registered_reached own.reached).alive child path (.actor id) own.identity own.created staying
  · exact entry
  · obtain rfl : task = .actor id := supervisor_injective rfl supervised.symm
    have calling := own.tracked.inCall call within
    rw [taking] at calling
    exact absurd (Option.some.inj calling).symm (listing path rest)

theorem before_awaiting (own : OwnChild id child path stop) (below : path.parent = parent)
    (alive : stop.world.finished child = false)
    (sender : stop.world.senderOf (.actor id) path = some child)
    (here : stop.progress = .call (.stopChildren parent) ∨
      stop.progress = .call (.stopListed parent) ∨ path ∈ left stop.progress)
    {call : Call} {next : World} {progress : Progress} (within : stop.progress = .call call)
    (access : Access stop.world (.actor id) call next progress)
    (follows : Follows (.actor id) next after.world) (progressed : after.progress = progress) :
    Awaiting id child parent path after := by
  have sender_same (kept : next.senderOf (.actor id) path =
      stop.world.senderOf (.actor id) path) :
      after.world.senderOf (.actor id) path = some child := by
    rw [follows.senders, kept, sender]
  have entry := own.registered alive sender within
  rw [within] at here
  cases access with
  | @noChildren above none =>
      have child_listed : path ∈ stop.world.getChilds above := by
        rcases here with same | same | waits
        · cases same
          exact getChilds_of_lookup (entry nofun) below
        · cases same
        · cases waits
      rw [none] at child_listed
      exact absurd child_listed (Finset.notMem_empty _)
  | @someChildren above some =>
      refine .before (sender_same rfl) (.inr (.inl ?_))
      rcases here with same | same | waits
      · cases same
        exact progressed
      · cases same
      · cases waits
  | @listed above paths nodup every =>
      refine .before (sender_same rfl) (.inr (.inr ?_))
      rw [progressed, left_stopNext, ← List.mem_toFinset, every]
      rcases here with same | same | waits
      · cases same
      · cases same
        exact getChilds_of_lookup (entry nofun) below
      · cases waits
  | @entryTaken first rest =>
      refine .before (sender_same rfl) (.inr (.inr ?_))
      rw [progressed]
      rcases here with same | same | waits
      · cases same
      · cases same
      · cases rest with
        | none => cases waits
        | some rest => exact waits
  | noSender absent => exact .brokeOff _ progressed
  | @senderTaken first rest found holds =>
      rcases here with same | same | waits
      · cases same
      · cases same
      · cases rest with
        | none => cases waits
        | some rest =>
            by_cases first_is : path = first
            · subst first_is
              obtain rfl := Option.some.inj (holds.symm.trans sender)
              exact .held (by rw [progressed]; rfl)
            · refine .before (sender_same ?_) (.inr (.inr ?_))
              · rw [dropSender_senderOf, if_neg (fun both => first_is both.2)]
              · rw [progressed]
                exact (List.mem_cons.mp waits).resolve_left first_is
  | stopRefused gone => exact .brokeOff _ progressed
  | @stopSent told rest actions sends =>
      refine .before (sender_same rfl) (.inr (.inr ?_))
      rcases here with same | same | waits
      · cases same
      · cases same
      · cases rest with
        | none => cases waits
        | some rest =>
            rw [progressed, left_stopNext]
            exact waits
  | _ => exact (own.tracked.point _ within).elim

theorem step_awaiting (own : OwnChild id child path stop) (below : path.parent = parent)
    (awaiting : Awaiting id child parent path stop)
    (taken : step (.actor id) stop label = some after) : Awaiting id child parent path after := by
  have moves := step_moves own.tracked.inCall taken
  have spawned := identityOf_bound own.identity
  cases awaiting with
  | ended gone => exact .ended (step_finished moves.world_step spawned gone)
  | told asked => exact .told (asked_records.kept moves child asked)
  | brokeOff error returned =>
      simp only [step, returned] at taken
      cases taken
  | held carried =>
      cases step_moves own.tracked.inCall taken with
      | other apart moved same => exact .held (by rw [same]; exact carried)
      | @own call next choice progress labelled moved within access follows continues noted =>
          rw [within] at carried
          cases access with
          | stopRefused gone => exact .brokeOff _ (by rw [noted])
          | @stopSent told rest actions sends =>
              cases carried
              cases alive : stop.world.finished child with
              | true => exact .ended (step_finished moves.world_step spawned alive)
              | false => exact .told (asked_records.adds moves (by rw [labelled]; rfl) within alive)
          | _ => cases carried
  | before sender here =>
      cases alive : stop.world.finished child with
      | true => exact .ended (step_finished moves.world_step spawned alive)
      | false =>
          cases step_moves own.tracked.inCall taken with
          | other apart moved same =>
              refine .before ((step_senderOf_other apart moved path).trans sender) ?_
              rw [same]
              exact here
          | own labelled moved within access follows continues noted =>
              exact before_awaiting own below alive sender here within access follows (by rw [noted])

def BeginsIn (world : World) (id : ActorId) (parent : ActorPath) (stop : StopCall) : Prop :=
  stop.world = world ∧ Begins (.actor id) (OfChildren parent) stop

theorem begins_ownChild {world : World} (begins : BeginsIn world id parent stop)
    (reached : Guarded World.step Initial Orderly world)
    (identity : world.identityOf child = some (path, .actor id))
    (created : child ∈ world.history.created) : OwnChild id child path stop := by
  obtain ⟨rfl, begins⟩ := begins
  have stops (call : Call) (begun : OfChildren parent call) : Stopping call := by
    obtain rfl := begun
    exact .children parent
  exact ⟨begins_tracked stops begins, reached, identity, created⟩

theorem child_told {world : World} (reached : Guarded World.step Initial Orderly world)
    (identity : world.identityOf child = some (path, .actor id))
    (created : child ∈ world.history.created) (staying : ¬ world.Leaving child)
    (below : path.parent = parent)
    (ran : Guarded (step (.actor id)) (BeginsIn world id parent)
      (fun stop => stop.world.Orderly) stop)
    {more : Bool} (returned : stop.progress = .return (.children more)) :
    stop.world.finished child = true ∨ child ∈ stop.asked := by
  have sender : world.senderOf (.actor id) path = some child :=
    ((registered_reached reached).alive child path (.actor id) identity created staying).1
  have invariant : OwnChild id child path stop ∧ Awaiting id child parent path stop := by
    refine guarded_invariant
      (fun stop => OwnChild id child path stop ∧ Awaiting id child parent path stop) ?_ ?_ ran
    · intro stop begins
      refine ⟨begins_ownChild begins reached identity created, ?_⟩
      obtain ⟨rfl, begun, call, _, rfl, _, rfl⟩ := begins
      exact .before sender (.inl rfl)
    · rintro stop label after ⟨own, awaiting⟩ orderly taken
      exact ⟨step_ownChild own orderly taken, step_awaiting own below awaiting taken⟩
  cases invariant.2 with
  | ended gone => exact .inl gone
  | told asked => exact .inr asked
  | brokeOff error failed => cases returned.symm.trans failed
  | held carried =>
      rw [returned] at carried
      cases carried
  | before sender here =>
      rw [returned] at here
      rcases here with same | same | waits
      · cases same
      · cases same
      · cases waits

end StopCall

namespace World

open ActorPath

variable {world after : World} {id child : ActorId} {runner : ActorRunner} {path : ActorPath}

/-- What the actor can do with a child that nobody has stopped: it finds it among its
children, and a `stop_children` it begins asks the child to stop. -/
structure Controls (world : World) (id : ActorId) (parent : ActorPath) (child : ActorId)
    (path : ActorPath) : Prop where
  listed : ¬ world.Taking (.actor id) path →
    path ∈ world.getChilds parent ∧ world.registry.lookup path = some child
  stopped : ∀ (stop : StopCall) (more : Bool),
    Guarded (StopCall.step (.actor id)) (StopCall.BeginsIn world id parent)
      (fun stop => stop.world.Orderly) stop →
    stop.progress = .return (.children more) →
      stop.world.finished child = true ∨ child ∈ stop.asked

theorem controls_reached (reached : Guarded step Initial Orderly world)
    (identity : world.identityOf child = some (path, .actor id))
    (created : child ∈ world.history.created) (staying : ¬ world.Leaving child) {parent : ActorPath}
    (below : path.parent = parent) : world.Controls id parent child path := by
  constructor
  case listed =>
    intro notTaking
    obtain ⟨_, entry | taking⟩ :=
      (registered_reached reached).alive child path (.actor id) identity created staying
    · exact ⟨getChilds_of_lookup entry below, entry⟩
    · exact absurd taking notTaking
  case stopped =>
    exact fun stop more ran returned =>
      StopCall.child_told reached identity created staying below ran returned

theorem removeChild_unregisters {choice : Choice} {emitter : Option ActorId}
    (removing : world.callOf (.actor id) = some (.removeChild path emitter))
    (taken : step world (.task (.actor id) choice) = some after) :
    after.registry.lookup path = none := by
  obtain ⟨next, progress, access, follows, _⟩ := step_calls taken removing
  cases access
  rw [follows.registry]
  exact Finmap.lookup_erase _ _

/-- The parent's views of a new child agree exactly for the names of one segment. Such a
child stays in its parent's control in every orderly run, and the answer to its Stopped
signal takes its entry. -/
theorem controls_children (runner : ActorRunner) (name : String) :
    (Agree runner.path name ↔ (segments name).length = 1) ∧
    ((segments name).length = 1 →
      (∀ (world : World) (id child : ActorId), Guarded step Initial Orderly world →
        world.actors[id]? = some runner →
        world.identityOf child = some (runner.path / name, .actor id) →
        child ∈ world.history.created → ¬ world.Leaving child →
          world.Controls id runner.path child (runner.path / name)) ∧
      ∀ emitter : ActorId,
        (runner.takeSignal emitter (.stopped (runner.path / name))).control =
            .calling (.removeChild (runner.path / name) (some emitter)) .removeChild ∧
          ∀ (world after : World) (id : ActorId) (choice : Choice),
            world.callOf (.actor id) = some (.removeChild (runner.path / name) (some emitter)) →
            step world (.task (.actor id) choice) = some after →
              after.registry.lookup (runner.path / name) = none) := by
  refine ⟨agree_iff runner.path name, fun single => ?_⟩
  obtain ⟨above, _, back⟩ := (agree_iff runner.path name).mpr single
  constructor
  · intro world id child reached _ identity created staying
    exact controls_reached reached identity created staying above
  · intro emitter
    constructor
    · rw [ActorRunner.takeSignal, back]
    · exact fun world after id choice removing taken => removeChild_unregisters removing taken

section Scenarios

theorem plain_child_controlled :
    ∃ world, Guarded step Initial Orderly world ∧
      world.Controls 0 (rootPath / "p") 1 (rootPath / "p" / "c") := by
  have taken : ((Runs.checkedRun step orderlyNow (World.new Config.default)
      (creates 0 "p" ++ createsChild 0 1 "c")).any fun world =>
        (world.actors[0]?.map ActorRunner.path) = some (rootPath / "p") ∧
          world.identityOf 1 = some (rootPath / "p" / "c", .actor 0) ∧
            1 ∈ world.history.created ∧ 1 ∉ world.history.stopSent ∧
              world.finished 1 = false ∧ world.senderOf (.actor 0) (rootPath / "p" / "c") = some 1) =
                true := by
    decide
  obtain ⟨world, reached, parent, identity, created, unsent, runs, sender⟩ :
      ∃ world, Guarded step Initial Orderly world ∧ _ :=
    guarded_shown orderlyNow_sound ⟨_, rfl⟩ taken
  obtain ⟨runner, found, path⟩ := Option.map_eq_some_iff.mp parent
  have staying := not_leaving (custodial_reached reached) sender unsent runs
  rw [← path] at identity ⊢
  have controls := ((controls_children runner "c").2 (by decide)).1
  exact ⟨world, reached, controls world 0 1 reached found identity created staying⟩

/-- A child whose name has two segments is not among its parent's children. -/
theorem nested_name_escapes :
    ¬ ∀ (world : World) (id child : ActorId) (runner : ActorRunner) (name : String),
      Guarded step Initial Orderly world → world.actors[id]? = some runner →
      world.identityOf child = some (runner.path / name, .actor id) →
      child ∈ world.history.created → ¬ world.Leaving child →
        Agree runner.path name ∧ world.Controls id runner.path child (runner.path / name) := by
  intro claimed
  have taken : ((Runs.checkedRun step orderlyNow (World.new Config.default)
      (creates 0 "p" ++ createsChild 0 1 "a/b")).any fun world =>
        (world.actors[0]?.map ActorRunner.path) = some (rootPath / "p") ∧
          world.identityOf 1 = some (rootPath / "p" / "a/b", .actor 0) ∧
            1 ∈ world.history.created ∧ 1 ∉ world.history.stopSent ∧
              world.finished 1 = false ∧
                world.senderOf (.actor 0) (rootPath / "p" / "a/b") = some 1) = true := by
    decide
  obtain ⟨world, reached, parent, identity, created, unsent, runs, sender⟩ :
      ∃ world, Guarded step Initial Orderly world ∧ _ :=
    guarded_shown orderlyNow_sound ⟨_, rfl⟩ taken
  obtain ⟨runner, found, path⟩ := Option.map_eq_some_iff.mp parent
  have staying := not_leaving (custodial_reached reached) sender unsent runs
  rw [← path] at identity
  have agrees := (claimed world 0 1 runner "a/b" reached found identity created staying).1
  have single := (agree_iff runner.path "a/b").mp agrees
  exact absurd single (by decide)

end Scenarios

end World

end Rush.Actor
