import Rush.Actor.ParentStop
import Rush.Actor.FailedStart
import Rush.Actor.Creation

/-! Whether a child can outlive its parent unasked. Only the branch for a Stop sends
the children a Stop; a runner comes to its end on other routes as well. -/

namespace Rush.Actor

open Rush.Library Runs

def ActorRunner.Closing (runner : ActorRunner) : Prop :=
  runner.lifecycle = .terminated ∨ runner.lifecycle = .stopped ∧ runner.control ≠ .lifecycle

def Call.creating : Call → Bool
  | .initResult _ | .insertEntry _ | .insertSender _ => true
  | _ => false

def Control.postStopCall? : Control → Option Call
  | .calling call (.hook .postStop) => some call
  | _ => none

def ActorRunner.Childfree (runner : ActorRunner) : Prop :=
  ∀ call ∈ runner.control.postStopCall?, call.creating = false

namespace World

def Unasked (world : World) (id child : ActorId) : Prop :=
  world.running (.actor id) child = true ∧ child ∉ world.history.stopSent

/-- No actor whose runner is terminated has a running child without a Stop. -/
def NoOrphans (world : World) : Prop :=
  ∀ id : ActorId, ∀ runner ∈ world.actors[id]?, runner.lifecycle = .terminated →
    ∀ child, ¬ world.Unasked id child

def CallChildless (world : World) : Call → Prop
  | .createActor path _ => path ∈ world.registry
  | _ => True

def CallKeepsSenders (world : World) (supervisor : Supervisor) : Call → Prop
  | .insertSender child | .dropSender child _ => ∀ runner ∈ world.actors[child]?,
      ∀ other ∈ world.senderOf supervisor runner.path, world.running supervisor other = false
  | .removeSender path =>
      ∀ other ∈ world.senderOf supervisor path, world.running supervisor other = false
  | _ => True

/-- At the Stopped arm the handler holds no sender of a running child, `post_stop`
spawns no child, and no sender of a running child gets lost. -/
def RunnerUnburdened (world : World) (id : ActorId) (runner : ActorRunner) : Control → Prop
  | .lifecycle => runner.lifecycle = .stopped →
      ∀ path ∈ (world.handlers (.actor id)).actionSenders.keys,
        ∀ child ∈ world.senderOf (.actor id) path, world.running (.actor id) child = false
  | .calling call point => world.CallKeepsSenders (.actor id) call ∧
      (point = .hook .postStop → world.CallChildless call)
  | _ => True

def Unburdened (world : World) : Label → Prop
  | .task (.actor id) _ => ∀ runner ∈ world.actors[id]?,
      world.RunnerUnburdened id runner runner.control
  | _ => True

variable {world next after : World} {label : Label} {id child : ActorId} {self : Supervisor}
  {runner moved : ActorRunner} {choice : Choice}

section Running

theorem running_cases (known : world.Known) (custodial : world.Custodial)
    (taken : step world label = some after) (running : after.running self child = true) :
    world.running self child = true ∨ ∃ task choice, label = .task task choice ∧
      world.callOf task = some (.insertSender child) ∧ task.supervisor = self := by
  obtain ⟨moved, foundAfter, supervisor, created, silent, calm⟩ := running_iff.mp running
  have before : child ∉ world.history.emitted := fun emitted =>
    silent ((step_within taken).emitted child emitted)
  by_cases old : child ∈ world.history.created
  · left
    cases step_origin taken foundAfter with
    | own labelled found moves =>
        have same := congrArg Prod.snd moves.identity
        have unfinished := moves.unfinished
        rw [ActorRunner.finished, Bool.or_eq_false_iff] at unfinished
        exact running_iff.mpr ⟨_, found, same.symm.trans supervisor, old, before, unfinished.2⟩
    | kept found => exact running_iff.mpr ⟨moved, found, supervisor, old, before, calm⟩
    | spawned path supervisor strategy absent =>
        rw [List.getElem?_eq_none_iff] at absent
        exact absurd (known.created child old) (Nat.not_lt.mpr absent)
  · right
    cases label with
    | cancel =>
        cases taken
        exact absurd created old
    | task task choice =>
        refine ⟨task, choice, rfl, ?_⟩
        cases step_task taken with
        | own idle follows begins =>
            rw [follows.history] at created
            exact absurd created old
        | access calling access follows continues =>
            rw [follows.history] at created
            rcases access.created_cases created with before | ⟨rfl, runner, found⟩
            · exact absurd before old
            · refine ⟨calling, ?_⟩
              obtain ⟨identity, labelled, fits⟩ :=
                custodial.labelled (.hand task) child (by simp [held, calling, Call.carries])
              have later : after.identityOf child = some moved.identity :=
                identityOf_found foundAfter
              have same := Option.some.inj ((step_identity taken labelled).symm.trans later)
              rw [← supervisor, show moved.supervisor = identity.2 from congrArg Prod.snd same.symm]
              exact fits.symm

theorem Unasked.back (known : world.Known) (custodial : world.Custodial)
    (taken : step world label = some after) (unasked : after.Unasked id child) :
    world.Unasked id child ∨ ∃ choice, label = .task (.actor id) choice ∧
      world.callOf (.actor id) = some (.insertSender child) := by
  rcases running_cases known custodial taken unasked.1 with running | ⟨task, choice, rfl, calling, own⟩
  · exact .inl ⟨running, fun sent => unasked.2 ((step_within taken).stopSent child sent)⟩
  · cases task with
    | actor other =>
        cases own
        exact .inr ⟨choice, rfl, calling⟩
    | runner => cases own
    | client => cases own

theorem Phased.not_running (phased : world.Phased) (gone : world.finished child = true) :
    world.running self child = false := by
  by_contra running
  rw [Bool.not_eq_false] at running
  obtain ⟨runner, found, _, _, silent, calm⟩ := running_iff.mp running
  rw [finished, found, Option.all_some, ActorRunner.finished, calm, Bool.or_false,
    decide_eq_true_iff] at gone
  have terminated := (phased.inPhase child runner found).phase .terminated (by rw [gone]; rfl)
  exact silent (phased.closed child runner found (.inl terminated))

end Running

section Held

/-- The sender of a child that no one has asked to stop is in its parent's map, or in
the hand of a `stop_child` of the parent. -/
def SendersHeld (world : World) (id : ActorId) : Prop :=
  ∀ child, world.Unasked id child → (∃ path, world.senderOf (.actor id) path = some child) ∨
    ∃ rest, world.callOf (.actor id) = some (.sendStop child rest)

theorem access_held {call : Call} {progress : Progress} (phased : world.Phased)
    (calling : world.callOf (.actor id) = some call)
    (keeps : world.CallKeepsSenders (.actor id) call)
    (access : Access world (.actor id) call next progress)
    (follows : Follows (.actor id) next after)
    (continues : progress.Continues (.actor id) (after.callOf (.actor id)))
    (unasked : world.Unasked id child) (later : after.Unasked id child)
    (held : (∃ path, world.senderOf (.actor id) path = some child) ∨
      ∃ rest, world.callOf (.actor id) = some (.sendStop child rest)) :
    (∃ path, after.senderOf (.actor id) path = some child) ∨
      ∃ rest, after.callOf (.actor id) = some (.sendStop child rest) := by
  have runs : world.running (.actor id) child ≠ false := by
    rw [unasked.1]
    exact nofun
  rcases held with ⟨path, sender⟩ | ⟨rest, sending⟩
  · cases access.senderEffect with
    | same senders => exact .inl ⟨path, by rw [follows.senders, senders, sender]⟩
    | drop here senders calls =>
        by_cases same : path = here
        · subst same
          rcases calls with ⟨_, error, runner, rfl, found, rfl⟩ | ⟨rest, rfl⟩ | rfl
          · exact absurd (keeps runner found child sender) runs
          · cases access with
            | noSender absent => cases absent.symm.trans sender
            | senderTaken taken =>
                obtain rfl := Option.some.inj (sender.symm.trans taken)
                exact .inr ⟨rest, continues⟩
          · exact absurd (keeps child sender) runs
        · exact .inl ⟨path, by rw [follows.senders, senders, if_neg fun both => same both.2, sender]⟩
    | insert other runner found senders =>
        by_cases same : path = runner.path
        · exact absurd (keeps runner found child (by rw [← same]; exact sender)) runs
        · exact .inl ⟨path, by rw [follows.senders, senders, if_neg fun both => same both.2, sender]⟩
  · obtain rfl := Option.some.inj (calling.symm.trans sending)
    cases access with
    | stopRefused gone => exact absurd (phased.not_running gone) runs
    | stopSent =>
        refine absurd ?_ later.2
        rw [follows.history]
        exact List.mem_cons_self

theorem step_held (phased : world.Phased) (known : world.Known) (custodial : world.Custodial)
    (held : world.SendersHeld id)
    (keeps : ∀ choice, label = .task (.actor id) choice →
      ∀ call ∈ world.callOf (.actor id), world.CallKeepsSenders (.actor id) call)
    (taken : step world label = some after) : after.SendersHeld id := by
  intro child later
  rcases later.back known custodial taken with unasked | ⟨choice, rfl, calling⟩
  · have was := held child unasked
    cases label with
    | cancel =>
        cases taken
        exact was
    | task task choice =>
        by_cases own : task = .actor id
        · subst own
          cases step_task taken with
          | access calling access follows continues =>
              exact access_held phased calling (keeps choice rfl _ calling) access follows continues
                unasked later was
          | own idle follows begins =>
              rcases was with ⟨path, sender⟩ | ⟨rest, sending⟩
              · exact .inl ⟨path, by rw [follows.senders, sender]⟩
              · cases idle.symm.trans sending
        · have apart : Supervisor.actor id ≠ task.supervisor := by
            cases task with
            | actor other =>
                rintro ⟨⟩
                exact own rfl
            | runner => exact nofun
            | client => exact nofun
          cases step_task taken with
          | access calling access follows continues =>
              rw [follows.others (.actor id) (Ne.symm own), access.callOf]
              refine was.imp_left ?_
              rintro ⟨path, sender⟩
              exact ⟨path, by rw [follows.senders, access.senderOf_other apart, sender]⟩
          | own idle follows begins =>
              rw [follows.others (.actor id) (Ne.symm own)]
              refine was.imp_left ?_
              rintro ⟨path, sender⟩
              exact ⟨path, by rw [follows.senders, sender]⟩
  · left
    cases step_task taken with
    | own idle follows begins => cases idle.symm.trans calling
    | access here access follows continues =>
        obtain rfl := Option.some.inj (here.symm.trans calling)
        cases access with
        | @senderInserted _ runner found =>
            refine ⟨runner.path, ?_⟩
            rw [follows.senders, record_senderOf, holdSender_senderOf, if_pos ⟨rfl, rfl⟩]

end Held

section Closing

theorem closing_step (inPhase : runner.InPhase id)
    (moves : RunnerStep world id runner choice next moved) (closing : moved.Closing) :
    runner.Closing ∨ runner.control = .lifecycle ∧ runner.lifecycle = .stopped := by
  have kept (same : moved.lifecycle = runner.lifecycle) (busy : runner.control ≠ .lifecycle) :
      runner.Closing := by
    rcases closing with terminated | ⟨stopped, _⟩
    · exact .inl (same.symm.trans terminated)
    · exact .inr ⟨same.symm.trans stopped, busy⟩
  have back (idle : moved.control = .lifecycle) (open_ : moved.lifecycle ≠ .terminated) : False := by
    rcases closing with terminated | ⟨_, busy⟩
    · exact open_ terminated
    · exact busy idle
  cases moves with
  | init within =>
      have arm := runner.init_arm id
      generalize runner.init id = moved at arm closing kept back
      cases arm with
      | stopped lifecycle => exact .inr ⟨within, lifecycle⟩
      | terminated lifecycle => exact .inl (.inl lifecycle)
      | failed => exact (back within nofun).elim
      | gaveUp => exact (back rfl nofun).elim
      | created lifecycle | started lifecycle | slept _ lifecycle | retried lifecycle =>
          rcases closing with terminated | ⟨stopped, _⟩
          · cases lifecycle.symm.trans terminated
          · cases lifecycle.symm.trans stopped
  | woke within | requested within | panicked within | message within =>
      exact .inl (kept rfl (by rw [within]; exact nofun))
  | tooDeep => exact .inl closing
  | @returned hook result within =>
      left
      have lifecycle := inPhase.phase hook.lifecycle (by rw [within]; rfl)
      have busy : runner.control ≠ .lifecycle := by
        rw [within]
        exact nofun
      have arm := runner.hookReturns_arm id hook result
      generalize runner.hookReturns id hook result = moved at arm closing kept back
      cases arm with
      | ended => exact .inr ⟨lifecycle, busy⟩
      | started | startFailed | restarted => exact (back rfl nofun).elim
      | _ => exact kept rfl busy
  | @signal emitter signal signals within =>
      cases signal <;> exact .inl (kept rfl (by rw [within]; exact nofun))
  | @action action actions within =>
      cases action <;> exact .inl (kept rfl (by rw [within]; exact nofun))
  | @access _ call point _ progress within access =>
      left
      have busy : runner.control ≠ .lifecycle := by
        rw [within]
        exact nofun
      cases progress with
      | call goesOn => exact kept rfl busy
      | «return» outcome =>
          have arm := runner.resume_arm id point outcome
          change (runner.resume id point outcome).Closing at closing
          change (runner.resume id point outcome).lifecycle = _ → _ at kept
          change (runner.resume id point outcome).control = _ →
            (runner.resume id point outcome).lifecycle ≠ _ → _ at back
          generalize runner.resume id point outcome = moved at arm closing kept back
          cases arm with
          | leftFailed | noChildren | leftRestarted | leftStopped => exact (back rfl nofun).elim
          | _ => exact kept rfl busy

theorem Access.not_creating {supervisor : Supervisor} {call goesOn : Call}
    (access : Access world supervisor call next (.call goesOn))
    (childless : world.CallChildless call) (calm : call.creating = false) :
    goesOn.creating = false := by
  cases access.leadsTo with
  | spawned =>
      cases access with
      | spawned free => exact absurd childless free
  | started | startFailed | entryInserted => cases calm
  | _ => rfl

theorem ContextRequest.not_creating {request : ContextRequest} {path : ActorPath} {call : Call}
    (asked : request.call id path = some call) : call.creating = false := by
  cases request with
  | createChild name strategy =>
      simp only [ContextRequest.call, Option.ite_none_left_eq_some] at asked
      obtain ⟨_, asked⟩ := asked
      cases asked
      rfl
  | _ =>
      cases asked
      rfl

theorem childfree_outside (outside : runner.control.postStopCall? = none) : runner.Childfree :=
  fun _ calling => nomatch outside.symm.trans calling

theorem childfree_step (childfree : runner.Childfree)
    (childless : ∀ call ∈ runner.control.postStopCall?, world.CallChildless call)
    (moves : RunnerStep world id runner choice next moved) : moved.Childfree := by
  cases moves with
  | init within =>
      have arm := runner.init_arm id
      generalize runner.init id = moved at arm
      cases arm with
      | failed => exact childfree_outside (by rw [within]; rfl)
      | _ => exact childfree_outside rfl
  | @requested hook request call within asked =>
      intro other calling
      cases hook with
      | postStop =>
          cases calling
          exact ContextRequest.not_creating asked
      | _ => cases calling
  | tooDeep => exact childfree
  | @returned hook result =>
      have arm := runner.hookReturns_arm id hook result
      generalize runner.hookReturns id hook result = moved at arm
      cases arm <;> exact childfree_outside rfl
  | @signal emitter signal => cases signal <;> exact childfree_outside rfl
  | @action action => cases action <;> exact childfree_outside rfl
  | @access _ call point _ progress within access =>
      cases progress with
      | call goesOn =>
          rw [ActorRunner.Childfree, within] at childfree
          rw [within] at childless
          intro other calling
          cases point with
          | hook hook =>
              cases hook with
              | postStop =>
                  cases calling
                  exact access.not_creating (childless call rfl) (childfree call rfl)
              | _ => cases calling
          | _ => cases calling
      | «return» outcome =>
          have arm := runner.resume_arm id point outcome
          change (runner.resume id point outcome).Childfree
          generalize runner.resume id point outcome = moved at arm
          cases arm <;> exact childfree_outside rfl
  | _ => exact childfree_outside rfl

end Closing

structure Unorphaning (world : World) (id : ActorId) (runner : ActorRunner) : Prop where
  childfree : runner.Childfree
  asked : runner.Closing → ∀ child, ¬ world.Unasked id child

theorem RunnerUnburdened.keeps (permitted : world.RunnerUnburdened id runner runner.control)
    (found : world.actors[id]? = some runner) :
    ∀ call ∈ world.callOf (.actor id), world.CallKeepsSenders (.actor id) call := by
  intro call calling
  obtain ⟨same, foundSame, within⟩ := Option.bind_eq_some_iff.mp calling
  obtain rfl := Option.some.inj (foundSame.symm.trans found)
  cases control : same.control with
  | calling other point =>
      rw [control] at within permitted
      cases within
      exact permitted.1
  | _ =>
      rw [control] at within
      cases within

theorem Unorphaning.not_inserting (unorphaning : world.Unorphaning id runner)
    (inPhase : runner.InPhase id) (closing : runner.Closing)
    (found : world.actors[id]? = some runner)
    (calling : world.callOf (.actor id) = some (.insertSender child)) : False := by
  obtain ⟨same, foundSame, within⟩ := Option.bind_eq_some_iff.mp calling
  obtain rfl := Option.some.inj (foundSame.symm.trans found)
  cases control : same.control with
  | calling call point =>
      rw [control] at within
      cases within
      have lifecycle := inPhase.phase point.lifecycle (by rw [control]; rfl)
      have fits := inPhase.calls _ _ control
      have late : point.lifecycle = .terminated ∨ point.lifecycle = .stopped := by
        rw [← lifecycle]
        exact closing.imp_right And.left
      cases point with
      | hook hook =>
          cases hook with
          | postStop => cases unorphaning.childfree (.insertSender child) (by rw [control]; rfl)
          | _ => rcases late with late | late <;> cases late
      | emitStopped => exact fits.elim
      | _ => rcases late with late | late <;> cases late
  | _ =>
      rw [control] at within
      cases within

theorem unorphaning_step (known : world.Known) (custodial : world.Custodial)
    (inPhase : runner.InPhase id) (unorphaning : world.Unorphaning id runner)
    (held : world.SendersHeld id) (found : world.actors[id]? = some runner)
    (foundAfter : after.actors[id]? = some moved)
    (permitted : world.RunnerUnburdened id runner runner.control)
    (taken : step world (.task (.actor id) choice) = some after) : after.Unorphaning id moved := by
  obtain ⟨next, moves, rfl⟩ := step_own taken found foundAfter
  constructor
  case childfree =>
    refine childfree_step unorphaning.childfree ?_ moves
    revert permitted
    cases runner.control with
    | calling call point =>
        intro permitted other calling
        cases point with
        | hook hook =>
            cases hook with
            | postStop =>
                cases calling
                exact permitted.2 rfl
            | _ => cases calling
        | _ => cases calling
    | _ => exact fun _ _ calling => nomatch calling
  case asked =>
    intro closing child later
    have idle (within : runner.control = .lifecycle) : world.callOf (.actor id) = none := by
      rw [callOf_found found, within]
      rfl
    rcases later.back known custodial taken with unasked | ⟨_, _, calling⟩
    · rcases closing_step inPhase moves closing with before | ⟨within, stopped⟩
      · exact unorphaning.asked before child unasked
      · rcases held child unasked with ⟨path, sender⟩ | ⟨rest, sending⟩
        · rw [within] at permitted
          have here : path ∈ (world.handlers (.actor id)).actionSenders.keys := by
            rw [Finmap.mem_keys, ← Finmap.lookup_isSome]
            exact Option.isSome_of_eq_some sender
          exact nomatch (permitted stopped path here child sender).symm.trans unasked.1
        · cases (idle within).symm.trans sending
    · rcases closing_step inPhase moves closing with before | ⟨within, stopped⟩
      · exact unorphaning.not_inserting inPhase before found calling
      · cases (idle within).symm.trans calling

/-- A child that runs when its parent's runner terminates has been sent a Stop, in
every run in which a runner comes to the Stopped arm without a running child's sender. -/
theorem no_orphans (reached : Guarded step Initial Unburdened world) : world.NoOrphans := by
  -- the sender of every running child is held until a Stop goes through it
  have invariant : world.Known ∧ world.Custodial ∧ world.Phased ∧ (∀ id, world.SendersHeld id) ∧
      ∀ (id : ActorId) (runner : ActorRunner), world.actors[id]? = some runner →
        world.Unorphaning id runner := by
    refine guarded_invariant (fun world => world.Known ∧ world.Custodial ∧ world.Phased ∧
      (∀ id, world.SendersHeld id) ∧ ∀ (id : ActorId) (runner : ActorRunner),
        world.actors[id]? = some runner → world.Unorphaning id runner) ?_ ?_ reached
    · rintro world ⟨config, rfl⟩
      refine ⟨new_known config, new_custodial config, new_phased config, ?_, fun _ _ found => nomatch found⟩
      exact fun id child unasked => nomatch unasked.1
    · rintro world label after ⟨known, custodial, phased, held, every⟩ permitted taken
      refine ⟨step_known known taken, step_custodial custodial taken, step_phased phased taken,
        fun id => ?_, fun id moved foundAfter => ?_⟩
      · refine step_held phased known custodial (held id) ?_ taken
        rintro choice rfl
        obtain ⟨runner, _, _, found, _⟩ := actorStep_cases taken
        exact RunnerUnburdened.keeps (permitted runner found) found
      · cases step_origin taken foundAfter with
        | own labelled found _ =>
            subst labelled
            exact unorphaning_step known custodial (phased.inPhase id _ found) (every id _ found)
              (held id) found foundAfter (permitted _ found) taken
        | kept found =>
            have before := every id moved found
            refine ⟨before.childfree, fun closing child later => ?_⟩
            rcases later.back known custodial taken with unasked | ⟨_, _, calling⟩
            · exact before.asked closing child unasked
            · exact before.not_inserting (phased.inPhase id moved found) closing found calling
        | spawned path supervisor strategy absent new =>
            subst new
            refine ⟨childfree_outside rfl, fun closing => ?_⟩
            rcases closing with terminated | ⟨stopped, _⟩
            · cases terminated
            · cases stopped
  obtain ⟨_, _, _, _, every⟩ := invariant
  exact fun id runner found terminated => (every id runner found).asked (.inl terminated)

section Check

instance (world : World) (call : Call) : Decidable (world.CallChildless call) := by
  apply Call.casesOn (motive := fun call => Decidable (world.CallChildless call)) call <;>
    intros <;> delta CallChildless <;> infer_instance

instance (world : World) (supervisor : Supervisor) (call : Call) :
    Decidable (world.CallKeepsSenders supervisor call) := by
  apply Call.casesOn (motive := fun call => Decidable (world.CallKeepsSenders supervisor call)) call <;>
    intros <;> delta CallKeepsSenders <;> infer_instance

instance (world : World) (id : ActorId) (runner : ActorRunner) :
    (control : Control) → Decidable (world.RunnerUnburdened id runner control)
  | .lifecycle => inferInstanceAs (Decidable (_ → ∀ path ∈ Finmap.keys _, ∀ child ∈ world.senderOf _ _, _))
  | .calling _ _ => inferInstanceAs (Decidable (_ ∧ _))
  | .hook _ | .sleep _ | .select | .ended | .panicked => inferInstanceAs (Decidable True)

instance (world : World) : (label : Label) → Decidable (world.Unburdened label)
  | .task (.actor id) _ => inferInstanceAs (Decidable (∀ runner ∈ world.actors[id]?, _))
  | .task .runner _ | .task (.client _) _ | .cancel => inferInstanceAs (Decidable True)

end Check

section Scenarios

theorem stopped_parent_leaves_none :
    ∃ world, Guarded step Initial Unburdened world ∧ world.NoOrphans ∧
      (world.actors[0]?.map fun runner => runner.lifecycle) = some .terminated ∧
      world.history.stopSent = [1, 0] := by
  have taken : ((Runs.checkedRun step (fun world label => decide (world.Unburdened label))
      (World.new Config.default)
      (creates 0 "p" ++ createsChild 0 1 "a" ++ stopsActor "p" ++
        [Label.task (.actor 0) .action, .task (.actor 0) (.returns (.ok ())), .task (.actor 0) .proceed,
          .task (.actor 0) (.order [rootPath / "p" / "a"])] ++
        List.replicate 3 (Label.task (.actor 0) .proceed) ++ takesStop 1 ++ announces 1 ++
        takesStopped 0 ++ announces 0 ++ [Label.task (.actor 0) (.returns (.ok ()))])).any fun world =>
          (world.actors[0]?.map fun runner => runner.lifecycle) = some .terminated ∧
            world.history.stopSent = [1, 0]) = true := by
    decide
  obtain ⟨world, reached, facts⟩ : ∃ world, Guarded step Initial Unburdened world ∧ _ :=
    guarded_shown (fun _ _ => of_decide_eq_true) ⟨_, rfl⟩ taken
  exact ⟨world, reached, no_orphans reached, facts⟩

/-- The child of an actor that fails in `pre_start` runs on without a Stop. -/
theorem failed_start_orphans :
    ¬ ∀ world, Reachable step Initial world → world.NoOrphans := by
  intro claimed
  have taken : ((Runs.run step (World.new Config.default)
      (beginsCreate 0 "a" ++ [Label.task (.actor 0) .proceed] ++ startsChild 0 1 "c" ++
        failsStart 0)).any fun world =>
          (world.actors[0]?.map fun runner => runner.lifecycle) = some .terminated ∧
            world.running (.actor 0) 1 = true ∧ 1 ∉ world.history.stopSent) = true := by
    decide
  obtain ⟨world, reached, terminated, unasked⟩ : ∃ world, Reachable step Initial world ∧ _ :=
    reachable_shown ⟨_, rfl⟩ taken
  obtain ⟨runner, found, lifecycle⟩ := Option.map_eq_some_iff.mp terminated
  exact claimed world reached 0 runner found lifecycle 1 unasked

end Scenarios

end World

end Rush.Actor
