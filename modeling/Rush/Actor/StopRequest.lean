import Rush.Actor.Orphans
import Rush.Actor.Signals

/-! Whether a stop request can get lost. After its Stop a run loop serves on until the
children it has asked to stop answer; `stop_children` can break off before it has
asked them all, and a handler can create new ones. -/

namespace Rush.Actor

open Rush.Library Runs

def Control.looping : Control → Bool
  | .select => true
  | .hook during | .calling _ (.hook during) => during.serves
  | _ => false

def Control.answering : Control → Bool
  | .calling _ .removeChild | .calling _ .hasChilds => true
  | _ => false

def Control.broken : Control → Bool
  | .calling _ .stopFault => true
  | _ => false

def Control.servedCall? : Control → Option Call
  | .calling call (.hook during) => if during.serves then some call else none
  | _ => none

def Control.stopCall? : Control → Option Call
  | .calling call .stopChildren => some call
  | _ => none

namespace World

def Pending (world : World) (id child : ActorId) : Prop :=
  child ∈ world.history.stopSent ∧ (world.running (.actor id) child = true ∨
    ∃ path, (child, .stopped path) ∈ world.waiting (.actor id))

/-- Between the branches that decide on it, an actor that has consumed a Stop in its
run waits for a child, and all its running children have been sent a Stop. -/
def StopsCarriedOut (world : World) : Prop :=
  ∀ id : ActorId, ∀ runner ∈ world.actors[id]?, runner.history.stopConsumed = true →
    runner.control.looping = true →
      (∃ child, world.Pending id child) ∧ ∀ child, ¬ world.Unasked id child

def CallCarriesOut (world : World) (id : ActorId) : Point → Call → Prop
  -- stop_children finds the sender of every child it asks, and the child running
  | .stopChildren, .takeSender path _ => (world.senderOf (.actor id) path).isSome = true
  | .stopChildren, .sendStop child _ => world.running (.actor id) child = true
  -- its second reading finds the children, each under a path with its sender
  | .stopChildren, .stopListed parent => world.getChilds parent ≠ ∅ ∧
      ∀ child ∈ world.runningChildren (.actor id), child ∈ world.history.stopSent ∨
        ∃ path ∈ world.getChilds parent, world.senderOf (.actor id) path = some child
  -- no handler creates a child any more
  | .hook during, call => during.serves = true → world.CallChildless call
  -- no path under its own is registered any more
  | .hasChilds, .hasChilds parent => world.getChilds parent = ∅
  | _, _ => True

def RunnerCarriesOut (world : World) (id : ActorId) : Control → Prop
  | .calling call point => world.CallCarriesOut id point call
  | _ => True

def parentStopping (world : World) (runner : ActorRunner) : Bool :=
  match runner.supervisor with
  | .actor parent => (world.actors[parent]?).any fun runner => runner.history.stopConsumed
  | .system => false

def panics : Choice → Bool
  | .panics => true
  | _ => false

/-- Every such step is one, and no child that was sent a Stop panics under a stopping
parent. -/
def CarriesOut (world : World) : Label → Prop
  | .task (.actor id) choice => ∀ runner ∈ world.actors[id]?,
      (runner.history.stopConsumed = true → world.RunnerCarriesOut id runner.control) ∧
        (panics choice = true → world.parentStopping runner = true →
          id ∉ world.history.stopSent)
  | _ => True

def StopProgress (world : World) (id : ActorId) : Call → Prop
  | .stopChild path (some rest) | .takeSender path (some rest) => ∀ child, world.Unasked id child →
      ∃ other ∈ path :: rest, world.senderOf (.actor id) other = some child
  | .sendStop asked (some rest) => ∀ child, world.Unasked id child →
      child = asked ∨ ∃ other ∈ rest, world.senderOf (.actor id) other = some child
  | _ => True

structure StopKept (world : World) (id : ActorId) (runner : ActorRunner) : Prop where
  stopping : runner.control.inPreStop = true ∨ runner.control.afterPreStop = true →
    runner.history.stopConsumed = true
  unbroken : runner.control.broken = false
  progress : ∀ call ∈ runner.control.stopCall?, world.StopProgress id call
  childless : runner.history.stopConsumed = true →
    ∀ call ∈ runner.control.servedCall?, call.creating = false
  asked : runner.history.stopConsumed = true →
    runner.control.looping = true ∨ runner.control.answering = true →
      ∀ child, ¬ world.Unasked id child
  pending : runner.history.stopConsumed = true → runner.control.looping = true →
    ∃ child, world.Pending id child

variable {world next after : World} {label : Label} {id child : ActorId} {self : Supervisor}
  {runner moved : ActorRunner} {choice : Choice}

theorem child_apart (known : world.Known) (running : world.running (.actor id) child = true) :
    child ≠ id := by
  rintro rfl
  obtain ⟨runner, found, supervisor, _⟩ := running_iff.mp running
  refine absurd (known.supervisors child runner.path child ?_) (Nat.lt_irrefl _)
  exact Option.map_eq_some_iff.mpr ⟨runner, found, by rw [ActorRunner.identity, supervisor]⟩

section Pending

theorem step_running (taken : step world label = some after)
    (running : world.running self child = true) :
    after.running self child = true ∨ label = .task (.actor child) .panics ∨
      child ∉ world.history.emitted ∧ child ∈ after.history.emitted := by
  obtain ⟨runner, found, supervisor, created, silent, calm⟩ := running_iff.mp running
  by_cases emitted : child ∈ after.history.emitted
  · exact .inr (.inr ⟨silent, emitted⟩)
  · have identity : after.identityOf child = some runner.identity :=
      step_identity taken (identityOf_found found)
    obtain ⟨moved, foundAfter, same⟩ := Option.map_eq_some_iff.mp identity
    cases loud : moved.panicked with
    | false =>
        left
        exact running_iff.mpr ⟨moved, foundAfter, (congrArg Prod.snd same).trans supervisor,
          (step_within taken).created child created, emitted, loud⟩
    | true =>
        right; left
        cases step_origin taken foundAfter with
        | own labelled was moves =>
            rw [labelled, panicked_step moves loud]
        | kept was =>
            obtain rfl := Option.some.inj (was.symm.trans found)
            cases loud.symm.trans calm
        | spawned path supervisor strategy absent => cases absent.symm.trans found

theorem step_pending (phased : world.Phased) (taken : step world label = some after)
    (alive : world.finished id = false) (pending : world.Pending id child)
    (calm : world.running (.actor id) child = true → label ≠ .task (.actor child) .panics) :
    after.Pending id child ∨ label = .task (.actor id) .signal ∧
      world.selects (.actor id) = true ∧ ∃ path rest, (world.handlers (.actor id)).signals.receive =
        some ((child, .stopped path), rest) := by
  obtain ⟨sent, rest⟩ := pending
  have sentAfter := (step_within taken).stopSent child sent
  rcases rest with running | ⟨path, waits⟩
  · left
    rcases step_running taken running with still | panics | ⟨silent, emitted⟩
    · exact ⟨sentAfter, .inl still⟩
    · exact absurd panics (calm running)
    · obtain ⟨runner, found, supervisor, _⟩ := running_iff.mp running
      have queued := step_emits phased taken found (by rw [supervisor]; exact alive) silent emitted
      rw [supervisor] at queued
      exact ⟨sentAfter, .inr queued⟩
  · rcases step_waiting taken waits with still | ⟨receives, selects, rest, received⟩
    · exact .inl ⟨sentAfter, .inr ⟨path, still⟩⟩
    · exact .inr ⟨receives, selects, path, rest, received⟩

end Pending

section Others

theorem others_kept (known : world.Known) (custodial : world.Custodial) (phased : world.Phased)
    (kept : world.StopKept id runner) (found : world.actors[id]? = some runner)
    (permitted : world.CarriesOut label) (other : ∀ choice, label ≠ .task (.actor id) choice)
    (taken : step world label = some after) : after.StopKept id runner := by
  have unasked {child : ActorId} (later : after.Unasked id child) : world.Unasked id child := by
    rcases later.back known custodial taken with before | ⟨choice, here, _⟩
    · exact before
    · exact absurd here (other choice)
  have elsewhere : label.task? ≠ some (.actor id) := by
    cases label with
    | cancel => exact nofun
    | task owner choice =>
        rintro ⟨⟩
        exact other choice rfl
  have senders := step_senderOf_other elsewhere taken
  constructor
  case stopping => exact kept.stopping
  case unbroken => exact kept.unbroken
  case childless => exact kept.childless
  case asked => exact fun consumed here child later => kept.asked consumed here child (unasked later)
  case progress =>
    intro call calling
    have before := kept.progress call calling
    cases call with
    | stopChild path rest | takeSender path rest =>
        cases rest with
        | none => trivial
        | some rest =>
            intro child later
            obtain ⟨place, member, sender⟩ := before child (unasked later)
            exact ⟨place, member, by rw [senders, sender]⟩
    | sendStop asked rest =>
        cases rest with
        | none => trivial
        | some rest =>
            intro child later
            refine (before child (unasked later)).imp_right ?_
            rintro ⟨place, member, sender⟩
            exact ⟨place, member, by rw [senders, sender]⟩
    | _ => trivial
  case pending =>
    intro consumed looping
    obtain ⟨child, pending⟩ := kept.pending consumed looping
    have alive : world.finished id = false := by
      rw [finished, found, Option.all_some, ActorRunner.finished, ActorRunner.panicked]
      revert looping
      cases runner.control <;> simp [Control.looping]
    have calm (running : world.running (.actor id) child = true) :
        label ≠ .task (.actor child) .panics := by
      rintro rfl
      obtain ⟨born, foundChild, supervisor, _⟩ := running_iff.mp running
      refine (permitted born foundChild).2 rfl ?_ pending.1
      rw [parentStopping, supervisor]
      exact Option.any_eq_true _ _ |>.mpr ⟨runner, found, consumed⟩
    rcases step_pending phased taken alive pending calm with still | ⟨receives, _⟩
    · exact ⟨child, still⟩
    · exact absurd receives (other .signal)

end Others

section Own

theorem servedCall_looping {control : Control} {call : Call}
    (served : control.servedCall? = some call) : control.looping = true := by
  cases control with
  | calling other point =>
      cases point with
      | hook hook =>
          rw [Control.servedCall?, Option.ite_none_right_eq_some] at served
          exact served.1
      | _ => cases served
  | _ => cases served

theorem StopKept.away (stopping : moved.control.inPreStop = true ∨ moved.control.afterPreStop = true →
      moved.history.stopConsumed = true)
    (unbroken : moved.control.broken = false)
    (quiet : moved.control.stopCall? = none) (outside : moved.control.looping = false)
    (silent : moved.control.answering = false) : world.StopKept id moved := by
  constructor
  case stopping => exact stopping
  case unbroken => exact unbroken
  case progress =>
    intro call calling
    cases quiet.symm.trans calling
  case childless =>
    intro _ call served
    cases outside.symm.trans (servedCall_looping served)
  case asked =>
    rintro _ (looping | answering)
    · cases outside.symm.trans looping
    · cases silent.symm.trans answering
  case pending =>
    intro _ looping
    cases outside.symm.trans looping

theorem childless_uncalled (uncalled : moved.control.servedCall? = none) :
    moved.history.stopConsumed = true →
      ∀ call ∈ moved.control.servedCall?, call.creating = false := by
  intro _ call calling
  cases uncalled.symm.trans calling

theorem StopKept.serving (looping : moved.control.looping = true)
    (childless : moved.history.stopConsumed = true →
      ∀ call ∈ moved.control.servedCall?, call.creating = false)
    (asked : moved.history.stopConsumed = true → ∀ child, ¬ world.Unasked id child)
    (pending : moved.history.stopConsumed = true → ∃ child, world.Pending id child) :
    world.StopKept id moved := by
  have control : moved.control.inPreStop = false ∧ moved.control.afterPreStop = false ∧
      moved.control.stopCall? = none ∧ moved.control.broken = false := by
    revert looping
    cases moved.control with
    | hook hook => cases hook <;> simp [Control.looping, Control.inPreStop, Hook.serves,
        Control.afterPreStop, Control.stopCall?, Control.broken]
    | calling call point =>
        cases point with
        | hook hook => cases hook <;> simp [Control.looping, Control.inPreStop, Hook.serves,
            Control.afterPreStop, Control.stopCall?, Control.broken]
        | _ => simp [Control.looping]
    | _ => simp [Control.looping, Control.inPreStop, Control.afterPreStop, Control.stopCall?, Control.broken]
  obtain ⟨before, behind, quiet, unbroken⟩ := control
  constructor
  case stopping =>
    rintro (inside | inside)
    · cases before.symm.trans inside
    · cases behind.symm.trans inside
  case unbroken => exact unbroken
  case progress =>
    intro call calling
    cases quiet.symm.trans calling
  case childless => exact childless
  case asked => exact fun consumed _ => asked consumed
  case pending => exact fun consumed _ => pending consumed

theorem StopKept.answers (answering : moved.control.answering = true)
    (asked : moved.history.stopConsumed = true → ∀ child, ¬ world.Unasked id child) :
    world.StopKept id moved := by
  have control : moved.control.inPreStop = false ∧ moved.control.afterPreStop = false ∧
      moved.control.stopCall? = none ∧ moved.control.looping = false ∧
      moved.control.broken = false := by
    revert answering
    cases moved.control with
    | calling call point => cases point <;> simp [Control.answering, Control.inPreStop,
        Control.afterPreStop, Control.stopCall?, Control.looping, Control.broken]
    | _ => simp [Control.answering]
  obtain ⟨before, behind, quiet, outside, unbroken⟩ := control
  constructor
  case stopping =>
    rintro (inside | inside)
    · cases before.symm.trans inside
    · cases behind.symm.trans inside
  case unbroken => exact unbroken
  case progress =>
    intro call calling
    cases quiet.symm.trans calling
  case childless =>
    intro _ call served
    cases outside.symm.trans (servedCall_looping served)
  case asked => exact fun consumed _ => asked consumed
  case pending =>
    intro _ looping
    cases outside.symm.trans looping

theorem StopKept.asking (call : Call) (here : moved.control = .calling call .stopChildren)
    (consumed : moved.history.stopConsumed = true) (progress : world.StopProgress id call) :
    world.StopKept id moved := by
  constructor
  case stopping => exact fun _ => consumed
  case unbroken => rw [here]; rfl
  case progress =>
    rw [here]
    rintro other ⟨⟩
    exact progress
  case childless =>
    rw [here]
    exact fun _ _ served => nomatch served
  case asked =>
    rw [here]
    rintro _ (busy | busy) <;> cases busy
  case pending =>
    rw [here]
    exact fun _ looping => nomatch looping

theorem StopKept.asked_later (kept : world.StopKept id runner) (known : world.Known)
    (custodial : world.Custodial) (phased : world.Phased) (found : world.actors[id]? = some runner)
    (consumed : runner.history.stopConsumed = true)
    (busy : runner.control.looping = true ∨ runner.control.answering = true)
    (taken : step world label = some after) (child : ActorId) : ¬ after.Unasked id child := by
  intro later
  rcases later.back known custodial taken with before | ⟨_, _, calling⟩
  · exact kept.asked consumed busy child before
  · obtain ⟨same, foundSame, within⟩ := Option.bind_eq_some_iff.mp calling
    obtain rfl := Option.some.inj (foundSame.symm.trans found)
    cases control : same.control with
    | calling call point =>
        rw [control] at within busy
        cases within
        have fits := (phased.inPhase id same found).calls _ _ control
        cases point with
        | hook hook =>
            have serves : hook.serves = true := by
              rcases busy with looping | answering
              · exact looping
              · cases answering
            cases kept.childless consumed (.insertSender child) (by
              rw [control, Control.servedCall?, if_pos serves]
              rfl)
        | _ => exact fits.elim
    | _ =>
        rw [control] at within
        cases within

theorem StopKept.pending_later (kept : world.StopKept id runner) (known : world.Known)
    (phased : world.Phased)
    (found : world.actors[id]? = some runner) (consumed : runner.history.stopConsumed = true)
    (looping : runner.control.looping = true)
    (taken : step world (.task (.actor id) choice) = some after)
    (other : ∀ child path rest, choice = .signal → runner.control = .select →
      (world.handlers (.actor id)).signals.receive ≠ some ((child, .stopped path), rest)) :
    ∃ child, after.Pending id child := by
  obtain ⟨child, pending⟩ := kept.pending consumed looping
  have alive : world.finished id = false := by
    rw [finished, found, Option.all_some, ActorRunner.finished, ActorRunner.panicked]
    revert looping
    cases runner.control <;> simp [Control.looping]
  have quiet (running : world.running (.actor id) child = true) :
      Label.task (.actor id) choice ≠ .task (.actor child) .panics := by
    rintro ⟨⟩
    exact child_apart known running rfl
  rcases step_pending phased taken alive pending quiet with
    still | ⟨receives, selects, path, rest, received⟩
  · exact ⟨child, still⟩
  · cases receives
    rw [World.selects, found, Option.any_some, decide_eq_true_iff] at selects
    exact absurd received (other child path rest rfl selects)

theorem progress_later {call goesOn : Call} {path : ActorPath} (known : world.Known)
    (custodial : world.Custodial) (before : world.StopProgress id call)
    (fits : call.At id path .stopChildren)
    (permitted : world.CallCarriesOut id .stopChildren call)
    (calling : world.callOf (.actor id) = some call)
    (access : Access world (.actor id) call next (.call goesOn))
    (follows : Follows (.actor id) next after)
    (taken : step world (.task (.actor id) choice) = some after) : after.StopProgress id goesOn := by
  have back {child : ActorId} (later : after.Unasked id child) : world.Unasked id child := by
    rcases later.back known custodial taken with old | ⟨_, _, inserting⟩
    · exact old
    · obtain rfl := Option.some.inj (calling.symm.trans inserting)
      exact fits.elim
  generalize progressed : Progress.call goesOn = progress at access
  cases access with
  | someChildren =>
      cases progressed
      trivial
  | @listed parent paths nodup every =>
      rcases paths with _ | ⟨first, rest⟩
      · cases progressed
      · cases progressed
        intro child later
        have unasked := back later
        rcases permitted.2 child (mem_runningChildren.mpr unasked.1) with sent | ⟨place, member, sender⟩
        · exact absurd sent unasked.2
        · rw [← every, List.mem_toFinset] at member
          exact ⟨place, member, by rw [follows.senders, sender]⟩
  | @entryTaken here rest =>
      cases progressed
      cases rest with
      | none => trivial
      | some rest =>
          intro child later
          obtain ⟨place, member, sender⟩ := before child (back later)
          exact ⟨place, member, by rw [follows.senders]; exact sender⟩
  | @senderTaken here rest asked held =>
      cases progressed
      cases rest with
      | none => trivial
      | some rest =>
          intro child later
          obtain ⟨place, member, sender⟩ := before child (back later)
          by_cases same : place = here
          · rw [same] at sender
            exact .inl (Option.some.inj (sender.symm.trans held))
          · right
            refine ⟨place, (List.mem_cons.mp member).resolve_left same, ?_⟩
            rw [follows.senders, dropSender_senderOf, if_neg fun both => same both.2, sender]
  | @stopSent asked rest =>
      rcases rest with _ | _ | ⟨first, rest⟩
      · cases progressed
      · cases progressed
      · cases progressed
        intro child later
        rcases before child (back later) with rfl | ⟨place, member, sender⟩
        · refine absurd ?_ later.2
          rw [follows.history]
          exact List.mem_cons_self
        · exact ⟨place, member, by rw [follows.senders]; exact sender⟩
  | @restartListed children =>
      exact fits.elim
  | @restartSent child rest => exact fits.elim
  | _ => first | exact fits.elim | cases progressed

theorem stop_children_done {call : Call} {outcome : Outcome} {path : ActorPath}
    (known : world.Known) (custodial : world.Custodial) (phased : world.Phased)
    (before : world.StopProgress id call) (fits : call.At id path .stopChildren)
    (permitted : world.CallCarriesOut id .stopChildren call)
    (calling : world.callOf (.actor id) = some call)
    (access : Access world (.actor id) call next (.return outcome))
    (follows : Follows (.actor id) next after)
    (taken : step world (.task (.actor id) choice) = some after) :
    outcome = .children false ∨ outcome = .children true ∧
      (∀ child, ¬ after.Unasked id child) ∧ ∃ child, after.Pending id child := by
  have back {child : ActorId} (later : after.Unasked id child) : world.Unasked id child := by
    rcases later.back known custodial taken with old | ⟨_, _, inserting⟩
    · exact old
    · obtain rfl := Option.some.inj (calling.symm.trans inserting)
      exact fits.elim
  generalize returned : Progress.return outcome = progress at access
  cases access with
  | noChildren =>
      cases returned
      exact .inl rfl
  | @listed parent paths nodup every =>
      rcases paths with _ | ⟨first, rest⟩
      · exact absurd every.symm permitted.1
      · cases returned
  | noSender absent =>
      have held := permitted
      rw [CallCarriesOut, absent] at held
      cases held
  | stopRefused gone => exact nomatch (phased.not_running gone).symm.trans permitted
  | @stopSent asked rest actions sent =>
      rcases rest with _ | _ | ⟨first, rest⟩
      · exact fits.elim
      · cases returned
        right
        have told : asked ∈ after.history.stopSent := by
          rw [follows.history]
          exact List.mem_cons_self
        refine ⟨rfl, fun child later => ?_, asked, told, .inl ?_⟩
        · rcases before child (back later) with rfl | ⟨place, member, _⟩
          · exact later.2 told
          · cases member
        · have running : world.running (.actor id) asked = true := permitted
          rcases step_running taken running with still | panicked | ⟨silent, emitted⟩
          · exact still
          · cases panicked
            exact absurd rfl (child_apart known running)
          · rw [follows.history] at emitted
            exact absurd emitted silent
      · cases returned
  | childsCounted => exact fits.elim
  | restartListed => exact fits.elim
  | restartSent => exact fits.elim
  | _ => first | exact fits.elim | cases returned

theorem away_init (within : runner.control = .lifecycle) :
    after.StopKept id (runner.init id) := by
  have arm := runner.init_arm id
  generalize runner.init id = moved at arm
  cases arm with
  | started =>
      exact .serving rfl (childless_uncalled rfl) nofun nofun
  | failed =>
      exact .away (by rw [within]; rintro (inside | inside) <;> cases inside)
        (by rw [within]; rfl) (by rw [within]; rfl) (by rw [within]; rfl) (by rw [within]; rfl)
  | _ =>
      exact .away (by rintro (inside | inside) <;> cases inside) rfl rfl rfl rfl

theorem hook_returns_kept (kept : world.StopKept id runner) {hook : Hook}
    (within : runner.control = .hook hook) (result : Except Error Unit)
    (asked : runner.history.stopConsumed = true → runner.control.looping = true →
      ∀ child, ¬ after.Unasked id child)
    (pending : runner.history.stopConsumed = true → runner.control.looping = true →
      ∃ child, after.Pending id child) :
    after.StopKept id (runner.hookReturns id hook result) := by
  have arm := runner.hookReturns_arm id hook result
  generalize runner.hookReturns id hook result = moved at arm
  cases arm with
  | served result serves =>
      have looping : runner.control.looping = true := by
        rw [within]
        rcases serves with rfl | ⟨child, error, rfl | rfl⟩ <;> rfl
      exact .serving rfl (childless_uncalled rfl) (fun consumed => asked consumed looping)
        fun consumed => pending consumed looping
  | stopping =>
      have consumed := kept.stopping (.inl (by rw [within]; rfl))
      exact .asking (.stopChildren runner.path) rfl consumed trivial
  | stopFault =>
      have consumed := kept.stopping (.inl (by rw [within]; rfl))
      exact .away (fun _ => consumed) rfl rfl rfl rfl
  | _ => exact .away (by rintro (inside | inside) <;> cases inside) rfl rfl rfl rfl

theorem resume_kept (kept : world.StopKept id runner) {call : Call} {point : Point}
    (within : runner.control = .calling call point) {outcome : Outcome}
    (asked : runner.history.stopConsumed = true →
      runner.control.looping = true ∨ runner.control.answering = true →
        ∀ child, ¬ after.Unasked id child)
    (pending : runner.history.stopConsumed = true → runner.control.looping = true →
      ∃ child, after.Pending id child)
    (done : point = .stopChildren → outcome = .children false ∨ outcome = .children true ∧
      (∀ child, ¬ after.Unasked id child) ∧ ∃ child, after.Pending id child)
    (none : point = .hasChilds → runner.history.stopConsumed = true → outcome = .children false) :
    after.StopKept id (runner.resume id point outcome) := by
  have arm := runner.resume_arm id point outcome
  generalize runner.resume id point outcome = moved at arm
  cases arm with
  | hook hook =>
      cases serves : hook.serves with
      | true =>
          have looping : runner.control.looping = true := by
            rw [within]
            exact serves
          exact .serving serves (childless_uncalled rfl) (fun consumed => asked consumed (.inl looping))
            fun consumed => pending consumed looping
      | false =>
          refine .away ?_ rfl rfl serves rfl
          rintro (inside | inside)
          · refine kept.stopping (.inl ?_)
            rw [within]
            cases hook <;> first | rfl | cases inside
          · cases inside
  | stopping =>
      have consumed := kept.stopping (.inr (by rw [within]; rfl))
      exact .asking (.stopChildren runner.path) rfl consumed trivial
  | stopFailed => rcases done rfl with failed | ⟨failed, _⟩ <;> cases failed
  | waits told some =>
      rcases done rfl with rfl | ⟨_, asked, pending⟩
      · exact absurd rfl some
      · exact .serving rfl (childless_uncalled rfl) (fun _ => asked) fun _ => pending
  | faultTold =>
      have unbroken := kept.unbroken
      rw [within] at unbroken
      cases unbroken
  | counts =>
      exact .answers rfl fun consumed => asked consumed (.inr (by rw [within]; rfl))
  | serves =>
      refine .serving rfl (childless_uncalled rfl) (fun consumed => ?_) fun consumed => ?_
      · cases none rfl consumed
      · cases none rfl consumed
  | _ => exact .away (by rintro (inside | inside) <;> cases inside) rfl rfl rfl rfl

theorem Access.counted_none {parent : ActorPath} {outcome : Outcome}
    (access : Access world self (.hasChilds parent) next (.return outcome))
    (empty : world.getChilds parent = ∅) : outcome = .children false := by
  cases access with
  | childsCounted => rw [decide_eq_false (not_not.mpr empty)]

theorem access_kept {call : Call} {point : Point} {progress : Progress} (known : world.Known)
    (custodial : world.Custodial) (phased : world.Phased) (kept : world.StopKept id runner)
    (found : world.actors[id]? = some runner)
    (permitted : runner.history.stopConsumed = true → world.RunnerCarriesOut id runner.control)
    (within : runner.control = .calling call point)
    (access : Access world (.actor id) call next progress)
    (follows : Follows (.actor id) next after)
    (taken : step world (.task (.actor id) choice) = some after) :
    after.StopKept id (runner.proceed id point progress) := by
  have calling : world.callOf (.actor id) = some call := by
    rw [callOf_found found, within]
    rfl
  have fits := (phased.inPhase id runner found).calls call point within
  have asked (consumed : runner.history.stopConsumed = true)
      (busy : runner.control.looping = true ∨ runner.control.answering = true) (child : ActorId) :
      ¬ after.Unasked id child :=
    kept.asked_later known custodial phased found consumed busy taken child
  have pending (consumed : runner.history.stopConsumed = true)
      (looping : runner.control.looping = true) : ∃ child, after.Pending id child := by
    refine kept.pending_later known phased found consumed looping taken ?_
    intro child path rest _ selects
    cases within.symm.trans selects
  cases progress with
  | «return» outcome =>
      refine resume_kept kept within asked pending ?_ ?_
      · rintro rfl
        have consumed := kept.stopping (.inr (by rw [within]; rfl))
        have permitted := permitted consumed
        rw [within] at permitted
        exact stop_children_done known custodial phased
          (kept.progress call (by rw [within]; rfl)) fits permitted calling access follows taken
      · rintro rfl consumed
        have permitted := permitted consumed
        rw [within] at permitted
        cases call with
        | hasChilds parent =>
            exact access.counted_none permitted
        | _ => exact fits.elim
  | call goesOn =>
      cases point with
      | hook hook =>
          cases serves : hook.serves with
          | true =>
              have looping : runner.control.looping = true := by
                rw [within]
                exact serves
              have served : (Control.calling call (.hook hook)).servedCall? = some call := if_pos serves
              refine .serving serves ?_ (fun consumed => asked consumed (.inl looping))
                fun consumed => pending consumed looping
              intro consumed other calling
              rw [show ActorRunner.control _ = .calling goesOn (.hook hook) from rfl,
                Control.servedCall?, if_pos serves] at calling
              cases calling
              have permitted := permitted consumed
              rw [within] at permitted
              exact access.not_creating (permitted serves)
                (kept.childless consumed call (by rw [within]; exact served))
          | false =>
              refine .away ?_ rfl rfl serves rfl
              rintro (inside | inside)
              · refine kept.stopping (.inl ?_)
                rw [within]
                cases hook <;> first | rfl | cases inside
              · cases inside
      | stopChildren =>
          have consumed := kept.stopping (.inr (by rw [within]; rfl))
          have permitted := permitted consumed
          rw [within] at permitted
          exact .asking goesOn rfl consumed
            (progress_later known custodial (kept.progress call (by rw [within]; rfl)) fits permitted
              calling access follows taken)
      | stopFault =>
          have unbroken := kept.unbroken
          rw [within] at unbroken
          cases unbroken
      | preStopFault =>
          exact .away (fun _ => kept.stopping (.inr (by rw [within]; rfl))) rfl rfl rfl rfl
      | removeChild | hasChilds =>
          exact .answers rfl fun consumed => asked consumed (.inr (by rw [within]; rfl))
      | _ => exact .away (by rintro (inside | inside) <;> cases inside) rfl rfl rfl rfl

theorem own_kept (known : world.Known) (custodial : world.Custodial) (phased : world.Phased)
    (kept : world.StopKept id runner) (found : world.actors[id]? = some runner)
    (foundAfter : after.actors[id]? = some moved)
    (permitted : runner.history.stopConsumed = true → world.RunnerCarriesOut id runner.control)
    (taken : step world (.task (.actor id) choice) = some after) : after.StopKept id moved := by
  obtain ⟨next, moves, same⟩ := step_own taken found foundAfter
  have asked (consumed : runner.history.stopConsumed = true)
      (looping : runner.control.looping = true) (child : ActorId) : ¬ after.Unasked id child :=
    kept.asked_later known custodial phased found consumed (.inl looping) taken child
  have pending (consumed : runner.history.stopConsumed = true)
      (looping : runner.control.looping = true)
      (other : ∀ child path rest, choice = .signal → runner.control = .select →
        (world.handlers (.actor id)).signals.receive ≠ some ((child, .stopped path), rest)) :
      ∃ child, after.Pending id child :=
    kept.pending_later known phased found consumed looping taken other
  cases moves with
  | init within => exact away_init within
  | woke => exact .away (by rintro (inside | inside) <;> cases inside) rfl rfl rfl rfl
  | panicked => exact .away (by rintro (inside | inside) <;> cases inside) rfl rfl rfl rfl
  | @requested hook request call within requested =>
      cases serves : hook.serves with
      | true =>
          have looping : runner.control.looping = true := by
            rw [within]
            exact serves
          refine .serving serves ?_ (fun consumed => asked consumed looping)
            fun consumed => pending consumed looping nofun
          intro _ other calling
          rw [show ActorRunner.control _ = .calling call (.hook hook) from rfl,
            Control.servedCall?, if_pos serves] at calling
          cases calling
          exact ContextRequest.not_creating requested
      | false =>
          refine .away ?_ rfl rfl serves rfl
          rintro (inside | inside)
          · refine kept.stopping (.inl ?_)
            rw [within]
            cases hook <;> first | rfl | cases inside
          · cases inside
  | @tooDeep hook request within =>
      cases serves : hook.serves with
      | true =>
          have looping : runner.control.looping = true := by
            rw [within]
            exact serves
          exact .serving looping kept.childless (fun consumed => asked consumed looping)
            fun consumed => pending consumed looping nofun
      | false =>
          exact .away kept.stopping kept.unbroken (by rw [within]; rfl)
            (by rw [within]; exact serves) (by rw [within]; rfl)
  | returned within =>
      exact hook_returns_kept kept within _ asked fun consumed looping =>
        pending consumed looping nofun
  | message within =>
      have looping : runner.control.looping = true := by rw [within]; rfl
      exact .serving rfl (childless_uncalled rfl) (fun consumed => asked consumed looping)
        fun consumed => pending consumed looping nofun
  | @signal emitter signal signals within received =>
      have looping : runner.control.looping = true := by rw [within]; rfl
      have front {child : ActorId} {path : ActorPath} {rest : Channel (ActorId × ActorSignal)}
          (stopped : (world.handlers (.actor id)).signals.receive =
            some ((child, .stopped path), rest)) : signal = .stopped path := by
        rw [received] at stopped
        exact congrArg (fun sent => sent.1.2) (Option.some.inj stopped)
      cases signal with
      | stopped path =>
          exact .answers rfl fun consumed => asked consumed looping
      | error path error =>
          refine .serving rfl (childless_uncalled rfl) (fun consumed => asked consumed looping)
            fun consumed => pending consumed looping ?_
          intro child other rest _ _ stopped
          cases front stopped
      | fault path error =>
          refine .serving rfl (childless_uncalled rfl) (fun consumed => asked consumed looping)
            fun consumed => pending consumed looping ?_
          intro child other rest _ _ stopped
          cases front stopped
  | @action action actions within received =>
      cases action with
      | stop => exact .away (fun _ => rfl) rfl rfl rfl rfl
      | restart => exact .away (by rintro (inside | inside) <;> cases inside) rfl rfl rfl rfl
  | @access _ call point _ progress within access =>
      subst same
      have follows : Follows (.actor id) next (next.setRunner id (runner.proceed id point progress)) :=
        setRunner_follows (.refl next) (access.lookup found)
          (by rw [ActorRunner.finished, ActorRunner.panicked, within]; rfl)
          (runner.proceed_identity id point progress)
          fun _ => .inl ⟨rfl, fun _ => runner.proceed_stopTaken id point progress⟩
      exact access_kept known custodial phased kept found permitted within access follows taken

end Own

/-- A stop request is not lost in any run in which, once an actor has consumed a Stop,
`stop_children` finds every child running under its path, no handler creates another,
nothing is registered under the actor's path any more when a child has answered, and
none of the children panics. -/
theorem stops_carried_out (reached : Guarded step Initial CarriesOut world) :
    world.StopsCarriedOut := by
  have invariant : world.Known ∧ world.Custodial ∧ world.Phased ∧
      ∀ (id : ActorId) (runner : ActorRunner), world.actors[id]? = some runner →
        world.StopKept id runner := by
    refine guarded_invariant (fun world => world.Known ∧ world.Custodial ∧ world.Phased ∧
      ∀ (id : ActorId) (runner : ActorRunner), world.actors[id]? = some runner →
        world.StopKept id runner) ?_ ?_ reached
    · rintro world ⟨config, rfl⟩
      exact ⟨new_known config, new_custodial config, new_phased config, fun _ _ found => nomatch found⟩
    · rintro world label after ⟨known, custodial, phased, every⟩ permitted taken
      refine ⟨step_known known taken, step_custodial custodial taken, step_phased phased taken, ?_⟩
      intro id moved foundAfter
      by_cases own : ∃ choice, label = .task (.actor id) choice
      · obtain ⟨choice, rfl⟩ := own
        obtain ⟨runner, _, _, found, _⟩ := actorStep_cases taken
        exact own_kept known custodial phased (every id runner found) found foundAfter
          (permitted runner found).1 taken
      · have other (choice : Choice) : label ≠ .task (.actor id) choice := fun here => own ⟨choice, here⟩
        cases step_origin taken foundAfter with
        | own labelled => exact absurd labelled (other _)
        | kept found =>
            exact others_kept known custodial phased (every id moved found) found permitted other taken
        | spawned path supervisor strategy absent new =>
            subst new
            exact .away (by rintro (inside | inside) <;> cases inside) rfl rfl rfl rfl
  obtain ⟨_, _, _, every⟩ := invariant
  intro id runner found consumed looping
  have kept := every id runner found
  exact ⟨kept.pending consumed looping, kept.asked consumed (.inl looping)⟩

section Check

instance (world : World) (id : ActorId) (point : Point) (call : Call) :
    Decidable (world.CallCarriesOut id point call) := by
  apply Point.casesOn (motive := fun point => Decidable (world.CallCarriesOut id point call)) point <;>
    intros <;>
    apply Call.casesOn (motive := fun call => Decidable (world.CallCarriesOut id _ call)) call <;>
    intros <;> delta CallCarriesOut <;> infer_instance

instance (world : World) (id : ActorId) :
    (control : Control) → Decidable (world.RunnerCarriesOut id control)
  | .calling call point => inferInstanceAs (Decidable (world.CallCarriesOut id point call))
  | .lifecycle | .hook _ | .sleep _ | .select | .ended | .panicked => inferInstanceAs (Decidable True)

instance (world : World) : (label : Label) → Decidable (world.CarriesOut label)
  | .task (.actor id) _ =>
      inferInstanceAs (Decidable (∀ runner ∈ world.actors[id]?, (_ → _) ∧ (_ → _ → _)))
  | .task .runner _ | .task (.client _) _ | .cancel => inferInstanceAs (Decidable True)

end Check

section Scenarios

theorem stopping_parent_waits :
    ∃ world, Guarded step Initial CarriesOut world ∧ world.StopsCarriedOut ∧
      (world.actors[0]?.map fun runner => (runner.history.stopConsumed, runner.control)) =
        some (true, .select) := by
  have taken : ((Runs.checkedRun step (fun world label => decide (world.CarriesOut label))
      (World.new Config.default)
      (creates 0 "p" ++ createsChild 0 1 "a" ++ stopsActor "p" ++
        [Label.task (.actor 0) .action, .task (.actor 0) (.returns (.ok ())), .task (.actor 0) .proceed,
          .task (.actor 0) (.order [rootPath / "p" / "a"])] ++
        List.replicate 3 (Label.task (.actor 0) .proceed) ++
        [Label.task (.actor 0) .message, .task (.actor 0) (.returns (.ok ()))])).any fun world =>
          (world.actors[0]?.map fun runner => (runner.history.stopConsumed, runner.control)) =
            some (true, .select)) = true := by
    decide
  obtain ⟨world, reached, facts⟩ : ∃ world, Guarded step Initial CarriesOut world ∧ _ :=
    guarded_shown (fun _ _ => of_decide_eq_true) ⟨_, rfl⟩ taken
  exact ⟨world, reached, stops_carried_out reached, facts⟩

/-- A parent whose child has panicked takes its Stop, fails to stop the child and serves
on for good. -/
theorem dead_child_loses_stop :
    ¬ ∀ world, Reachable step Initial world → world.StopsCarriedOut := by
  intro claimed
  have taken : ((Runs.run step (World.new Config.default)
      (creates 0 "p" ++ createsChild 0 1 "a" ++
        [Label.task (.actor 1) .message, .task (.actor 1) .panics] ++ stopsActor "p" ++
        [Label.task (.actor 0) .action, .task (.actor 0) (.returns (.ok ())), .task (.actor 0) .proceed,
          .task (.actor 0) (.order [rootPath / "p" / "a"])] ++
        List.replicate 4 (Label.task (.actor 0) .proceed))).any fun world =>
          (world.actors[0]?.map fun runner => (runner.history.stopConsumed, runner.control)) =
              some (true, .select) ∧
            world.history.stopSent = [0] ∧ world.running (.actor 0) 0 = false ∧
            world.waiting (.actor 0) = []) = true := by
    decide
  obtain ⟨world, reached, stopping, sent, idle, empty⟩ :
      ∃ world, Reachable step Initial world ∧ _ :=
    reachable_shown ⟨_, rfl⟩ taken
  obtain ⟨runner, found, same⟩ := Option.map_eq_some_iff.mp stopping
  rw [Prod.mk.injEq] at same
  obtain ⟨⟨child, pending⟩, _⟩ := claimed world reached 0 runner found same.1 (by rw [same.2]; rfl)
  obtain ⟨stopped, running | ⟨path, waits⟩⟩ := pending
  · rw [sent, List.mem_singleton] at stopped
    rw [stopped, idle] at running
    cases running
  · rw [empty] at waits
    cases waits

end Scenarios

end World

end Rush.Actor
