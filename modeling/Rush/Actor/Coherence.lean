import Rush.Actor.Messaging

/-! The invariant of the messages: the mailboxes follow the tasks of the system, in every
state that is reached. -/

namespace Rush.Actor

open Rush.Library Runs

namespace ActorRunner

theorem serves_finished {runner : ActorRunner} (finished : runner.finished = true) :
    runner.serves = false := by
  rw [ActorRunner.finished, panicked, Bool.or_eq_true, decide_eq_true_eq, decide_eq_true_eq]
    at finished
  rcases finished with control | control
  all_goals rw [serves, control]

end ActorRunner

namespace World

inductive Serving (runner : ActorRunner) (choice : Choice) (moved : ActorRunner) : Prop
  | same (serves : moved.serves = runner.serves)
  | entered (within : runner.control = .select) (message : choice = .message)
      (serves : moved.serves = true) (runs : moved.finished = false)
  | gone (finished : moved.finished = true)
  | left (within : runner.control = .hook .handle) (result : Except Error Unit)
      (returns : choice = .returns result) (serves : moved.serves = false)
      (runs : moved.finished = false)

theorem RunnerStep.serving {world next : World} {id : ActorId} {runner moved : ActorRunner}
    {choice : Choice} (moves : RunnerStep world id runner choice next moved) :
    Serving runner choice moved := by
  have before (control : Control) (within : runner.control = control)
      (apart : ({ runner with control } : ActorRunner).serves = false) :
      runner.serves = false := by
    rw [ActorRunner.serves, within]
    exact apart
  cases moves with
  | init within =>
      refine .same ?_
      rw [before .lifecycle within rfl]
      have arm := runner.init_arm id
      generalize runner.init id = started at arm
      cases arm with
      | failed => rw [ActorRunner.serves, within]
      | _ => rfl
  | woke within => exact .same (before _ within rfl).symm
  | requested within =>
      refine .same ?_
      rw [ActorRunner.serves, ActorRunner.serves, within]
      cases ‹Hook› <;> rfl
  | tooDeep => exact .same rfl
  | @returned hook result within =>
      have arm := runner.hookReturns_arm id hook result
      cases hook with
      | handle => exact .left within result rfl rfl rfl
      | _ =>
          refine .same ?_
          rw [before _ within rfl]
          generalize runner.hookReturns id _ result = moved at arm
          cases arm <;> rfl
  | panicked => exact .gone rfl
  | message within => exact .entered within rfl rfl rfl
  | @signal emitter signal signals within =>
      refine .same ?_
      rw [before _ within rfl]
      cases signal <;> rfl
  | @action action actions within =>
      refine .same ?_
      rw [before _ within rfl]
      cases action <;> rfl
  | @access _ call point _ progress within access =>
      refine .same ?_
      cases progress with
      | call goesOn =>
          rw [ActorRunner.serves, ActorRunner.serves, within]
          cases point with
          | hook hook => cases hook <;> rfl
          | _ => rfl
      | «return» outcome =>
          have arm := runner.resume_arm id point outcome
          rw [ActorRunner.proceed]
          generalize runner.resume id point outcome = moved at arm
          rw [ActorRunner.serves, ActorRunner.serves, within]
          cases arm with
          | hook hook => cases hook <;> rfl
          | leftFailed _ fault => rcases fault with rfl | rfl | rfl <;> rfl
          | leftRestarted restarts => rcases restarts with rfl | rfl <;> rfl
          | _ => rfl

end World

namespace Messaging

variable {M R : Type} {state after : Messaging M R} {label : Label M R}

/-- The system and the mailboxes agree on who is gone and on who is in `handle`, and each
message bears the path of the actor to which it was sent. -/
structure Linked (state : Messaging M R) : Prop where
  shut : ∀ (id : ActorId) (runner : ActorRunner), state.world.actors[id]? = some runner →
    state.mail.shut id = runner.finished
  serving : ∀ (id : ActorId) (runner : ActorRunner), state.world.actors[id]? = some runner →
    (state.mail.serving id).isSome = runner.serves
  unborn : ∀ id : ActorId, state.world.actors[id]? = none →
    state.mail.shut id = false ∧ state.mail.serving id = none
  issued : ∀ task (target : ActorId) letter, state.mail.Issued task target letter →
    ∃ runner, state.world.actors[target]? = some runner ∧ letter.body.sender = runner.path

theorem path_kept {world next : World} {label : World.Label} (taken : world.step label = some next)
    {id : ActorId} {runner : ActorRunner} (found : world.actors[id]? = some runner) :
    ∃ moved, next.actors[id]? = some moved ∧ moved.path = runner.path := by
  obtain ⟨bound, _⟩ := List.getElem?_eq_some_iff.mp found
  have within : id < next.actors.length := lt_of_lt_of_le bound (World.step_size taken)
  refine ⟨next.actors[id], List.getElem?_eq_getElem within, ?_⟩
  cases World.step_origin taken (List.getElem?_eq_getElem within) with
  | own _ was moves =>
      obtain rfl := Option.some.inj (was.symm.trans found)
      exact congrArg Prod.fst moves.identity
  | kept was =>
      rw [Option.some.inj (was.symm.trans found)]
  | spawned _ _ _ absent =>
      rw [found] at absent
      cases absent

theorem linked_step (linked : state.Linked) {label : World.Label} {world : World}
    {mail : Exchange ActorId Task (Envelope M) (Except Error R)}
    (taken : state.world.step label = some world)
    (elsewhere : ∀ id : ActorId, label.task? ≠ some (.actor id) →
      mail.shut id = state.mail.shut id ∧ mail.serving id = state.mail.serving id)
    (own : ∀ (id : ActorId) (choice : World.Choice) (runner moved : ActorRunner),
      label = .task (.actor id) choice → state.world.actors[id]? = some runner →
        world.actors[id]? = some moved → World.Serving runner choice moved →
          mail.shut id = moved.finished ∧ (mail.serving id).isSome = moved.serves)
    (issued : ∀ task target letter, mail.Issued task target letter →
      state.mail.Issued task target letter) : Linked { world, mail } := by
  -- an actor is the one that acts, another one, or new
  have link (id : ActorId) (moved : ActorRunner) (found : world.actors[id]? = some moved) :
      mail.shut id = moved.finished ∧ (mail.serving id).isSome = moved.serves := by
    cases World.step_origin taken found with
    | own labelled was moves => exact own id _ _ moved labelled was found moves.serving
    | kept was =>
        by_cases acts : label.task? = some (.actor id)
        · cases label with
          | cancel => cases acts
          | task task choice =>
              obtain rfl := Option.some.inj acts
              obtain ⟨next, moves, _⟩ := World.step_own taken was found
              exact own id choice moved moved rfl was found moves.serving
        · obtain ⟨shut, serving⟩ := elsewhere id acts
          rw [shut, serving]
          exact ⟨linked.shut id moved was, linked.serving id moved was⟩
    | spawned path supervisor strategy absent new =>
        have apart : label.task? ≠ some (.actor id) := by
          intro acts
          cases label with
          | cancel => cases acts
          | task task choice =>
              obtain rfl := Option.some.inj acts
              obtain ⟨_, _, _, was, _⟩ := World.actorStep_cases taken
              rw [absent] at was
              cases was
        obtain ⟨shut, serving⟩ := elsewhere id apart
        obtain ⟨runs, free⟩ := linked.unborn id absent
        rw [shut, serving, runs, free, new]
        exact ⟨rfl, rfl⟩
  constructor
  case shut => exact fun id moved found => (link id moved found).1
  case serving => exact fun id moved found => (link id moved found).2
  case unborn =>
    intro id absent
    have before : state.world.actors[id]? = none := by
      rw [List.getElem?_eq_none_iff] at absent ⊢
      exact le_trans (World.step_size taken) absent
    have apart : label.task? ≠ some (.actor id) := by
      intro acts
      cases label with
      | cancel => cases acts
      | task task choice =>
          obtain rfl := Option.some.inj acts
          obtain ⟨_, _, _, was, _⟩ := World.actorStep_cases taken
          rw [before] at was
          cases was
    obtain ⟨shut, serving⟩ := elsewhere id apart
    rw [shut, serving]
    exact linked.unborn id before
  case issued =>
    intro task target letter stands
    obtain ⟨runner, found, path⟩ := linked.issued task target letter (issued _ _ _ stands)
    obtain ⟨moved, foundAfter, same⟩ := path_kept taken found
    exact ⟨moved, foundAfter, path.trans same.symm⟩

section Parts

variable {mail : Exchange ActorId Task (Envelope M) (Except Error R)} {id other : ActorId}

theorem take_parts (applied : state.mail.apply (.take id) = some mail) :
    mail.shut = state.mail.shut ∧ mail.serving id ≠ none ∧
      (∀ other, other ≠ id → mail.serving other = state.mail.serving other) ∧
        mail.books = state.mail.books := by
  cases Exchange.apply_moves applied with
  | @taken _ letter inbox =>
      refine ⟨rfl, ?_, fun other apart => Function.update_of_ne apart _ _, rfl⟩
      rw [show (state.mail.take id letter inbox).serving id = some letter from
        Function.update_self ..]
      exact Option.some_ne_none _

theorem close_parts (applied : state.mail.apply (.close id) = some mail) :
    mail.shut id = true ∧ mail.serving id = none ∧
      (∀ other, other ≠ id → mail.shut other = state.mail.shut other ∧
        mail.serving other = state.mail.serving other) ∧
          mail.books.issued = state.mail.books.issued := by
  cases Exchange.apply_moves applied with
  | closed =>
      exact ⟨Function.update_self .., Function.update_self ..,
        fun other apart => ⟨Function.update_of_ne apart _ _, Function.update_of_ne apart _ _⟩, rfl⟩

theorem answer_parts {result : Except Error R}
    (applied : state.mail.apply (.answer id result) = some mail) :
    mail.shut = state.mail.shut ∧ mail.serving id = none ∧
      (∀ other, other ≠ id → mail.serving other = state.mail.serving other) ∧
        mail.books.issued = state.mail.books.issued := by
  cases Exchange.apply_moves applied with
  | answered =>
      exact ⟨rfl, Function.update_self .., fun other apart => Function.update_of_ne apart _ _, rfl⟩

theorem wait_parts {op : Op ActorId Task (Envelope M) (Except Error R)}
    (waits : op.server? = none) (written : ∀ task target body resp, op ≠ .issue task target body resp)
    (applied : state.mail.apply op = some mail) :
    mail.shut = state.mail.shut ∧ mail.serving = state.mail.serving ∧
      mail.books.issued = state.mail.books.issued := by
  cases Exchange.apply_moves applied with
  | issued => exact absurd rfl (written _ _ _ _)
  | taken | answered | closed => cases waits
  | _ => exact ⟨rfl, rfl, rfl⟩

end Parts

section Cases

variable {world : World} {mail : Exchange ActorId Task (Envelope M) (Except Error R)} {id : ActorId}
  {choice : World.Choice}

theorem issued_same (same : mail.books.issued = state.mail.books.issued) (task : Task)
    (target : ActorId) (letter : ActorMessage M) (stands : mail.Issued task target letter) :
    state.mail.Issued task target letter := by
  rwa [Exchange.Issued, same] at stands

theorem linked_runs (linked : state.Linked) {label : World.Label}
    (taken : state.world.step label = some world) (other : state.world.answers label = false)
    (receives : state.world.receiver label = none) (stays : world.leaver label = none) :
    Linked { state with world } := by
  refine linked_step linked taken (fun _ _ => ⟨rfl, rfl⟩) ?_ fun _ _ _ stands => stands
  intro id choice runner moved labelled found foundAfter serving
  subst labelled
  have shut := linked.shut id runner found
  have serves := linked.serving id runner found
  have alive : moved.finished = false := by
    refine Bool.eq_false_of_not_eq_true fun gone => ?_
    have ended : world.finished id = true := by
      rw [World.finished, foundAfter]
      exact gone
    rw [World.leaver, if_pos ended] at stays
    cases stays
  obtain ⟨was, _, _, foundWas, moves, _⟩ := World.actorStep_cases taken
  obtain rfl := Option.some.inj (foundWas.symm.trans found)
  refine ⟨by rw [shut, moves.unfinished, alive], ?_⟩
  cases serving with
  | same same => rw [serves, same]
  | entered within message =>
      have selects : state.world.selects (.actor id) = true := by
        rw [World.selects, found]
        exact decide_eq_true within
      rw [message, World.receiver, if_pos selects] at receives
      cases receives
  | gone gone => cases alive.symm.trans gone
  | left within result returns =>
      have answers : state.world.handles id = true := by
        rw [World.handles, found]
        exact decide_eq_true within
      rw [returns, World.answers, answers] at other
      cases other

theorem linked_takes (linked : state.Linked) (selects : state.world.selects (.actor id) = true)
    (taken : state.world.step (.task (.actor id) .message) = some world)
    (applied : state.mail.apply (.take id) = some mail) : Linked { world, mail } := by
  obtain ⟨shutSame, serves, elsewhere, books⟩ := take_parts applied
  refine linked_step linked taken ?_ ?_ (issued_same (congrArg Books.issued books))
  · intro other apart
    have different : other ≠ id := fun same => apart (by rw [same]; rfl)
    exact ⟨congrFun shutSame other, elsewhere other different⟩
  · intro other choice runner moved labelled found foundAfter serving
    cases labelled
    obtain ⟨was, foundWas, within⟩ := (Option.any_eq_true _ _).mp selects
    obtain rfl := Option.some.inj (foundWas.symm.trans found)
    have select : was.control = .select := of_decide_eq_true within
    have shut := linked.shut id was found
    obtain ⟨next, _, _, foundNext, moves, _⟩ := @World.actorStep_cases state.world world id .message
      taken
    obtain rfl := Option.some.inj (foundNext.symm.trans found)
    rw [shutSame, shut, moves.unfinished]
    obtain ⟨_, moves, _⟩ := World.step_own taken found foundAfter
    cases moves with
    | message => exact ⟨rfl, Option.isSome_iff_ne_none.mpr serves⟩
    | init other | woke other | access other => cases select.symm.trans other

theorem linked_leaves (linked : state.Linked)
    (taken : state.world.step (.task (.actor id) choice) = some world)
    (ended : world.finished id = true) (applied : state.mail.apply (.close id) = some mail) :
    Linked { world, mail } := by
  obtain ⟨shut, none, elsewhere, issued⟩ := close_parts applied
  refine linked_step linked taken ?_ ?_ (issued_same issued)
  · intro other apart
    exact elsewhere other fun same => apart (by rw [same]; rfl)
  · intro other choice' runner moved labelled found foundAfter serving
    cases labelled
    rw [World.finished, foundAfter] at ended
    have gone : moved.finished = true := ended
    rw [shut, none, gone, ActorRunner.serves_finished gone]
    exact ⟨rfl, rfl⟩

theorem linked_answers (linked : state.Linked) {result : Except Error R}
    (handles : state.world.handles id = true)
    (taken : state.world.step (.task (.actor id) (.returns (result.map fun _ => ()))) = some world)
    (applied : state.mail.apply (.answer id result) = some mail) : Linked { world, mail } := by
  obtain ⟨shutSame, none, elsewhere, issued⟩ := answer_parts applied
  refine linked_step linked taken ?_ ?_ (issued_same issued)
  · intro other apart
    have different : other ≠ id := fun same => apart (by rw [same]; rfl)
    exact ⟨congrFun shutSame other, elsewhere other different⟩
  · intro other choice runner moved labelled found foundAfter serving
    cases labelled
    obtain ⟨was, foundWas, within⟩ := (Option.any_eq_true _ _).mp handles
    obtain rfl := Option.some.inj (foundWas.symm.trans found)
    have hook : was.control = .hook .handle := of_decide_eq_true within
    have shut := linked.shut id was found
    obtain ⟨next, _, _, foundNext, moves, _⟩ := @World.actorStep_cases state.world world id
      (.returns (result.map fun _ => ())) taken
    obtain rfl := Option.some.inj (foundNext.symm.trans found)
    rw [shutSame, shut, moves.unfinished, none]
    obtain ⟨_, moves, _⟩ := World.step_own taken found foundAfter
    cases moves with
    | returned other =>
        cases hook.symm.trans other
        exact ⟨rfl, rfl⟩
    | init other | woke other | access other => cases hook.symm.trans other

theorem linked_sends (linked : state.Linked) {task : Task} {target : ActorId} {msg : M} {resp : Bool}
    {runner : ActorRunner} (found : state.world.actors[target]? = some runner)
    (applied : state.mail.apply (.issue task target ⟨runner.path, msg⟩ resp) = some mail) :
    Linked { state with mail } := by
  cases Exchange.apply_moves applied with
  | issued free =>
      refine ⟨linked.shut, linked.serving, linked.unborn, ?_⟩
      intro other there letter stands
      rcases Exchange.issue_issued_cases stands with old | ⟨_, rfl, rfl⟩
      · exact linked.issued other there letter old
      · exact ⟨runner, found, rfl⟩

theorem linked_waits (linked : state.Linked) {op : Op ActorId Task (Envelope M) (Except Error R)}
    (waits : op.server? = none) (written : ∀ task target body resp, op ≠ .issue task target body resp)
    (applied : state.mail.apply op = some mail) : Linked { state with mail } := by
  obtain ⟨shut, serving, issued⟩ := wait_parts waits written applied
  constructor
  case shut => exact fun id runner found => (congrFun shut id).trans (linked.shut id runner found)
  case serving =>
    intro id runner found
    rw [serving]
    exact linked.serving id runner found
  case unborn =>
    intro id absent
    rw [shut, serving]
    exact linked.unborn id absent
  case issued =>
    exact fun other there letter stands =>
      linked.issued other there letter (issued_same issued other there letter stands)

end Cases

theorem Linked.moves (linked : state.Linked) (moves : state.Moves label after) :
    after.Linked := by
  cases moves with
  | runs _ other taken receives stays => exact linked_runs linked taken other receives stays
  | takes _ selects taken applied => exact linked_takes linked selects taken applied
  | leaves _ taken _ ended applied => exact linked_leaves linked taken ended applied
  | answers handles _ taken applied => exact linked_answers linked handles taken applied
  | sends _ _ found applied => exact linked_sends linked found applied
  | waits task own applied =>
      rcases own with ⟨_, rfl⟩ | ⟨_, rfl⟩ | ⟨_, rfl⟩
      all_goals
        refine linked_waits linked rfl ?_ applied
        intro _ _ _ _ same
        cases same

theorem step_mail (moves : state.Moves label after) : after.mail = state.mail ∨
    ∃ op, state.mail.apply op = some after.mail ∧ state.mail.Disciplined Task.actor op ∧
      label.Performs op := by
  have own {id : ActorId} {op : Op ActorId Task (Envelope M) (Except Error R)}
      (steps : op.server? = some id) (idle : state.mail.awaiting (.actor id) = none) :
      state.mail.Disciplined Task.actor op := by
    intro server same
    cases steps.symm.trans same
    exact idle
  cases moves with
  | runs => exact .inl rfl
  | takes idle _ _ applied => exact .inr ⟨_, applied, own rfl idle, rfl⟩
  | leaves idle _ _ _ applied => exact .inr ⟨_, applied, own rfl idle, _, rfl⟩
  | answers _ idle _ applied => exact .inr ⟨_, applied, own rfl idle, rfl⟩
  | sends labelled _ _ applied =>
      refine .inr ⟨_, applied, ?_, labelled⟩
      intro server same
      cases same
  | waits task own applied =>
      refine .inr ⟨_, applied, ?_, ?_⟩
      · intro server same
        rcases own with ⟨_, rfl⟩ | ⟨_, rfl⟩ | ⟨_, rfl⟩ <;> cases same
      · rcases own with ⟨labelled, rfl⟩ | ⟨labelled, rfl⟩ | ⟨labelled, rfl⟩ <;> exact labelled

/-- The invariant of the messages. -/
structure Coherent (state : Messaging M R) : Prop where
  linked : state.Linked
  sound : state.mail.Sound
  ordered : state.mail.Ordered
  room : ∀ id, 0 < (state.mail.inbox id).capacity

theorem coherent_initial (initial : Initial state) : state.Coherent := by
  obtain ⟨config, mailboxSize, positive, rfl⟩ := initial
  refine ⟨⟨?_, ?_, fun _ _ => ⟨rfl, rfl⟩, ?_⟩, Exchange.sound_new _, Exchange.ordered_new _,
    fun _ => positive⟩
  · intro id runner found
    cases found
  · intro id runner found
    cases found
  · intro task target letter stands
    cases stands

theorem Coherent.step (coherent : state.Coherent) (taken : state.step label = some after) :
    after.Coherent := by
  have moves := step_moves taken
  have linked := coherent.linked.moves moves
  rcases step_mail moves with same | ⟨op, applied, _⟩
  · exact ⟨linked, same ▸ coherent.sound, same ▸ coherent.ordered, same ▸ coherent.room⟩
  · have mailMoves := Exchange.apply_moves applied
    refine ⟨linked, coherent.sound.apply applied,
      coherent.ordered.moves coherent.sound.known mailMoves, fun id => ?_⟩
    rw [mailMoves.capacity]
    exact coherent.room id

theorem coherent_reached (reached : Reachable step Initial state) : state.Coherent :=
  guarded_invariant Coherent (fun _ initial => coherent_initial initial)
    (fun _ _ _ coherent _ taken => coherent.step taken) reached

theorem Coherent.grows (coherent : state.Coherent) (taken : state.step label = some after) :
    state.mail.Grows after.mail := by
  rcases step_mail (step_moves taken) with same | ⟨op, applied, _⟩
  · rw [same]
    exact .refl _
  · exact coherent.sound.grows applied

theorem Coherent.run {labels : List (Label M R)} (coherent : state.Coherent)
    (taken : Runs.run Messaging.step state labels = some after) :
    after.Coherent ∧ state.mail.Grows after.mail := by
  induction labels generalizing state with
  | nil =>
      obtain rfl : state = after := Option.some.inj taken
      exact ⟨coherent, .refl _⟩
  | cons label labels ih =>
      obtain ⟨next, moved, rest⟩ := Option.bind_eq_some_iff.mp taken
      obtain ⟨last, grows⟩ := ih (coherent.step moved) rest
      exact ⟨last, (coherent.grows moved).trans grows⟩

end Messaging

end Rush.Actor
