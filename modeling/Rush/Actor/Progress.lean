import Rush.Actor.Asking
import Rush.Actor.Phase

/-! Who can go on. A task waits for another for room in a mailbox, for a reply, for the
start of an actor it creates, or for room for a Stop, a Restart or a signal; whatever else
it has come to, it has a next step. -/

namespace Rush.Actor

open Rush.Library Runs

namespace ActorRunner

def Starting (runner : ActorRunner) : Prop :=
  runner.initSender = true ∧ (runner.lifecycle = .created ∨ runner.lifecycle = .restarted ∨
    runner.lifecycle = .started ∧ runner.control = .lifecycle)

variable {runner : ActorRunner} {id : ActorId}

theorem Starting.between (starting : runner.Starting) (inPhase : runner.InPhase id)
    {lifecycle : ActorLifecycle} (known : runner.control.lifecycle? = some lifecycle) :
    lifecycle = .created ∨ lifecycle = .restarted := by
  have here := inPhase.phase lifecycle known
  rcases starting.2 with created | restarted | ⟨_, idle⟩
  · exact .inl (here.symm.trans created)
  · exact .inr (here.symm.trans restarted)
  · rw [idle] at known
    cases known

def Answers (runner : ActorRunner) : Prop := runner.initAnswer = none → runner.Starting

theorem Answers.enterRun (answers : runner.Answers) : runner.enterRun.initAnswer ≠ none := by
  intro silent
  rw [ActorRunner.enterRun] at silent
  simp only at silent
  split at silent
  · cases silent
  · next closed => exact closed (answers silent).1

theorem Answers.failStart (answers : runner.Answers) : runner.failStart.initAnswer ≠ none := by
  intro silent
  rw [ActorRunner.failStart] at silent
  simp only at silent
  split at silent
  · cases silent
  · next closed => exact closed (answers silent).1

theorem Answers.init (answers : runner.Answers) : (runner.init id).Answers := by
  have elsewhere {lifecycle : ActorLifecycle} (here : runner.lifecycle = lifecycle)
      (apart : lifecycle ≠ .created ∧ lifecycle ≠ .restarted ∧ lifecycle ≠ .started) :
      runner.initAnswer ≠ none := by
    intro silent
    rcases (answers silent).2 with created | restarted | ⟨started, _⟩
    · exact apart.1 (here.symm.trans created)
    · exact apart.2.1 (here.symm.trans restarted)
    · exact apart.2.2 (here.symm.trans started)
  have arm := runner.init_arm id
  generalize runner.init id = moved at arm
  intro silent
  cases arm with
  | created lifecycle => exact ⟨(answers silent).1, .inl lifecycle⟩
  | started => exact absurd silent answers.enterRun
  | gaveUp => exact absurd silent answers.failStart
  | slept duration lifecycle => exact ⟨(answers silent).1, .inr (.inl lifecycle)⟩
  | retried lifecycle => exact ⟨(answers silent).1, .inr (.inl lifecycle)⟩
  | failed lifecycle | stopped lifecycle | terminated lifecycle =>
      exact absurd silent (elsewhere lifecycle (by decide))

theorem Answers.hookReturns (answers : runner.Answers) (inPhase : runner.InPhase id) {hook : Hook}
    (within : runner.control = .hook hook) (result : Except Error Unit) :
    (runner.hookReturns id hook result).Answers := by
  have between (silent : runner.initAnswer = none) :
      hook.lifecycle = .created ∨ hook.lifecycle = .restarted :=
    (answers silent).between inPhase (by rw [within]; rfl)
  have arm := runner.hookReturns_arm id hook result
  generalize runner.hookReturns id hook result = moved at arm
  intro silent
  cases arm with
  | started => exact ⟨(answers silent).1, .inr (.inr ⟨rfl, rfl⟩)⟩
  | startFailed => exact ⟨(answers silent).1, .inr (.inl rfl)⟩
  | restarted => exact ⟨(answers silent).1, .inr (.inr ⟨rfl, rfl⟩)⟩
  | restartFailed =>
      have lifecycle : runner.lifecycle = .restarted := inPhase.phase _ (by rw [within]; rfl)
      exact ⟨(answers silent).1, .inr (.inl lifecycle)⟩
  | stopping | stopFault | ended => rcases between silent with here | here <;> cases here
  | served _ serves =>
      rcases serves with rfl | ⟨_, _, rfl | rfl⟩
      all_goals rcases between silent with here | here <;> cases here

theorem Answers.resume (answers : runner.Answers) (inPhase : runner.InPhase id) {call : Call}
    {point : Point} (within : runner.control = .calling call point) (outcome : Outcome) :
    (runner.resume id point outcome).Answers := by
  have between (silent : runner.initAnswer = none) :
      point.lifecycle = .created ∨ point.lifecycle = .restarted :=
    (answers silent).between inPhase (by rw [within]; rfl)
  have arm := runner.resume_arm id point outcome
  generalize runner.resume id point outcome = moved at arm
  intro silent
  cases arm with
  | hook =>
      obtain ⟨sender, lifecycle⟩ := answers silent
      refine ⟨sender, lifecycle.imp_right (Or.imp_right fun both => ?_)⟩
      cases both.2.symm.trans within
  | leftFailed _ fault =>
      rcases fault with rfl | rfl | rfl
      all_goals rcases between silent with here | here <;> cases here
  | leftRestarted restarts =>
      rcases restarts with rfl | rfl
      all_goals rcases between silent with here | here <;> cases here
  | _ => rcases between silent with here | here <;> cases here

end ActorRunner

namespace World

variable {world next after : World} {label : Label} {id : ActorId} {runner moved : ActorRunner}
  {task : Task} {call : Call} {choice : Choice} {progress : Progress} {supervisor : Supervisor}

theorem RunnerStep.answers (moves : RunnerStep world id runner choice next moved)
    (answers : runner.Answers) (inPhase : runner.InPhase id) : moved.Answers := by
  -- a control that is entered during a start leaves the lifecycle as it is
  have entered (control : Control) (apart : runner.control ≠ .lifecycle) :
      ActorRunner.Answers { runner with control } := by
    intro silent
    obtain ⟨sender, lifecycle⟩ := answers silent
    exact ⟨sender, lifecycle.imp_right (Or.imp_right fun both => absurd both.2 apart)⟩
  have selecting (within : runner.control = .select) : runner.initAnswer ≠ none := by
    intro silent
    rcases (answers silent).between inPhase (by rw [within]; rfl) with here | here <;> cases here
  cases moves with
  | init => exact answers.init
  | woke within => exact entered _ (by rw [within]; exact nofun)
  | requested within => exact entered _ (by rw [within]; exact nofun)
  | tooDeep => exact answers
  | returned within => exact answers.hookReturns inPhase within _
  | panicked within => exact entered _ (by rw [within]; exact nofun)
  | message within => exact fun silent => absurd silent (selecting within)
  | @signal emitter signal _ within =>
      intro silent
      cases signal <;> exact absurd silent (selecting within)
  | @action action _ within =>
      intro silent
      cases action <;> exact absurd silent (selecting within)
  | @access _ _ _ _ progress within =>
      cases progress with
      | call => exact entered _ (by rw [within]; exact nofun)
      | «return» outcome => exact answers.resume inPhase within outcome

def Answering (world : World) : Prop :=
  ∀ (id : ActorId) (runner : ActorRunner), world.actors[id]? = some runner → runner.Answers

theorem step_answering (answering : world.Answering) (phased : world.Phased)
    (taken : step world label = some after) : after.Answering := by
  intro id moved found
  cases step_origin taken found with
  | own labelled was moves => exact moves.answers (answering id _ was) (phased.inPhase id _ was)
  | kept was => exact answering id moved was
  | spawned path supervisor strategy absent new =>
      rw [new]
      exact fun _ => ⟨rfl, .inl rfl⟩

structure Roomy (world : World) : Prop where
  actions : ∀ id, (world.actions id).capacity = world.config.actionBufferSize
  signals : ∀ self, (world.handlers self).signals.capacity = world.config.signalBufferSize

theorem Roomy.setActions (roomy : world.Roomy) {child : ActorId} {actions : Channel ChildAction}
    (same : actions.capacity = (world.actions child).capacity) :
    (world.setActions child actions).Roomy := by
  refine ⟨fun id => ?_, roomy.signals⟩
  change (Function.update world.actions child actions id).capacity = _
  by_cases here : id = child
  · rw [here, Function.update_self, same]
    exact roomy.actions child
  · rw [Function.update_of_ne here]
    exact roomy.actions id

theorem Roomy.setHandler (roomy : world.Roomy) {handler : SupervicionHandler}
    (same : handler.signals.capacity = (world.handlers supervisor).signals.capacity) :
    Roomy { world with handlers := Function.update world.handlers supervisor handler } := by
  refine ⟨roomy.actions, fun self => ?_⟩
  change (Function.update world.handlers supervisor handler self).signals.capacity = _
  by_cases here : self = supervisor
  · rw [here, Function.update_self, same]
    exact roomy.signals supervisor
  · rw [Function.update_of_ne here]
    exact roomy.signals self

theorem Roomy.announce (roomy : world.Roomy) (child : ActorId) (signal : ActorSignal) :
    (world.announce child signal).Roomy := by
  cases signal <;> exact ⟨roomy.actions, roomy.signals⟩

theorem access_roomy (roomy : world.Roomy) (access : Access world supervisor call next progress) :
    next.Roomy := by
  cases access with
  | stopSent sent =>
      have sized := roomy.setActions (Channel.send_capacity sent)
      exact ⟨sized.actions, sized.signals⟩
  | restartSent sent => exact roomy.setActions (Channel.send_capacity sent)
  | @senderInserted child runner =>
      have sized : (world.holdSender supervisor runner.path child).Roomy := roomy.setHandler rfl
      exact ⟨sized.actions, sized.signals⟩
  | senderDropped | senderTaken | senderRemoved => exact roomy.setHandler rfl
  | emitRefused => exact roomy.announce _ _
  | emitted found sent =>
      refine (roomy.announce _ _).setHandler ((Channel.send_capacity sent).trans ?_)
      cases ‹ActorSignal› <;> rfl
  | _ => exact ⟨roomy.actions, roomy.signals⟩

theorem actorStep_roomy (roomy : world.Roomy) (taken : world.actorStep id choice = some after) :
    after.Roomy := by
  obtain ⟨runner, next, moved, _, moves, rfl⟩ := actorStep_cases taken
  have sized : next.Roomy := by
    cases moves with
    | signal _ received => exact roomy.setHandler (Channel.receive_capacity received)
    | action _ received => exact roomy.setActions (Channel.receive_capacity received)
    | access _ access => exact access_roomy roomy access
    | _ => exact roomy
  exact ⟨sized.actions, sized.signals⟩

theorem runnerStep_roomy (roomy : world.Roomy) (taken : world.runnerStep choice = some after) :
    after.Roomy := by
  unfold runnerStep at taken
  split at taken
  · split at taken
    · rw [Option.ite_none_right_eq_some] at taken
      cases taken.2
      exact ⟨roomy.actions, roomy.signals⟩
    · obtain ⟨received, front, taken⟩ := Option.bind_eq_some_iff.mp taken
      cases taken
      have sized : (world.setSignals .system received.2).Roomy :=
        roomy.setHandler (Channel.receive_capacity front)
      exact ⟨sized.actions, sized.signals⟩
    · cases taken
  · obtain ⟨⟨next, progress⟩, accessed, taken⟩ := Option.bind_eq_some_iff.mp taken
    cases taken
    have sized := access_roomy roomy (callStep_access accessed)
    exact ⟨sized.actions, sized.signals⟩
  · cases taken

theorem step_roomy (roomy : world.Roomy) (taken : step world label = some after) :
    after.Roomy := by
  cases label with
  | cancel =>
      cases taken
      exact ⟨roomy.actions, roomy.signals⟩
  | task task choice =>
      cases task with
      | actor id => exact actorStep_roomy roomy taken
      | runner => exact runnerStep_roomy roomy taken
      | client id =>
          replace taken : world.clientStep id choice = some after := taken
          unfold clientStep at taken
          split at taken
          · split at taken
            · cases taken
              exact ⟨roomy.actions, roomy.signals⟩
            · cases taken
          · obtain ⟨⟨next, progress⟩, accessed, taken⟩ := Option.bind_eq_some_iff.mp taken
            cases taken
            have sized := access_roomy roomy (callStep_access accessed)
            exact ⟨sized.actions, sized.signals⟩

structure Steady (world : World) : Prop where
  phased : world.Phased
  custodial : world.Custodial
  answering : world.Answering
  roomy : world.Roomy

theorem steady_reached (reached : Reachable step Initial world) : world.Steady := by
  refine guarded_invariant Steady ?_ ?_ reached
  · rintro world ⟨config, rfl⟩
    have start : Reachable step Initial (new config) := .start ⟨config, rfl⟩
    refine ⟨phased_reached start, custodial_reached start, fun _ _ found => ?_, fun _ => rfl, fun _ => rfl⟩
    cases found
  · intro world label after steady _ taken
    exact ⟨step_phased steady.phased taken, step_custodial steady.custodial taken,
      step_answering steady.answering steady.phased taken, step_roomy steady.roomy taken⟩

end World

/-- The task that receives the signals of a handler. -/
def Supervisor.task : Supervisor → Task
  | .system => .runner
  | .actor id => .actor id

namespace World

variable {world next after : World} {label : Label} {id : ActorId} {runner moved : ActorRunner}
  {task : Task} {call : Call} {choice : Choice}

inductive CallWaits (world : World) : Call → Task → Prop
  | start {child : ActorId} {runner : ActorRunner} (found : world.actors[child]? = some runner)
      (silent : runner.initAnswer = none) (runs : runner.finished = false) :
      CallWaits world (.initResult child) (.actor child)
  | action {child : ActorId} {call : Call}
      (sends : (∃ rest, call = .sendStop child rest) ∨ ∃ rest, call = .sendRestart child rest)
      (runs : world.finished child = false)
      (full : (world.actions child).capacity ≤ (world.actions child).queue.length) :
      CallWaits world call (.actor child)
  | signal {child : ActorId} {signal : ActorSignal} {runner : ActorRunner}
      (found : world.actors[child]? = some runner)
      (runs : world.signalsClosed runner.supervisor = false)
      (full : (world.handlers runner.supervisor).signals.capacity ≤
        (world.handlers runner.supervisor).signals.queue.length) :
      CallWaits world (.emit child signal) runner.supervisor.task

theorem Steady.silent (steady : world.Steady) (found : world.actors[id]? = some runner)
    (silent : runner.initAnswer = none) (lively : runner.panicked = false) :
    runner.finished = false := by
  rw [ActorRunner.finished, lively, Bool.or_false, decide_eq_false_iff_not]
  intro ended
  have between := (steady.answering id runner found silent).between (steady.phased.inPhase id runner found)
    (by rw [ended]; rfl)
  rcases between with here | here <;> cases here

theorem Steady.carried (steady : world.Steady) {child : ActorId}
    (calling : world.callOf task = some call) (carries : call.carries = some child) :
    ∃ runner, world.actors[child]? = some runner := by
  obtain ⟨_, identity, _⟩ :=
    steady.custodial.labelled (.hand task) child (by simp [held, calling, carries])
  exact ⟨_, List.getElem?_eq_getElem (identityOf_bound identity)⟩

theorem Steady.call_ready (steady : world.Steady) (calling : world.callOf task = some call)
    (free : ∀ other, ¬ world.CallWaits call other) :
    ∃ choice, (world.callStep task.supervisor choice call).isSome = true := by
  -- a call waits at four of its points; at the others it always goes on
  have room {child : ActorId} (action : ChildAction) (runs : world.finished child ≠ true)
      (sends : (∃ rest, call = .sendStop child rest) ∨ ∃ rest, call = .sendRestart child rest) :
      ∃ actions, (world.actions child).send action = some actions := by
    refine Option.ne_none_iff_exists'.mp fun full => ?_
    exact free _ (.action sends (Bool.eq_false_of_not_eq_true runs) (Channel.send_none.mp full))
  cases call with
  | initResult child =>
      obtain ⟨runner, found⟩ := steady.carried calling rfl
      refine ⟨.proceed, ?_⟩
      rw [callStep, found]
      cases answer : runner.initAnswer with
      | some result => cases result <;> simp [answer]
      | none =>
          cases lively : runner.panicked with
          | true => simp [answer, lively]
          | false => exact absurd (.start found answer (steady.silent found answer lively)) (free _)
  | dropEntry child error | dropSender child error | insertEntry child | insertSender child =>
      obtain ⟨runner, found⟩ := steady.carried calling rfl
      exact ⟨.proceed, by rw [callStep, found]; rfl⟩
  | createActor path strategy =>
      refine ⟨.proceed, ?_⟩
      rw [callStep]
      split <;> rfl
  | stopChildren parent =>
      refine ⟨.proceed, ?_⟩
      rw [callStep]
      split <;> rfl
  | stopListed parent =>
      refine ⟨.order (world.getChilds parent).toList, ?_⟩
      rw [callStep, if_pos ⟨Finset.nodup_toList _, Finset.toList_toFinset _⟩]
      rfl
  | stopChild path rest => exact ⟨.proceed, rfl⟩
  | takeSender path rest =>
      refine ⟨.proceed, ?_⟩
      rw [callStep]
      split <;> rfl
  | sendStop child rest =>
      refine ⟨.proceed, ?_⟩
      rw [callStep]
      split
      case isTrue => rfl
      case isFalse runs =>
        obtain ⟨actions, sent⟩ := room .stop runs (.inl ⟨rest, rfl⟩)
        rw [sent]
        rfl
  | restartChildren =>
      refine ⟨.senders ((world.handlers task.supervisor).actionSenders.entries.map Sigma.snd).toList, ?_⟩
      rw [callStep, if_pos (Multiset.coe_toList _)]
      rfl
  | sendRestart child rest =>
      refine ⟨.proceed, ?_⟩
      rw [callStep]
      split
      case isTrue => rfl
      case isFalse runs =>
        obtain ⟨actions, sent⟩ := room .restart runs (.inr ⟨rest, rfl⟩)
        rw [sent]
        rfl
  | removeChild path emitter => exact ⟨.proceed, rfl⟩
  | removeSender path => exact ⟨.proceed, rfl⟩
  | hasChilds parent => exact ⟨.proceed, rfl⟩
  | emit child signal =>
      obtain ⟨runner, _, _, found, _⟩ := steady.phased.emits calling
      refine ⟨.proceed, ?_⟩
      rw [callStep, found]
      cases closed : world.signalsClosed runner.supervisor with
      | true => simp [closed]
      | false =>
          cases sent : (world.handlers runner.supervisor).signals.send (child, signal) with
          | some signals => simp [closed, sent]
          | none => exact absurd (.signal found closed (Channel.send_none.mp sent)) (free _)

theorem step_call (calling : world.callOf task = some call)
    (access : (world.callStep task.supervisor choice call).isSome = true) :
    (step world (.task task choice)).isSome = true := by
  obtain ⟨⟨next, progress⟩, access⟩ := Option.isSome_iff_exists.mp access
  cases task with
  | client id =>
      have within : world.clients id = some call := calling
      have access : world.callStep .system choice call = some (next, progress) := access
      simp [step, clientStep, within, access]
  | runner =>
      have inCall : world.runner.control.call? = some call := calling
      have access : world.callStep .system choice call = some (next, progress) := access
      cases within : world.runner.control with
      | calling current point =>
          rw [within] at inCall
          cases inCall
          simp [step, runnerStep, within, access]
      | _ =>
          rw [within] at inCall
          cases inCall
  | actor id =>
      obtain ⟨runner, found, inCall⟩ := Option.bind_eq_some_iff.mp calling
      have access : world.callStep (.actor id) choice call = some (next, progress) := access
      cases within : runner.control with
      | calling current point =>
          rw [within] at inCall
          cases inCall
          simp [step, actorStep, found, within, access]
      | _ =>
          rw [within] at inCall
          cases inCall

end World

namespace Messaging

variable {M R : Type} {state after : Messaging M R}

def Label.advances : Label M R → Option Task
  | .world label => label.task?
  | .handled id _ => some (.actor id)
  | .sends task | .responds task => some task
  | .tell _ _ _ | .ask _ _ _ | .drops _ => none

/-- The task is in a message or in a call that the other has to let go on. -/
inductive Waits (state : Messaging M R) (task : Task) : Task → Prop
  | message {server : ActorId} (waitsOn : state.mail.WaitsOn task server) :
      Waits state task (.actor server)
  | call {call : Call} {other : Task} (calling : state.world.callOf task = some call)
      (waits : state.world.CallWaits call other) : Waits state task other

def Ready (state : Messaging M R) (task : Task) : Prop :=
  ∃ label, label.advances = some task ∧ (state.step label).isSome = true

theorem world_reached (reached : Reachable step Initial state) :
    Reachable World.step World.Initial state.world := by
  refine guarded_invariant
    (fun state : Messaging M R => Reachable World.step World.Initial state.world) ?_ ?_ reached
  · rintro _ ⟨config, mailboxSize, _, rfl⟩
    exact .start ⟨config, rfl⟩
  · intro state label after before _ taken
    cases step_moves taken with
    | runs _ _ moved | takes _ _ moved | leaves _ moved | answers _ _ moved =>
        exact .next _ _ before trivial moved
    | sends | waits => exact before

section Ready

variable {task : Task} {id : ActorId} {runner : ActorRunner}

theorem world_ready (linked : state.Linked) {label : World.Label} (acts : label.task? = some task)
    (idle : state.mail.awaiting task = none) (other : state.world.answers label = false)
    (receives : state.world.receiver label = none) (taken : (state.world.step label).isSome = true) :
    state.Ready task := by
  obtain ⟨after, taken⟩ := Option.isSome_iff_exists.mp taken
  refine ⟨.world label, acts, ?_⟩
  have free : label.task?.all state.idle = true := by
    rw [acts, Option.all_some, Messaging.idle, idle]
    rfl
  simp only [step, free, other, taken, Bool.not_false, Bool.and_self, if_true, Option.bind_some]
  rw [follow, receives]
  cases leaves : after.leaver label with
  | none => rfl
  | some gone =>
      obtain ⟨⟨choice, rfl⟩, _⟩ := leaver_label leaves
      obtain ⟨runner, _, _, found, moves, _⟩ := World.actorStep_cases taken
      have runs := (linked.shut gone runner found).trans moves.unfinished
      simp only [Exchange.apply, runs]
      rfl

theorem call_ready (linked : state.Linked) (steady : state.world.Steady)
    (idle : state.mail.awaiting task = none) {call : Call}
    (calling : state.world.callOf task = some call) (free : ∀ other, ¬ state.Waits task other) :
    state.Ready task := by
  obtain ⟨choice, access⟩ :=
    steady.call_ready calling fun other waits => free other (.call calling waits)
  have taken := World.step_call calling access
  cases task with
  | client client =>
      exact @world_ready M R state (.client client) linked (.task (.client client) choice) rfl idle
        rfl rfl taken
  | runner => exact @world_ready M R state .runner linked (.task .runner choice) rfl idle rfl rfl taken
  | actor id =>
      obtain ⟨runner, found, inCall⟩ := Option.bind_eq_some_iff.mp calling
      have elsewhere (control : Control) (quiet : control.call? = none) :
          decide (runner.control = control) = false := by
        refine decide_eq_false fun here => ?_
        rw [here, quiet] at inCall
        cases inCall
      have handles : state.world.handles id = false := by
        rw [World.handles, found]
        exact elsewhere _ rfl
      have selects : state.world.selects (.actor id) = false := by
        rw [World.selects, found]
        exact elsewhere _ rfl
      refine @world_ready M R state (.actor id) linked (.task (.actor id) choice) rfl idle ?_ ?_ taken
      · cases choice with
        | returns => exact handles
        | _ => rfl
      · cases choice with
        | message => exact if_neg (by rw [selects]; decide)
        | _ => rfl

theorem hook_ready (linked : state.Linked) (found : state.world.actors[id]? = some runner)
    {hook : Hook} (within : runner.control = .hook hook)
    (idle : state.mail.awaiting (.actor id) = none) : state.Ready (.actor id) := by
  have taken (result : Except Error Unit) :
      (state.world.step (.task (.actor id) (.returns result))).isSome = true := by
    simp [World.step, World.actorStep, found, within]
  cases handles : state.world.handles id with
  | false =>
      exact @world_ready M R state (.actor id) linked (.task (.actor id) (.returns (.ok ()))) rfl idle
        handles rfl (taken _)
  | true =>
      obtain ⟨was, foundWas, handling⟩ := (Option.any_eq_true _ _).mp handles
      obtain rfl := Option.some.inj (foundWas.symm.trans found)
      have serves : was.serves = true := by
        rw [ActorRunner.serves, of_decide_eq_true handling]
      have busy := (linked.serving id was found).trans serves
      obtain ⟨letter, serving⟩ := Option.isSome_iff_exists.mp busy
      obtain ⟨world, moved⟩ := Option.isSome_iff_exists.mp (taken (.error (.message "")))
      refine ⟨.handled id (.error (.message "")), rfl, ?_⟩
      simp [step, handles, Messaging.idle, idle, Exchange.apply, serving, Except.map, moved]

theorem message_ready (coherent : state.Coherent) {id : ActorId} {runner : ActorRunner}
    (found : state.world.actors[id]? = some runner) (within : runner.control = .select)
    (free : state.mail.awaiting (.actor id) = none) (busy : state.mail.held id ≠ []) :
    (state.step (.world (.task (.actor id) .message))).isSome := by
  have serving : state.mail.serving id = none := by
    have serves := coherent.linked.serving id runner found
    rw [ActorRunner.serves, within] at serves
    exact Option.not_isSome_iff_eq_none.mp (by rw [serves]; decide)
  have taken : state.world.step (.task (.actor id) .message) =
      some (state.world.setRunner id runner.takeMessage) := by
    simp only [World.step, World.actorStep, found, Option.bind_eq_bind, Option.bind_some, within]
  have receives : state.world.receiver (.task (.actor id) .message) = some id := by
    refine if_pos ?_
    rw [World.selects, found]
    exact decide_eq_true within
  have idle : state.idle (.actor id) = true := by
    rw [Messaging.idle, free]
    rfl
  cases front : (state.mail.inbox id).receive with
  | none =>
      rw [Exchange.held, serving] at busy
      exact absurd (Channel.receive_none front) busy
  | some received =>
      have applied : state.mail.apply (.take id) =
          some (state.mail.take id received.1 received.2) := by
        rw [Exchange.apply, serving, front]
        rfl
      simp only [Messaging.step, World.Label.task?, Option.all_some, idle, World.answers, taken,
        Option.bind_some, follow, receives, applied]
      rfl

theorem Waits.actor_cases {first : Task} (waits : state.Waits first (.actor id)) :
    state.mail.WaitsOn first id ∨
      (∃ runner, state.world.actors[id]? = some runner ∧ runner.initAnswer = none ∧
        runner.finished = false) ∨
      state.world.finished id = false ∧
        ((state.world.actions id).capacity ≤ (state.world.actions id).queue.length ∨
          (state.world.handlers (.actor id)).signals.capacity ≤
            (state.world.handlers (.actor id)).signals.queue.length) := by
  generalize same : Task.actor id = target at waits
  cases waits with
  | message waitsOn =>
      cases same
      exact .inl waitsOn
  | call calling callWaits =>
      right
      cases callWaits with
      | start found silent runs =>
          cases same
          exact .inl ⟨_, found, silent, runs⟩
      | action sends runs full =>
          cases same
          exact .inr ⟨runs, .inl full⟩
      | @signal _ _ emitter found runs full =>
          cases supervisor : emitter.supervisor with
          | system =>
              rw [supervisor] at same
              cases same
          | actor parent =>
              rw [supervisor] at same runs full
              cases same
              exact .inr ⟨runs, .inr full⟩

theorem Waits.runner_cases {first : Task} (waits : state.Waits first .runner) :
    state.world.signalsClosed .system = false ∧
      (state.world.handlers .system).signals.capacity ≤
        (state.world.handlers .system).signals.queue.length := by
  generalize same : Task.runner = target at waits
  cases waits with
  | message => cases same
  | call calling callWaits =>
      cases callWaits with
      | start | action => cases same
      | @signal _ _ emitter found runs full =>
          cases supervisor : emitter.supervisor with
          | actor parent =>
              rw [supervisor] at same
              cases same
          | system =>
              rw [supervisor] at runs full
              exact ⟨runs, full⟩

theorem Waits.not_client {first : Task} {client : ClientId} : ¬ state.Waits first (.client client) := by
  intro waits
  generalize same : Task.client client = target at waits
  cases waits with
  | message => cases same
  | call calling callWaits =>
      cases callWaits with
      | start | action => cases same
      | @signal _ _ emitter =>
          cases supervisor : emitter.supervisor with
          | system | actor =>
              rw [supervisor] at same
              cases same

theorem Waits.runs (coherent : state.Coherent) {first : Task}
    (waits : state.Waits first (.actor id)) :
    ∃ runner, state.world.actors[id]? = some runner ∧ runner.finished = false := by
  rcases waits.actor_cases with waitsOn | ⟨runner, found, _, runs⟩ | ⟨runs, _⟩
  · obtain ⟨runs, busy⟩ := waitsOn.holds coherent.sound (coherent.room id)
    obtain ⟨letter, present⟩ := List.exists_mem_of_ne_nil _ busy
    obtain ⟨_, issued⟩ := coherent.sound.known.accepted id letter
      (coherent.sound.balanced.held_accepted present)
    obtain ⟨runner, found, _⟩ := coherent.linked.issued _ id letter issued
    exact ⟨runner, found, (coherent.linked.shut id runner found).symm.trans runs⟩
  · exact ⟨runner, found, runs⟩
  · rw [World.finished] at runs
    cases found : state.world.actors[id]? with
    | none =>
        rw [found] at runs
        cases runs
    | some runner =>
        rw [found] at runs
        exact ⟨runner, rfl, runs⟩

theorem select_ready (coherent : state.Coherent) (steady : state.world.Steady)
    (found : state.world.actors[id]? = some runner) (within : runner.control = .select)
    (idle : state.mail.awaiting (.actor id) = none) {first : Task}
    (waits : state.Waits first (.actor id)) : state.Ready (.actor id) := by
  rcases waits.actor_cases with waitsOn | ⟨_, foundChild, silent, _⟩ | ⟨_, full | full⟩
  · obtain ⟨_, busy⟩ := waitsOn.holds coherent.sound (coherent.room id)
    exact ⟨_, rfl, message_ready coherent found within idle busy⟩
  · -- who is past its start has answered it
    obtain rfl := Option.some.inj (foundChild.symm.trans found)
    have between := (steady.answering id _ found silent).between
      (steady.phased.inPhase id _ found) (by rw [within]; rfl)
    rcases between with here | here <;> cases here
  · rw [steady.roomy.actions] at full
    obtain ⟨⟨action, actions⟩, front⟩ :=
      Channel.receive_some (state.world.config.actionRoom.trans_le full)
    refine @world_ready M R state (.actor id) coherent.linked (.task (.actor id) .action) rfl idle rfl
      rfl ?_
    simp [World.step, World.actorStep, found, within, front]
  · rw [steady.roomy.signals] at full
    obtain ⟨⟨sent, signals⟩, front⟩ :=
      Channel.receive_some (state.world.config.signalRoom.trans_le full)
    refine @world_ready M R state (.actor id) coherent.linked (.task (.actor id) .signal) rfl idle rfl
      rfl ?_
    simp [World.step, World.actorStep, found, within, front]

theorem actor_ready (coherent : state.Coherent) (steady : state.world.Steady)
    (idle : state.mail.awaiting (.actor id) = none) {first : Task}
    (waits : state.Waits first (.actor id)) (free : ∀ other, ¬ state.Waits (.actor id) other) :
    state.Ready (.actor id) := by
  obtain ⟨runner, found, runs⟩ := waits.runs coherent
  have acts (taken : (state.world.step (.task (.actor id) .proceed)).isSome = true) :
      state.Ready (.actor id) :=
    @world_ready M R state (.actor id) coherent.linked (.task (.actor id) .proceed) rfl idle rfl rfl
      taken
  cases within : runner.control with
  | lifecycle => exact acts (by simp [World.step, World.actorStep, found, within])
  | sleep duration => exact acts (by simp [World.step, World.actorStep, found, within])
  | hook hook => exact hook_ready coherent.linked found within idle
  | select => exact select_ready coherent steady found within idle waits
  | calling call point =>
      have calling : state.world.callOf (.actor id) = some call := by
        rw [World.callOf_found found, within]
        rfl
      exact call_ready coherent.linked steady idle calling free
  | ended | panicked =>
      rw [ActorRunner.finished, ActorRunner.panicked, within] at runs
      cases runs

theorem runner_ready (coherent : state.Coherent) (steady : state.world.Steady)
    (idle : state.mail.awaiting .runner = none) {first : Task} (waits : state.Waits first .runner)
    (free : ∀ other, ¬ state.Waits .runner other) : state.Ready .runner := by
  obtain ⟨runs, full⟩ := waits.runner_cases
  cases within : state.world.runner.control with
  | calling call point =>
      have calling : state.world.callOf .runner = some call := by
        rw [World.callOf, within]
        rfl
      exact call_ready coherent.linked steady idle calling free
  | ended =>
      rw [World.signalsClosed, within] at runs
      cases runs
  | select =>
      rw [steady.roomy.signals] at full
      obtain ⟨⟨sent, signals⟩, front⟩ :=
        Channel.receive_some (state.world.config.signalRoom.trans_le full)
      refine @world_ready M R state .runner coherent.linked (.task .runner .signal) rfl idle rfl rfl ?_
      simp [World.step, World.runnerStep, within, front]

theorem waited_ready (coherent : state.Coherent) (steady : state.world.Steady) {first : Task}
    (waits : state.Waits first task) (free : ∀ other, ¬ state.Waits task other) :
    state.Ready task := by
  -- first the call or the message the task is in, then what its own loop can take
  cases awaits : state.mail.awaiting task with
  | some await =>
      obtain ⟨op, mail, which, applied⟩ := Exchange.ready_of_free coherent.sound awaits
        fun server waitsOn => free _ (.message waitsOn)
      rcases which with rfl | rfl
      · exact ⟨.sends task, rfl, by rw [step, applied]; rfl⟩
      · exact ⟨.responds task, rfl, by rw [step, applied]; rfl⟩
  | none =>
      cases task with
      | actor id => exact actor_ready coherent steady awaits waits free
      | runner => exact runner_ready coherent steady awaits waits free
      | client client => exact absurd waits Waits.not_client

end Ready

/-- Where no circle of tasks waits for each other, nothing is stuck: whoever waits, waits
in the end for a task that can take a step. -/
theorem waits_end (reached : Reachable step Initial state) {task target : Task}
    (waits : state.Waits task target)
    (grounded : Acc (fun second first => state.Waits first second) target) :
    ∃ last, Relation.ReflTransGen state.Waits target last ∧ state.Ready last := by
  -- induction on the waits that go out from the target
  have coherent := coherent_reached reached
  have steady := World.steady_reached (world_reached reached)
  induction grounded generalizing task with
  | intro target _ ih =>
      by_cases stuck : ∃ other, state.Waits target other
      · obtain ⟨other, further⟩ := stuck
        obtain ⟨last, path, ready⟩ := ih other further further
        exact ⟨last, .head further path, ready⟩
      · exact ⟨target, .refl, waited_ready coherent steady waits (not_exists.mp stuck)⟩

def createsAsking : List (Label Nat Nat) :=
  creates 0 "a" ++ creates 1 "b" ++ [.tell (.client 0) 1 1, .sends (.client 0),
    .world (.task (.actor 1) .message),
    .world (.task (.actor 1) (.context (.createChild "c" .stop))),
    .world (.task (.actor 1) .proceed), .world (.task (.actor 2) .proceed),
    .ask (.actor 2) 0 5, .sends (.actor 2)]

theorem creation_ends : ∃ state : Messaging Nat Nat, state.Waits (.actor 1) (.actor 2) ∧
    ∃ last, Relation.ReflTransGen state.Waits (.actor 2) last ∧ state.Ready last := by
  have taken : ((Runs.run step (new Config.default 10) createsAsking).any fun state =>
      state.world.callOf (.actor 1) = some (.initResult 2) ∧
        (state.world.actors[2]?.any fun runner => runner.initAnswer = none ∧
          runner.finished = false) = true ∧
        state.mail.awaiting (.actor 2) = some (.reply 1) ∧ state.world.callOf (.actor 2) = none ∧
        state.mail.books.issued[1]? =
          some ⟨.actor 2, 0, ⟨1, ⟨rootPath / "a", 5⟩, true⟩⟩ ∧
        state.mail.awaiting (.actor 0) = none ∧ state.world.callOf (.actor 0) = none) = true := by
    decide
  obtain ⟨state, reached, creating, child, waits, uncalled, issued, idle, quiet⟩ :
      ∃ state : Messaging Nat Nat, Reachable step Initial state ∧ _ :=
    reachable_shown ⟨_, _, by decide, rfl⟩ taken
  obtain ⟨runner, found, facts⟩ := (Option.any_eq_true _ _).mp child
  obtain ⟨silent, runs⟩ := of_decide_eq_true facts
  have started : state.Waits (.actor 1) (.actor 2) := .call creating (.start found silent runs)
  have last : Acc (fun second first => state.Waits first second) (.actor 0) := by
    refine .intro _ fun other further => ?_
    cases further with
    | message waitsOn => exact absurd idle waitsOn.waiting
    | call calling => cases quiet.symm.trans calling
  have grounded : Acc (fun second first => state.Waits first second) (.actor 2) := by
    refine .intro _ fun other further => ?_
    cases further with
    | call calling => cases uncalled.symm.trans calling
    | message waitsOn =>
        cases waitsOn with
        | room letter sending => cases waits.symm.trans sending
        | reply letter replying stands =>
            have same : letter.number = 1 := by
              rw [waits] at replying
              injection replying with replying
              injection replying with number
              exact number.symm
            have asked : state.mail.Issued (.actor 2) 0 ⟨1, ⟨rootPath / "a", 5⟩, true⟩ := issued
            obtain ⟨_, rfl, _⟩ := Exchange.issued_unique stands asked same
            exact last
  exact ⟨state, started, waits_end reached started grounded⟩

end Messaging

end Rush.Actor
