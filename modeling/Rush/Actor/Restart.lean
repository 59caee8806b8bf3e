import Rush.Actor.Signals
import Rush.Actor.Actions

/-! The restart of one actor. It ends the actor's run and leads to its supervision
strategy, which decides whether it runs again. -/

namespace Rush.Actor

open Rush.Library Runs

/-- The strategy lets an actor that has not failed start again. -/
def SupervisionStrategy.Restarts : SupervisionStrategy → Prop
  | .stop => False
  | .retry strategy => 0 < strategy.maxRetries

instance : (strategy : SupervisionStrategy) → Decidable strategy.Restarts
  | .stop => inferInstanceAs (Decidable False)
  | .retry strategy => inferInstanceAs (Decidable (0 < strategy.maxRetries))

def Call.Harmless (registry : ActorRegistry) : Call → Prop
  | .createActor path _ => path ∈ registry
  | .restartChildren | .sendRestart _ _ | .emit _ _ => True
  | _ => False

def Control.restarts : Control → Bool
  | .hook .preRestart | .calling _ (.hook .preRestart) => true
  | _ => false

def Control.Steady (registry : ActorRegistry) : Control → Prop
  | .lifecycle | .sleep _ | .select | .calling _ .restartChildren => True
  | .hook during => during ≠ .preStop
  | .calling call (.hook during) => during ≠ .preStop ∧ call.Harmless registry
  | .calling _ _ | .ended | .panicked => False

def Control.Sends (child : ActorId) : Control → Prop
  | .calling .restartChildren .restartChildren => True
  | .calling (.sendRestart first rest) .restartChildren => child ∈ first :: rest
  | _ => False

def Control.forwards : Control → Bool
  | .calling _ .restartChildren => true
  | _ => false

namespace ActorRunner

structure Steady (registry : ActorRegistry) (runner : ActorRunner) : Prop where
  restarts : runner.lifecycle = .restarted → runner.strategy.Restarts
  lifecycle : runner.lifecycle = .started ∨ runner.lifecycle = .restarted
  untried : runner.control.restarts = false → runner.retries = 0
  control : runner.control.Steady registry

variable {registry : ActorRegistry} {self : ActorId} {runner moved : ActorRunner}

theorem Steady.unfinished (steady : runner.Steady registry) : runner.finished = false := by
  have control := steady.control
  cases within : runner.control with
  | ended | panicked =>
      rw [within] at control
      exact control.elim
  | _ => simp [finished, panicked, within]

theorem Steady.init (steady : runner.Steady registry) (within : runner.control = .lifecycle) :
    (runner.init self).Steady registry := by
  have untried : runner.retries = 0 := steady.untried (by rw [within]; rfl)
  rcases steady.lifecycle with started | restarted
  · rw [ActorRunner.init, started]
    change runner.enterRun.Steady registry
    exact ⟨steady.restarts, .inl started, fun _ => untried, trivial⟩
  · rw [ActorRunner.init, restarted]
    change runner.applySupervisionStrategy.Steady registry
    have restarts := steady.restarts restarted
    rw [applySupervisionStrategy]
    split
    case h_1 stops =>
      rw [stops] at restarts
      exact restarts.elim
    case h_2 retry retries =>
      rw [retries] at restarts
      have allowed : runner.retries < retry.maxRetries := by
        rw [untried]
        exact restarts
      rw [if_pos allowed]
      split
      · exact ⟨steady.restarts, .inr restarted, fun _ => untried, trivial⟩
      · refine ⟨steady.restarts, .inr restarted, ?_, ?_⟩
        · intro outside
          cases outside
        · intro impossible
          cases impossible

theorem Steady.hookReturns (steady : runner.Steady registry) (inPhase : runner.InPhase self)
    {hook : Hook} (within : runner.control = .hook hook) {result : Except Error Unit}
    (succeeds : hook = .preRestart → result = .ok ()) :
    (runner.hookReturns self hook result).Steady registry := by
  have during := inPhase.phase hook.lifecycle (by rw [within]; rfl)
  have control := steady.control
  rw [within] at control
  have arm := runner.hookReturns_arm self hook result
  generalize runner.hookReturns self hook result = moved at arm
  cases arm with
  | started | startFailed | ended =>
      rcases steady.lifecycle with here | here <;> cases here.symm.trans during
  | restartFailed error => cases succeeds rfl
  | restarted => exact ⟨nofun, .inl rfl, fun _ => rfl, trivial⟩
  | stopping | stopFault => exact absurd rfl control
  | served result serves =>
      have outside : runner.control.restarts = false := by
        rw [within]
        rcases serves with rfl | ⟨child, error, rfl | rfl⟩ <;> rfl
      exact ⟨steady.restarts, steady.lifecycle, fun _ => steady.untried outside, trivial⟩

def GivingUp (runner : ActorRunner) : Prop :=
  ¬ runner.strategy.Restarts ∧
    (runner.control = .lifecycle ∧ (runner.lifecycle = .restarted ∨ runner.lifecycle = .failed) ∨
      runner.Ending)

theorem Steady.harmless (steady : runner.Steady registry) (inPhase : runner.InPhase self)
    {call : Call} {point : Point} (within : runner.control = .calling call point) :
    call.Harmless registry := by
  have control := steady.control
  have fits := inPhase.calls call point within
  rw [within] at control
  cases point with
  | hook hook => exact control.2
  | restartChildren =>
      cases call with
      | restartChildren | sendRestart => trivial
      | _ => exact fits.elim
  | _ => exact control.elim

end ActorRunner

namespace World

variable {world next after : World} {id : ActorId} {runner moved : ActorRunner} {choice : Choice}
  {supervisor : Supervisor} {call : Call} {progress : Progress} {label : Label}

structure HarmlessEffect (world next : World) (progress : Progress) : Prop where
  registry : next.registry = world.registry
  stopSent : next.history.stopSent = world.history.stopSent
  senders : ∀ holder path, next.senderOf holder path = world.senderOf holder path
  goesOn : ∀ call, progress = .call call → call.Harmless world.registry

theorem Access.harmless (access : Access world supervisor call next progress)
    (harmless : call.Harmless world.registry) : HarmlessEffect world next progress := by
  have goesOn (later : Call) (progressed : progress = .call later) :
      later.Harmless world.registry := by
    subst progressed
    cases access.leadsTo with
    | spawned =>
        cases access with
        | spawned free => exact absurd harmless free
    | firstRestart | nextRestart => trivial
    | _ => exact harmless.elim
  cases access with
  | taken | restartRefused | restartListed | restartSent =>
      exact ⟨rfl, rfl, fun _ _ => rfl, goesOn⟩
  | spawned free => exact absurd harmless free
  | @emitRefused child signal =>
      exact ⟨by cases signal <;> rfl, by cases signal <;> rfl,
        fun holder path => announce_senderOf _ _ _ _ _, goesOn⟩
  | @emitted child signal =>
      refine ⟨by cases signal <;> rfl, by cases signal <;> rfl, fun holder path => ?_, goesOn⟩
      rw [setSignals_senderOf, announce_senderOf]
  | _ => exact harmless.elim

theorem Access.restarts_done {path : ActorPath} {outcome : Outcome}
    (access : Access world supervisor call next (.return outcome))
    (fits : call.At id path .restartChildren)
    (running : ∀ child rest, call = .sendRestart child rest → world.finished child = false) :
    outcome = .done := by
  generalize returned : Progress.return outcome = progress at access
  cases access with
  | @restartListed children =>
      cases children with
      | nil =>
          cases returned
          rfl
      | cons => cases returned
  | restartRefused gone => cases (running _ _ rfl).symm.trans gone
  | @restartSent child rest =>
      cases rest with
      | nil =>
          cases returned
          rfl
      | cons => cases returned
  | _ => exact fits.elim

theorem RunnerStep.strategy (moves : RunnerStep world id runner choice next moved) :
    moved.strategy = runner.strategy := by
  cases moves with
  | init =>
      have arm := runner.init_arm id
      generalize runner.init id = moved at arm
      cases arm <;> rfl
  | @returned hook result =>
      have arm := runner.hookReturns_arm id hook result
      generalize runner.hookReturns id hook result = moved at arm
      cases arm <;> rfl
  | @signal emitter signal => cases signal <;> rfl
  | @action action => cases action <;> rfl
  | @access _ _ point _ progress =>
      cases progress with
      | call goesOn => rfl
      | «return» outcome =>
          have arm := runner.resume_arm id point outcome
          change (runner.resume id point outcome).strategy = _
          generalize runner.resume id point outcome = moved at arm
          cases arm <;> rfl
  | _ => rfl

def HooksCalm (world : World) (runner : ActorRunner) : Choice → Prop
  | .panics => False
  | .returns (.error _) => runner.control ≠ .hook .preRestart
  | .context (.createChild name _) => runner.path / name ∈ world.registry
  | .context (.stopChild _) | .context .stopChildren | .context (.removeChild _) => False
  | _ => True

instance : (choice : Choice) → Decidable (world.HooksCalm runner choice)
  | .panics => inferInstanceAs (Decidable False)
  | .returns (.error _) => inferInstanceAs (Decidable (_ ≠ _))
  | .context (.createChild name _) => inferInstanceAs (Decidable (runner.path / name ∈ world.registry))
  | .context (.stopChild _) | .context .stopChildren | .context (.removeChild _) =>
      inferInstanceAs (Decidable False)
  | .returns (.ok _) | .context .restartChildren | .context (.emitError _)
  | .context (.emitFault _) | .proceed | .order _ | .senders _ | .message | .signal | .action
  | .cancellation | .system _ => inferInstanceAs (Decidable True)

theorem HooksCalm.harmless {request : ContextRequest} (calm : world.HooksCalm runner (.context request))
    (asked : request.call id runner.path = some call) : call.Harmless world.registry := by
  cases request with
  | createChild name strategy =>
      simp only [ContextRequest.call, Option.ite_none_left_eq_some] at asked
      obtain ⟨_, asked⟩ := asked
      cases asked
      exact calm
  | stopChild | stopChildren | removeChild => exact calm.elim
  | restartChildren | emitError | emitFault =>
      cases asked
      trivial

/-- A step of a steady actor leaves it steady or giving up, as long as it takes no Stop and
no Stopped signal and its restarts reach all its children. -/
theorem steady_step (steady : runner.Steady world.registry) (inPhase : runner.InPhase id)
    (calm : world.HooksCalm runner choice)
    (unstopped : .stop ∉ (world.actions id).queue)
    (silent : ∀ sent ∈ world.waiting (.actor id), sent.2.isStopped = false)
    (running : ∀ child rest, runner.control.call? = some (.sendRestart child rest) →
      world.finished child = false)
    (moves : RunnerStep world id runner choice next moved) :
    moved.Steady world.registry ∨ moved.GivingUp := by
  have atSelect (within : runner.control = .select) :
      runner.lifecycle = .started ∧ runner.retries = 0 :=
    ⟨inPhase.phase .started (by rw [within]; rfl), steady.untried (by rw [within]; rfl)⟩
  cases moves with
  | init within => exact .inl (steady.init within)
  | woke within =>
      refine .inl ⟨steady.restarts, steady.lifecycle, ?_, ?_⟩
      · intro outside
        cases outside
      · intro impossible
        cases impossible
  | @requested hook request call within asked =>
      left
      have control := steady.control
      rw [within] at control
      refine ⟨steady.restarts, steady.lifecycle, fun outside => ?_, control, calm.harmless asked⟩
      exact steady.untried (by rw [within]; cases hook <;> first | rfl | cases outside)
  | tooDeep => exact .inl steady
  | @returned hook result within =>
      left
      refine steady.hookReturns inPhase within fun restarts => ?_
      cases result with
      | ok => rfl
      | error error =>
          rw [restarts] at within
          exact absurd within calm
  | panicked => exact calm.elim
  | message within =>
      refine .inl ⟨steady.restarts, steady.lifecycle, fun _ => (atSelect within).2, ?_⟩
      intro impossible
      cases impossible
  | @signal emitter signal signals within received =>
      have front : (emitter, signal) ∈ world.waiting (.actor id) := by
        rw [waiting, Channel.receive_queue received]
        exact List.mem_cons_self
      cases signal with
      | error child error | fault child error =>
          refine .inl ⟨steady.restarts, steady.lifecycle, fun _ => (atSelect within).2, ?_⟩
          intro impossible
          cases impossible
      | stopped child => cases silent _ front
  | @action action actions within received =>
      have front : action ∈ (world.actions id).queue := by
        rw [Channel.receive_queue received]
        exact List.mem_cons_self
      cases action with
      | stop => exact absurd front unstopped
      | restart =>
          exact .inl ⟨steady.restarts, steady.lifecycle, fun _ => (atSelect within).2, trivial⟩
  | @access _ call point _ progress within access =>
      have effect := access.harmless (steady.harmless inPhase within)
      have control := steady.control
      rw [within] at control
      cases point with
      | hook hook =>
          left
          have untried (outside : (Control.hook hook).restarts = false) : runner.retries = 0 :=
            steady.untried (by rw [within]; cases hook <;> first | rfl | cases outside)
          cases progress with
          | call goesOn =>
              refine ⟨steady.restarts, steady.lifecycle, fun outside => untried ?_, control.1,
                effect.goesOn goesOn rfl⟩
              cases hook <;> first | rfl | cases outside
          | «return» outcome =>
              exact ⟨steady.restarts, steady.lifecycle, untried, control.1⟩
      | restartChildren =>
          have untried : runner.retries = 0 := steady.untried (by rw [within]; rfl)
          cases progress with
          | call goesOn => exact .inl ⟨steady.restarts, steady.lifecycle, fun _ => untried, trivial⟩
          | «return» outcome =>
              have fits := inPhase.calls call .restartChildren within
              obtain rfl := access.restarts_done fits fun child rest same =>
                running child rest (by rw [within, same]; rfl)
              by_cases restarts : runner.strategy.Restarts
              · exact .inl ⟨fun _ => restarts, .inr rfl, fun _ => untried, trivial⟩
              · exact .inr ⟨restarts, .inl ⟨rfl, .inl rfl⟩⟩
      | _ => exact control.elim

theorem givingUp_step (inPhase : runner.InPhase id) (givingUp : runner.GivingUp)
    (moves : RunnerStep world id runner choice next moved) : moved.GivingUp := by
  obtain ⟨spent, ⟨within, lifecycle⟩ | ending⟩ := givingUp
  · cases moves with
    | init =>
        rcases lifecycle with restarted | failed
        · have failing : runner.init id = runner.failStart := by
            rw [ActorRunner.init, restarted]
            change runner.applySupervisionStrategy = _
            rw [ActorRunner.applySupervisionStrategy]
            split
            case h_1 => rfl
            case h_2 retry retries =>
              rw [retries] at spent
              rw [if_neg (fun fewer => spent (Nat.lt_of_le_of_lt (Nat.zero_le _) fewer))]
          rw [failing]
          exact ⟨spent, .inl ⟨rfl, .inr rfl⟩⟩
        · have stopping : runner.init id = { runner with lifecycle := .stopped } := by
            rw [ActorRunner.init, failed]
          rw [stopping]
          exact ⟨spent, .inr (.inl rfl)⟩
    | _ here => cases within.symm.trans here
  · refine ⟨?_, .inr (ending_step inPhase moves ending)⟩
    rw [moves.strategy]
    exact spent

theorem forwards_step (inPhase : runner.InPhase id) (forwards : runner.control.forwards = true)
    (running : ∀ child rest, runner.control.call? = some (.sendRestart child rest) →
      world.finished child = false)
    (moves : RunnerStep world id runner choice next moved) :
    moved.control.forwards = true ∨ moved.lifecycle = .restarted := by
  cases moves with
  | @access _ call point _ progress within access =>
      obtain rfl : point = .restartChildren := by
        rw [within] at forwards
        cases point <;> first | rfl | cases forwards
      cases progress with
      | call goesOn => exact .inl rfl
      | «return» outcome =>
          obtain rfl := access.restarts_done (inPhase.calls call .restartChildren within)
            fun child rest same => running child rest (by rw [within, same]; rfl)
          exact .inr rfl
  | tooDeep within => exact .inl forwards
  | _ within =>
      rw [within] at forwards
      cases forwards

theorem setActions_here (actions : Channel ChildAction) {action : ChildAction} {child : ActorId}
    (sent : (world.actions child).send action = some actions) :
    action ∈ ((world.setActions child actions).actions child).queue := by
  rw [setActions_queue world child sent]
  exact List.mem_append_right _ (List.mem_singleton_self action)

theorem sends_step {child : ActorId} (sends : runner.control.Sends child)
    (held : ∃ path, world.senderOf (.actor id) path = some child)
    (running : ∀ child rest, runner.control.call? = some (.sendRestart child rest) →
      world.finished child = false)
    (moves : RunnerStep world id runner choice next moved) :
    moved.control.Sends child ∨ .restart ∈ (next.actions child).queue := by
  cases moves with
  | @access _ call point _ progress within access =>
      rw [within] at sends
      obtain rfl : point = .restartChildren := by
        cases call <;> cases point <;> first | rfl | exact sends.elim
      cases access with
      | @restartListed children every =>
          left
          have listed : child ∈ children := (mem_restartListed every child).mpr held
          cases children with
          | nil => cases listed
          | cons first rest => exact listed
      | restartRefused gone => cases (running _ _ (by rw [within]; rfl)).symm.trans gone
      | @restartSent first rest actions sent =>
          by_cases here : child = first
          · subst here
            exact .inr (setActions_here actions sent)
          · have later : child ∈ rest := (List.mem_cons.mp sends).resolve_left here
            cases rest with
            | nil => cases later
            | cons second rest => exact .inl later
      | _ => exact sends.elim
  | tooDeep => exact .inl sends
  | init within =>
      rw [within] at sends
      exact sends.elim
  | _ within =>
      rw [within] at sends
      exact sends.elim

theorem Access.action_waits (access : Access world supervisor call next progress)
    {action : ChildAction} (waits : action ∈ (world.actions id).queue) :
    action ∈ (next.actions id).queue := by
  cases access.actionEffect with
  | none actions =>
      rw [actions]
      exact waits
  | send child other _ queue others =>
      by_cases here : id = child
      · rw [here, queue]
        exact List.mem_append_left _ (by rw [← here]; exact waits)
      · rw [others id here]
        exact waits

def TakesAction (world : World) (label : Label) (id : ActorId) : Prop :=
  label = .task (.actor id) .action ∧ world.selects (.actor id) = true

theorem step_action_waits (taken : step world label = some after) {action : ChildAction}
    (waits : action ∈ (world.actions id).queue) :
    action ∈ (after.actions id).queue ∨ world.TakesAction label id := by
  cases label with
  | cancel =>
      cases taken
      exact .inl waits
  | task task choice =>
      cases task with
      | client client =>
          obtain ⟨next, call, moves, rfl⟩ := clientStep_cases taken
          cases moves with
          | began => exact .inl waits
          | access within access => exact .inl (access.action_waits waits)
      | runner =>
          obtain ⟨next, moved, moves, rfl⟩ := runnerStep_cases taken
          cases moves with
          | access within access => exact .inl (access.action_waits waits)
          | _ => exact .inl waits
      | actor other =>
          obtain ⟨runner, next, moved, found, moves, rfl⟩ := actorStep_cases taken
          cases moves with
          | access within access => exact .inl (access.action_waits waits)
          | @action _ actions within received =>
              by_cases here : id = other
              · subst here
                exact .inr ⟨rfl, by rw [selects, found, Option.any_some, within]; rfl⟩
              · left
                have same : (world.setActions other actions).actions id = world.actions id :=
                  Function.update_of_ne here _ _
                change action ∈ ((world.setActions other actions).actions id).queue
                rw [same]
                exact waits
          | _ => exact .inl waits

theorem step_strategy (taken : step world label = some after)
    (found : world.actors[id]? = some runner) (foundAfter : after.actors[id]? = some moved) :
    moved.strategy = runner.strategy := by
  cases step_origin taken foundAfter with
  | kept was => rw [Option.some.inj (found.symm.trans was)]
  | spawned _ _ _ absent => cases absent.symm.trans found
  | own labelled was moves =>
      obtain rfl := Option.some.inj (found.symm.trans was)
      exact moves.strategy

def Unretried (runner : ActorRunner) : Prop :=
  runner.lifecycle = .created ∨ runner.lifecycle = .started → runner.retries = 0

theorem unretried_step (inPhase : runner.InPhase id) (unretried : Unretried runner)
    (moves : RunnerStep world id runner choice next moved) : Unretried moved := by
  cases moves with
  | init within =>
      have arm := runner.init_arm id
      generalize runner.init id = moved at arm
      cases arm with
      | gaveUp => exact fun early => by rcases early with here | here <;> cases here
      | retried lifecycle =>
          intro early
          have lifecycle' : runner.beginRestart.lifecycle = .restarted := lifecycle
          rcases early with here | here <;> cases lifecycle'.symm.trans here
      | failed => exact fun early => by rcases early with here | here <;> cases here
      | _ => exact unretried
  | woke within =>
      have lifecycle : runner.beginRestart.lifecycle = .restarted :=
        inPhase.phase .restarted (by rw [within]; rfl)
      intro early
      rcases early with here | here <;> cases lifecycle.symm.trans here
  | @returned hook result within =>
      have during := inPhase.phase hook.lifecycle (by rw [within]; rfl)
      have arm := runner.hookReturns_arm id hook result
      generalize runner.hookReturns id hook result = moved at arm
      cases arm with
      | started => exact fun _ => unretried (.inl during)
      | restarted => exact fun _ => rfl
      | startFailed | ended => exact fun early => by rcases early with here | here <;> cases here
      | _ => exact unretried
  | @signal emitter signal => cases signal <;> exact unretried
  | @action action => cases action <;> exact unretried
  | @access _ call point _ progress within access =>
      cases progress with
      | call goesOn => exact unretried
      | «return» outcome =>
          have arm := runner.resume_arm id point outcome
          change Unretried (runner.resume id point outcome)
          generalize runner.resume id point outcome = moved at arm
          cases arm with
          | leftFailed | noChildren | leftRestarted | leftStopped =>
              exact fun early => by rcases early with here | here <;> cases here
          | _ => exact unretried
  | _ => exact unretried

theorem unretried_reached (reached : Reachable step Initial world) :
    ∀ (id : ActorId) (runner : ActorRunner), world.actors[id]? = some runner → Unretried runner := by
  refine (guarded_invariant (fun world => world.Phased ∧
    ∀ (id : ActorId) (runner : ActorRunner), world.actors[id]? = some runner → Unretried runner)
      ?_ ?_ reached).2
  · rintro world ⟨config, rfl⟩
    exact ⟨new_phased config, fun _ _ found => nomatch found⟩
  · rintro world label after ⟨phased, unretried⟩ _ taken
    refine ⟨step_phased phased taken, ?_⟩
    intro id moved foundAfter
    cases step_origin taken foundAfter with
    | own labelled found moves =>
        exact unretried_step (phased.inPhase id _ found) (unretried id _ found) moves
    | kept found => exact unretried id moved found
    | spawned path supervisor strategy absent new =>
        subst new
        exact fun _ => rfl

end World

end Rush.Actor
