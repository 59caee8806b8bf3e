import Rush.Actor.Signals

/-! The signals that a step moves: which one a `select!` takes, which one an emission puts
into a queue, and what becomes of every queue. -/

namespace Rush.Actor

open Rush.Library

namespace ActorSignal

def path : ActorSignal → ActorPath
  | .error path _ | .fault path _ | .stopped path => path

def withPath (path : ActorPath) : ActorSignal → ActorSignal
  | .error _ cause => .error path cause
  | .fault _ cause => .fault path cause
  | .stopped _ => .stopped path

theorem withPath_withPath (signal : ActorSignal) (first second : ActorPath) :
    (signal.withPath first).withPath second = signal.withPath second := by
  cases signal <;> rfl

def hook : ActorSignal → Option Hook
  | .error child cause => some (.onChildError child cause)
  | .fault child cause => some (.onChildFault child cause)
  | .stopped _ => none

end ActorSignal

namespace World

def takes (world : World) : Label → Option (Supervisor × ActorSignal)
  | .task (.actor id) .signal =>
      if world.selects (.actor id) then
        (world.waiting (.actor id)).head?.map fun sent => (.actor id, sent.2)
      else none
  | .task .runner .signal =>
      if world.selects .system then (world.waiting .system).head?.map fun sent => (.system, sent.2)
      else none
  | _ => none

/-- The signal whose emission by an actor ends in this step. -/
def sends (world : World) : Label → Option (ActorId × ActorSignal)
  | .task (.actor id) _ =>
      match world.callOf (.actor id) with
      | some (.emit _ signal) => some (id, signal)
      | _ => none
  | _ => none

inductive Flow (world : World) (label : Label) (after : World) : Prop
  | quiet (takes : world.takes label = none) (sends : world.sends label = none)
      (same : ∀ self, after.waiting self = world.waiting self)
  | took {self : Supervisor} {sent : ActorId × ActorSignal}
      (labelled : label = .task self.owner .signal) (takes : world.takes label = some (self, sent.2))
      (sends : world.sends label = none) (front : world.waiting self = sent :: after.waiting self)
      (others : ∀ other, other ≠ self → after.waiting other = world.waiting other)
  | sent {id : ActorId} {choice : Choice} {runner : ActorRunner} {signal : ActorSignal} {point : Point}
      (labelled : label = .task (.actor id) choice) (takes : world.takes label = none)
      (sends : world.sends label = some (id, signal)) (found : world.actors[id]? = some runner)
      (within : runner.control = .calling (.emit id signal) point)
      (queued : after.waiting runner.supervisor = world.waiting runner.supervisor ++ [(id, signal)])
      (others : ∀ other, other ≠ runner.supervisor → after.waiting other = world.waiting other)
  | refused {id : ActorId} {runner : ActorRunner} {signal : ActorSignal}
      (takes : world.takes label = none) (sends : world.sends label = some (id, signal))
      (found : world.actors[id]? = some runner)
      (closed : world.signalsClosed runner.supervisor = true)
      (same : ∀ self, after.waiting self = world.waiting self)

section Flow

variable {world next after : World} {label : Label} {self : Supervisor}

theorem Access.waiting_same {supervisor : Supervisor} {call : Call} {progress : Progress}
    (access : Access world supervisor call next progress)
    (silent : ∀ child signal, call ≠ .emit child signal) (self : Supervisor) :
    next.waiting self = world.waiting self := by
  cases access with
  | senderDropped | senderTaken | senderRemoved => rw [dropSender, setSenders_waiting]
  | senderInserted =>
      change (world.holdSender _ _ _).waiting self = _
      rw [holdSender, setSenders_waiting]
  | emitRefused | emitted => exact absurd rfl (silent _ _)
  | _ => rfl

theorem flow_receive {sent : ActorId × ActorSignal} {signals : Channel (ActorId × ActorSignal)}
    (received : (world.handlers self).signals.receive = some (sent, signals)) :
    world.waiting self = sent :: (world.setSignals self signals).waiting self ∧
      ∀ other, other ≠ self → (world.setSignals self signals).waiting other = world.waiting other := by
  constructor
  · rw [setSignals_waiting, if_pos rfl]
    exact Channel.receive_queue received
  · intro other different
    rw [setSignals_waiting, if_neg different]

theorem Access.emit_flow {supervisor : Supervisor} {id : ActorId} {signal : ActorSignal}
    {progress : Progress} (access : Access world supervisor (.emit id signal) next progress) :
    ∃ runner, world.actors[id]? = some runner ∧ (world.signalsClosed runner.supervisor = true ∧
        (∀ self, next.waiting self = world.waiting self) ∨
      next.waiting runner.supervisor = world.waiting runner.supervisor ++ [(id, signal)] ∧
        ∀ other, other ≠ runner.supervisor → next.waiting other = world.waiting other) := by
  cases access with
  | emitRefused found closed =>
      exact ⟨_, found, .inl ⟨closed, fun self => announce_waiting world id signal self⟩⟩
  | @emitted _ _ runner signals found queued =>
      refine ⟨runner, found, .inr ⟨?_, fun other different => ?_⟩⟩
      · rw [setSignals_waiting, if_pos rfl]
        exact Channel.send_queue queued
      · rw [setSignals_waiting, if_neg different, announce_waiting]

theorem actor_flow {id : ActorId} {choice : Choice} (phased : world.Phased)
    (taken : step world (.task (.actor id) choice) = some after) :
    Flow world (.task (.actor id) choice) after := by
  obtain ⟨runner, next, moved, found, moves, rfl⟩ := actorStep_cases taken
  have calling := callOf_found found
  have selecting : world.selects (.actor id) = decide (runner.control = .select) := by
    rw [selects, found, Option.any_some]
  have silent (idle : runner.control.call? = none) : world.sends (.task (.actor id) choice) = none := by
    rw [sends, calling, idle]
  have untaken (busy : runner.control ≠ .select) : world.takes (.task (.actor id) choice) = none := by
    cases choice with
    | signal => rw [takes, selecting, if_neg (by simpa using busy)]
    | _ => rfl
  cases moves with
  | @signal emitter signal signals within received =>
      obtain ⟨front, others⟩ := flow_receive received
      have takes : world.takes (.task (.actor id) .signal) = some (.actor id, signal) := by
        rw [World.takes, selecting, if_pos (decide_eq_true within), front]
        rfl
      exact @Flow.took _ _ _ (.actor id) (emitter, signal) rfl takes
        (silent (by rw [within]; rfl)) front others
  | @access _ call point _ progress within access =>
      have busy := untaken (by rw [within]; intro idle; cases idle)
      have sending : world.callOf (.actor id) = some call := by rw [calling, within]; rfl
      cases call with
      | emit child signal =>
          obtain ⟨_, _, same, _⟩ := phased.emits sending
          cases same
          have sends : world.sends (.task (.actor id) choice) = some (id, signal) := by
            rw [World.sends, sending]
          obtain ⟨_, here, ⟨closed, same⟩ | ⟨queued, others⟩⟩ := access.emit_flow
          · exact .refused busy sends here closed same
          · obtain rfl := Option.some.inj (here.symm.trans found)
            exact .sent rfl busy sends found within queued others
      | _ =>
          refine .quiet busy (by rw [sends, sending]) (access.waiting_same ?_)
          intro child signal emits
          cases emits
  | message within | action within =>
      exact .quiet rfl (silent (by rw [within]; rfl)) fun _ => rfl
  | _ within =>
      have busy := untaken (by rw [within]; intro idle; cases idle)
      exact .quiet busy (silent (by rw [within]; rfl)) fun _ => rfl

theorem runner_flow {choice : Choice} (phased : world.Phased)
    (taken : step world (.task .runner choice) = some after) :
    Flow world (.task .runner choice) after := by
  obtain ⟨next, moved, moves, rfl⟩ := runnerStep_cases taken
  cases moves with
  | cancelled => exact .quiet rfl rfl fun _ => rfl
  | @signal emitter signal signals within received =>
      obtain ⟨front, others⟩ := flow_receive received
      have takes : world.takes (.task .runner .signal) = some (.system, signal) := by
        rw [World.takes, selects, if_pos (decide_eq_true within), front]
        rfl
      exact @Flow.took _ _ _ .system (emitter, signal) rfl takes rfl front others
  | @access _ call point _ progress within access =>
      have untaken : world.takes (.task .runner choice) = none := by
        cases choice with
        | signal =>
            have busy : world.selects .system = false := by
              rw [selects, within]
              rfl
            rw [World.takes, busy]
            rfl
        | _ => rfl
      refine .quiet untaken rfl (access.waiting_same ?_)
      rintro child signal rfl
      obtain ⟨id, impossible⟩ :=
        phased.outside .runner child signal (by rw [callOf, within]; rfl)
      cases impossible

theorem client_flow {id : ClientId} {choice : Choice} (phased : world.Phased)
    (taken : step world (.task (.client id) choice) = some after) :
    Flow world (.task (.client id) choice) after := by
  obtain ⟨next, call, moves, rfl⟩ := clientStep_cases taken
  refine .quiet rfl rfl ?_
  cases moves with
  | began => exact fun _ => rfl
  | access within access =>
      refine access.waiting_same ?_
      rintro child signal rfl
      obtain ⟨id, impossible⟩ := phased.outside (.client id) child signal within
      cases impossible

theorem step_flow (phased : world.Phased) (taken : step world label = some after) :
    Flow world label after := by
  cases label with
  | cancel =>
      cases taken
      exact .quiet rfl rfl fun _ => rfl
  | task task choice =>
      cases task with
      | actor id => exact actor_flow phased taken
      | runner => exact runner_flow phased taken
      | client id => exact client_flow phased taken

end Flow

theorem takes_actor {world : World} {id : ActorId} {runner : ActorRunner} {signal : ActorSignal}
    (takes : world.takes (.task (.actor id) .signal) = some (.actor id, signal))
    (found : world.actors[id]? = some runner) :
    runner.control = .select ∧ ∃ emitter rest, world.waiting (.actor id) = (emitter, signal) :: rest := by
  rw [World.takes, Option.ite_none_right_eq_some] at takes
  obtain ⟨selecting, takes⟩ := takes
  obtain ⟨sent, first, same⟩ := Option.map_eq_some_iff.mp takes
  cases same
  rw [selects, found, Option.any_some] at selecting
  obtain ⟨rest, waits⟩ := List.head?_eq_some_iff.mp first
  exact ⟨of_decide_eq_true selecting, sent.1, rest, waits⟩

def Signed (world : World) : Prop :=
  ∀ (id : ActorId) (runner : ActorRunner), world.actors[id]? = some runner →
    ∀ child signal point, runner.control = .calling (.emit child signal) point →
      signal.path = runner.path

section Signed

variable {world next after : World} {label : Label} {id : ActorId} {runner moved : ActorRunner}
  {choice : Choice} {child : ActorId} {signal : ActorSignal} {point : Point}

theorem request_signed {request : ContextRequest} {path : ActorPath}
    (asked : request.call id path = some (.emit child signal)) : signal.path = path := by
  cases request with
  | emitError | emitFault =>
      cases asked
      rfl
  | createChild name strategy =>
      simp only [ContextRequest.call, Option.ite_none_left_eq_some] at asked
      cases asked.2
  | _ => cases asked

theorem signed_move (moves : RunnerStep world id runner choice next moved)
    (before : ∀ child signal point, runner.control = .calling (.emit child signal) point →
      signal.path = runner.path)
    (emits : moved.control = .calling (.emit child signal) point) : signal.path = moved.path := by
  cases moves with
  | init within =>
      have arm := runner.init_arm id
      generalize runner.init id = moved at arm emits
      cases arm with
      | failed => exact before child signal point emits
      | stopped =>
          cases emits
          rfl
      | _ => cases emits
  | requested within asked =>
      cases emits
      exact request_signed asked
  | tooDeep => exact before child signal point emits
  | @returned hook result =>
      have arm := runner.hookReturns_arm id hook result
      generalize runner.hookReturns id hook result = moved at arm emits
      cases arm with
      | stopFault =>
          cases emits
          rfl
      | _ => cases emits
  | @signal _ taken => cases taken <;> cases emits
  | @action action => cases action <;> cases emits
  | @access _ call point _ progress within access =>
      cases progress with
      | call goesOn =>
          cases emits
          exact access.not_emit.elim
      | «return» outcome =>
          have arm := runner.resume_arm id point outcome
          change (runner.resume id point outcome).control = _ at emits
          change signal.path = (runner.resume id point outcome).path
          generalize runner.resume id point outcome = moved at arm emits
          cases arm with
          | stopFailed | restartFailed =>
              cases emits
              rfl
          | _ => cases emits
  | _ => cases emits

theorem step_signed (signed : world.Signed) (taken : step world label = some after) :
    after.Signed := by
  intro id moved foundAfter child signal point emits
  cases step_origin taken foundAfter with
  | own labelled found moves => exact signed_move moves (signed id _ found) emits
  | kept found => exact signed id moved found child signal point emits
  | spawned path supervisor strategy absent new =>
      subst new
      cases emits

end Signed

end World

end Rush.Actor
