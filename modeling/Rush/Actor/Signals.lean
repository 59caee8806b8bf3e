import Rush.Actor.Phase

/-! The signals that wait for a supervisor. A signal stays in the queue until its
supervisor receives it, and an emission leaves it there unless the receiver is gone. -/

namespace Rush.Actor

open Rush.Library

def Supervisor.owner : Supervisor → Task
  | .system => .runner
  | .actor id => .actor id

namespace World

def selects (world : World) : Supervisor → Bool
  | .system => world.runner.control = .select
  | .actor id => (world.actors[id]?).any fun runner => runner.control = .select

def waiting (world : World) (self : Supervisor) : List (ActorId × ActorSignal) :=
  (world.handlers self).signals.queue

variable {world next after : World} {self : Supervisor} {sent : ActorId × ActorSignal}

theorem setSignals_waiting (world : World) (self other : Supervisor)
    (signals : Channel (ActorId × ActorSignal)) :
    (world.setSignals self signals).waiting other =
      if other = self then signals.queue else world.waiting other := by
  by_cases same : other = self
  · simp [waiting, setSignals, same]
  · simp [waiting, setSignals, same]

theorem setSenders_waiting (world : World) (self other : Supervisor) (senders : ActionsRegistry) :
    (world.setSenders self senders).waiting other = world.waiting other := by
  by_cases same : other = self
  · simp [waiting, setSenders, same]
  · simp [waiting, setSenders, same]

theorem announce_waiting (world : World) (child : ActorId) (signal : ActorSignal)
    (other : Supervisor) : (world.announce child signal).waiting other = world.waiting other := by
  cases signal <;> rfl

theorem Access.waiting_mono {supervisor : Supervisor} {call : Call} {progress : Progress}
    (access : Access world supervisor call next progress) (waits : sent ∈ world.waiting self) :
    sent ∈ next.waiting self := by
  cases access with
  | senderDropped | senderTaken | senderRemoved =>
      rw [dropSender, setSenders_waiting]
      exact waits
  | senderInserted =>
      change sent ∈ (world.holdSender _ _ _).waiting self
      rw [holdSender, setSenders_waiting]
      exact waits
  | emitRefused =>
      rw [announce_waiting]
      exact waits
  | @emitted child signal runner signals found queued =>
      rw [setSignals_waiting, announce_waiting]
      split
      case isTrue here =>
        rw [Channel.send_queue queued, ← here]
        exact List.mem_append_left _ waits
      case isFalse => exact waits
  | _ => exact waits

theorem Access.waiting_cases {supervisor : Supervisor} {call : Call} {progress : Progress}
    (access : Access world supervisor call next progress) (waits : sent ∈ next.waiting self) :
    sent ∈ world.waiting self ∨ call = .emit sent.1 sent.2 ∧
      ∃ runner, world.actors[sent.1]? = some runner ∧ runner.supervisor = self := by
  cases access with
  | senderDropped | senderTaken | senderRemoved =>
      rw [dropSender, setSenders_waiting] at waits
      exact .inl waits
  | senderInserted =>
      change sent ∈ (world.holdSender _ _ _).waiting self at waits
      rw [holdSender, setSenders_waiting] at waits
      exact .inl waits
  | emitRefused =>
      rw [announce_waiting] at waits
      exact .inl waits
  | @emitted child signal runner signals found queued =>
      rw [setSignals_waiting, announce_waiting] at waits
      split at waits
      case isTrue here =>
        rw [Channel.send_queue queued, List.mem_append, List.mem_singleton] at waits
        rcases waits with old | rfl
        · exact .inl (by rw [here]; exact old)
        · exact .inr ⟨rfl, runner, found, here.symm⟩
      case isFalse => exact .inl waits
  | _ => exact .inl waits

theorem step_waiting_cases {label : Label} (taken : step world label = some after)
    (waits : sent ∈ after.waiting self) :
    sent ∈ world.waiting self ∨ (∃ task, world.callOf task = some (.emit sent.1 sent.2)) ∧
      ∃ runner, world.actors[sent.1]? = some runner ∧ runner.supervisor = self := by
  have received {other : Supervisor} {front : ActorId × ActorSignal}
      {rest : Channel (ActorId × ActorSignal)}
      (first : (world.handlers other).signals.receive = some (front, rest))
      (waits : sent ∈ (world.setSignals other rest).waiting self) : sent ∈ world.waiting self := by
    rw [setSignals_waiting] at waits
    split at waits
    case isTrue here =>
      rw [waiting, here, Channel.receive_queue first]
      exact List.mem_cons_of_mem front waits
    case isFalse => exact waits
  cases label with
  | cancel =>
      cases taken
      exact .inl waits
  | task task choice =>
      cases task with
      | client id =>
          obtain ⟨next, call, moves, rfl⟩ := clientStep_cases taken
          cases moves with
          | began => exact .inl waits
          | access within access =>
              refine (access.waiting_cases waits).imp_right fun emits => ?_
              exact ⟨⟨.client id, within.trans (congrArg some emits.1)⟩, emits.2⟩
      | runner =>
          obtain ⟨next, moved, moves, rfl⟩ := runnerStep_cases taken
          cases moves with
          | cancelled => exact .inl waits
          | signal within first => exact .inl (received first waits)
          | access within access =>
              refine (access.waiting_cases waits).imp_right fun emits => ?_
              exact ⟨⟨.runner, by rw [callOf, within, emits.1]; rfl⟩, emits.2⟩
      | actor id =>
          obtain ⟨runner, next, moved, found, moves, rfl⟩ := actorStep_cases taken
          cases moves with
          | signal within first => exact .inl (received first waits)
          | access within access =>
              refine (access.waiting_cases waits).imp_right fun emits => ?_
              exact ⟨⟨.actor id, by rw [callOf_found found, within, emits.1]; rfl⟩, emits.2⟩
          | _ => exact .inl waits

theorem step_waiting {label : Label} (taken : step world label = some after)
    (waits : sent ∈ world.waiting self) :
    sent ∈ after.waiting self ∨ label = .task self.owner .signal ∧ world.selects self = true ∧
      ∃ rest, (world.handlers self).signals.receive = some (sent, rest) := by
  have received {front : ActorId × ActorSignal} {rest : Channel (ActorId × ActorSignal)}
      (first : (world.handlers self).signals.receive = some (front, rest)) :
      sent ∈ rest.queue ∨ sent = front := by
    rw [waiting, Channel.receive_queue first] at waits
    exact (List.mem_cons.mp waits).symm
  cases label with
  | cancel =>
      cases taken
      exact .inl waits
  | task task choice =>
      cases task with
      | client id =>
          obtain ⟨next, call, moves, rfl⟩ := clientStep_cases taken
          cases moves with
          | began => exact .inl waits
          | access within access => exact .inl (access.waiting_mono waits)
      | runner =>
          obtain ⟨next, moved, moves, rfl⟩ := runnerStep_cases taken
          cases moves with
          | cancelled => exact .inl waits
          | access within access => exact .inl (access.waiting_mono waits)
          | @signal emitter signal signals within first =>
              change sent ∈ (world.setSignals .system signals).waiting self ∨ _
              rw [setSignals_waiting]
              split
              case isTrue here =>
                subst here
                rcases received first with later | rfl
                · exact .inl later
                · exact .inr ⟨rfl, by rw [selects, within]; rfl, signals, first⟩
              case isFalse => exact .inl waits
      | actor id =>
          obtain ⟨runner, next, moved, found, moves, rfl⟩ := actorStep_cases taken
          cases moves with
          | access within access => exact .inl (access.waiting_mono waits)
          | @signal emitter signal signals within first =>
              change sent ∈ (world.setSignals (.actor id) signals).waiting self ∨ _
              rw [setSignals_waiting]
              split
              case isTrue here =>
                subst here
                rcases received first with later | rfl
                · exact .inl later
                · exact .inr ⟨rfl, by rw [selects, found, Option.any_some, within]; rfl, signals, first⟩
              case isFalse => exact .inl waits
          | _ => exact .inl waits

theorem step_emits {label : Label} (phased : world.Phased) (taken : step world label = some after)
    {child : ActorId} {runner : ActorRunner} (found : world.actors[child]? = some runner)
    (open_ : world.signalsClosed runner.supervisor = false)
    (silent : child ∉ world.history.emitted) (emitted : child ∈ after.history.emitted) :
    ∃ path, (child, .stopped path) ∈ after.waiting runner.supervisor := by
  cases label with
  | cancel =>
      cases taken
      exact absurd emitted silent
  | task task choice =>
      have calls : ∃ path, world.callOf task = some (.emit child (.stopped path)) := by
        cases step_task taken with
        | own idle follows begins =>
            rw [follows.history] at emitted
            exact absurd emitted silent
        | access calling access follows continues =>
            rw [follows.history] at emitted
            rcases access.emitted_cases emitted with old | ⟨path, rfl⟩
            · exact absurd old silent
            · exact ⟨path, calling⟩
      obtain ⟨path, calling⟩ := calls
      obtain ⟨same, point, rfl, foundSame, control, _⟩ := phased.emits calling
      obtain rfl := Option.some.inj (foundSame.symm.trans found)
      obtain ⟨was, next, moved, foundWas, moves, rfl⟩ := actorStep_cases taken
      obtain rfl := Option.some.inj (foundWas.symm.trans found)
      cases moves with
      | access within access =>
          cases control.symm.trans within
          cases access with
          | emitRefused here closed =>
              obtain rfl := Option.some.inj (here.symm.trans found)
              cases closed.symm.trans open_
          | @emitted _ _ _ signals here queued =>
              obtain rfl := Option.some.inj (here.symm.trans found)
              refine ⟨path, ?_⟩
              change _ ∈ World.waiting (World.setSignals _ _ signals) _
              rw [setSignals_waiting, if_pos rfl, Channel.send_queue queued]
              exact List.mem_append_right _ List.mem_cons_self
      | _ within => cases control.symm.trans within

end World

end Rush.Actor
