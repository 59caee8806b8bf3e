import Rush.Library.Relay
import Rush.Actor.ChildPaths
import Rush.Actor.SignalFlow

/-! How errors and faults climb to the system. With the default handlers each actor emits
again, under its own path, what it receives from its children. Beside the system run the
signals that such a handler still has to emit, the emissions that are no answer to a
child's, and the signals that the `SystemRunner` has received. -/

namespace Rush.Actor

open Rush.Library Runs

/-- `Actor::on_child_error` and `Actor::on_child_fault` as the trait gives them: what they ask
of their context before they return. -/
def Hook.default : Hook → Option ContextRequest
  | .onChildError _ error => some (.emitError error)
  | .onChildFault _ error => some (.emitFault error)
  | _ => none

def Control.hook? : Control → Option Hook
  | .hook during => some during
  | _ => none

/-- The place of a handler's owner in the tree: `none` is above the root actors. -/
def Supervisor.holder : Supervisor → Option ActorId
  | .system => none
  | .actor id => some id

theorem Supervisor.holder_inj {self other : Supervisor} : self.holder = other.holder ↔ self = other := by
  cases self <;> cases other <;> simp [holder]

/-- The system with the logs of what escalates. -/
structure Escalation where
  world : World
  /-- The signal from a child that an actor's default handler still has to emit. -/
  pending : ActorId → Option ActorSignal
  /-- The emissions, in their order, without those of the default handlers. -/
  emitted : List (ActorId × ActorSignal)
  /-- The errors and faults that the `SystemRunner` has received, in their order. -/
  received : List ActorSignal

namespace Escalation

def escalates (signal : ActorSignal) : Bool := !signal.isStopped

def observe (state : Escalation) (label : World.Label) (world : World) : Escalation :=
  match (state.world.takes label).filter fun taken => escalates taken.2,
      (state.world.sends label).filter fun sent => escalates sent.2 with
  | some (.system, signal), _ => { state with world, received := state.received ++ [signal] }
  | some (.actor id, signal), _ =>
      { state with world, pending := Function.update state.pending id (some signal) }
  | none, some (id, signal) =>
      if (state.pending id).isSome then
        { state with world, pending := Function.update state.pending id none }
      else { state with world, emitted := state.emitted ++ [(id, signal)] }
  | none, none => { state with world }

def step (state : Escalation) (label : World.Label) : Option Escalation :=
  (state.world.step label).map (state.observe label)

def Initial (state : Escalation) : Prop :=
  ∃ config, state = ⟨.new config, fun _ => none, [], []⟩

def DefaultChoice (pending : Bool) (request : ContextRequest) : World.Choice → Prop
  | .context asked => pending = true ∧ asked = request
  | .returns _ => pending = false
  | _ => False

def HandlesByDefault (state : Escalation) : World.Label → Prop
  | .task (.actor id) choice => ∀ runner ∈ state.world.actors[id]?, ∀ hook ∈ runner.control.hook?,
      ∀ request ∈ hook.default, DefaultChoice (state.pending id).isSome request choice
  | _ => True

def ReceiverRuns (state : Escalation) (label : World.Label) : Prop :=
  ∀ sent ∈ state.world.sends label, escalates sent.2 = true →
    ∀ runner ∈ state.world.actors[sent.1]?, state.world.signalsClosed runner.supervisor = false

/-- Names of a single segment, default handlers for what children emit, and ancestors that
run. -/
structure Undisturbed (state : Escalation) (label : World.Label) : Prop where
  names : World.SingleNames label
  handlers : state.HandlesByDefault label
  ancestors : state.ReceiverRuns label

def flowing (world : World) (self : Supervisor) : List ActorSignal :=
  ((world.waiting self).map Prod.snd).filter escalates

inductive Observed (state : Escalation) (label : World.Label) (world : World) : Escalation → Prop
  | quiet (same : ∀ self, flowing world self = flowing state.world self)
      (untaken : ∀ taken ∈ state.world.takes label, escalates taken.2 = false)
      (unsent : ∀ sent ∈ state.world.sends label, escalates sent.2 = false) :
      Observed state label world { state with world }
  | received {signal : ActorSignal} (labelled : label = .task .runner .signal)
      (front : flowing state.world .system = signal :: flowing world .system)
      (others : ∀ other, other ≠ .system → flowing world other = flowing state.world other) :
      Observed state label world { state with world, received := state.received ++ [signal] }
  | taken {id : ActorId} {signal : ActorSignal} (labelled : label = .task (.actor id) .signal)
      (takes : state.world.takes label = some (.actor id, signal)) (escalating : escalates signal = true)
      (front : flowing state.world (.actor id) = signal :: flowing world (.actor id))
      (others : ∀ other, other ≠ .actor id → flowing world other = flowing state.world other) :
      Observed state label world
        { state with world, pending := Function.update state.pending id (some signal) }
  | sent {id : ActorId} {choice : World.Choice} {runner : ActorRunner} {signal : ActorSignal}
      {point : Point} (labelled : label = .task (.actor id) choice)
      (found : state.world.actors[id]? = some runner)
      (within : runner.control = .calling (.emit id signal) point) (escalating : escalates signal = true)
      (queued : flowing world runner.supervisor = flowing state.world runner.supervisor ++ [signal])
      (others : ∀ other, other ≠ runner.supervisor → flowing world other = flowing state.world other) :
      Observed state label world
        (if (state.pending id).isSome then
          { state with world, pending := Function.update state.pending id none }
        else { state with world, emitted := state.emitted ++ [(id, signal)] })

variable {state after : Escalation} {label : World.Label} {world : World}

theorem flowing_congr {first second : World} {self : Supervisor}
    (same : first.waiting self = second.waiting self) : flowing first self = flowing second self := by
  rw [flowing, flowing, same]

theorem flowing_front {first second : World} {self : Supervisor} {sent : ActorId × ActorSignal}
    (front : first.waiting self = sent :: second.waiting self) :
    flowing first self = [sent.2].filter escalates ++ flowing second self := by
  rw [flowing, flowing, front, List.map_cons, ← List.filter_append, List.singleton_append]

theorem flowing_queued {first second : World} {self : Supervisor} {sent : ActorId × ActorSignal}
    (queued : second.waiting self = first.waiting self ++ [sent]) :
    flowing second self = flowing first self ++ [sent.2].filter escalates := by
  rw [flowing, flowing, queued, List.map_append, List.filter_append]
  rfl

theorem observed_quiet (same : ∀ self, flowing world self = flowing state.world self)
    (untaken : ∀ taken ∈ state.world.takes label, escalates taken.2 = false)
    (unsent : ∀ sent ∈ state.world.sends label, escalates sent.2 = false) :
    Observed state label world (state.observe label world) := by
  have noneTaken : ((state.world.takes label).filter fun taken => escalates taken.2) = none :=
    Option.filter_eq_none_iff.mpr fun taken here => Bool.eq_false_iff.mp (untaken taken here)
  have noneSent : ((state.world.sends label).filter fun sent => escalates sent.2) = none :=
    Option.filter_eq_none_iff.mpr fun sent here => Bool.eq_false_iff.mp (unsent sent here)
  have unlogged : state.observe label world = { state with world } := by
    rw [observe, noneTaken, noneSent]
  rw [unlogged]
  exact .quiet same untaken unsent

theorem observed (phased : state.world.Phased) (runs : state.ReceiverRuns label)
    (taken : state.world.step label = some world) :
    Observed state label world (state.observe label world) := by
  cases World.step_flow phased taken with
  | quiet takes sends same =>
      refine observed_quiet (fun self => flowing_congr (same self)) ?_ ?_
      · rw [takes]
        exact nofun
      · rw [sends]
        exact nofun
  | @took self sent labelled takes sends front others =>
      have flows (other : Supervisor) (different : other ≠ self) :=
        flowing_congr (others other different)
      have first := flowing_front front
      cases escalating : escalates sent.2 with
      | false =>
          rw [List.filter_cons_of_neg (Bool.eq_false_iff.mp escalating)] at first
          refine observed_quiet (fun other => ?_) ?_ ?_
          · by_cases here : other = self
            · rw [here]
              exact first.symm
            · exact flows other here
          · rw [takes]
            rintro _ ⟨⟩
            exact escalating
          · rw [sends]
            exact nofun
      | true =>
          rw [List.filter_cons_of_pos escalating] at first
          cases self with
          | system =>
              have logged : state.observe label world =
                  { state with world, received := state.received ++ [sent.2] } := by
                rw [observe, takes, sends, Option.filter_some_pos (by exact escalating)]
              rw [logged]
              exact .received labelled first flows
          | actor id =>
              have logged : state.observe label world =
                  { state with world, pending := Function.update state.pending id (some sent.2) } := by
                rw [observe, takes, sends, Option.filter_some_pos (by exact escalating)]
              rw [logged]
              exact .taken labelled takes escalating first flows
  | @sent id choice runner signal point labelled takes sends found within queued others =>
      have flows (other : Supervisor) (different : other ≠ runner.supervisor) :=
        flowing_congr (others other different)
      have last := flowing_queued queued
      cases escalating : escalates signal with
      | false =>
          rw [List.filter_cons_of_neg (Bool.eq_false_iff.mp escalating)] at last
          refine observed_quiet (fun other => ?_) ?_ ?_
          · by_cases here : other = runner.supervisor
            · rw [here, last]
              exact List.append_nil _
            · exact flows other here
          · rw [takes]
            exact nofun
          · rw [sends]
            rintro _ ⟨⟩
            exact escalating
      | true =>
          rw [List.filter_cons_of_pos escalating] at last
          have logged : state.observe label world =
              if (state.pending id).isSome then
                { state with world, pending := Function.update state.pending id none }
              else { state with world, emitted := state.emitted ++ [(id, signal)] } := by
            rw [observe, takes, sends, Option.filter_some_pos (by exact escalating)]
            rfl
          rw [logged]
          exact .sent labelled found within escalating last flows
  | @refused id runner signal takes sends found closed same =>
      refine observed_quiet (fun self => flowing_congr (same self)) ?_ ?_
      · rw [takes]
        exact nofun
      · rw [sends]
        rintro _ ⟨⟩
        -- an error or a fault would have met a receiver that runs
        refine Bool.eq_false_iff.mpr fun escalating => ?_
        cases (runs (id, signal) sends escalating runner found).symm.trans closed

end Escalation

def Control.inHookCall : Control → Bool
  | .calling _ (.hook _) => true
  | _ => false

namespace ActorRunner

/-- Where a runner is while its default handler still has to emit a signal, and that without
one it is in no call of such a handler. -/
def Attends (runner : ActorRunner) (id : ActorId) : Option ActorSignal → Prop
  | some signal => ∃ hook, signal.hook = some hook ∧ (runner.control = .hook hook ∨
      ∃ sent, runner.control = .calling (.emit id sent) (.hook hook) ∧
        sent = signal.withPath sent.path)
  | none => ∀ call hook, runner.control = .calling call (.hook hook) → hook.default = none

end ActorRunner

section Attends

variable {world next : World} {id : ActorId} {runner moved : ActorRunner} {choice : World.Choice}
  {signal : ActorSignal}

theorem attends_outside (outside : moved.control.inHookCall = false) : moved.Attends id none := by
  intro call hook calling
  rw [calling] at outside
  cases outside

theorem ActorRunner.Attends.busy (attends : runner.Attends id (some signal)) :
    runner.control ≠ .select := by
  obtain ⟨hook, _, within | ⟨sent, within, _⟩⟩ := attends
  · rw [within]
    exact nofun
  · rw [within]
    exact nofun

theorem idle_move (moves : World.RunnerStep world id runner choice next moved)
    (idle : runner.Attends id none)
    (handles : ∀ hook ∈ runner.control.hook?, ∀ request ∈ hook.default,
      Escalation.DefaultChoice false request choice) : moved.Attends id none := by
  cases moves with
  | init within =>
      have arm := runner.init_arm id
      generalize runner.init id = moved at arm
      cases arm with
      | failed => exact idle
      | _ => exact attends_outside rfl
  | @requested hook request call within asked =>
      intro other during calling
      cases calling
      cases asksFor : hook.default with
      | none => rfl
      | some required =>
          have chosen := handles hook (congrArg Control.hook? within) required asksFor
          cases chosen.1
  | tooDeep => exact idle
  | @returned hook result =>
      have arm := runner.hookReturns_arm id hook result
      generalize runner.hookReturns id hook result = moved at arm
      cases arm <;> exact attends_outside rfl
  | @signal _ taken => cases taken <;> exact attends_outside rfl
  | @action action => cases action <;> exact attends_outside rfl
  | @access _ call point _ progress within =>
      cases progress with
      | call goesOn =>
          intro other during calling
          cases calling
          exact idle call during within
      | «return» outcome =>
          have arm := runner.resume_arm id point outcome
          change (runner.resume id point outcome).Attends id none
          generalize runner.resume id point outcome = moved at arm
          cases arm <;> exact attends_outside rfl
  | _ => exact attends_outside rfl

theorem pending_move (moves : World.RunnerStep world id runner choice next moved)
    (attends : runner.Attends id (some signal))
    (handles : ∀ hook ∈ runner.control.hook?, ∀ request ∈ hook.default,
      Escalation.DefaultChoice true request choice) :
    runner.control.call? = none ∧ moved.Attends id (some signal) ∨
      (∃ sent, runner.control.call? = some (.emit id sent) ∧ sent.isStopped = false) ∧
        moved.Attends id none := by
  obtain ⟨hook, named, within | ⟨sent, within, same⟩⟩ := attends
  · left
    refine ⟨by rw [within]; rfl, ?_⟩
    obtain ⟨request, sent, asksFor, call, same⟩ : ∃ request sent, hook.default = some request ∧
        request.call id runner.path = some (.emit id sent) ∧ sent = signal.withPath sent.path := by
      cases signal with
      | stopped => cases named
      | error path cause =>
          cases named
          exact ⟨.emitError cause, .error runner.path cause, rfl, rfl, rfl⟩
      | fault path cause =>
          cases named
          exact ⟨.emitFault cause, .fault runner.path cause, rfl, rfl, rfl⟩
    have chosen := handles hook (congrArg Control.hook? within) request asksFor
    cases moves with
    | @requested during other begun here asked =>
        obtain rfl := chosen.2
        cases within.symm.trans here
        obtain rfl := Option.some.inj (call.symm.trans asked)
        exact ⟨hook, named, .inr ⟨sent, rfl, same⟩⟩
    | tooDeep => exact ⟨hook, named, .inl within⟩
    | returned | panicked => cases chosen
    | _ here => cases within.symm.trans here
  · right
    have escalating : sent.isStopped = false := by
      rw [same]
      cases signal with
      | stopped => cases named
      | _ => rfl
    refine ⟨⟨sent, by rw [within]; rfl, escalating⟩, ?_⟩
    cases moves with
    | @access _ call point _ progress here access =>
        cases within.symm.trans here
        cases access <;> exact attends_outside rfl
    | _ here => cases within.symm.trans here

end Attends

namespace Escalation

structure Attended (state : Escalation) : Prop where
  found : ∀ id signal, state.pending id = some signal →
    ∃ runner, state.world.actors[id]? = some runner
  each : ∀ (id : ActorId) (runner : ActorRunner), state.world.actors[id]? = some runner →
    runner.Attends id (state.pending id)

section Attended

variable {state after : Escalation} {label : World.Label} {world : World} {id : ActorId}

theorem observed_world (seen : Observed state label world after) : after.world = world := by
  cases seen with
  | sent => split <;> rfl
  | _ => rfl

theorem Observed.pending_other (seen : Observed state label world after)
    (apart : label.task? ≠ some (.actor id)) : after.pending id = state.pending id := by
  have update {other : ActorId} {choice : World.Choice} {entry : Option ActorSignal}
      (labelled : label = .task (.actor other) choice) :
      Function.update state.pending other entry id = state.pending id := by
    refine Function.update_of_ne ?_ _ _
    rintro rfl
    exact apart (by rw [labelled]; rfl)
  cases seen with
  | taken labelled => exact update labelled
  | sent labelled =>
      split
      · exact update labelled
      · rfl
  | _ => rfl

theorem attends_step {choice : World.Choice} {runner moved : ActorRunner} {next : World}
    (attended : state.Attended) (handles : state.HandlesByDefault (.task (.actor id) choice))
    (seen : Observed state (.task (.actor id) choice) world after)
    (found : state.world.actors[id]? = some runner)
    (moves : World.RunnerStep state.world id runner choice next moved) :
    moved.Attends id (after.pending id) := by
  have attends := attended.each id runner found
  have calling := World.callOf_found found
  have asks := handles runner found
  cases waits : state.pending id with
  | none =>
      rw [waits] at attends asks
      have idle := idle_move moves attends asks
      cases seen with
      | quiet => exact waits ▸ idle
      | received labelled => cases labelled
      | @taken _ signal labelled takes escalating =>
          cases labelled
          obtain ⟨selecting, emitter, rest, waiting⟩ := World.takes_actor takes found
          change moved.Attends id (Function.update state.pending id (some signal) id)
          rw [Function.update_self]
          cases moves with
          | signal within received =>
              cases (Channel.receive_queue received).symm.trans waiting
              cases signal with
              | stopped => cases escalating
              | _ => exact ⟨_, rfl, .inl rfl⟩
          | _ within => cases selecting.symm.trans within
      | sent labelled =>
          cases labelled
          rw [if_neg (by rw [waits]; exact nofun)]
          exact waits ▸ idle
  | some signal =>
      rw [waits] at attends asks
      have busy := attends.busy
      have goes := pending_move moves attends asks
      cases seen with
      | quiet _ _ unsent =>
          rcases goes with ⟨_, goesOn⟩ | ⟨⟨sent, calls, escalating⟩, _⟩
          · exact waits ▸ goesOn
          · have stopped := unsent (id, sent) (by rw [World.sends, calling, calls]; rfl)
            rw [escalates, escalating] at stopped
            cases stopped
      | received labelled => cases labelled
      | taken labelled takes =>
          cases labelled
          exact absurd (World.takes_actor takes found).1 busy
      | sent labelled here within =>
          cases labelled
          obtain rfl := Option.some.inj (here.symm.trans found)
          rcases goes with ⟨outside, _⟩ | ⟨_, ends⟩
          · rw [within] at outside
            cases outside
          · rw [if_pos (by rw [waits]; rfl)]
            change moved.Attends id (Function.update state.pending id none id)
            rw [Function.update_self]
            exact ends

theorem attended_step (attended : state.Attended) (handles : state.HandlesByDefault label)
    (taken : state.world.step label = some world) (seen : Observed state label world after) :
    after.Attended := by
  have same := observed_world seen
  constructor
  case found =>
    intro id signal waits
    obtain ⟨runner, found⟩ : ∃ runner, state.world.actors[id]? = some runner := by
      by_cases here : label.task? = some (.actor id)
      · cases label with
        | cancel => cases here
        | task task choice =>
            obtain rfl := Option.some.inj here
            obtain ⟨runner, _, _, found, _⟩ := World.actorStep_cases taken
            exact ⟨runner, found⟩
      · rw [seen.pending_other here] at waits
        exact attended.found id signal waits
    have bound := (List.getElem?_eq_some_iff.mp found).1
    rw [same]
    exact ⟨_, List.getElem?_eq_getElem (lt_of_lt_of_le bound (World.step_size taken))⟩
  case each =>
    intro id moved foundAfter
    rw [same] at foundAfter
    by_cases here : label.task? = some (.actor id)
    · cases label with
      | cancel => cases here
      | task task choice =>
          obtain rfl := Option.some.inj here
          obtain ⟨runner, _, _, found, _⟩ := World.actorStep_cases taken
          obtain ⟨next, moves, _⟩ := World.step_own taken found foundAfter
          exact attends_step attended handles seen found moves
    · rw [seen.pending_other here]
      cases World.step_origin taken foundAfter with
      | own labelled => exact absurd (by rw [labelled]; rfl) here
      | kept found => exact attended.each id moved found
      | spawned path supervisor strategy absent new =>
          subst new
          cases waits : state.pending id with
          | none => exact attends_outside rfl
          | some signal =>
              obtain ⟨runner, found⟩ := attended.found id signal waits
              cases absent.symm.trans found

end Attended

def handled (state : Escalation) : Supervisor → List ActorSignal
  | .system => state.received
  | .actor id => (state.pending id).toList

def stock (state : Escalation) (self : Supervisor) : List ActorSignal :=
  state.handled self ++ flowing state.world self

/-- What a step does to the stocks: an emission or a forward adds to one, and a forward takes
the first signal of its actor's away. -/
inductive Moved (state : Escalation) (after : Escalation) : Prop
  | quiet (stocks : ∀ self, after.stock self = state.stock self) (emitted : after.emitted = state.emitted)
  | sent {id : ActorId} {runner : ActorRunner} {signal : ActorSignal} {point : Point}
      (found : state.world.actors[id]? = some runner)
      (within : runner.control = .calling (.emit id signal) point)
      (emitted : after.emitted = state.emitted ++ [(id, signal)])
      (stocks : ∀ self, after.stock self =
        if self = runner.supervisor then state.stock self ++ [signal] else state.stock self)
  | passed {id : ActorId} {runner : ActorRunner} {signal first : ActorSignal} {point : Point}
      (found : state.world.actors[id]? = some runner)
      (within : runner.control = .calling (.emit id signal) point)
      (apart : Supervisor.actor id ≠ runner.supervisor)
      (same : signal = first.withPath signal.path) (emitted : after.emitted = state.emitted)
      (own : state.stock (.actor id) = first :: after.stock (.actor id))
      (stocks : ∀ self, self ≠ .actor id → after.stock self =
        if self = runner.supervisor then state.stock self ++ [signal] else state.stock self)

section Moved

variable {state after : Escalation} {label : World.Label} {world : World}

theorem stock_flows {self : Supervisor} (handled : after.handled self = state.handled self)
    (flows : flowing after.world self = flowing state.world self) :
    after.stock self = state.stock self := by
  rw [stock, stock, handled, flows]

theorem stock_queued {self target : Supervisor} {signal : ActorSignal}
    (handled : after.handled self = state.handled self)
    (queued : flowing after.world target = flowing state.world target ++ [signal])
    (others : ∀ other, other ≠ target → flowing after.world other = flowing state.world other) :
    after.stock self = if self = target then state.stock self ++ [signal] else state.stock self := by
  split
  case isTrue here => rw [stock, stock, handled, here, queued, List.append_assoc]
  case isFalse different => exact stock_flows handled (others self different)

theorem handled_update {self : Supervisor} {id : ActorId} (entry : Option ActorSignal)
    (different : self ≠ .actor id) :
    ({ state with world, pending := Function.update state.pending id entry } : Escalation).handled self =
      state.handled self := by
  cases self with
  | system => rfl
  | actor other =>
      have apart : other ≠ id := fun same => different (congrArg Supervisor.actor same)
      exact congrArg Option.toList (Function.update_of_ne apart _ _)

theorem handled_own (id : ActorId) (entry : Option ActorSignal) :
    ({ state with world, pending := Function.update state.pending id entry } : Escalation).handled
      (.actor id) = entry.toList :=
  congrArg Option.toList (Function.update_self _ _ _)

theorem pending_none {id : ActorId} {signal : ActorSignal} (attended : state.Attended)
    (takes : state.world.takes (.task (.actor id) .signal) = some (.actor id, signal)) :
    state.pending id = none := by
  cases waits : state.pending id with
  | none => rfl
  | some first =>
      obtain ⟨runner, found⟩ := attended.found id first waits
      have attends := attended.each id runner found
      rw [waits] at attends
      exact absurd (World.takes_actor takes found).1 attends.busy

theorem moved (known : state.world.Known) (attended : state.Attended)
    (seen : Observed state label world after) : Moved state after := by
  cases seen with
  | quiet same => exact .quiet (fun self => stock_flows rfl (same self)) rfl
  | @received signal labelled front others =>
      refine .quiet (fun self => ?_) rfl
      cases self with
      | system =>
          rw [stock, stock, front]
          exact List.append_assoc state.received [signal] (flowing world .system)
      | actor id => exact stock_flows rfl (others (.actor id) nofun)
  | @taken id signal labelled takes escalating front others =>
      subst labelled
      refine .quiet (fun self => ?_) rfl
      by_cases here : self = .actor id
      · rw [here, stock, stock, front, handled_own, handled, pending_none attended takes]
        rfl
      · exact stock_flows (handled_update _ here) (others self here)
  | @sent id choice runner signal point labelled found within escalating queued others =>
      have attends := attended.each id runner found
      cases waits : state.pending id with
      | none =>
          rw [if_neg (by simp)]
          exact .sent found within rfl fun self => stock_queued rfl queued others
      | some first =>
          rw [waits] at attends
          rw [if_pos (Option.isSome_some)]
          have apart : Supervisor.actor id ≠ runner.supervisor := by
            intro same
            have below := known.supervisors id runner.path id
              (Option.map_eq_some_iff.mpr ⟨runner, found, Prod.ext rfl same.symm⟩)
            exact absurd below (Nat.lt_irrefl id)
          obtain ⟨hook, _, here | ⟨sent, here, same⟩⟩ := attends
          · cases within.symm.trans here
          · cases within.symm.trans here
            refine .passed found within apart same rfl ?_ fun self different =>
              stock_queued (handled_update none different) queued others
            have flows := others (.actor id) apart
            rw [stock, stock, handled_own, handled, waits]
            exact congrArg (first :: ·) flows.symm

end Moved

structure Carries (world : World) (target : Supervisor) (signal : ActorSignal)
    (emission : ActorId × ActorSignal) : Prop where
  same : signal = emission.2.withPath signal.path
  child : ∃ hop, world.identityOf hop = some (signal.path, target)
  above : signal.path.tokens <+: emission.2.path.tokens

def Extends (world : World) (up : ActorId → Option ActorId) : Prop :=
  ∀ id path supervisor, world.identityOf id = some (path, supervisor) → up id = supervisor.holder

structure Simulates (state : Escalation) (relay : Relay ActorId ActorSignal) : Prop where
  sent : relay.sent = state.emitted
  stocks : ∀ self, List.Forall₂ (Carries state.world self) (state.stock self)
    (relay.holds self.holder)

def creator (world : World) (id : ActorId) : Option ActorId :=
  (world.identityOf id).bind fun identity => identity.2.holder

theorem creator_extends (world : World) : Extends world (creator world) := by
  intro id path supervisor known
  rw [creator, known]
  rfl

section Simulates

variable {state after : Escalation} {label : World.Label} {up : ActorId → Option ActorId}
  {relay : Relay ActorId ActorSignal}

theorem carries_step {world next : World} (taken : world.step label = some next) {self : Supervisor}
    {signal : ActorSignal} {emission : ActorId × ActorSignal}
    (carries : Carries world self signal emission) : Carries next self signal emission := by
  obtain ⟨hop, known⟩ := carries.child
  exact ⟨carries.same, ⟨hop, World.step_identity taken known⟩, carries.above⟩

theorem extends_step {world next : World} (taken : world.step label = some next)
    (reaches : Extends next up) : Extends world up :=
  fun id path supervisor known => reaches id path supervisor (World.step_identity taken known)

theorem push_stocks {stock : List ActorSignal} {self target : Supervisor} {signal : ActorSignal}
    {emission : ActorId × ActorSignal} {world : World}
    (old : List.Forall₂ (Carries world self) stock (relay.holds self.holder))
    (carries : Carries world target signal emission) :
    List.Forall₂ (Carries world self) (if self = target then stock ++ [signal] else stock)
      ((relay.push target.holder emission).holds self.holder) := by
  rw [Relay.push_holds]
  by_cases here : self = target
  · subst here
    rw [if_pos rfl, if_pos rfl]
    exact List.rel_append old (.cons carries .nil)
  · rw [if_neg here, if_neg fun same => here (Supervisor.holder_inj.mp same)]
    exact old

theorem forwarder_above {world : World} (layered : world.Layered) {id : ActorId}
    {path : ActorPath} {supervisor : Supervisor} {signal : ActorSignal}
    {emission : ActorId × ActorSignal} (known : world.identityOf id = some (path, supervisor))
    (carried : Carries world (.actor id) signal emission) :
    path.tokens <+: signal.path.tokens := by
  obtain ⟨hop, child⟩ := carried.child
  cases layered.actors hop _ _ child with
  | actor parent tokens =>
      cases known.symm.trans parent
      exact ⟨_, tokens.symm⟩

theorem simulates_step (layered : state.world.Layered) (signed : state.world.Signed)
    (taken : state.world.step label = some after.world) (moved : Moved state after)
    (reaches : Extends state.world up) (simulates : state.Simulates relay)
    (conserved : Relay.Conserved up relay) :
    ∃ next, after.Simulates next ∧ Relay.Conserved up next := by
  have old (self : Supervisor) : List.Forall₂ (Carries after.world self) (state.stock self)
      (relay.holds self.holder) :=
    (simulates.stocks self).imp fun _ _ => carries_step taken
  cases moved with
  | quiet stocks emitted =>
      refine ⟨relay, ⟨simulates.sent.trans emitted.symm, fun self => ?_⟩, conserved⟩
      rw [stocks self]
      exact old self
  | @sent id runner signal point found within emitted stocks =>
      have known : state.world.identityOf id = some (runner.path, runner.supervisor) :=
        World.identityOf_found found
      have own := signed id runner found id signal point within
      have carries : Carries after.world runner.supervisor signal (id, signal) := by
        refine carries_step taken ⟨?_, ⟨id, own ▸ known⟩, List.prefix_rfl⟩
        cases signal <;> rfl
      refine ⟨relay.send up id signal, ⟨?_, fun self => ?_⟩,
        Relay.send_conserved conserved id signal⟩
      · change relay.sent ++ [(id, signal)] = after.emitted
        rw [simulates.sent, emitted]
      · rw [stocks self]
        change List.Forall₂ _ _ ((relay.push (up id) (id, signal)).holds self.holder)
        rw [reaches id _ _ known]
        exact push_stocks (old self) carries
  | @passed id runner signal first point found within apart same emitted own stocks =>
      have known : state.world.identityOf id = some (runner.path, runner.supervisor) :=
        World.identityOf_found found
      have signs := signed id runner found id signal point within
      have held := simulates.stocks (.actor id)
      rw [own] at held
      obtain ⟨emission, rest, carried, later, front⟩ := List.forall₂_cons_left_iff.mp held
      have carries : Carries after.world runner.supervisor signal emission := by
        refine carries_step taken ⟨?_, ⟨id, signs ▸ known⟩, ?_⟩
        · calc
            signal = first.withPath signal.path := same
            _ = (emission.2.withPath first.path).withPath signal.path := by rw [← carried.same]
            _ = emission.2.withPath signal.path := ActorSignal.withPath_withPath _ _ _
        · rw [signs]
          exact (forwarder_above layered known carried).trans carried.above
      have dropped (self : Supervisor) (different : self ≠ .actor id) :
          List.Forall₂ (Carries after.world self) (state.stock self)
            ((relay.drop id).holds self.holder) := by
        have notHere : self.holder ≠ some id := fun same => different (Supervisor.holder_inj.mp same)
        rw [Relay.drop_holds, if_neg notHere]
        exact old self
      refine ⟨relay.pass up id emission, ⟨simulates.sent.trans emitted.symm, fun self => ?_⟩,
        Relay.pass_conserved conserved front⟩
      rw [Relay.pass, reaches id _ _ known]
      by_cases here : self = .actor id
      · have notAbove : some id ≠ runner.supervisor.holder :=
          fun same => apart (Supervisor.holder_inj.mp same)
        have left : ((relay.drop id).push runner.supervisor.holder emission).holds (some id) = rest := by
          rw [Relay.push_holds, if_neg notAbove, Relay.drop_holds, if_pos rfl]
          exact congrArg List.tail front
        rw [here, show (Supervisor.actor id).holder = some id from rfl, left]
        exact later.imp fun _ _ => carries_step taken
      · rw [stocks self here]
        exact push_stocks (dropped self here) carries

end Simulates

structure Sound (state : Escalation) : Prop where
  known : state.world.Known
  phased : state.world.Phased
  layered : state.world.Layered
  signed : state.world.Signed
  attended : state.Attended
  /-- Emissions are recorded under the paths of their actors. -/
  emitters : ∀ emission ∈ state.emitted, ∃ supervisor,
    state.world.identityOf emission.1 = some (emission.2.path, supervisor)
  relayed : ∀ up, Extends state.world up →
    ∃ relay, state.Simulates relay ∧ Relay.Conserved up relay

section Sound

variable {state after : Escalation} {label : World.Label}

theorem emitters_step (sound : state.Sound) (taken : state.world.step label = some after.world)
    (moved : Moved state after) : ∀ emission ∈ after.emitted, ∃ supervisor,
      after.world.identityOf emission.1 = some (emission.2.path, supervisor) := by
  have old (emission : ActorId × ActorSignal) (member : emission ∈ state.emitted) :
      ∃ supervisor, after.world.identityOf emission.1 = some (emission.2.path, supervisor) := by
    obtain ⟨supervisor, known⟩ := sound.emitters emission member
    exact ⟨supervisor, World.step_identity taken known⟩
  cases moved with
  | quiet _ emitted | passed _ _ _ _ emitted =>
      rw [emitted]
      exact old
  | @sent id runner signal point found within emitted =>
      rw [emitted]
      intro emission member
      rcases List.mem_append.mp member with before | new
      · exact old emission before
      · obtain rfl := List.mem_singleton.mp new
        have known : state.world.identityOf id = some (runner.path, runner.supervisor) :=
          World.identityOf_found found
        rw [← sound.signed id runner found id signal point within] at known
        exact ⟨runner.supervisor, World.step_identity taken known⟩

theorem step_sound (sound : state.Sound) (undisturbed : state.Undisturbed label)
    (taken : step state label = some after) : after.Sound := by
  obtain ⟨world, reached, rfl⟩ := Option.map_eq_some_iff.mp taken
  have seen := observed sound.phased undisturbed.ancestors reached
  have moves := moved sound.known sound.attended seen
  have same := observed_world seen
  rw [← same] at reached
  constructor
  case known => exact World.step_known sound.known reached
  case phased => exact World.step_phased sound.phased reached
  case layered => exact World.step_layered sound.layered undisturbed.names reached
  case signed => exact World.step_signed sound.signed reached
  case attended =>
    exact attended_step sound.attended undisturbed.handlers (same ▸ reached) seen
  case emitters => exact emitters_step sound reached moves
  case relayed =>
    intro up reaches
    have before := extends_step reached reaches
    obtain ⟨relay, simulates, conserved⟩ := sound.relayed up before
    exact simulates_step sound.layered sound.signed reached moves before simulates conserved

theorem initial_sound (initial : Initial state) : state.Sound := by
  obtain ⟨config, rfl⟩ := initial
  constructor
  case known => exact World.new_known config
  case phased => exact World.new_phased config
  case layered => exact World.new_layered config
  case signed => exact fun id runner found => nomatch found
  case attended => exact ⟨fun id signal waits => (nomatch waits), fun id runner found => (nomatch found)⟩
  case emitters => exact fun emission member => nomatch member
  case relayed =>
    intro up _
    refine ⟨.empty, ⟨rfl, fun self => ?_⟩, Relay.empty_conserved up⟩
    cases self <;> exact .nil

theorem sound_reached (reached : Guarded step Initial Undisturbed state) : state.Sound :=
  guarded_invariant Sound (fun _ => initial_sound)
    (fun _ _ _ sound undisturbed taken => step_sound sound undisturbed taken) reached

end Sound

/-- No error and no fault waits anywhere, and every handler has emitted what it was called
with. -/
structure Consumed (state : Escalation) : Prop where
  waiting : ∀ self, ∀ sent ∈ state.world.waiting self, escalates sent.2 = false
  answered : ∀ id, state.pending id = none

/-- The `SystemRunner` received one signal for each emission, under the path of the root actor
above the emitter, and those of one emitter in their order. -/
structure Delivers (state : Escalation) (order : List (ActorId × ActorSignal)) : Prop where
  received : state.received =
    order.map fun emission => emission.2.withPath (emission.2.path.atLevel 2)
  once : order.Perm state.emitted
  inOrder : ∀ id, (order.filter fun emission => emission.1 = id) =
    state.emitted.filter fun emission => emission.1 = id
  emitters : ∀ emission ∈ state.emitted, ∃ supervisor,
    state.world.identityOf emission.1 = some (emission.2.path, supervisor)
  roots : ∀ emission ∈ state.emitted, ∃ root,
    state.world.identityOf root = some (emission.2.path.atLevel 2, .system)

section Delivers

variable {state : Escalation}

theorem Consumed.flows (consumed : state.Consumed) (self : Supervisor) :
    flowing state.world self = [] := by
  refine List.filter_eq_nil_iff.mpr fun signal member => ?_
  obtain ⟨sent, waits, rfl⟩ := List.mem_map.mp member
  rw [consumed.waiting self sent waits]
  exact Bool.false_ne_true

theorem Consumed.stock (consumed : state.Consumed) (id : ActorId) : state.stock (.actor id) = [] := by
  rw [Escalation.stock, consumed.flows, handled, consumed.answered id]
  rfl

theorem Consumed.received (consumed : state.Consumed) : state.stock .system = state.received := by
  rw [Escalation.stock, consumed.flows]
  exact List.append_nil _

theorem carried_root {world : World} (layered : world.Layered) {signal : ActorSignal}
    {emission : ActorId × ActorSignal} (carried : Carries world .system signal emission) :
    signal.path = emission.2.path.atLevel 2 := by
  obtain ⟨hop, child⟩ := carried.child
  have tokens : signal.path.tokens = (emission.2.path.atLevel 2).tokens := by
    cases layered.actors hop _ _ child with
    | system tokens =>
        have start := List.prefix_iff_eq_take.mp carried.above
        have two : signal.path.tokens.length = 2 := by
          rw [tokens]
          rfl
        rw [ActorPath.atLevel_tokens, if_neg (by decide), start, two]
  exact congrArg ActorPath.mk tokens

theorem carried_of_mem {world : World} {target : Supervisor} {signals : List ActorSignal}
    {emissions : List (ActorId × ActorSignal)}
    (carried : List.Forall₂ (Carries world target) signals emissions)
    {emission : ActorId × ActorSignal} (member : emission ∈ emissions) :
    ∃ signal ∈ signals, Carries world target signal emission := by
  induction carried with
  | nil => cases member
  | @cons signal _ signals _ first rest ih =>
      rcases List.mem_cons.mp member with rfl | later
      · exact ⟨signal, List.mem_cons_self, first⟩
      · obtain ⟨found, inside, carries⟩ := ih later
        exact ⟨found, List.mem_cons_of_mem signal inside, carries⟩

theorem creator_below {world : World} (known : world.Known) {id parent : ActorId}
    (above : creator world id = some parent) : parent < id := by
  obtain ⟨⟨path, supervisor⟩, found, here⟩ := Option.bind_eq_some_iff.mp above
  cases supervisor with
  | system => cases here
  | actor other =>
      cases here
      exact known.supervisors id path parent found

theorem route_exists {world : World} (known : world.Known) (id : ActorId) :
    ∃ line, Relay.Route (creator world) (creator world id) line := by
  induction id using Nat.strong_induction_on with
  | h id ih =>
      cases above : creator world id with
      | none => exact ⟨[], .sink⟩
      | some parent =>
          obtain ⟨line, route⟩ := ih parent (creator_below known above)
          exact ⟨parent :: line, .node route⟩

/-- Errors and faults reach the system: with single-segment names, default handlers and
running ancestors, it has received each emission once when all are consumed. -/
theorem escalation_reaches_system (reached : Guarded step Initial Undisturbed state)
    (consumed : state.Consumed) : ∃ order, state.Delivers order := by
  have sound := sound_reached reached
  obtain ⟨relay, simulates, conserved⟩ := sound.relayed _ (creator_extends state.world)
  have passed (id : ActorId) : relay.holds (some id) = [] := by
    have stocks := simulates.stocks (.actor id)
    rw [consumed.stock id] at stocks
    exact List.forall₂_nil_left_iff.mp stocks
  have arrived := simulates.stocks .system
  rw [consumed.received] at arrived
  have inOrder (id : ActorId) :
      Relay.itemsOf id (relay.holds none) = Relay.itemsOf id state.emitted := by
    obtain ⟨line, route⟩ := route_exists sound.known id
    rw [← simulates.sent]
    exact conserved.delivered passed route
  have once := Relay.perm_of_itemsOf inOrder
  have roots : ∀ emission ∈ relay.holds none, ∃ root,
      state.world.identityOf root = some (emission.2.path.atLevel 2, .system) := by
    intro emission member
    obtain ⟨signal, _, carried⟩ := carried_of_mem arrived member
    rw [← carried_root sound.layered carried]
    exact carried.child
  refine ⟨relay.holds none, ?_, once, inOrder, sound.emitters, ?_⟩
  · rw [← List.forall₂_eq_eq_eq, List.forall₂_map_right_iff]
    refine arrived.imp fun signal emission carried => ?_
    rw [← carried_root sound.layered carried]
    exact carried.same
  · exact fun emission member => roots emission (once.mem_iff.mpr member)

section Check

instance (pending : Bool) (request : ContextRequest) :
    (choice : World.Choice) → Decidable (DefaultChoice pending request choice)
  | .context asked => inferInstanceAs (Decidable (pending = true ∧ asked = request))
  | .returns _ => inferInstanceAs (Decidable (pending = false))
  | .proceed | .order _ | .senders _ | .message | .signal | .action | .cancellation | .system _
  | .panics => inferInstanceAs (Decidable False)

instance (state : Escalation) : (label : World.Label) → Decidable (state.HandlesByDefault label)
  | .task (.actor id) choice => inferInstanceAs (Decidable (∀ runner ∈ state.world.actors[id]?,
      ∀ hook ∈ runner.control.hook?, ∀ request ∈ hook.default,
        DefaultChoice (state.pending id).isSome request choice))
  | .task .runner _ | .task (.client _) _ | .cancel => inferInstanceAs (Decidable True)

instance (state : Escalation) (label : World.Label) : Decidable (state.ReceiverRuns label) :=
  inferInstanceAs (Decidable (∀ sent ∈ state.world.sends label, escalates sent.2 = true →
    ∀ runner ∈ state.world.actors[sent.1]?, state.world.signalsClosed runner.supervisor = false))

def newName : World.Label → Option String
  | .task (.client _) (.system (.createActor name _)) => some name
  | .task (.actor _) (.context (.createChild name _)) => some name
  | _ => none

theorem singleNames_iff (label : World.Label) :
    (∀ name ∈ newName label, (ActorPath.segments name).length = 1) ↔ World.SingleNames label := by
  unfold World.SingleNames newName
  split <;> simp

instance (label : World.Label) : Decidable (World.SingleNames label) :=
  decidable_of_iff _ (singleNames_iff label)

instance (state : Escalation) (label : World.Label) : Decidable (state.Undisturbed label) :=
  decidable_of_iff
    (World.SingleNames label ∧ state.HandlesByDefault label ∧ state.ReceiverRuns label)
    ⟨fun all => ⟨all.1, all.2.1, all.2.2⟩, fun all => ⟨all.names, all.handlers, all.ancestors⟩⟩

end Check

theorem consumed_of_spawned (sound : state.Sound) (system : flowing state.world .system = [])
    (spawned : ∀ id < state.world.actors.length, state.stock (.actor id) = []) : state.Consumed := by
  obtain ⟨relay, simulates, _⟩ := sound.relayed _ (creator_extends state.world)
  have empty (id : ActorId) : state.stock (.actor id) = [] := by
    by_cases bound : id < state.world.actors.length
    · exact spawned id bound
    · cases shape : state.stock (.actor id) with
      | nil => rfl
      | cons first rest =>
          have stocks := simulates.stocks (.actor id)
          rw [shape] at stocks
          obtain ⟨emission, _, carried, _⟩ := List.forall₂_cons_left_iff.mp stocks
          obtain ⟨hop, child⟩ := carried.child
          have below := sound.known.supervisors hop _ id child
          exact absurd (below.trans (World.identityOf_bound child)) bound
  have flows (self : Supervisor) : flowing state.world self = [] := by
    cases self with
    | system => exact system
    | actor id => exact (List.append_eq_nil_iff.mp (empty id)).2
  constructor
  case waiting =>
    intro self sent waits
    have kept := List.filter_eq_nil_iff.mp (flows self) sent.2 (List.mem_map.mpr ⟨sent, waits, rfl⟩)
    exact Bool.eq_false_iff.mpr kept
  case answered =>
    intro id
    exact Option.toList_eq_nil_iff.mp (List.append_eq_nil_iff.mp (empty id)).1

def childFault : List World.Label :=
  World.creates 0 "p" ++ World.createsChild 0 1 "c" ++
    [.task (.actor 1) .message, .task (.actor 1) (.context (.emitFault .invalidResponse)),
      .task (.actor 1) .proceed, .task (.actor 1) (.returns (.ok ())), .task (.actor 0) .signal,
      .task (.actor 0) (.context (.emitFault .invalidResponse)), .task (.actor 0) .proceed,
      .task (.actor 0) (.returns (.ok ())), .task .runner .signal]

theorem child_fault_reaches_system :
    ∃ state : Escalation, state.Consumed ∧ (∃ order, state.Delivers order) ∧
      state.emitted = [(1, .fault (rootPath / "p" / "c") .invalidResponse)] ∧
      state.received = [.fault (rootPath / "p") .invalidResponse] := by
  have taken : ((Runs.checkedRun step (fun state label => decide (state.Undisturbed label))
      ⟨World.new Config.default, fun _ => none, [], []⟩ childFault).any fun state =>
        flowing state.world .system = [] ∧
        (∀ id < state.world.actors.length, state.stock (.actor id) = []) ∧
        state.emitted = [(1, .fault (rootPath / "p" / "c") .invalidResponse)] ∧
        state.received = [.fault (rootPath / "p") .invalidResponse]) = true := by
    decide +kernel
  obtain ⟨state, reached, system, spawned, emitted, received⟩ :
      ∃ state, Guarded step Initial Undisturbed state ∧ _ :=
    guarded_shown (fun _ _ => of_decide_eq_true) ⟨_, rfl⟩ taken
  have consumed := consumed_of_spawned (sound_reached reached) system spawned
  exact ⟨state, consumed, escalation_reaches_system reached consumed, emitted, received⟩

end Delivers

end Escalation

end Rush.Actor
