import Rush.Actor.Events

/-! When an event handler ends: with its actor, after the events that the actor has left
for it. -/

namespace Rush.Actor

open Rush.Library Runs

namespace Events

variable {E : Type} {broadcast : Broadcast E} {state after : Events E} {label : Label E}
  {receiver : Nat} {subscription moved : Subscription E}

section Steps

theorem Reads.own {receipt : Receipt E} {other : Nat} {before next : Holder E}
    (reads : Reads other receipt (.turn receiver) before next) : receiver = other := by
  cases reads
  rfl

theorem Reads.ended {receipt : Receipt E} {before next : Holder E}
    (reads : Reads receiver receipt label before next) (ended : next = .manager .ended) :
    receipt = .closed := by
  cases reads with
  | user => cases ended
  | manager =>
      cases receipt with
      | closed => rfl
      | value | lagged => cases ended

theorem Reads.parts {receipt : Receipt E} {before next : Holder E}
    (reads : Reads receiver receipt label before next) :
    label = .recv receiver ∨ label = .turn receiver ∧ next = .manager (.receives receipt) := by
  cases reads with
  | user => exact .inl rfl
  | manager => exact .inr ⟨rfl, rfl⟩

theorem Passes.resting {other : Nat} {before next : Holder E}
    (passes : Passes other (.turn receiver) before next) : False := by
  cases passes

inductive Onward (state : Events E) (label : Label E) (receiver : Nat)
    (subscription : Subscription E) : Subscription E → Prop
  | same (resting : label ≠ .turn receiver) : Onward state label receiver subscription subscription
  | passed {holder : Holder E} (passes : Passes receiver label subscription.holder holder) :
      Onward state label receiver subscription { subscription with holder }
  | read {receipt : Receipt E} {next : Nat} {holder : Holder E}
      (receives : Receives (state.emitted subscription.source)
        (state.host.world.dropped (.actor subscription.source)) subscription.next receipt next)
      (reads : Reads receiver receipt label subscription.holder holder) :
      Onward state label receiver subscription { subscription with next, holder }

theorem Onward.source (onward : Onward state label receiver subscription moved) :
    moved.source = subscription.source := by
  cases onward <;> rfl

theorem setSubscription_lookup {other : Nat} (found : state.subscriptions[other]?.isSome)
    (changed : Subscription E) (receiver : Nat) :
    (state.setSubscription other changed).subscriptions[receiver]? =
      if receiver = other then some changed else state.subscriptions[receiver]? := by
  have within : other < state.subscriptions.length := by
    obtain ⟨_, found⟩ := Option.isSome_iff_exists.mp found
    exact (List.getElem?_eq_some_iff.mp found).1
  rw [setSubscription, List.getElem?_set]
  by_cases here : receiver = other
  · rw [if_pos here.symm, if_pos within, if_pos here]
  · rw [if_neg (Ne.symm here), if_neg here]

theorem Moves.origin (moves : state.Moves broadcast label after)
    (found : after.subscriptions[receiver]? = some moved) :
    (∃ subscription, state.subscriptions[receiver]? = some subscription ∧
      Onward state label receiver subscription moved) ∨
      receiver = state.subscriptions.length ∧ ∃ id, label = .subscribe id ∧
        moved = ⟨id, (state.emitted id).length, .user⟩ := by
  have still (resting : label ≠ .turn receiver)
      (same : after.subscriptions[receiver]? = state.subscriptions[receiver]?) :
      ∃ subscription, state.subscriptions[receiver]? = some subscription ∧
        Onward state label receiver subscription moved :=
    ⟨moved, same.symm.trans found, .same resting⟩
  cases moves with
  | runs | emitted | unobserved =>
      refine .inl (still ?_ rfl)
      intro same
      cases same
  | @subscribed id =>
      by_cases here : receiver = state.subscriptions.length
      · refine .inr ⟨here, id, rfl, ?_⟩
        rw [here, List.getElem?_concat_length] at found
        exact (Option.some.inj found).symm
      · obtain ⟨within, _⟩ := List.getElem?_eq_some_iff.mp found
        rw [List.length_append, List.length_singleton] at within
        refine .inl (still ?_ (List.getElem?_append_left (by omega)))
        intro same
        cases same
  | @read _ other next before receipt holder there got reads =>
      rw [setSubscription_lookup (Option.isSome_iff_exists.mpr ⟨_, there⟩)] at found
      by_cases here : receiver = other
      · subst here
        rw [if_pos rfl] at found
        obtain rfl := Option.some.inj found
        exact .inl ⟨before, there, .read (broadcast.answers got) reads⟩
      · rw [if_neg here] at found
        refine .inl ⟨moved, found, .same ?_⟩
        rintro rfl
        exact here reads.own
  | @passed _ other before holder there passes =>
      rw [setSubscription_lookup (Option.isSome_iff_exists.mpr ⟨_, there⟩)] at found
      by_cases here : receiver = other
      · subst here
        rw [if_pos rfl] at found
        obtain rfl := Option.some.inj found
        exact .inl ⟨before, there, .passed passes⟩
      · rw [if_neg here] at found
        refine .inl ⟨moved, found, .same ?_⟩
        rintro rfl
        exact passes.resting

theorem Moves.keeps (moves : state.Moves broadcast label after)
    (found : state.subscriptions[receiver]? = some subscription) :
    ∃ moved, after.subscriptions[receiver]? = some moved ∧
      Onward state label receiver subscription moved := by
  obtain ⟨within, _⟩ := List.getElem?_eq_some_iff.mp found
  have longer : state.subscriptions.length ≤ after.subscriptions.length := by
    cases moves with
    | runs | emitted | unobserved => exact le_rfl
    | subscribed => exact List.length_append ▸ Nat.le_add_right _ _
    | read | passed => exact (List.length_set ..).ge
  have there := List.getElem?_eq_getElem (lt_of_lt_of_le within longer)
  refine ⟨_, there, ?_⟩
  rcases moves.origin there with ⟨before, foundBefore, onward⟩ | ⟨new, _⟩
  · obtain rfl := Option.some.inj (foundBefore.symm.trans found)
    exact onward
  · omega

theorem Moves.dropped (moves : state.Moves broadcast label after) {supervisor : Supervisor}
    (gone : state.host.world.dropped supervisor = true) :
    after.host.world.dropped supervisor = true := by
  cases moves with
  | @runs label host taken =>
      cases label with
      | world label =>
          have moved := (Host.step_world taken).1
          cases label with
          | cancel =>
              rw [← show _ = host.world from Option.some.inj moved]
              exact gone
          | task task choice => exact World.step_dropped moved gone
      | _ =>
          rw [Host.step_same taken rfl]
          exact gone
  | _ => exact gone

theorem Moves.emits (moves : state.Moves broadcast label after) {id : ActorId}
    (gone : state.host.world.dropped (.actor id) = true) : after.emitted id = state.emitted id := by
  cases moves with
  | @emitted there event within =>
      refine Function.update_of_ne ?_ _ _
      rintro rfl
      obtain ⟨runner, found, hook⟩ := (Option.any_eq_true _ _).mp within
      rw [World.dropped, found, Option.any_some] at gone
      rw [ActorRunner.finished, ActorRunner.panicked, Bool.or_eq_true, decide_eq_true_eq,
        decide_eq_true_eq] at gone
      rcases gone with control | control
      all_goals
        rw [control] at hook
        cases hook
  | _ => rfl

end Steps

section Invariant

def Followed (state : Events E) : Prop :=
  ∀ (receiver : Nat) (subscription : Subscription E),
    state.subscriptions[receiver]? = some subscription → subscription.holder = .manager .ended →
      state.host.world.dropped (.actor subscription.source) = true ∧
        (state.emitted subscription.source).length ≤ subscription.next

theorem followed_step (followed : state.Followed) (taken : state.step broadcast label = some after) :
    after.Followed := by
  -- a manager ends only by a `Closed`, which comes after the last event
  intro receiver moved found ended
  have moves := step_moves taken
  rcases moves.origin found with ⟨subscription, before, onward⟩ | ⟨_, id, _, rfl⟩
  · cases onward with
    | same =>
        obtain ⟨gone, drained⟩ := followed receiver _ before ended
        rw [moves.emits gone]
        exact ⟨moves.dropped gone, drained⟩
    | passed passes =>
        subst ended
        generalize subscription.holder = holder at passes
        cases passes
    | @read receipt next holder receives reads =>
        obtain rfl := reads.ended ended
        cases receives with
        | closed drained gone =>
            rw [moves.emits gone]
            exact ⟨moves.dropped gone, drained⟩
  · cases ended

theorem followed_reached (reached : Reachable (step broadcast) Initial state) : state.Followed := by
  refine guarded_invariant Followed ?_
    (fun _ _ _ followed _ taken => followed_step followed taken) reached
  rintro _ ⟨config, rfl⟩ receiver subscription found
  cases found

end Invariant

section Results

/-- The events that are still before the receiver. -/
def ahead (state : Events E) (subscription : Subscription E) : List E :=
  (state.emitted subscription.source).drop subscription.next

def turnsLeft (state : Events E) (subscription : Subscription E) : Nat :=
  match subscription.holder with
  | .manager .ended => 0
  | _ => (state.ahead subscription).length + 1

def Label.isTurn (receiver : Nat) : Label E → Bool
  | .turn other => other = receiver
  | _ => false

theorem turnsLeft_le (state : Events E) (subscription : Subscription E) :
    state.turnsLeft subscription ≤ (state.ahead subscription).length + 1 := by
  rw [turnsLeft]
  split
  · exact Nat.zero_le _
  · exact le_rfl

theorem turnsLeft_onward (moves : state.Moves broadcast label after)
    (gone : state.host.world.dropped (.actor subscription.source) = true)
    (onward : Onward state label receiver subscription moved) :
    after.turnsLeft moved + (if label.isTurn receiver then 1 else 0) ≤
      state.turnsLeft subscription := by
  -- the channel does not grow any more, so each turn takes an event, skips some, or ends
  have final := moves.emits gone
  cases onward with
  | same resting =>
      have resting : ¬ label.isTurn receiver = true := by
        intro turns
        cases label with
        | turn other => exact resting (congrArg Label.turn (of_decide_eq_true turns))
        | _ => cases turns
      rw [if_neg resting, turnsLeft, turnsLeft, ahead, ahead, final]
      exact le_rfl
  | @passed holder passes =>
      have upTo := after.turnsLeft_le { subscription with holder }
      have same : (after.ahead { subscription with holder }).length =
          (state.ahead subscription).length := by
        rw [ahead, ahead, final]
      have whole : state.turnsLeft subscription = (state.ahead subscription).length + 1 := by
        obtain ⟨source, next, before⟩ := subscription
        cases passes <;> rfl
      have resting : label.isTurn receiver = false := by
        generalize subscription.holder = before at passes
        cases passes <;> rfl
      rw [resting, if_neg Bool.false_ne_true]
      omega
  | @read receipt next holder receives reads =>
      have upTo := after.turnsLeft_le { subscription with next, holder }
      have left : (after.ahead { subscription with next, holder }).length =
          (state.emitted subscription.source).length - next := by
        rw [ahead, final]
        exact List.length_drop
      have before : (state.ahead subscription).length =
          (state.emitted subscription.source).length - subscription.next := List.length_drop
      have whole : state.turnsLeft subscription = (state.ahead subscription).length + 1 := by
        obtain ⟨source, position, before⟩ := subscription
        cases reads <;> rfl
      have nearer := receives.onward
      rcases reads.parts with rfl | ⟨rfl, last⟩
      · have resting : (Label.recv receiver : Label E).isTurn receiver = false := rfl
        rw [resting, if_neg Bool.false_ne_true]
        omega
      · have turns : (Label.turn receiver : Label E).isTurn receiver = true := decide_eq_true rfl
        rw [if_pos turns]
        by_cases closes : receipt = .closed
        · have ended : after.turnsLeft { subscription with next, holder } = 0 := by
            rw [last, closes]
            rfl
          omega
        · have closer := receives.closer closes
          omega

/-- An event manager ends with its actor: it goes on as long as the actor is there, when it
ends it has come past all events, and when the actor is gone it gets the events that are left
and ends. -/
theorem handler_ends (reached : Reachable (step broadcast) Initial state)
    (found : state.subscriptions[receiver]? = some subscription) :
    (subscription.holder = .manager .ended →
      state.host.world.dropped (.actor subscription.source) = true ∧
        state.ahead subscription = []) ∧
      (state.host.world.dropped (.actor subscription.source) = true →
        (subscription.holder = .manager .recv → (state.step broadcast (.turn receiver)).isSome) ∧
          ∀ labels after, Runs.run (step broadcast) state labels = some after →
            labels.countP (Label.isTurn receiver) ≤ (state.ahead subscription).length + 1) := by
  refine ⟨fun ended => ?_, fun gone => ⟨fun waits => ?_, fun labels after taken => ?_⟩⟩
  · obtain ⟨gone, drained⟩ := followed_reached reached receiver subscription found ended
    exact ⟨gone, List.drop_eq_nil_of_le drained⟩
  · have answered : (state.receive broadcast subscription).isSome := broadcast.ready (.inl gone)
    obtain ⟨⟨receipt, next⟩, got⟩ := Option.isSome_iff_exists.mp answered
    obtain ⟨source, position, holder⟩ := subscription
    obtain rfl : holder = .manager .recv := waits
    simp only [step, found, Option.bind_eq_bind, Option.bind_some]
    rw [got]
    rfl
  · refine le_trans ?_ (state.turnsLeft_le subscription)
    clear reached
    induction labels generalizing state subscription with
    | nil => exact Nat.zero_le _
    | cons label labels ih =>
        obtain ⟨next, moved, rest⟩ := Option.bind_eq_some_iff.mp taken
        have moves := step_moves moved
        obtain ⟨middle, foundNext, onward⟩ := moves.keeps found
        have goneNext : next.host.world.dropped (.actor middle.source) = true := by
          rw [onward.source]
          exact moves.dropped gone
        have later := ih foundNext goneNext rest
        have now := turnsLeft_onward moves gone onward
        rw [List.countP_cons]
        omega

def emitsAndPanics : List (Label Nat) :=
  (World.creates 0 "p").map (.host ∘ .world) ++
    [.host (.tell 0), .host (.world (.task (.actor 0) .message)), .subscribe 0, .addEventHandler 0,
      .emitEvent 0 5 (.ok ()), .host (.world (.task (.actor 0) .panics))]

theorem panicked_ends : ∃ (state : Events Nat) (subscription : Subscription Nat),
    Reachable (step (.keeping 2)) Initial state ∧ state.ahead subscription = [5] ∧
      (state.step (.keeping 2) (.turn 0)).isSome ∧
      ∀ labels after, Runs.run (step (.keeping 2)) state labels = some after →
        labels.countP (Label.isTurn 0) ≤ 2 := by
  have taken : ((Runs.run (step (.keeping 2)) (new Config.default) emitsAndPanics).any
      fun state => state.host.world.dropped (.actor 0) = true ∧
        state.subscriptions[0]? = some ⟨0, 0, .manager .recv⟩ ∧
        state.ahead ⟨0, 0, .manager .recv⟩ = [5]) = true := by
    decide
  obtain ⟨state, reached, gone, found, ahead⟩ : ∃ state : Events Nat,
      Reachable (step (.keeping 2)) Initial state ∧ _ := reachable_shown ⟨_, rfl⟩ taken
  obtain ⟨proceeds, bound⟩ := (handler_ends reached found).2 gone
  rw [ahead] at bound
  exact ⟨state, _, reached, ahead, proceeds rfl, bound⟩

end Results

end Events

end Rush.Actor
