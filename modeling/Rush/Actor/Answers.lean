import Rush.Library.ExchangeService
import Rush.Actor.Asking

/-! Actors whose answers come from a state of their own: the answers are those of one
task that handles the messages in one order, and this order is the one that the senders
can observe. -/

namespace Rush.Actor

open Rush.Library Runs

namespace Messaging

variable {M R S : Type} (handler : S → M → Except Error R × S) (start : S) (id : ActorId)

/-- The state of an actor that has handled these messages. -/
def handledState (served : List (ActorMessage M × Except Error R)) : S :=
  Exchange.stateAfter (fun actor envelope => handler actor envelope.msg) start served

/-- `handle` of this actor is a function of its state and the message. -/
def Handles (state : Messaging M R) : Label M R → Prop
  | .handled other result => other = id → ∀ letter ∈ state.mail.serving id,
      result = (handler (handledState handler start (state.mail.books.served id)) letter.body.msg).1
  | .world _ | .tell _ _ _ | .ask _ _ _ | .sends _ | .responds _ | .drops _ => True

instance [DecidableEq R] (state : Messaging M R) :
    (label : Label M R) → Decidable (Handles handler start id state label)
  | .handled _ _ => inferInstanceAs (Decidable (_ → ∀ letter ∈ state.mail.serving id, _))
  | .world _ | .tell _ _ _ | .ask _ _ _ | .sends _ | .responds _ | .drops _ =>
      inferInstanceAs (Decidable True)

/-- The `ask` that sent this message has returned this result. -/
def Returned (state : Messaging M R) (letter : ActorMessage M) (result : Except Error R) : Prop :=
  state.mail.books.endings letter.number = some (.answered result) ∧
    ∃ task, state.mail.Issued task id letter

variable {handler start id} {state after : Messaging M R} {label : Label M R}

theorem Coherent.returned (coherent : state.Coherent) {letter : ActorMessage M}
    {result : Except Error R} (returned : state.Returned id letter result) :
    (letter, result) ∈ state.mail.books.served id ∧ letter.reply = true := by
  obtain ⟨ended, task, issued⟩ := returned
  obtain ⟨_, _, _, same, stands, outcome⟩ := coherent.sound.truthful _ _ ended
  obtain ⟨_, rfl, rfl⟩ := Exchange.issued_unique stands issued same
  exact outcome

theorem handles_follows (permitted : Handles handler start id state label)
    (taken : state.step label = some after)
    (follows : Exchange.Follows (fun actor envelope => handler actor envelope.msg) start
      (state.mail.books.served id)) :
    Exchange.Follows (fun actor envelope => handler actor envelope.msg) start
      (after.mail.books.served id) := by
  rcases step_mail (step_moves taken) with same | ⟨op, applied, _, performs⟩
  · rw [same]
    exact follows
  · refine follows.moves ?_ (Exchange.apply_moves applied)
    rintro result letter rfl serving
    obtain rfl : label = .handled id result := performs
    exact permitted rfl letter serving

/-- Questions to an actor whose handler is a function of its state and the message are
linearizable: every answer is that of the state to which the messages handled before it
lead, in one order for all senders, and a question that was answered before another one
was sent comes first. -/
theorem asks_linearize (reached : Guarded step Initial (Handles handler start id) state)
    (later : Guarded step (fun first => first = state) (Handles handler start id) after) :
    (∀ letter result, after.Returned id letter result →
      ∃ front back, after.mail.books.served id = front ++ (letter, result) :: back ∧
        result = (handler (handledState handler start front) letter.body.msg).1) ∧
      ∀ first result second value, state.Returned id first result →
        state.mail.books.issued.length ≤ second.number → after.Returned id second value →
          ∃ front middle back, after.mail.books.served id =
            front ++ (first, result) :: middle ++ (second, value) :: back := by
  have before := coherent_reached (guarded_mono (fun _ _ _ => trivial) reached)
  have followed := guarded_invariant
    (fun state : Messaging M R => Exchange.Follows (fun actor (envelope : Envelope M) =>
      handler actor envelope.msg) start (state.mail.books.served id))
    (fun _ initial => by
      obtain ⟨_, _, _, rfl⟩ := initial
      trivial)
    (fun _ _ _ follows permitted taken => handles_follows permitted taken follows) reached
  obtain ⟨coherent, grows, follows⟩ := guarded_invariant
    (fun after : Messaging M R => after.Coherent ∧ state.mail.Grows after.mail ∧
      Exchange.Follows (fun actor (envelope : Envelope M) => handler actor envelope.msg) start
        (after.mail.books.served id))
    (fun _ initial => by
      subst initial
      exact ⟨before, .refl _, followed⟩)
    (fun _ _ _ ⟨coherent, grows, follows⟩ permitted taken => ⟨coherent.step taken,
      grows.trans (coherent.grows taken), handles_follows permitted taken follows⟩) later
  constructor
  · intro letter result returned
    obtain ⟨front, back, split⟩ := List.append_of_mem (coherent.returned returned).1
    rw [split] at follows
    exact ⟨front, back, split, follows.at_letter⟩
  · intro first result second value returned late also
    exact grows.precedes before.sound.balanced before.sound.known (before.returned returned).1 late
      (coherent.returned also).1

def adds (sum msg : Nat) : Except Error Nat × Nat := (.ok (sum + msg), sum + msg)

theorem sums_linearize : ∃ state after : Messaging Nat Nat,
    state.Returned 0 ⟨0, ⟨rootPath / "p", 5⟩, true⟩ (.ok 5) ∧
      after.Returned 0 ⟨1, ⟨rootPath / "p", 2⟩, true⟩ (.ok 7) ∧
        ∃ front middle back, after.mail.books.served 0 =
          front ++ (⟨0, ⟨rootPath / "p", 5⟩, true⟩, .ok 5) :: middle ++
            (⟨1, ⟨rootPath / "p", 2⟩, true⟩, .ok 7) :: back := by
  have taken : ((Runs.checkedRun step (fun state label => decide (Handles adds 0 0 state label))
      (new Config.default 10) (creates 0 "p" ++ asks (.client 0) 0 5 5)).any fun state =>
        (state.mail.books.endings 0 = some (.answered (.ok 5)) ∧
          state.mail.books.issued = [⟨.client 0, 0, ⟨0, ⟨rootPath / "p", 5⟩, true⟩⟩]) ∧
        ((Runs.checkedRun step (fun state label => decide (Handles adds 0 0 state label)) state
          (asks (.client 1) 0 2 7)).any fun after =>
            after.mail.books.endings 1 = some (.answered (.ok 7)) ∧
              after.mail.books.issued[1]? =
                some ⟨.client 1, 0, ⟨1, ⟨rootPath / "p", 2⟩, true⟩⟩) = true) = true := by
    decide
  obtain ⟨state, reached, ⟨answered, issued⟩, later⟩ : ∃ state : Messaging Nat Nat,
      Guarded step Initial (Handles adds 0 0) state ∧ _ :=
    guarded_shown (fun _ _ => of_decide_eq_true) ⟨_, _, by decide, rfl⟩ taken
  obtain ⟨after, ran, shown⟩ := (Option.any_eq_true _ _).mp later
  obtain ⟨also, second⟩ := of_decide_eq_true shown
  have goesOn : Guarded step (fun first => first = state) (Handles adds 0 0) after :=
    guarded_checkedRun (fun _ _ => of_decide_eq_true) (.start rfl) ran
  have first : state.Returned 0 ⟨0, ⟨rootPath / "p", 5⟩, true⟩ (.ok 5) := by
    refine ⟨answered, .client 0, ?_⟩
    rw [Exchange.Issued, issued]
    rfl
  have returned : after.Returned 0 ⟨1, ⟨rootPath / "p", 2⟩, true⟩ (.ok 7) :=
    ⟨also, .client 1, second⟩
  have late : state.mail.books.issued.length ≤ 1 := by
    rw [issued]
    rfl
  exact ⟨state, after, first, returned,
    (asks_linearize reached goesOn).2 _ _ _ _ first late returned⟩

end Messaging

end Rush.Actor
