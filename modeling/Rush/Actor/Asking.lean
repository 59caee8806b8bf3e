import Rush.Actor.Coherence
import Rush.Actor.RunLoop

/-! What senders and actors can rely on: every message that a mailbox accepts is handled
once and in its turn or goes down with the actor, every answer belongs to its question,
no question to an actor that is gone stays open, and who blocks whom. -/

namespace Rush.Actor

open Rush.Library Runs

namespace Messaging

variable {M R : Type} {state after : Messaging M R} {label : Label M R}

section Scenarios

def creates (id : ActorId) (name : String) : List (Label M R) :=
  (World.creates id name).map .world

def asks (task : Task) (target : ActorId) (msg : M) (answer : R) : List (Label M R) :=
  [.ask task target msg, .sends task, .world (.task (.actor target) .message),
    .handled target (.ok answer), .responds task]

/-- An actor answers one client, and fails over the message of the next with the question
of a third in its mailbox. -/
def breaksDown : List (Label Nat Nat) :=
  creates 0 "p" ++ asks (.client 0) 0 7 8 ++
    [.tell (.client 0) 0 1, .sends (.client 0), .ask (.client 1) 0 9, .sends (.client 1),
      .world (.task (.actor 0) .message), .world (.task (.actor 0) .panics)]

end Scenarios

/-- What an actor has accepted, it has handled, is handling, has waiting or has taken down
with it, in the order of acceptance; only a finished actor takes anything down, and it leaves
nothing else. No message is accepted twice, by one actor or by two. -/
theorem messages_accounted (reached : Reachable step Initial state) :
    (∀ id, state.mail.books.accepted id =
        (state.mail.books.served id).map Prod.fst ++
          ((state.mail.serving id).toList ++ (state.mail.inbox id).queue) ++
            state.mail.books.lost id) ∧
      (∀ (id : ActorId) (runner : ActorRunner), state.world.actors[id]? = some runner →
        if runner.finished then
          state.mail.serving id = none ∧ (state.mail.inbox id).queue = []
        else state.mail.books.lost id = []) ∧
      (∀ id, ((state.mail.books.accepted id).map Letter.number).Nodup) ∧
      ∀ id other letter second, letter ∈ state.mail.books.accepted id →
        second ∈ state.mail.books.accepted other → letter.number = second.number →
          id = other ∧ letter = second := by
  have coherent := coherent_reached reached
  have balanced := coherent.sound.balanced
  refine ⟨balanced.accounted, ?_, coherent.sound.known.once, ?_⟩
  · intro id runner found
    have shut := coherent.linked.shut id runner found
    split
    case isTrue finished =>
      have none := balanced.shut id (shut.trans finished)
      rw [Exchange.held, List.append_eq_nil_iff] at none
      exact ⟨Option.toList_eq_nil_iff.mp none.1, none.2⟩
    case isFalse runs =>
      exact balanced.runs id (shut.trans (Bool.eq_false_of_not_eq_true runs))
  · intro id other letter second present also same
    exact coherent.sound.known.same_letter present also same

theorem breakdown_accounted : ∃ state : Messaging Nat Nat, Reachable step Initial state ∧
    state.mail.books.accepted 0 =
        (state.mail.books.served 0).map Prod.fst ++
          ((state.mail.serving 0).toList ++ (state.mail.inbox 0).queue) ++
            state.mail.books.lost 0 ∧
      (state.mail.books.served 0).length = 1 ∧ (state.mail.books.lost 0).length = 2 := by
  have taken : ((Runs.run step (new Config.default 10) breaksDown).any fun state =>
      (state.mail.books.served 0).length = 1 ∧ (state.mail.books.lost 0).length = 2) = true := by
    decide
  obtain ⟨state, reached, lengths⟩ : ∃ state : Messaging Nat Nat, Reachable step Initial state ∧ _ :=
    reachable_shown ⟨_, _, by decide, rfl⟩ taken
  exact ⟨state, reached, (messages_accounted reached).1 0, lengths⟩

/-- What `ask` and `tell` return is what became of the message: an answer is the handler's
own to this very message, and an error of the channel means that the actor is gone and never
handled it. -/
theorem result_tells (reached : Reachable step Initial state) (number : Nat)
    (ending : Ending (Except Error R)) (ended : state.mail.books.endings number = some ending) :
    ∃ task target letter, letter.number = number ∧ state.mail.Issued task target letter ∧
      (tellReturns ending = some (.ok ()) → letter ∈ state.mail.books.accepted target) ∧
      (∀ error, tellReturns ending = some (.error error) →
        letter ∉ state.mail.books.accepted target ∧ state.world.finished target = true) ∧
      ∀ result, askReturns ending = some result →
        ((letter, result) ∈ state.mail.books.served target ∧
          ∀ other, (letter, other) ∈ state.mail.books.served target → other = result) ∨
          (letter ∉ (state.mail.books.served target).map Prod.fst ∧
            state.world.finished target = true ∧
            (result = .error (.message "Failed to ask message: channel closed") ∨
              result = .error (.message "Response channel closed: channel closed"))) := by
  have coherent := coherent_reached reached
  obtain ⟨task, target, letter, same, issued, outcome⟩ :=
    coherent.sound.truthful number ending ended
  refine ⟨task, target, letter, same, issued, ?_⟩
  obtain ⟨runner, found, _⟩ := coherent.linked.issued task target letter issued
  have gone (shut : state.mail.shut target = true) : state.world.finished target = true := by
    rw [World.finished, found]
    exact (coherent.linked.shut target runner found).symm.trans shut
  have lostGone (present : letter ∈ state.mail.books.lost target) :
      state.mail.shut target = true := by
    refine Bool.eq_true_of_not_eq_false fun runs => ?_
    rw [coherent.sound.balanced.runs target runs] at present
    cases present
  have unserved (absent : letter ∉ state.mail.books.accepted target) :
      letter ∉ (state.mail.books.served target).map Prod.fst := by
    intro present
    obtain ⟨⟨_, result⟩, served, rfl⟩ := List.mem_map.mp present
    exact absent (coherent.sound.balanced.served_accepted served)
  cases ending with
  | told =>
      refine ⟨fun _ => outcome.1, ?_, ?_⟩
      · intro error returns
        cases returns
      · intro result returns
        cases returns
  | refused =>
      refine ⟨?_, fun _ _ => ⟨outcome.1, gone outcome.2⟩, ?_⟩
      · intro returns
        cases returns
      · intro result returns
        exact .inr ⟨unserved outcome.1, gone outcome.2, .inl (Option.some.inj returns).symm⟩
  | dropped =>
      refine ⟨?_, ?_, ?_⟩
      · intro returns
        cases returns
      · intro error returns
        cases returns
      · intro result returns
        refine .inr ⟨?_, gone (lostGone outcome.1), .inr (Option.some.inj returns).symm⟩
        intro present
        have apart := (List.nodup_append.mp
          (Exchange.numbers_nodup coherent.sound.balanced coherent.sound.known target)).2.2
        exact apart letter.number (List.mem_append_left _ (List.mem_map_of_mem present))
          letter.number (List.mem_map_of_mem outcome.1) rfl
  | answered result =>
      refine ⟨?_, ?_, ?_⟩
      · intro returns
        cases returns
      · intro error returns
        cases returns
      · intro returned returns
        obtain rfl := Option.some.inj returns
        exact .inl ⟨outcome.1, fun other again => Exchange.served_unique
          coherent.sound.balanced coherent.sound.known outcome.1 again⟩
  | withdrawn =>
      refine ⟨?_, ?_, ?_⟩
      · intro returns
        cases returns
      · intro error returns
        cases returns
      · intro result returns
        cases returns

theorem breakdown_told : ∃ state : Messaging Nat Nat, Reachable step Initial state ∧
    askReturns (.answered (.ok 8) : Ending (Except Error Nat)) = some (.ok 8) ∧
      ∃ task target letter, letter.number = 0 ∧ state.mail.Issued task target letter ∧
        (letter, .ok 8) ∈ state.mail.books.served target := by
  have taken : ((Runs.run step (new Config.default 10) breaksDown).any fun state =>
      state.mail.books.endings 0 = some (.answered (.ok 8))) = true := by
    decide
  obtain ⟨state, reached, answered⟩ :
      ∃ state : Messaging Nat Nat, Reachable step Initial state ∧ _ :=
    reachable_shown ⟨_, _, by decide, rfl⟩ taken
  obtain ⟨task, target, letter, same, issued, _, _, tells⟩ := result_tells reached 0 _ answered
  refine ⟨state, reached, rfl, task, target, letter, same, issued, ?_⟩
  rcases tells _ rfl with ⟨served, _⟩ | ⟨_, _, failed | failed⟩
  · exact served
  · cases failed
  · cases failed

/-- No question is forgotten and none stays open once the actor is gone: a `tell` or `ask` that
has not returned is one that its task still waits in, and when the actor is gone the task
goes on. -/
theorem sends_end (reached : Reachable step Initial state) :
    (∀ number, number < state.mail.books.issued.length →
      state.mail.books.endings number = none →
        ∃ task await, state.mail.awaiting task = some await ∧ await.number = number) ∧
      ∀ task await, state.mail.awaiting task = some await →
        ∀ target letter, state.mail.Issued task target letter → letter.number = await.number →
          state.world.finished target = true →
            (state.step (.sends task)).isSome ∨ (state.step (.responds task)).isSome := by
  have coherent := coherent_reached reached
  refine ⟨coherent.sound.awaited, ?_⟩
  intro task await waits target letter issued same gone
  obtain ⟨runner, found, _⟩ := coherent.linked.issued task target letter issued
  have shut : state.mail.shut target = true := by
    rw [coherent.linked.shut target runner found]
    rw [World.finished, found] at gone
    exact gone
  have free (server : ActorId) : ¬ state.mail.WaitsOn task server := by
    intro waitsOn
    obtain ⟨runs, _⟩ := waitsOn.holds coherent.sound (coherent.room server)
    have here : server = target := by
      cases waitsOn with
      | room second also =>
          cases waits.symm.trans also
          have stands := (coherent.sound.known.sending task server second also).1
          exact (Exchange.issued_unique stands issued same.symm).2.1
      | reply second also stands =>
          cases waits.symm.trans also
          exact (Exchange.issued_unique stands issued same.symm).2.1
    rw [here, shut] at runs
    cases runs
  obtain ⟨op, mail, which, applied⟩ := Exchange.ready_of_free coherent.sound waits free
  rcases which with rfl | rfl
  · left
    rw [step, applied]
    rfl
  · right
    rw [step, applied]
    rfl

theorem breakdown_ends : ∃ state : Messaging Nat Nat, Reachable step Initial state ∧
    state.mail.awaiting (.client 1) = some (.reply 2) ∧ state.world.finished 0 = true ∧
      ((state.step (.sends (.client 1))).isSome ∨ (state.step (.responds (.client 1))).isSome) := by
  have taken : ((Runs.run step (new Config.default 10) breaksDown).any fun state =>
      state.mail.awaiting (.client 1) = some (.reply 2) ∧ state.world.finished 0 = true ∧
        state.mail.books.issued[2]? = some ⟨.client 1, 0, ⟨2, ⟨rootPath / "p", 9⟩, true⟩⟩) =
      true := by
    decide
  obtain ⟨state, reached, waits, gone, issued⟩ :
      ∃ state : Messaging Nat Nat, Reachable step Initial state ∧ _ :=
    reachable_shown ⟨_, _, by decide, rfl⟩ taken
  exact ⟨state, reached, waits, gone,
    (sends_end reached).2 _ _ waits 0 ⟨2, ⟨rootPath / "p", 9⟩, true⟩ issued rfl gone⟩

/-- An actor handles messages in the order in which its mailbox accepted them, the mailbox
accepts those of one sender in the order in which they were sent, and what it has accepted
by some time stays in front of all that it accepts later. -/
theorem messages_ordered {labels : List (Label M R)} (reached : Reachable step Initial state)
    (taken : Runs.run step state labels = some after) (id : ActorId) :
    (after.mail.books.served id).map Prod.fst <+: after.mail.books.accepted id ∧
      state.mail.books.accepted id <+: after.mail.books.accepted id ∧
      ∀ task, (after.mail.books.accepted id).Pairwise fun first second =>
        after.mail.Issued task id first → after.mail.Issued task id second →
          first.number < second.number := by
  obtain ⟨coherent, grows⟩ := (coherent_reached reached).run taken
  refine ⟨?_, grows.accepted id, coherent.ordered.inOrder id⟩
  rw [coherent.sound.balanced.accounted id, List.append_assoc]
  exact List.prefix_append _ _

theorem tells_ordered : ∃ state after : Messaging Nat Nat, Reachable step Initial state ∧
    (after.mail.books.accepted 0).length = 3 ∧
      state.mail.books.accepted 0 <+: after.mail.books.accepted 0 ∧
      (after.mail.books.accepted 0).Pairwise fun first second =>
        after.mail.Issued (.client 0) 0 first → after.mail.Issued (.client 0) 0 second →
          first.number < second.number := by
  have taken : ((Runs.run step (new Config.default 10)
      (creates 0 "p" ++ asks (.client 0) 0 7 8)).any fun state =>
        ((Runs.run step state [.tell (.client 0) 0 1, .sends (.client 0),
          .tell (.client 0) 0 2, .sends (.client 0)]).any fun after =>
            (after.mail.books.accepted 0).length = 3) = true) = true := by
    decide
  obtain ⟨state, reached, later⟩ : ∃ state : Messaging Nat Nat, Reachable step Initial state ∧ _ :=
    reachable_shown ⟨_, _, by decide, rfl⟩ taken
  obtain ⟨after, ran, three⟩ := (Option.any_eq_true _ _).mp later
  obtain ⟨_, grown, ordered⟩ := messages_ordered reached ran 0
  exact ⟨state, after, reached, of_decide_eq_true three, grown, ordered (.client 0)⟩

theorem moves_runner (moves : state.Moves label after) {id : ActorId} {runner : ActorRunner}
    (found : state.world.actors[id]? = some runner)
    (waits : state.mail.awaiting (.actor id) ≠ none) : after.world.actors[id]? = some runner := by
  have kept {system : World.Label} {world : World} (taken : state.world.step system = some world)
      (free : ∀ task, system.task? = some task → state.mail.awaiting task = none) :
      world.actors[id]? = some runner := by
    cases system with
    | cancel =>
        cases taken
        exact found
    | task task choice =>
        refine World.step_others taken ?_ found
        rintro rfl
        exact waits (free _ rfl)
  have own {actor : ActorId} (idle : state.mail.awaiting (.actor actor) = none) (task : Task)
      (same : some (Task.actor actor) = some task) : state.mail.awaiting task = none := by
    cases same
    exact idle
  cases moves with
  | runs idle _ taken => exact kept taken idle
  | takes idle _ taken => exact kept taken (own idle)
  | leaves idle taken => exact kept taken (own idle)
  | answers _ idle taken => exact kept taken (own idle)
  | sends | waits => exact found

/-- Actors of which each waits for another of them wait for ever, unless one drops its
wait: none of them takes a step, so none handles a message or consumes a Stop. -/
theorem knot_stays {members : Set ActorId} {labels : List (Label M R)}
    (reached : Reachable step Initial state) (knot : state.mail.Knot Task.actor members)
    (taken : Runs.run step state labels = some after)
    (patient : ∀ id ∈ members, .drops (.actor id) ∉ labels) :
    after.mail.Knot Task.actor members ∧ ∀ id ∈ members,
      after.mail.awaiting (.actor id) = state.mail.awaiting (.actor id) ∧
        ∀ runner, state.world.actors[id]? = some runner →
          after.world.actors[id]? = some runner := by
  have coherent := coherent_reached reached
  clear reached
  induction labels generalizing state with
  | nil =>
      obtain rfl : state = after := Option.some.inj taken
      exact ⟨knot, fun _ _ => ⟨rfl, fun _ found => found⟩⟩
  | cons label labels ih =>
      obtain ⟨next, moved, rest⟩ := Option.bind_eq_some_iff.mp taken
      have moves := step_moves moved
      have now (id : ActorId) (member : id ∈ members) : label ≠ .drops (.actor id) :=
        fun same => patient id member (same ▸ List.mem_cons_self)
      obtain ⟨knotNext, still⟩ : next.mail.Knot Task.actor members ∧ ∀ id ∈ members,
          next.mail.awaiting (.actor id) = state.mail.awaiting (.actor id) := by
        rcases step_mail moves with same | ⟨op, applied, disciplined, performs⟩
        · rw [same]
          exact ⟨knot, fun _ _ => rfl⟩
        · have mailMoves := Exchange.apply_moves applied
          have stays (id : ActorId) (member : id ∈ members) : op ≠ .withdraw (.actor id) := by
            rintro rfl
            exact now id member performs
          refine ⟨knot.moves coherent.sound mailMoves disciplined stays, fun id member => ?_⟩
          obtain ⟨_, _, waitsOn⟩ := knot id member
          exact waitsOn.still mailMoves (stays id member)
      obtain ⟨last, kept⟩ := ih knotNext rest
        (fun id member later => patient id member (List.mem_cons_of_mem _ later))
        (coherent.step moved)
      refine ⟨last, fun id member => ?_⟩
      obtain ⟨awaits, runners⟩ := kept id member
      obtain ⟨_, _, waitsOn⟩ := knot id member
      exact ⟨awaits.trans (still id member),
        fun runner found => runners runner (moves_runner moves found waitsOn.waiting)⟩

theorem self_ask_stays : ∃ state after : Messaging Nat Nat, Reachable step Initial state ∧
    after.mail.awaiting (.actor 0) = some (.reply 1) ∧
      (after.world.actions 0).queue = [.stop] ∧
        ∀ runner, state.world.actors[0]? = some runner →
          after.world.actors[0]? = some runner := by
  have taken : ((Runs.run step (new Config.default 10 : Messaging Nat Nat) (creates 0 "p" ++
      [.tell (.client 0) 0 1, .sends (.client 0), .world (.task (.actor 0) .message),
        .ask (.actor 0) 0 2, .sends (.actor 0)])).any fun state =>
          (state.mail.awaiting (.actor 0) = some (.reply 1) ∧
            state.mail.books.issued[1]? =
              some ⟨.actor 0, 0, ⟨1, ⟨rootPath / "p", 2⟩, true⟩⟩ ∧
            state.mail.replies 1 = .pending) ∧
          ((Runs.run step state ((World.stopsActor "p").map .world)).any fun after =>
            (after.world.actions 0).queue = [.stop]) = true) = true := by
    decide
  obtain ⟨state, reached, ⟨waits, issued, pending⟩, later⟩ :
      ∃ state : Messaging Nat Nat, Reachable step Initial state ∧ _ :=
    reachable_shown ⟨_, _, by decide, rfl⟩ taken
  obtain ⟨after, ran, sent⟩ := (Option.any_eq_true _ _).mp later
  have knot : state.mail.Knot Task.actor {0} := by
    rintro id rfl
    exact ⟨0, rfl, .reply ⟨1, ⟨rootPath / "p", 2⟩, true⟩ waits issued pending⟩
  have patient (id : ActorId) (_ : id ∈ ({0} : Set ActorId)) :
      .drops (.actor id) ∉ ((World.stopsActor "p").map .world : List (Label Nat Nat)) := by
    intro present
    obtain ⟨label, _, same⟩ := List.mem_map.mp present
    cases same
  obtain ⟨_, still⟩ := knot_stays reached knot ran patient
  exact ⟨state, after, reached, (still 0 rfl).1.trans waits, of_decide_eq_true sent,
    (still 0 rfl).2⟩

end Messaging

end Rush.Actor
