import Rush.Actor.Answers
import Rush.Storage.Persist

/-! The children of a persistent actor as actors of the system. `Child` answers an `ask` at
once, after all that waits in its mailbox; here it is what the owner of an actor sees of the
messages, whatever the other tasks do in the meantime. -/

namespace Rush.Storage

open Rush.Actor Rush.Library Runs

namespace Child

variable {κ μ ρ : Type}

/-- What the owner of a child has done, with what it got back; between two calls the child
may take messages on its own. -/
inductive Uses (handler : κ → μ → Except ActorError ρ × κ) (first : Child κ μ) :
    List (μ × Option (Except ActorError ρ)) → Child κ μ → Prop
  | started : Uses handler first [] first
  | tell {calls : List (μ × Option (Except ActorError ρ))} {child after : Child κ μ} {message : μ}
      (before : Uses handler first calls child) (told : child.tell message = (.ok (), after)) :
      Uses handler first (calls ++ [(message, none)]) after
  | ask {calls : List (μ × Option (Except ActorError ρ))} {child after : Child κ μ} {message : μ}
      {result : Except ActorError ρ} (before : Uses handler first calls child)
      (asked : child.ask handler message = (result, after)) :
      Uses handler first (calls ++ [(message, some result)]) after
  | deliver {calls : List (μ × Option (Except ActorError ρ))} {child : Child κ μ}
      (before : Uses handler first calls child) :
      Uses handler first calls (child.deliver handler)

end Child

section Protocol

variable {κ M R : Type} (handler : κ → M → Except ActorError R × κ) (start : κ) (id : ActorId)

def told (letters : List (ActorMessage M)) : List M :=
  (letters.filter fun letter => !letter.reply).map fun letter => letter.body.msg

/-- The actor as its owner sees it: a question that is under way has not been asked yet. -/
def childOf (state : Messaging M R) : Child κ M where
  state := Messaging.handledState handler start (state.mail.books.served id)
  mailbox := told (state.mail.held id)
  running := !state.mail.shut id

/-- The messages of the owner that have taken effect, with the answers given. -/
def callsOf (state : Messaging M R) : List (M × Option (Except ActorError R)) :=
  (state.mail.books.served id).map (fun (letter, result) =>
      (letter.body.msg, if letter.reply then some result else none)) ++
    (told (state.mail.held id)).map fun message => (message, none)

/-- Only the owner writes to the actor, and it waits for every answer. -/
def OwnedBy (owner : Task) : Messaging.Label M R → Prop
  | .tell task target _ | .ask task target _ => target = id → task = owner
  | .drops task => task ≠ owner
  | .world _ | .handled _ _ | .sends _ | .responds _ => True

instance (owner : Task) : (label : Messaging.Label M R) → Decidable (OwnedBy id owner label)
  | .tell _ _ _ | .ask _ _ _ => inferInstanceAs (Decidable (_ → _))
  | .drops _ => inferInstanceAs (Decidable (_ ≠ _))
  | .world _ | .handled _ _ | .sends _ | .responds _ => inferInstanceAs (Decidable True)

variable {handler start id} {owner : Task} {state after : Messaging M R}
  {label : Messaging.Label M R}

theorem told_append (letters more : List (ActorMessage M)) :
    told (letters ++ more) = told letters ++ told more := by
  rw [told, List.filter_append, List.map_append]
  rfl

theorem owned_op {op : Op ActorId Task (Envelope M) (Except ActorError R)}
    (permitted : OwnedBy id owner label) (performs : label.Performs op) :
    Exchange.Owned owner id op := by
  constructor
  · rintro other body resp rfl
    obtain rfl : label = if resp then .ask other id body.msg else .tell other id body.msg := performs
    cases resp <;> exact permitted rfl
  · rintro rfl
    obtain rfl : label = .drops owner := performs
    exact permitted rfl

theorem uses_congr {first : Child κ M}
    (uses : Child.Uses handler first (callsOf id state) (childOf handler start id state))
    (served : after.mail.books.served id = state.mail.books.served id)
    (held : told (after.mail.held id) = told (state.mail.held id))
    (shut : after.mail.shut id = state.mail.shut id) :
    Child.Uses handler first (callsOf id after) (childOf handler start id after) := by
  rw [callsOf, childOf, served, held, shut]
  exact uses

theorem uses_accept {first : Child κ M}
    {mail : Exchange ActorId Task (Envelope M) (Except ActorError R)}
    {caller : Task} {letter : ActorMessage M} {inbox : Channel (ActorMessage M)}
    (uses : Child.Uses handler first (callsOf id state) (childOf handler start id state))
    (runs : state.mail.shut id = false) (room : (state.mail.inbox id).send letter = some inbox)
    (accepted : mail = state.mail.accept caller id letter inbox) :
    Child.Uses handler first (callsOf id { state with mail })
      (childOf handler start id { state with mail }) := by
  subst accepted
  have held := (Exchange.held_accept caller room id).trans (if_pos rfl)
  cases asks : letter.reply with
  | true =>
      refine uses_congr uses rfl ?_ rfl
      show told ((state.mail.accept caller id letter inbox).held id) = _
      rw [held, told_append, told, told, List.filter_cons_of_neg (by rw [asks]; decide)]
      exact List.append_nil _
  | false =>
      have more : told [letter] = [letter.body.msg] := by
        rw [told, List.filter_cons_of_pos (by rw [asks]; rfl)]
        rfl
      have running : (childOf handler start id state).running = true := by
        rw [childOf, runs]
        rfl
      have told := uses.tell (Child.tell_running running letter.body.msg)
      simp only [callsOf, childOf] at told ⊢
      rw [held, told_append, more, List.map_append, ← List.append_assoc]
      exact told

theorem uses_answer {first : Child κ M}
    {mail : Exchange ActorId Task (Envelope M) (Except ActorError R)}
    {letter : ActorMessage M} {result : Except ActorError R}
    (uses : Child.Uses handler first (callsOf id state) (childOf handler start id state))
    (runs : state.mail.shut id = false) (alone : state.mail.Private owner id)
    (busy : state.mail.serving id = some letter)
    (right : result = (handler
      (Messaging.handledState handler start (state.mail.books.served id)) letter.body.msg).1)
    (answered : mail = state.mail.answer id letter result) :
    Child.Uses handler first (callsOf id { state with mail })
      (childOf handler start id { state with mail }) := by
  subst answered
  obtain ⟨front, _⟩ := Exchange.held_answer result busy
  have served : (state.mail.answer id letter result).books.served id =
      state.mail.books.served id ++ [(letter, result)] := Function.update_self ..
  have next : Messaging.handledState handler start
      (state.mail.books.served id ++ [(letter, result)]) =
      (handler (Messaging.handledState handler start (state.mail.books.served id))
        letter.body.msg).2 := by
    rw [Messaging.handledState, Exchange.stateAfter, List.foldl_append]
    rfl
  cases asks : letter.reply with
  | true =>
      have last := alone.last [] letter _ front asks
      have empty : told (state.mail.held id) = [] := by
        rw [front, last, told, List.filter_cons_of_neg (by rw [asks]; decide)]
        rfl
      have asked : (childOf handler start id state).ask handler letter.body.msg =
          (result, childOf handler start id
            { state with mail := state.mail.answer id letter result }) := by
        have shut : (state.mail.answer id letter result).shut id = false := runs
        rw [childOf, childOf, empty, runs, served, next, last, shut, Child.ask, right]
        rfl
      have goesOn := uses.ask asked
      have none : told ([] : List (ActorMessage M)) = [] := rfl
      simp only [callsOf] at goesOn ⊢
      rw [served, last, List.map_append, List.map_singleton, asks, none, List.map_nil,
        List.append_nil]
      rw [empty, List.map_nil, List.append_nil] at goesOn
      exact goesOn
  | false =>
      have split : told (state.mail.held id) =
          letter.body.msg :: told ((state.mail.answer id letter result).held id) := by
        rw [front, told, List.filter_cons_of_pos (by rw [asks]; rfl)]
        rfl
      have goesOn := uses.deliver
      simp only [callsOf, childOf, Child.deliver, split] at goesOn ⊢
      rw [served, next, List.map_append, List.map_singleton, asks, List.append_assoc]
      exact goesOn

theorem uses_step {first : Child κ M}
    (uses : Child.Uses handler first (callsOf id state) (childOf handler start id state))
    (coherent : state.Coherent) (alone : state.mail.Private owner id)
    (answers : Messaging.Handles handler start id state label) (runs : after.mail.shut id = false)
    (taken : state.step label = some after) :
    Child.Uses handler first (callsOf id after) (childOf handler start id after) := by
  have stands : state.mail.shut id = false := by
    refine Bool.eq_false_of_not_eq_true fun shut => ?_
    rw [(coherent.grows taken).shut id shut] at runs
    cases runs
  rcases Messaging.step_mail (Messaging.step_moves taken) with same | ⟨op, applied, _, performs⟩
  · rw [callsOf, childOf, same]
    exact uses
  · have moves := Exchange.apply_moves applied
    obtain ⟨world, mail⟩ := after
    dsimp only at moves runs
    cases moves with
    | issued | refused | collected | missed | unsent | abandoned => exact uses_congr uses rfl rfl rfl
    | @accepted caller there letter inbox _ _ room =>
        by_cases here : id = there
        · subst here
          exact uses_accept uses stands room rfl
        · have held := (Exchange.held_accept caller room id).trans (if_neg here)
          exact uses_congr uses rfl (congrArg told held) rfl
    | taken idle front =>
        exact uses_congr uses rfl (congrArg told (Exchange.held_take idle front id)) rfl
    | @answered there letter result busy =>
        by_cases here : id = there
        · subst here
          obtain rfl : label = .handled id result := performs
          exact uses_answer uses stands alone busy (answers rfl letter busy) rfl
        · have held := (Exchange.held_answer result busy).2 id here
          exact uses_congr uses (Function.update_of_ne here _ _) (congrArg told held) rfl
    | @closed there =>
        have apart : id ≠ there := by
          rintro rfl
          rw [show (state.mail.close id).shut id = true from Function.update_self ..] at runs
          cases runs
        have held := (state.mail.held_close there id).trans (if_neg apart)
        exact uses_congr uses rfl (congrArg told held) (Function.update_of_ne apart _ _)

theorem alone_step (coherent : state.Coherent) (alone : state.mail.Private owner id)
    (permitted : OwnedBy id owner label) (taken : state.step label = some after) :
    after.mail.Private owner id := by
  rcases Messaging.step_mail (Messaging.step_moves taken) with same | ⟨op, applied, _, performs⟩
  · rw [same]
    exact alone
  · exact alone.moves coherent.sound (owned_op permitted performs) (Exchange.apply_moves applied)

/-- As long as the actor runs, its owner finds the child of the storage layer in it: each
`tell` and `ask` has the effect and the answer it has on a `Child`, in the order of the
calls, and what an `ask` returned is among the answers. -/
theorem child_refined
    (reached : Guarded Messaging.step Messaging.Initial
      (fun state label => Messaging.Handles handler start id state label ∧ OwnedBy id owner label)
      state)
    (runs : state.world.finished id = false) :
    Child.Uses handler (.started start) (callsOf id state) (childOf handler start id state) ∧
      ∀ letter result, state.Returned id letter result →
        (letter.body.msg, some result) ∈ callsOf id state := by
  obtain ⟨coherent, _, uses⟩ := guarded_invariant
    (fun state : Messaging M R => state.Coherent ∧ state.mail.Private owner id ∧
      (state.mail.shut id = false → Child.Uses handler (.started start) (callsOf id state)
        (childOf handler start id state)))
    (fun _ initial => by
      refine ⟨Messaging.coherent_initial initial, ?_⟩
      obtain ⟨_, mailboxSize, _, rfl⟩ := initial
      exact ⟨Exchange.private_new mailboxSize, fun _ => .started⟩)
    (fun before label next ⟨coherent, alone, uses⟩ permitted taken => by
      refine ⟨coherent.step taken, alone_step coherent alone permitted.2 taken, fun runs => ?_⟩
      refine uses_step (uses ?_) coherent alone permitted.1 runs taken
      refine Bool.eq_false_of_not_eq_true fun shut => ?_
      rw [(coherent.grows taken).shut _ shut] at runs
      cases runs) reached
  refine ⟨uses ?_, fun letter result returned => ?_⟩
  · cases found : state.world.actors[id]? with
    | none => exact (coherent.linked.unborn id found).1
    | some runner =>
        rw [World.finished, found] at runs
        exact (coherent.linked.shut id runner found).trans runs
  · obtain ⟨served, asks⟩ := coherent.returned returned
    refine List.mem_append_left _ (List.mem_map.mpr ⟨_, served, ?_⟩)
    dsimp only
    rw [if_pos asks]

theorem told_and_asked : ∃ state : Messaging Nat Nat,
    Child.Uses Messaging.adds (.started 0) [(5, none), (2, some (.ok 7))]
      (childOf Messaging.adds 0 1 state) := by
  have taken : ((Runs.checkedRun Messaging.step (fun state label =>
      decide (Messaging.Handles Messaging.adds 0 1 state label ∧ OwnedBy 1 (.actor 0) label))
      (Messaging.new Config.default 10)
      (Messaging.creates 0 "p" ++
        [.ask (.client 0) 0 1, .sends (.client 0), .world (.task (.actor 0) .message),
          .world (.task (.actor 0) (.context (.createChild "c" .stop))),
          .world (.task (.actor 0) .proceed)] ++
        (World.starts 1 ++ List.replicate 3 (World.Label.task (.actor 0) .proceed)).map .world ++
        [.tell (.actor 0) 1 5, .sends (.actor 0), .world (.task (.actor 1) .message),
          .handled 1 (.ok 5)] ++ Messaging.asks (.actor 0) 1 2 7)).any fun state =>
            state.world.finished 1 = false ∧
              callsOf 1 state = [(5, none), (2, some (.ok 7))]) = true := by
    decide
  obtain ⟨state, reached, runs, calls⟩ : ∃ state : Messaging Nat Nat,
      Guarded Messaging.step Messaging.Initial (fun state label =>
        Messaging.Handles Messaging.adds 0 1 state label ∧ OwnedBy 1 (.actor 0) label) state ∧ _ :=
    guarded_shown (fun _ _ => of_decide_eq_true) ⟨_, _, by decide, rfl⟩ taken
  have refined := (child_refined reached runs).1
  rw [calls] at refined
  exact ⟨state, refined⟩

end Protocol

end Rush.Storage
