import Rush.Library.ExchangeWaits
import Rush.Actor.Abandoned

/-! The messages of the actor system: `HandlerHelper` and `ActorRef` on the side of the
sender, the mailbox arm of `run` and `ActorMessage::handle` on the side of the actor. The
tasks are those of the system; what their user code sends, and what a handler answers, is
left to the environment. -/

namespace Rush.Actor

open Rush.Library Runs

/-- The two parts of an `ActorMessage` that a handler sees. -/
structure Envelope (M : Type) where
  sender : ActorPath
  msg : M
  deriving DecidableEq

/-- `ActorMessage`: `reply` says whether `resp` holds the sending end of a oneshot channel. -/
abbrev ActorMessage (M : Type) := Letter (Envelope M)

/-- What `HandlerHelper::tell` returns when its send has ended. -/
def tellReturns {R : Type} : Ending (Except Error R) → Option (Except Error Unit)
  | .told => some (.ok ())
  | .refused => some (actorMessage (.error "channel closed") "Failed to tell message")
  | _ => none

/-- What `HandlerHelper::ask` returns; nothing when its future is dropped. -/
def askReturns {R : Type} : Ending (Except Error R) → Option (Except Error R)
  | .refused => some (actorMessage (.error "channel closed") "Failed to ask message")
  | .dropped => some (actorMessage (.error "channel closed") "Response channel closed")
  | .answered result => some result
  | _ => none

/-- The runner is in its actor's `handle`, or in a call that `handle` makes. -/
def ActorRunner.serves (runner : ActorRunner) : Bool :=
  match runner.control with
  | .hook .handle | .calling _ (.hook .handle) => true
  | _ => false

namespace World

def userCode (world : World) : Task → Bool
  | .actor id =>
      world.actors[id]?.any fun runner =>
        match runner.control with
        | .hook _ => true
        | _ => false
  | .runner => false
  | .client id => (world.clients id).isNone

/-- `handle` is about to return in the task of the actor. -/
def handles (world : World) (id : ActorId) : Bool :=
  world.actors[id]?.any fun runner => runner.control = .hook .handle

def answers (world : World) : Label → Bool
  | .task (.actor id) (.returns _) => world.handles id
  | _ => false

def leaver (after : World) : Label → Option ActorId
  | .task (.actor id) _ => if after.finished id then some id else none
  | _ => none

end World

structure Messaging (M R : Type) where
  world : World
  mail : Exchange ActorId Task (Envelope M) (Except Error R)

namespace Messaging

inductive Label (M R : Type) where
  | world (label : World.Label)
  /-- `handle` returns, and `resp` is sent if there is one. -/
  | handled (id : ActorId) (result : Except Error R)
  | tell (task : Task) (target : ActorId) (msg : M)
  | ask (task : Task) (target : ActorId) (msg : M)
  /-- The `send` of a `tell` or an `ask` ends. -/
  | sends (task : Task)
  /-- The wait for `response_receiver` ends. -/
  | responds (task : Task)
  /-- The future that waits is dropped, as by a timeout. -/
  | drops (task : Task)

variable {M R : Type}

def Label.Performs (label : Label M R) :
    Op ActorId Task (Envelope M) (Except Error R) → Prop
  | .issue task target body resp =>
      label = if resp then .ask task target body.msg else .tell task target body.msg
  | .post task => label = .sends task
  | .take id => label = .world (.task (.actor id) .message)
  | .answer id result => label = .handled id result
  | .close id => ∃ choice, label = .world (.task (.actor id) choice)
  | .collect task => label = .responds task
  | .withdraw task => label = .drops task

def new (config : Config) (mailboxSize : Nat) : Messaging M R :=
  { world := .new config, mail := .new mailboxSize }

def Initial (state : Messaging M R) : Prop :=
  ∃ config mailboxSize, 0 < mailboxSize ∧ state = new config mailboxSize

def idle (state : Messaging M R) (task : Task) : Bool := (state.mail.awaiting task).isNone

/-- `ActorRef::tell` and `ActorRef::ask`: the reference puts its own path where
`HandlerHelper` takes the sender's. -/
def issue (state : Messaging M R) (task : Task) (target : ActorId) (msg : M) (resp : Bool) :
    Option (Messaging M R) := do
  let runner ← state.world.actors[target]?
  let mail ← state.mail.apply (.issue task target ⟨runner.path, msg⟩ resp)
  some { state with mail }

/-- What a step of the system does to the mailboxes: a `select!` that takes a message
receives it, and a task that is gone drops its mailbox. -/
def follow (state : Messaging M R) (label : World.Label) (after : World) :
    Option (Messaging M R) :=
  match state.world.receiver label, after.leaver label with
  | some id, _ => (state.mail.apply (.take id)).map fun mail => { world := after, mail }
  | none, some id => (state.mail.apply (.close id)).map fun mail => { world := after, mail }
  | none, none => some { state with world := after }

def step (state : Messaging M R) : Label M R → Option (Messaging M R)
  | .world label =>
      if label.task?.all state.idle && !state.world.answers label then
        (state.world.step label).bind (state.follow label)
      else none
  | .handled id result =>
      if state.world.handles id && state.idle (.actor id) then do
        let world ← state.world.step (.task (.actor id) (.returns (result.map fun _ => ())))
        let mail ← state.mail.apply (.answer id result)
        some { world, mail }
      else none
  | .tell task target msg =>
      if state.world.userCode task then state.issue task target msg false else none
  | .ask task target msg =>
      if state.world.userCode task then state.issue task target msg true else none
  | .sends task => (state.mail.apply (.post task)).map fun mail => { state with mail }
  | .responds task => (state.mail.apply (.collect task)).map fun mail => { state with mail }
  | .drops task => (state.mail.apply (.withdraw task)).map fun mail => { state with mail }

inductive Moves (state : Messaging M R) : Label M R → Messaging M R → Prop
  | runs {label : World.Label} {after : World} (idle : ∀ task, label.task? = some task →
        state.mail.awaiting task = none)
      (other : state.world.answers label = false) (taken : state.world.step label = some after)
      (receives : state.world.receiver label = none) (stays : after.leaver label = none) :
      Moves state (.world label) { state with world := after }
  | takes {id : ActorId} {after : World} {mail : Exchange ActorId Task (Envelope M) (Except Error R)}
      (idle : state.mail.awaiting (.actor id) = none)
      (selects : state.world.selects (.actor id) = true)
      (taken : state.world.step (.task (.actor id) .message) = some after)
      (applied : state.mail.apply (.take id) = some mail) :
      Moves state (.world (.task (.actor id) .message)) { world := after, mail }
  | leaves {id : ActorId} {choice : World.Choice} {after : World}
      {mail : Exchange ActorId Task (Envelope M) (Except Error R)}
      (idle : state.mail.awaiting (.actor id) = none)
      (taken : state.world.step (.task (.actor id) choice) = some after)
      (receives : state.world.receiver (.task (.actor id) choice) = none)
      (ended : after.finished id = true)
      (applied : state.mail.apply (.close id) = some mail) :
      Moves state (.world (.task (.actor id) choice)) { world := after, mail }
  | answers {id : ActorId} {result : Except Error R} {after : World}
      {mail : Exchange ActorId Task (Envelope M) (Except Error R)}
      (handles : state.world.handles id = true) (idle : state.mail.awaiting (.actor id) = none)
      (taken : state.world.step (.task (.actor id) (.returns (result.map fun _ => ()))) = some after)
      (applied : state.mail.apply (.answer id result) = some mail) :
      Moves state (.handled id result) { world := after, mail }
  | sends {label : Label M R} {task : Task} {target : ActorId} {msg : M} {resp : Bool}
      {runner : ActorRunner} {mail : Exchange ActorId Task (Envelope M) (Except Error R)}
      (labelled : label = if resp then .ask task target msg else .tell task target msg)
      (runs : state.world.userCode task = true)
      (found : state.world.actors[target]? = some runner)
      (applied : state.mail.apply (.issue task target ⟨runner.path, msg⟩ resp) = some mail) :
      Moves state label { state with mail }
  | waits {label : Label M R} {op : Op ActorId Task (Envelope M) (Except Error R)}
      {mail : Exchange ActorId Task (Envelope M) (Except Error R)} (task : Task)
      (own : label = .sends task ∧ op = .post task ∨ label = .responds task ∧ op = .collect task ∨
        label = .drops task ∧ op = .withdraw task)
      (applied : state.mail.apply op = some mail) : Moves state label { state with mail }

theorem issue_moves {state after : Messaging M R} {task : Task} {target : ActorId} {msg : M}
    {resp : Bool} (issued : state.issue task target msg resp = some after) :
    ∃ runner mail, state.world.actors[target]? = some runner ∧
      state.mail.apply (.issue task target ⟨runner.path, msg⟩ resp) = some mail ∧
      after = { state with mail } := by
  obtain ⟨runner, found, issued⟩ := Option.bind_eq_some_iff.mp issued
  obtain ⟨mail, applied, issued⟩ := Option.bind_eq_some_iff.mp issued
  exact ⟨runner, mail, found, applied, (Option.some.inj issued).symm⟩

theorem receiver_label {world : World} {label : World.Label} {id : ActorId}
    (receives : world.receiver label = some id) :
    label = .task (.actor id) .message ∧ world.selects (.actor id) = true := by
  cases label with
  | cancel => cases receives
  | task task choice =>
      obtain rfl := World.receiver_task receives
      cases choice with
      | message =>
          rw [World.receiver, Option.ite_none_right_eq_some] at receives
          exact ⟨rfl, receives.1⟩
      | _ => cases receives

theorem leaver_label {after : World} {label : World.Label} {id : ActorId}
    (leaves : after.leaver label = some id) :
    (∃ choice, label = .task (.actor id) choice) ∧ after.finished id = true := by
  cases label with
  | cancel => cases leaves
  | task task choice =>
      cases task with
      | actor other =>
          rw [World.leaver, Option.ite_none_right_eq_some] at leaves
          obtain ⟨ended, same⟩ := leaves
          obtain rfl := Option.some.inj same
          exact ⟨⟨choice, rfl⟩, ended⟩
      | runner | client => cases leaves

theorem step_moves {state after : Messaging M R} {label : Label M R}
    (taken : state.step label = some after) : state.Moves label after := by
  cases label with
  | world label =>
      rw [step, Option.ite_none_right_eq_some, Bool.and_eq_true, Bool.not_eq_true'] at taken
      obtain ⟨⟨free, other⟩, taken⟩ := taken
      obtain ⟨world, moved, taken⟩ := Option.bind_eq_some_iff.mp taken
      have idle (task : Task) (acts : label.task? = some task) :
          state.mail.awaiting task = none := by
        rw [acts, Option.all_some] at free
        exact Option.isNone_iff_eq_none.mp free
      rw [follow] at taken
      split at taken
      case h_1 id _ receives =>
        obtain ⟨mail, applied, rfl⟩ := Option.map_eq_some_iff.mp taken
        obtain ⟨rfl, selects⟩ := receiver_label receives
        exact .takes (idle _ rfl) selects moved applied
      case h_2 id receives leaves =>
        obtain ⟨mail, applied, rfl⟩ := Option.map_eq_some_iff.mp taken
        obtain ⟨⟨choice, rfl⟩, ended⟩ := leaver_label leaves
        exact .leaves (idle _ rfl) moved receives ended applied
      case h_3 receives stays =>
        cases taken
        exact .runs idle other moved receives stays
  | handled id result =>
      rw [step, Option.ite_none_right_eq_some, Bool.and_eq_true] at taken
      obtain ⟨⟨handles, free⟩, taken⟩ := taken
      obtain ⟨world, moved, taken⟩ := Option.bind_eq_some_iff.mp taken
      obtain ⟨mail, applied, taken⟩ := Option.bind_eq_some_iff.mp taken
      cases taken
      exact .answers handles (Option.isNone_iff_eq_none.mp free) moved applied
  | tell task target msg =>
      rw [step, Option.ite_none_right_eq_some] at taken
      obtain ⟨runner, mail, found, applied, rfl⟩ := issue_moves taken.2
      exact @Moves.sends M R state (.tell task target msg) task target msg false runner mail rfl
        taken.1 found applied
  | ask task target msg =>
      rw [step, Option.ite_none_right_eq_some] at taken
      obtain ⟨runner, mail, found, applied, rfl⟩ := issue_moves taken.2
      exact @Moves.sends M R state (.ask task target msg) task target msg true runner mail rfl
        taken.1 found applied
  | sends task =>
      obtain ⟨mail, applied, rfl⟩ := Option.map_eq_some_iff.mp taken
      exact .waits task (.inl ⟨rfl, rfl⟩) applied
  | responds task =>
      obtain ⟨mail, applied, rfl⟩ := Option.map_eq_some_iff.mp taken
      exact .waits task (.inr (.inl ⟨rfl, rfl⟩)) applied
  | drops task =>
      obtain ⟨mail, applied, rfl⟩ := Option.map_eq_some_iff.mp taken
      exact .waits task (.inr (.inr ⟨rfl, rfl⟩)) applied

end Messaging

end Rush.Actor
