import Rush.Actor.Senders

/-! The action channels. A supervisor sends an actor at most one Stop and nothing
after it, so an actor that has taken its Stop finds its channel empty for good. -/

namespace Rush.Actor

open Rush.Library Runs

namespace World

structure StopsLast (world : World) (id : ActorId) : Prop where
  unsent : id ∉ world.history.stopSent →
    .stop ∉ (world.actions id).queue ∧ world.stopTaken id = false
  final : FinalOnly .stop (world.actions id).queue
  emptied : world.stopTaken id = true → (world.actions id).queue = []

structure Custodial (world : World) : Prop where
  exclusive : world.custody.Exclusive
  labelled : world.Labelled
  borrowed : world.Borrowed
  stopsLast : ∀ id, world.StopsLast id

variable {world next after : World} {label : Label} {task : Task}

inductive ActionEffect (world next : World) : Call → Prop
  | none {call : Call} (actions : next.actions = world.actions)
      (sent : next.history.stopSent = world.history.stopSent) : ActionEffect world next call
  | send {call : Call} (child : ActorId) (action : ChildAction)
      (calling : action = .stop ∧ call.carries = some child ∨
        action = .restart ∧ ∃ rest, call = .sendRestart child rest)
      (queue : (next.actions child).queue = (world.actions child).queue ++ [action])
      (others : ∀ id, id ≠ child → next.actions id = world.actions id)
      (sent : ∀ id, id ∈ next.history.stopSent ↔
        action = .stop ∧ id = child ∨ id ∈ world.history.stopSent) :
      ActionEffect world next call

theorem setActions_queue (world : World) (child : ActorId) {actions : Channel ChildAction}
    {action : ChildAction} (sent : (world.actions child).send action = some actions) :
    ((world.setActions child actions).actions child).queue =
      (world.actions child).queue ++ [action] := by
  have queue := Channel.send_queue sent
  simpa [setActions] using queue

theorem Access.actionEffect {supervisor : Supervisor} {call : Call} {progress : Progress}
    (access : Access world supervisor call next progress) : ActionEffect world next call := by
  cases access with
  | @stopSent child rest actions sent =>
      refine .send child .stop (.inl ⟨rfl, rfl⟩) (setActions_queue world child sent) ?_ ?_
      · exact fun id other => Function.update_of_ne other _ _
      · intro id
        simp [record]
  | @restartSent child rest actions sent =>
      refine .send child .restart (.inr ⟨rfl, rest, rfl⟩) (setActions_queue world child sent) ?_ ?_
      · exact fun id other => Function.update_of_ne other _ _
      · intro id
        simp [setActions]
  | @emitRefused child signal => cases signal <;> exact .none rfl rfl
  | @emitted child signal => cases signal <;> exact .none rfl rfl
  | _ => exact .none rfl rfl

theorem Access.stopTaken {supervisor : Supervisor} {call : Call} {progress : Progress}
    (access : Access world supervisor call next progress) (id : ActorId) :
    next.stopTaken id = world.stopTaken id := by
  rcases access.actors with same | ⟨path, strategy, _, added⟩
  · rw [World.stopTaken, World.stopTaken, same]
  · rw [World.stopTaken, World.stopTaken, added]
    rcases lt_trichotomy id world.actors.length with below | here | above
    · rw [List.getElem?_append_left below]
    · simp [here, ActorRunner.new]
    · rw [List.getElem?_eq_none (Nat.le_of_lt above), List.getElem?_eq_none]
      rw [List.length_append, List.length_singleton]
      exact above

theorem Custodial.unsent (custodial : world.Custodial) {call : Call} {child : ActorId}
    (calling : world.callOf task = some call)
    (sends : call.carries = some child ∨ ∃ rest, call = .sendRestart child rest) :
    child ∉ world.history.stopSent := by
  rcases sends with carries | ⟨rest, rfl⟩
  · exact custodial.exclusive.unspent (.hand task) child
      (by simp [custody, held, calling, carries])
  · obtain ⟨_, every⟩ := custodial.borrowed.held task child rest calling
    obtain ⟨path, found⟩ := every child List.mem_cons_self
    exact custodial.exclusive.unspent (.shelf task.supervisor path) child found

theorem access_stopsLast {call : Call} {progress : Progress} (custodial : world.Custodial)
    (calling : world.callOf task = some call)
    (access : Access world task.supervisor call next progress) (id : ActorId) :
    next.StopsLast id := by
  have before := custodial.stopsLast id
  have taken := access.stopTaken id
  cases access.actionEffect with
  | none actions sent =>
      constructor
      case unsent => rw [actions, sent, taken]; exact before.unsent
      case final => rw [actions]; exact before.final
      case emptied => rw [actions, taken]; exact before.emptied
  | send child action sends queue others sent =>
      have unsent := custodial.unsent calling (sends.imp And.right And.right)
      by_cases here : id = child
      · subst here
        obtain ⟨absent, untaken⟩ := before.unsent unsent
        constructor
        case unsent =>
          intro notSent
          refine ⟨?_, by rw [taken, untaken]⟩
          rw [queue, List.mem_append, List.mem_singleton]
          rintro (old | same)
          · exact absent old
          · exact notSent ((sent id).mpr (.inl ⟨same.symm, rfl⟩))
        case final =>
          rw [queue]
          cases action with
          | stop => exact finalOnly_send absent
          | restart =>
              apply finalOnly_of_absent
              rw [List.mem_append, List.mem_singleton]
              rintro (old | same)
              · exact absent old
              · cases same
        case emptied => rw [taken, untaken]; exact nofun
      · constructor
        case unsent =>
          intro notSent
          rw [others id here, taken]
          exact before.unsent fun old => notSent ((sent id).mpr (.inr old))
        case final => rw [others id here]; exact before.final
        case emptied => rw [others id here, taken]; exact before.emptied

theorem follows_stopsLast (follows : Follows task next after) {id : ActorId}
    (before : next.StopsLast id) : after.StopsLast id := by
  rcases follows.queues id with ⟨actions, taken⟩ | ⟨action, queue, taken⟩
  · constructor
    case unsent => rw [actions, taken, follows.history]; exact before.unsent
    case final => rw [actions]; exact before.final
    case emptied => rw [actions, taken]; exact before.emptied
  · constructor
    case unsent =>
      rw [follows.history]
      intro notSent
      obtain ⟨absent, untaken⟩ := before.unsent notSent
      rw [queue, List.mem_cons, not_or] at absent
      exact ⟨absent.2, by simp [taken, untaken, Ne.symm absent.1]⟩
    case final =>
      have final := before.final
      rw [queue] at final
      exact finalOnly_receive final
    case emptied =>
      intro stopped
      rw [taken, Bool.or_eq_true] at stopped
      rcases stopped with old | stop
      · exact absurd (before.emptied old) (by rw [queue]; exact nofun)
      · have final := before.final
        rw [queue, of_decide_eq_true stop] at final
        exact finalOnly_front final

theorem new_custodial (config : Config) : (new config).Custodial := by
  constructor
  case exclusive => exact new_exclusive config
  case labelled => exact fun place id found => nomatch (new_held config place).symm.trans found
  case borrowed =>
    constructor
    case begun => exact fun task calling => nomatch (new_callOf config task).symm.trans calling
    case held => exact fun task _ _ calling => nomatch (new_callOf config task).symm.trans calling
  case stopsLast =>
    intro id
    constructor
    case unsent => exact fun _ => ⟨nofun, rfl⟩
    case final => exact finalOnly_of_absent nofun
    case emptied => exact fun _ => rfl

theorem step_custodial (custodial : world.Custodial) (taken : step world label = some after) :
    after.Custodial := by
  constructor
  case exclusive => exact Custody.exclusive_steps custodial.exclusive (step_custody taken)
  case labelled => exact step_labelled custodial.labelled taken
  case borrowed => exact step_borrowed custodial.borrowed taken
  case stopsLast =>
    intro id
    cases label with
    | cancel =>
        cases taken
        have before := custodial.stopsLast id
        exact ⟨before.unsent, before.final, before.emptied⟩
    | task task choice =>
        cases step_task taken with
        | access calling access follows continues =>
            exact follows_stopsLast follows (access_stopsLast custodial calling access id)
        | own idle follows begins => exact follows_stopsLast follows (custodial.stopsLast id)

theorem custodial_reached {allowed : World → Label → Prop}
    (reached : Guarded step Initial allowed world) : world.Custodial := by
  refine guarded_invariant Custodial ?_ ?_ reached
  · rintro world ⟨config, rfl⟩
    exact new_custodial config
  · intro world label after custodial _ taken
    exact step_custodial custodial taken

theorem Custodial.no_action (custodial : world.Custodial) {id : ActorId} {action : ChildAction}
    {actions : Channel ChildAction} (stopped : world.stopTaken id = true)
    (received : (world.actions id).receive = some (action, actions)) : False := by
  have front := Channel.receive_queue received
  rw [(custodial.stopsLast id).emptied stopped] at front
  cases front

end World

end Rush.Actor
