import Rush.Actor.System

/-! What one step can do. `Access` lists the effects of the accesses of a call,
`TaskStep` what a step of a task is made of: at most one access of the call it is
in, then code that touches only the task's own control and receivers. -/

namespace Rush.Actor

open Rush.Library

namespace World

section Updates

variable (world : World) (path other : ActorPath) (supervisor holder : Supervisor) (child : ActorId)

theorem setSenders_senderOf (senders : ActionsRegistry) :
    (world.setSenders supervisor senders).senderOf holder other =
      if holder = supervisor then senders.lookup other else world.senderOf holder other := by
  by_cases same : holder = supervisor
  · simp [senderOf, setSenders, same]
  · simp [senderOf, setSenders, same]

theorem holdSender_senderOf :
    (world.holdSender supervisor path child).senderOf holder other =
      if holder = supervisor ∧ other = path then some child
      else world.senderOf holder other := by
  rw [holdSender, setSenders_senderOf]
  by_cases same : holder = supervisor
  · by_cases here : other = path
    · rw [if_pos same, if_pos ⟨same, here⟩, here]
      exact Finmap.lookup_insert _
    · rw [if_pos same, if_neg (fun both => here both.2), same]
      exact Finmap.lookup_insert_of_ne _ here
  · rw [if_neg same, if_neg (fun both => same both.1)]

theorem dropSender_senderOf :
    (world.dropSender supervisor path).senderOf holder other =
      if holder = supervisor ∧ other = path then none else world.senderOf holder other := by
  rw [dropSender, setSenders_senderOf]
  by_cases same : holder = supervisor
  · by_cases here : other = path
    · rw [if_pos same, if_pos ⟨same, here⟩, here]
      exact Finmap.lookup_erase _ _
    · rw [if_pos same, if_neg (fun both => here both.2), same]
      exact Finmap.lookup_erase_ne here
  · rw [if_neg same, if_neg (fun both => same both.1)]

theorem setSignals_senderOf (signals : Channel (ActorId × ActorSignal)) :
    (world.setSignals supervisor signals).senderOf holder other = world.senderOf holder other := by
  by_cases same : holder = supervisor
  · simp [senderOf, setSignals, same]
  · simp [senderOf, setSignals, Function.update_of_ne same]

theorem record_senderOf (history : History) :
    (world.record history).senderOf holder other = world.senderOf holder other := rfl

theorem announce_senderOf (signal : ActorSignal) :
    (world.announce child signal).senderOf holder other = world.senderOf holder other := by
  cases signal <;> rfl

end Updates

inductive Access (world : World) (supervisor : Supervisor) : Call → World → Progress → Prop
  | taken {path : ActorPath} {strategy : SupervisionStrategy} (registered : path ∈ world.registry) :
      Access world supervisor (.createActor path strategy) world
        (.return (.failed (alreadyExists path)))
  | spawned {path : ActorPath} {strategy : SupervisionStrategy} (free : path ∉ world.registry) :
      Access world supervisor (.createActor path strategy) (world.spawn path supervisor strategy)
        (.call (.initResult world.actors.length))
  | started {child : ActorId} {runner : ActorRunner} (found : world.actors[child]? = some runner)
      (answer : runner.initAnswer = some none) :
      Access world supervisor (.initResult child) world (.call (.insertEntry child))
  | startFailed {child : ActorId} {error : Error} :
      Access world supervisor (.initResult child) world (.call (.dropEntry child error))
  | entryDropped {child : ActorId} {error : Error} {runner : ActorRunner}
      (found : world.actors[child]? = some runner) :
      Access world supervisor (.dropEntry child error) (world.unregister runner.path)
        (.call (.dropSender child error))
  | senderDropped {child : ActorId} {error : Error} {runner : ActorRunner}
      (found : world.actors[child]? = some runner) :
      Access world supervisor (.dropSender child error) (world.dropSender supervisor runner.path)
        (.return (.failed error))
  | entryInserted {child : ActorId} {runner : ActorRunner}
      (found : world.actors[child]? = some runner) :
      Access world supervisor (.insertEntry child) (world.register runner.path child)
        (.call (.insertSender child))
  | senderInserted {child : ActorId} {runner : ActorRunner}
      (found : world.actors[child]? = some runner) :
      Access world supervisor (.insertSender child)
        ((world.holdSender supervisor runner.path child).record
          { world.history with created := child :: world.history.created })
        (.return (.created child))
  | noChildren {parent : ActorPath} (empty : world.getChilds parent = ∅) :
      Access world supervisor (.stopChildren parent) world (.return (.children false))
  | someChildren {parent : ActorPath} (nonempty : world.getChilds parent ≠ ∅) :
      Access world supervisor (.stopChildren parent) world (.call (.stopListed parent))
  | listed {parent : ActorPath} {paths : List ActorPath} (nodup : paths.Nodup)
      (every : paths.toFinset = world.getChilds parent) :
      Access world supervisor (.stopListed parent) world (stopNext (some paths))
  | entryTaken {path : ActorPath} {rest : Option (List ActorPath)} :
      Access world supervisor (.stopChild path rest) (world.unregister path)
        (.call (.takeSender path rest))
  | noSender {path : ActorPath} {rest : Option (List ActorPath)}
      (absent : world.senderOf supervisor path = none) :
      Access world supervisor (.takeSender path rest) world
        (.return (.failed (notFoundForStopping path)))
  | senderTaken {path : ActorPath} {rest : Option (List ActorPath)} {child : ActorId}
      (held : world.senderOf supervisor path = some child) :
      Access world supervisor (.takeSender path rest) (world.dropSender supervisor path)
        (.call (.sendStop child rest))
  | stopRefused {child : ActorId} {rest : Option (List ActorPath)}
      (gone : world.finished child = true) :
      Access world supervisor (.sendStop child rest) world
        (.return (.failed (closedChannel "Failed to send stop action to child")))
  | stopSent {child : ActorId} {rest : Option (List ActorPath)} {actions : Channel ChildAction}
      (sent : (world.actions child).send .stop = some actions) :
      Access world supervisor (.sendStop child rest)
        ((world.setActions child actions).record
          { world.history with stopSent := child :: world.history.stopSent })
        (stopNext rest)
  | restartListed {children : List ActorId}
      (every : (children : Multiset ActorId) =
        (world.handlers supervisor).actionSenders.entries.map Sigma.snd) :
      Access world supervisor .restartChildren world (restartNext children)
  | restartRefused {child : ActorId} {rest : List ActorId} (gone : world.finished child = true) :
      Access world supervisor (.sendRestart child rest) world
        (.return (.failed (closedChannel "Failed to send restart action to child")))
  | restartSent {child : ActorId} {rest : List ActorId} {actions : Channel ChildAction}
      (sent : (world.actions child).send .restart = some actions) :
      Access world supervisor (.sendRestart child rest) (world.setActions child actions)
        (restartNext rest)
  | childRemoved {path : ActorPath} {emitter : Option ActorId} :
      Access world supervisor (.removeChild path emitter)
        ((world.unregister path).record
          { world.history with processed := emitter.toList ++ world.history.processed })
        (.call (.removeSender path))
  | senderRemoved {path : ActorPath} :
      Access world supervisor (.removeSender path) (world.dropSender supervisor path)
        (.return .done)
  | childsCounted {parent : ActorPath} :
      Access world supervisor (.hasChilds parent) world
        (.return (.children (decide (world.getChilds parent ≠ ∅))))
  | emitRefused {child : ActorId} {signal : ActorSignal} {runner : ActorRunner}
      (found : world.actors[child]? = some runner)
      (closed : world.signalsClosed runner.supervisor = true) :
      Access world supervisor (.emit child signal) (world.announce child signal)
        (.return (.failed (closedChannel (emitContext signal))))
  | emitted {child : ActorId} {signal : ActorSignal} {runner : ActorRunner}
      {signals : Channel (ActorId × ActorSignal)} (found : world.actors[child]? = some runner)
      (sent : (world.handlers runner.supervisor).signals.send (child, signal) = some signals) :
      Access world supervisor (.emit child signal)
        ((world.announce child signal).setSignals runner.supervisor signals) (.return .done)

theorem callStep_access {world next : World} {supervisor : Supervisor} {choice : Choice}
    {call : Call} {progress : Progress}
    (taken : world.callStep supervisor choice call = some (next, progress)) :
    Access world supervisor call next progress := by
  cases call with
  | createActor path strategy =>
      simp only [callStep] at taken
      split at taken
      case isTrue registered =>
        cases taken
        exact .taken registered
      case isFalse free =>
        cases taken
        exact .spawned free
  | initResult child =>
      obtain ⟨runner, found, taken⟩ := Option.bind_eq_some_iff.mp taken
      split at taken
      case h_1 answer =>
        cases taken
        exact .started found answer
      case h_2 =>
        cases taken
        exact .startFailed
      case h_3 =>
        split at taken
        · cases taken
          exact .startFailed
        · cases taken
  | dropEntry child error =>
      obtain ⟨runner, found, taken⟩ := Option.bind_eq_some_iff.mp taken
      cases taken
      exact .entryDropped found
  | dropSender child error =>
      obtain ⟨runner, found, taken⟩ := Option.bind_eq_some_iff.mp taken
      cases taken
      exact .senderDropped found
  | insertEntry child =>
      obtain ⟨runner, found, taken⟩ := Option.bind_eq_some_iff.mp taken
      cases taken
      exact .entryInserted found
  | insertSender child =>
      obtain ⟨runner, found, taken⟩ := Option.bind_eq_some_iff.mp taken
      cases taken
      exact .senderInserted found
  | stopChildren parent =>
      simp only [callStep] at taken
      split at taken
      case isTrue empty =>
        cases taken
        exact .noChildren empty
      case isFalse nonempty =>
        cases taken
        exact .someChildren nonempty
  | stopListed parent =>
      cases choice with
      | order paths =>
          simp only [callStep, Option.ite_none_right_eq_some] at taken
          obtain ⟨⟨nodup, every⟩, taken⟩ := taken
          cases taken
          exact .listed nodup every
      | _ => cases taken
  | stopChild path rest =>
      cases taken
      exact .entryTaken
  | takeSender path rest =>
      cases held : world.senderOf supervisor path with
      | none =>
          simp only [callStep, held] at taken
          cases taken
          exact .noSender held
      | some child =>
          simp only [callStep, held] at taken
          cases taken
          exact .senderTaken held
  | sendStop child rest =>
      simp only [callStep] at taken
      split at taken
      case isTrue gone =>
        cases taken
        exact .stopRefused gone
      case isFalse =>
        obtain ⟨actions, sent, taken⟩ := Option.bind_eq_some_iff.mp taken
        cases taken
        exact .stopSent sent
  | restartChildren =>
      cases choice with
      | senders children =>
          simp only [callStep, Option.ite_none_right_eq_some] at taken
          obtain ⟨every, taken⟩ := taken
          cases taken
          exact .restartListed every
      | _ => cases taken
  | sendRestart child rest =>
      simp only [callStep] at taken
      split at taken
      case isTrue gone =>
        cases taken
        exact .restartRefused gone
      case isFalse =>
        obtain ⟨actions, sent, taken⟩ := Option.bind_eq_some_iff.mp taken
        cases taken
        exact .restartSent sent
  | removeChild path emitter =>
      cases taken
      exact .childRemoved
  | removeSender path =>
      cases taken
      exact .senderRemoved
  | hasChilds parent =>
      cases taken
      exact .childsCounted
  | emit child signal =>
      obtain ⟨runner, found, taken⟩ := Option.bind_eq_some_iff.mp taken
      split at taken
      case isTrue closed =>
        cases taken
        exact .emitRefused found closed
      case isFalse =>
        obtain ⟨signals, sent, taken⟩ := Option.bind_eq_some_iff.mp taken
        cases taken
        exact .emitted found sent

end World

end Rush.Actor
