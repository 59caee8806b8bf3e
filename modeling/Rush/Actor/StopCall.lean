import Rush.Actor.Registration

/-! One `stop_child` or `stop_children` call, followed from its beginning to its return
while all the other tasks go on. -/

namespace Rush.Actor

open Rush.Library Runs

namespace World

variable {world after next : World} {task : Task} {call : Call} {label : Label}

theorem getChilds_of_lookup {path parent : ActorPath} {child : ActorId}
    (entry : world.registry.lookup path = some child) (below : path.parent = parent) :
    path ∈ world.getChilds parent := by
  rw [getChilds, Finset.mem_filter, Finmap.mem_keys]
  exact ⟨Finmap.mem_of_lookup_eq_some entry, below⟩

theorem step_calls {choice : Choice} (taken : step world (.task task choice) = some after)
    (calling : world.callOf task = some call) :
    ∃ next progress, world.callStep task.supervisor choice call = some (next, progress) ∧
      Follows task next after ∧ progress.Continues task (after.callOf task) := by
  cases task with
  | client id =>
      have within : world.clients id = some call := calling
      simp only [step, clientStep, within] at taken
      obtain ⟨⟨next, progress⟩, access, taken⟩ := Option.bind_eq_some_iff.mp taken
      cases taken
      exact ⟨next, progress, access, setClient_follows _ _ _, setClient_continues _ id progress⟩
  | runner =>
      have inCall : world.runner.control.call? = some call := calling
      cases within : world.runner.control with
      | calling current point =>
          rw [within] at inCall
          cases inCall
          simp only [step, runnerStep, within] at taken
          obtain ⟨⟨next, progress⟩, access, taken⟩ := Option.bind_eq_some_iff.mp taken
          cases taken
          exact ⟨next, progress, access, setSystemRunner_follows _ _,
            runner_continues world.runner next point progress⟩
      | _ =>
          rw [within] at inCall
          cases inCall
  | actor id =>
      obtain ⟨runner, found, inCall⟩ := Option.bind_eq_some_iff.mp calling
      simp only [step, actorStep, found, Option.bind_eq_bind, Option.bind_some] at taken
      cases within : runner.control with
      | calling current point =>
          rw [within] at inCall
          cases inCall
          simp only [within] at taken
          obtain ⟨⟨next, progress⟩, access, taken⟩ := Option.bind_eq_some_iff.mp taken
          cases taken
          obtain ⟨follows, continues⟩ :=
            proceed_follows ((callStep_access access).lookup found) within progress
          exact ⟨next, progress, access, follows, continues⟩
      | _ =>
          rw [within] at inCall
          cases inCall

end World

/-- A stopping call: where it is and what it has done. -/
structure StopCall where
  world : World
  progress : Progress
  /-- The children it has listed, under their paths. -/
  listed : ActorPath → Option ActorId := fun _ => none
  /-- The running actors whose registry entries it has removed. -/
  removed : List ActorId := []
  /-- The actors it has sent a Stop. -/
  asked : List ActorId := []

namespace StopCall

open World

def note (stop : StopCall) : Call → StopCall
  | .stopListed parent =>
      { stop with
        listed := fun path => if path.parent = parent then stop.world.registry.lookup path else none }
  | .stopChild path _ =>
      { stop with
        removed := (stop.world.registry.lookup path).toList.filter
          (fun child => !stop.world.finished child) ++ stop.removed }
  | .sendStop child _ =>
      if stop.world.finished child then stop else { stop with asked := child :: stop.asked }
  | _ => stop

def step (task : Task) (stop : StopCall) (label : Label) : Option StopCall :=
  match stop.progress, label with
  | .call call, .task owner choice => do
      let after ← stop.world.step (.task owner choice)
      if owner = task then do
        let (_, progress) ← stop.world.callStep task.supervisor choice call
        some { stop.note call with world := after, progress }
      else some { stop with world := after }
  | .call _, .cancel => do
      let after ← stop.world.step .cancel
      some { stop with world := after }
  | .return _, _ => none

/-- The start of a call by `stop_child` or `stop_children`. -/
inductive Stopping : Call → Prop
  | child (path : ActorPath) : Stopping (.stopChild path none)
  | children (parent : ActorPath) : Stopping (.stopChildren parent)

/-- The task begins such a call in a state that can be reached. -/
def Begins (task : Task) (calls : Call → Prop) (stop : StopCall) : Prop :=
  ∃ world call, Reachable World.step Initial world ∧ calls call ∧
    world.callOf task = some call ∧ stop = { world, progress := .call call }

def left : Progress → List ActorPath
  | .call (.stopChild path (some rest)) | .call (.takeSender path (some rest)) => path :: rest
  | .call (.sendStop _ (some rest)) => rest
  | _ => []

def sending : Progress → Option ActorId
  | .call (.sendStop child _) => some child
  | _ => none

def Point : Call → Prop
  | .stopChildren _ | .stopListed _ | .stopChild _ _ | .takeSender _ _ | .sendStop _ _ => True
  | _ => False

inductive Moves (task : Task) (stop : StopCall) (label : Label) (after : StopCall) : Prop
  | own {call : Call} {next : World} {choice : Choice} {progress : Progress}
      (labelled : label = .task task choice) (taken : stop.world.step label = some after.world)
      (within : stop.progress = .call call)
      (access : Access stop.world task.supervisor call next progress)
      (follows : Follows task next after.world)
      (continues : progress.Continues task (after.world.callOf task))
      (noted : after = { stop.note call with world := after.world, progress })
  | other (apart : label.task? ≠ some task) (taken : stop.world.step label = some after.world)
      (same : after = { stop with world := after.world })

variable {task : Task} {stop after : StopCall} {label : Label}

theorem step_moves (inCall : ∀ call, stop.progress = .call call → stop.world.callOf task = some call)
    (taken : step task stop label = some after) : Moves task stop label after := by
  cases within : stop.progress with
  | «return» outcome =>
      simp only [step, within] at taken
      cases taken
  | call call =>
      cases label with
      | cancel =>
          simp only [step, within] at taken
          obtain ⟨world, moved, taken⟩ := Option.bind_eq_some_iff.mp taken
          cases taken
          exact .other nofun moved (by simp only [within])
      | task owner choice =>
          simp only [step, within] at taken
          obtain ⟨world, moved, taken⟩ := Option.bind_eq_some_iff.mp taken
          by_cases own : owner = task
          · subst own
            rw [if_pos rfl] at taken
            obtain ⟨⟨reached, progress⟩, accessed, taken⟩ := Option.bind_eq_some_iff.mp taken
            cases taken
            obtain ⟨next, went, access, follows, continues⟩ := step_calls moved (inCall call within)
            rw [accessed] at access
            cases access
            exact .own rfl moved within (callStep_access accessed) follows continues rfl
          · rw [if_neg own] at taken
            cases taken
            exact .other (fun same => own (Option.some.inj same)) moved (by simp only [within])

theorem access_point {world next : World} {supervisor : Supervisor} {call goesOn : Call}
    (point : Point call) (access : Access world supervisor call next (.call goesOn)) :
    Point goesOn := by
  cases access.leadsTo with
  | counted | firstStop | entryTaken | senderTaken | nextStop => trivial
  | _ => exact point.elim

structure Tracked (task : Task) (stop : StopCall) : Prop where
  inCall : ∀ call, stop.progress = .call call → stop.world.callOf task = some call
  point : ∀ call, stop.progress = .call call → Point call
  known : stop.world.Known
  listed : ∀ path child, stop.listed path = some child → child < stop.world.actors.length

theorem begins_tracked {calls : Call → Prop} (stops : ∀ call, calls call → Stopping call)
    (begins : Begins task calls stop) : Tracked task stop := by
  obtain ⟨world, call, reached, begun, calling, rfl⟩ := begins
  constructor
  case inCall =>
    rintro _ ⟨⟩
    exact calling
  case point =>
    rintro _ ⟨⟩
    cases stops call begun <;> trivial
  case known => exact known_reached reached
  case listed => exact nofun

theorem Moves.world_step (moves : Moves task stop label after) :
    stop.world.step label = some after.world := by
  cases moves with
  | own _ taken => exact taken
  | other _ taken => exact taken

theorem note_keeps_listed {call : Call} (otherwise : ∀ parent, call ≠ .stopListed parent) :
    (stop.note call).listed = stop.listed := by
  cases call with
  | stopListed parent => exact absurd rfl (otherwise parent)
  | sendStop child rest =>
      rw [note]
      split <;> rfl
  | _ => rfl

theorem note_listed {call : Call} {path : ActorPath} {child : ActorId}
    (listed : (stop.note call).listed path = some child) :
    stop.listed path = some child ∨ stop.world.registry.lookup path = some child := by
  by_cases listing : ∃ parent, call = .stopListed parent
  · right
    obtain ⟨parent, rfl⟩ := listing
    simp only [note, Option.ite_none_right_eq_some] at listed
    exact listed.2
  · left
    rw [note_keeps_listed fun parent here => listing ⟨parent, here⟩] at listed
    exact listed

theorem step_tracked (tracked : Tracked task stop) (taken : step task stop label = some after) :
    Tracked task after := by
  have moves := step_moves tracked.inCall taken
  have moved := moves.world_step
  have size := step_size moved
  cases moves with
  | @own call next choice progress labelled _ within access follows continues noted =>
      rw [noted]
      constructor
      case inCall =>
        rintro goesOn ⟨⟩
        exact continues
      case point =>
        rintro goesOn ⟨⟩
        exact access_point (tracked.point call within) access
      case known => exact step_known tracked.known moved
      case listed =>
        intro path child listed
        rcases note_listed listed with before | entry
        · exact Nat.lt_of_lt_of_le (tracked.listed path child before) size
        · exact Nat.lt_of_lt_of_le (tracked.known.entries path child entry) size
  | other apart _ same =>
      rw [same]
      constructor
      case inCall =>
        intro call within
        have calling := tracked.inCall call within
        cases label with
        | cancel =>
            rw [← Option.some.inj moved]
            cases task <;> exact calling
        | task owner choice =>
            have elsewhere : task ≠ owner := fun here => apart (by rw [here]; rfl)
            cases step_task moved with
            | access _ access follows _ => rw [follows.others task elsewhere, access.callOf, calling]
            | own _ follows _ => rw [follows.others task elsewhere, calling]
      case point => exact tracked.point
      case known => exact step_known tracked.known moved
      case listed =>
        exact fun path child listed => Nat.lt_of_lt_of_le (tracked.listed path child listed) size

section Loop

def Spared (stop : StopCall) (sent : List ActorId) (child : ActorId) : Prop :=
  stop.world.finished child = true ∨ child ∈ sent

/-- Where the call breaks off, whoever it has still to come to is spared already, and a
sender it takes is the one of the child it has listed. -/
def BreaksOffHarmlessly (sent : StopCall → List ActorId) (task : Task) (stop : StopCall)
    (label : Label) : Prop :=
  label.task? = some task → match stop.progress with
    | .call (.takeSender path (some rest)) =>
      match stop.world.senderOf task.supervisor path with
      | none => ∀ other ∈ path :: rest, ∀ child ∈ stop.listed other, stop.Spared (sent stop) child
      | some found => ∀ child ∈ stop.listed path, child = found ∨ stop.Spared (sent stop) child
    | .call (.sendStop child (some rest)) => stop.world.finished child = true →
      ∀ other ∈ rest, ∀ child ∈ stop.listed other, stop.Spared (sent stop) child
    | _ => True

def Progressing (sent : StopCall → List ActorId) (stop : StopCall) : Prop :=
  ∀ path, ∀ child ∈ stop.listed path,
    path ∈ left stop.progress ∨ sending stop.progress = some child ∨ stop.Spared (sent stop) child

/-- A list of actors that grows, and into which the call puts those it sends a Stop. -/
structure Records (task : Task) (sent : StopCall → List ActorId) : Prop where
  kept : ∀ {stop after : StopCall} {label : Label}, Moves task stop label after →
    ∀ child ∈ sent stop, child ∈ sent after
  adds : ∀ {stop after : StopCall} {label : Label} {child : ActorId}
    {rest : Option (List ActorPath)}, Moves task stop label after → label.task? = some task →
      stop.progress = .call (.sendStop child rest) → stop.world.finished child = false →
        child ∈ sent after

theorem asked_records : Records task StopCall.asked := by
  constructor
  case kept =>
    intro stop after label moves child asked
    cases moves with
    | @own call next choice progress labelled _ within access follows continues noted =>
        rw [noted]
        cases call with
        | sendStop other rest =>
            show child ∈ (stop.note _).asked
            rw [note]
            split
            · exact asked
            · exact List.mem_cons_of_mem _ asked
        | _ => exact asked
    | other _ _ same =>
        rw [same]
        exact asked
  case adds =>
    intro stop after label child rest moves own within alive
    cases moves with
    | other apart => exact absurd own apart
    | own _ _ here access follows continues noted =>
        cases here.symm.trans within
        rw [noted]
        show child ∈ (stop.note _).asked
        rw [note, alive]
        exact List.mem_cons_self

theorem stopSent_records : Records task fun stop => stop.world.history.stopSent := by
  constructor
  case kept => exact fun moves => (step_within moves.world_step).stopSent
  case adds =>
    intro stop after label child rest moves own within alive
    cases moves with
    | other apart => exact absurd own apart
    | own _ _ here access follows continues noted =>
        cases here.symm.trans within
        rw [follows.history]
        cases access with
        | stopRefused gone => cases alive.symm.trans gone
        | stopSent => exact List.mem_cons_self

variable {sent : StopCall → List ActorId}

theorem spared_later (records : Records task sent) (tracked : Tracked task stop)
    (moves : Moves task stop label after) {path : ActorPath} {child : ActorId}
    (listed : stop.listed path = some child) (spared : stop.Spared (sent stop) child) :
    after.Spared (sent after) child := by
  rcases spared with gone | told
  · exact .inl (step_finished moves.world_step (tracked.listed path child listed) gone)
  · exact .inr (records.kept moves child told)

theorem left_stopNext (rest : List ActorPath) : left (stopNext (some rest)) = rest := by
  cases rest <;> rfl

theorem progressing_own (records : Records task sent) (tracked : Tracked task stop)
    (progressing : Progressing sent stop) (moves : Moves task stop label after)
    (same : after.listed = stop.listed)
    (goesOn : ∀ path, ∀ child ∈ stop.listed path, path ∈ left stop.progress ∨
      sending stop.progress = some child → path ∈ left after.progress ∨
        sending after.progress = some child ∨ after.Spared (sent after) child) :
    Progressing sent after := by
  intro path child listed
  rw [same] at listed
  rcases progressing path child listed with waits | carried | spared
  · exact goesOn path child listed (.inl waits)
  · exact goesOn path child listed (.inr carried)
  · exact .inr (.inr (spared_later records tracked moves listed spared))

/-- Whoever the call has still to come to stays ahead of it, comes into its hand, or is
spared, where the call does not break off with harm. -/
theorem access_goesOn (records : Records task sent) (tracked : Tracked task stop)
    (harmless : BreaksOffHarmlessly sent task stop label) (moves : Moves task stop label after)
    (owned : label.task? = some task) {call : Call} {next : World} {progress : Progress}
    (within : stop.progress = .call call)
    (access : Access stop.world task.supervisor call next progress)
    (progressed : after.progress = progress) {path : ActorPath} {child : ActorId}
    (listed : child ∈ stop.listed path)
    (ahead : path ∈ left stop.progress ∨ sending stop.progress = some child) :
    path ∈ left after.progress ∨ sending after.progress = some child ∨
      after.Spared (sent after) child := by
  have harmless := harmless owned
  have spared (now : stop.Spared (sent stop) child) : after.Spared (sent after) child :=
    spared_later records tracked moves listed now
  rw [within] at harmless ahead
  rw [progressed]
  cases access with
  | noChildren | someChildren | listed =>
      rcases ahead with waits | carried
      · cases waits
      · cases carried
  | @entryTaken here rest =>
      rcases ahead with waits | carried
      · cases rest with
        | none => cases waits
        | some rest => exact .inl waits
      · cases carried
  | @noSender here rest absent =>
      rcases ahead with waits | carried
      · cases rest with
        | none => cases waits
        | some rest =>
            simp only [absent] at harmless
            exact .inr (.inr (spared (harmless path waits child listed)))
      · cases carried
  | @senderTaken here rest found holds =>
      rcases ahead with waits | carried
      · cases rest with
        | none => cases waits
        | some rest =>
            simp only [holds] at harmless
            rcases List.mem_cons.mp waits with rfl | later
            · rcases harmless child listed with rfl | before
              · exact .inr (.inl rfl)
              · exact .inr (.inr (spared before))
            · exact .inl later
      · cases carried
  | @stopRefused told rest gone =>
      rcases ahead with waits | carried
      · cases rest with
        | none => cases waits
        | some rest => exact .inr (.inr (spared (harmless gone path waits child listed)))
      · cases carried
        exact .inr (.inr (spared (.inl gone)))
  | @stopSent told rest actions sends =>
      rcases ahead with waits | carried
      · cases rest with
        | none => cases waits
        | some rest => exact .inl (by rw [left_stopNext]; exact waits)
      · cases carried
        cases alive : stop.world.finished child with
        | true => exact .inr (.inr (spared (.inl alive)))
        | false => exact .inr (.inr (.inr (records.adds moves owned within alive)))
  | _ => exact (tracked.point _ within).elim

theorem step_progressing (records : Records task sent) (tracked : Tracked task stop)
    (progressing : Progressing sent stop) (harmless : BreaksOffHarmlessly sent task stop label)
    (taken : step task stop label = some after) : Progressing sent after := by
  have moves := step_moves tracked.inCall taken
  cases step_moves tracked.inCall taken with
  | other apart moved same =>
      refine progressing_own records tracked progressing moves (by rw [same]) ?_
      rintro path child listed (waits | carried)
      · exact .inl (by rw [same]; exact waits)
      · exact .inr (.inl (by rw [same]; exact carried))
  | @own call next choice progress labelled moved within access follows continues noted =>
      have owned : label.task? = some task := by rw [labelled]; rfl
      have progressed : after.progress = progress := by rw [noted]
      by_cases listing : ∃ parent, call = .stopListed parent
      · obtain ⟨parent, rfl⟩ := listing
        cases access with
        | listed nodup every =>
            intro path child listed
            rw [noted] at listed
            have here : (if path.parent = parent then stop.world.registry.lookup path else none) =
                some child := listed
            rw [Option.ite_none_right_eq_some] at here
            left
            rw [progressed, left_stopNext, ← List.mem_toFinset, every]
            exact getChilds_of_lookup here.2 here.1
      · have same : after.listed = stop.listed := by
          rw [noted]
          exact note_keeps_listed fun parent here => listing ⟨parent, here⟩
        refine progressing_own records tracked progressing moves same ?_
        intro path child listed ahead
        exact access_goesOn records tracked harmless moves owned within access progressed listed ahead

theorem begins_progressing {calls : Call → Prop} (begins : Begins task calls stop) :
    Progressing sent stop := by
  obtain ⟨world, call, _, _, _, rfl⟩ := begins
  exact fun path child listed => nomatch listed

theorem listed_spared (records : Records task sent) {calls : Call → Prop}
    (stops : ∀ call, calls call → Stopping call)
    (reached : Guarded (step task) (Begins task calls) (BreaksOffHarmlessly sent task) stop)
    {outcome : Outcome} (returned : stop.progress = .return outcome) (path : ActorPath)
    (child : ActorId) (listed : stop.listed path = some child) : stop.Spared (sent stop) child := by
  have invariant : Tracked task stop ∧ Progressing sent stop := by
    refine guarded_invariant (fun stop => Tracked task stop ∧ Progressing sent stop) ?_ ?_ reached
    · exact fun stop begins => ⟨begins_tracked stops begins, begins_progressing begins⟩
    · rintro stop label after ⟨tracked, progressing⟩ harmless taken
      exact ⟨step_tracked tracked taken, step_progressing records tracked progressing harmless taken⟩
  rcases invariant.2 path child listed with waits | carried | spared
  · rw [returned] at waits
    cases waits
  · rw [returned] at carried
    cases carried
  · exact spared

end Loop

section Removal

/-- The sender that the call takes after it has removed the entry of a running actor is
that actor's, and the actor still runs when the Stop is sent. -/
def ReachesRemoved (task : Task) (stop : StopCall) (label : Label) : Prop :=
  label.task? = some task → match stop.progress with
    | .call (.takeSender path _) => ∀ child ∈ stop.removed,
      child ∈ stop.asked ∨ stop.world.senderOf task.supervisor path = some child
    | .call (.sendStop child _) => child ∈ stop.removed → stop.world.finished child = false
    | _ => True

def taking : Progress → Bool
  | .call (.takeSender _ _) => true
  | _ => false

def Accounted (stop : StopCall) : Prop :=
  ∀ child ∈ stop.removed,
    child ∈ stop.asked ∨ taking stop.progress = true ∨ sending stop.progress = some child

theorem step_accounted (tracked : Tracked task stop) (accounted : Accounted stop)
    (reaches : ReachesRemoved task stop label) (taken : step task stop label = some after) :
    Accounted after := by
  have moves := step_moves tracked.inCall taken
  cases step_moves tracked.inCall taken with
  | other apart moved same =>
      rw [same]
      exact accounted
  | @own call next choice progress labelled moved within access follows continues noted =>
      have owned : label.task? = some task := by rw [labelled]; rfl
      have reaches := reaches owned
      rw [within] at reaches
      have before := accounted
      rw [Accounted, within] at before
      have asked : ∀ child ∈ stop.asked, child ∈ after.asked := asked_records.kept moves
      rw [noted]
      cases access with
      | entryTaken => exact fun child removed => .inr (.inl rfl)
      | noSender absent =>
          intro child removed
          rcases reaches child removed with told | held
          · exact .inl told
          · cases absent.symm.trans held
      | senderTaken holds =>
          intro child removed
          rcases reaches child removed with told | held
          · exact .inl told
          · exact .inr (.inr (holds.symm.trans held))
      | @stopRefused told rest gone =>
          have same : stop.note (.sendStop told rest) = stop := by rw [note, if_pos gone]
          intro child removed
          rw [same] at removed ⊢
          rcases before child removed with here | takes | carried
          · exact .inl here
          · cases takes
          · cases carried
            cases (reaches removed).symm.trans gone
      | @stopSent told rest actions sends =>
          have same : (stop.note (.sendStop told rest)).removed = stop.removed := by
            rw [note]
            split <;> rfl
          intro child removed
          have was : child ∈ stop.removed := by rw [← same]; exact removed
          have later : child ∈ after.asked := by
            rcases before child was with here | takes | carried
            · exact asked child here
            · cases takes
            · cases carried
              exact asked_records.adds moves owned within (reaches was)
          rw [noted] at later
          exact .inl later
      | noChildren | someChildren | listed =>
          intro child removed
          rcases before child removed with told | takes | carried
          · exact .inl told
          · cases takes
          · cases carried
      | _ => exact (tracked.point _ within).elim

theorem removed_asked (reached : Guarded (step task) (Begins task Stopping) (ReachesRemoved task) stop)
    {outcome : Outcome} (returned : stop.progress = .return outcome) (child : ActorId)
    (removed : child ∈ stop.removed) : child ∈ stop.asked := by
  have invariant : Tracked task stop ∧ Accounted stop := by
    refine guarded_invariant (fun stop => Tracked task stop ∧ Accounted stop) ?_ ?_ reached
    · rintro stop begins
      refine ⟨begins_tracked (fun _ stopping => stopping) begins, ?_⟩
      obtain ⟨world, call, _, _, _, rfl⟩ := begins
      exact nofun
    · rintro stop label after ⟨tracked, accounted⟩ reaches taken
      exact ⟨step_tracked tracked taken, step_accounted tracked accounted reaches taken⟩
  rcases invariant.2 child removed with told | takes | carried
  · exact told
  · rw [returned] at takes
    cases takes
  · rw [returned] at carried
    cases carried

end Removal

def OfChildren (parent : ActorPath) (call : Call) : Prop := call = .stopChildren parent

/-- A `stop_children` that nowhere breaks off with a child left running has sent a Stop
to all the children it found registered, but for those that ended by themselves. -/
theorem every_child_asked {parent : ActorPath}
    (reached : Guarded (step task) (Begins task (OfChildren parent))
      (BreaksOffHarmlessly (fun stop => stop.world.history.stopSent) task) stop)
    {outcome : Outcome} (returned : stop.progress = .return outcome) (path : ActorPath)
    (child : ActorId) (listed : stop.listed path = some child) :
    stop.world.finished child = true ∨ child ∈ stop.world.history.stopSent := by
  have stops (call : Call) (begun : OfChildren parent call) : Stopping call := by
    obtain rfl := begun
    exact .children parent
  exact listed_spared stopSent_records stops reached returned path child listed

def OfError (child : ActorPath) (call : Call) : Prop :=
  call = (SystemRequest.onChildError child).call

section OnChildError

/-- An actor has created it, so that the sender is in that actor's map. -/
def ChildOfActor (world : World) (child : ActorId) : Prop :=
  ∃ path owner, world.identityOf child = some (path, .actor owner)

def AsksOwn (task : Task) (stop : StopCall) : Prop :=
  ∀ child ∈ stop.asked, ∃ path, stop.world.identityOf child = some (path, task.supervisor)

theorem step_asksOwn (tracked : Tracked task stop) (custodial : stop.world.Custodial)
    (own : AsksOwn task stop) (taken : step task stop label = some after) : AsksOwn task after := by
  have moves := step_moves tracked.inCall taken
  have moved := moves.world_step
  have later {child : ActorId}
      (known : ∃ path, stop.world.identityOf child = some (path, task.supervisor)) :
      ∃ path, after.world.identityOf child = some (path, task.supervisor) := by
    obtain ⟨path, identity⟩ := known
    exact ⟨path, step_identity moved identity⟩
  intro child asked
  cases moves with
  | other apart _ same =>
      rw [same] at asked
      exact later (own child asked)
  | @own call next choice progress labelled _ within access follows continues noted =>
      rw [noted] at asked
      cases call with
      | sendStop sent rest =>
          replace asked : child ∈ (stop.note (.sendStop sent rest)).asked := asked
          rw [note] at asked
          split at asked
          case isTrue => exact later (own child asked)
          case isFalse =>
            rcases List.mem_cons.mp asked with rfl | before
            · obtain ⟨⟨path, supervisor⟩, known, fits⟩ :=
                custodial.labelled (.hand task) child (by simp [held, tracked.inCall _ within, Call.carries])
              obtain rfl : supervisor = task.supervisor := fits
              exact later ⟨path, known⟩
            · exact later (own child before)
      | _ => exact later (own child asked)

theorem asksOwn_reached {calls : Call → Prop} (stops : ∀ call, calls call → Stopping call)
    (reached : Reachable (step task) (Begins task calls) stop) : AsksOwn task stop := by
  have invariant : Tracked task stop ∧ stop.world.Custodial ∧ AsksOwn task stop := by
    refine guarded_invariant
      (fun stop => Tracked task stop ∧ stop.world.Custodial ∧ AsksOwn task stop) ?_ ?_ reached
    · intro stop begins
      have tracked := begins_tracked stops begins
      obtain ⟨world, call, reached, _, _, rfl⟩ := begins
      exact ⟨tracked, custodial_reached reached, nofun⟩
    · rintro stop label after ⟨tracked, custodial, own⟩ - taken
      have moved := (step_moves tracked.inCall taken).world_step
      exact ⟨step_tracked tracked taken, step_custodial custodial moved,
        step_asksOwn tracked custodial own taken⟩
  exact invariant.2.2

theorem childOfActor_unasked (own : AsksOwn task stop) (handler : task.supervisor = .system)
    {child : ActorId} (made : ChildOfActor stop.world child) : child ∉ stop.asked := by
  intro asked
  obtain ⟨path, owner, identity⟩ := made
  obtain ⟨_, known⟩ := own child asked
  rw [identity, handler] at known
  cases known

/-- Of the children that an actor has created, `on_child_error` finds all ended or leaves
one running without a Stop. The others under the path it reaches as far as the system
holds their senders; and no stopping call removes the entry of a running actor without
sending it a Stop, as far as its handler holds that actor's sender. -/
theorem supervision_loses_none {outcome : Outcome} (returned : stop.progress = .return outcome) :
    (∀ parent, task.supervisor = .system → Reachable (step task) (Begins task (OfError parent)) stop →
      ((∀ path child, stop.listed path = some child → ChildOfActor stop.world child →
          stop.world.finished child = true ∨ child ∈ stop.asked) ↔
        ∀ path child, stop.listed path = some child → ChildOfActor stop.world child →
          stop.world.finished child = true)) ∧
    (∀ parent, Guarded (step task) (Begins task (OfError parent))
        (BreaksOffHarmlessly StopCall.asked task) stop →
      ∀ path child, stop.listed path = some child →
        stop.world.finished child = true ∨ child ∈ stop.asked) ∧
    (Guarded (step task) (Begins task Stopping) (ReachesRemoved task) stop →
      ∀ child ∈ stop.removed, child ∈ stop.asked) := by
  have stops (parent : ActorPath) (call : Call) (begun : OfError parent call) : Stopping call := by
    obtain rfl := begun
    exact .children parent
  refine ⟨fun parent handler reached => ?_, fun parent reached path child listed => ?_,
    fun reached => removed_asked reached returned⟩
  · have own := asksOwn_reached (stops parent) reached
    constructor
    · intro spared path child listed made
      exact (spared path child listed made).resolve_right (childOfActor_unasked own handler made)
    · exact fun ended path child listed made => .inl (ended path child listed made)
  · exact listed_spared asked_records (stops parent) reached returned path child listed

end OnChildError

section Check

variable (sent : StopCall → List ActorId) (task : Task) (stop : StopCall) (label : Label)

instance (told : List ActorId) (child : ActorId) : Decidable (stop.Spared told child) :=
  inferInstanceAs (Decidable (_ ∨ _))

instance : Decidable (BreaksOffHarmlessly sent task stop label) := by
  unfold BreaksOffHarmlessly
  refine @instDecidableForall _ _ inferInstance ?_
  split
  · split <;> infer_instance
  · infer_instance
  · infer_instance

instance : Decidable (ReachesRemoved task stop label) := by
  unfold ReachesRemoved
  refine @instDecidableForall _ _ inferInstance ?_
  split <;> infer_instance

end Check

section Scenarios

def follow (labels : List Label) (request : SystemRequest)
    (check : StopCall → Label → Bool) (later : List Label) : Option StopCall :=
  (Runs.run World.step (World.new Config.default)
    (labels ++ [Label.task (.client 0) (.system request)])).bind fun world =>
      if world.callOf (.client 0) = some request.call then
        Runs.checkedRun (step (.client 0)) check { world, progress := .call request.call } later
      else none

theorem follow_guarded {labels later : List Label} {request : SystemRequest}
    {check : StopCall → Label → Bool} {allowed : StopCall → Label → Prop} {calls : Call → Prop}
    (sound : ∀ stop label, check stop label = true → allowed stop label)
    (stops : calls request.call) {stop : StopCall}
    (followed : follow labels request check later = some stop) :
    Guarded (step (.client 0)) (Begins (.client 0) calls) allowed stop := by
  obtain ⟨world, ran, followed⟩ := Option.bind_eq_some_iff.mp followed
  rw [Option.ite_none_right_eq_some] at followed
  obtain ⟨calling, followed⟩ := followed
  exact guarded_checkedRun sound (.start ⟨world, request.call,
    reachable_run (.start ⟨_, rfl⟩) ran, stops, calling, rfl⟩) followed

def goesThrough (paths : List ActorPath) : List Label :=
  [Label.task (.client 0) .proceed, .task (.client 0) (.order paths)] ++
    List.replicate (3 * paths.length) (Label.task (.client 0) .proceed)

theorem faults : OfChildren rootPath SystemRequest.onChildFault.call := rfl

theorem both_roots_asked :
    ∃ stop, Guarded (step (.client 0)) (Begins (.client 0) (OfChildren rootPath))
        (BreaksOffHarmlessly (fun stop => stop.world.history.stopSent) (.client 0)) stop ∧
      (stop.listed (rootPath / "a") = some 0 ∧ stop.listed (rootPath / "b") = some 1) ∧
      ∀ path child, stop.listed path = some child →
        stop.world.finished child = true ∨ child ∈ stop.world.history.stopSent := by
  have taken : ((follow (creates 0 "a" ++ creates 1 "b") .onChildFault
      (fun stop label => decide (BreaksOffHarmlessly
        (fun stop => stop.world.history.stopSent) (.client 0) stop label))
      (goesThrough [rootPath / "b", rootPath / "a"])).any fun stop =>
        stop.progress = .return (.children true) ∧ stop.listed (rootPath / "a") = some 0 ∧
          stop.listed (rootPath / "b") = some 1) = true := by
    decide
  obtain ⟨stop, followed, facts⟩ := (Option.any_eq_true _ _).mp taken
  obtain ⟨returned, first, second⟩ := of_decide_eq_true facts
  have reached : Guarded (step (.client 0)) (Begins (.client 0) (OfChildren rootPath))
      (BreaksOffHarmlessly (fun stop => stop.world.history.stopSent) (.client 0)) stop :=
    follow_guarded (fun _ _ => of_decide_eq_true) faults followed
  exact ⟨stop, reached, ⟨first, second⟩, every_child_asked reached returned⟩

def endsUnheard (id child : ActorId) : List Label :=
  createsChild id child "c" ++ stopsChild id "c" ++ takesStop child ++ announces child ++
    takesStopped id ++ announces id ++
      [Label.task (.actor id) (.returns (.ok ())), .task (.actor id) .proceed]

/-- A root actor that has ended keeps a fault from stopping the next. -/
theorem dead_root_cuts_short :
    ¬ ∀ (task : Task) (parent : ActorPath) (stop : StopCall) (outcome : Outcome),
      Reachable (step task) (Begins task (OfChildren parent)) stop →
        stop.progress = .return outcome → ∀ path child, stop.listed path = some child →
          stop.world.finished child = true ∨ child ∈ stop.world.history.stopSent := by
  intro claimed
  have taken : ((follow (creates 0 "a" ++ creates 1 "b" ++ endsUnheard 0 2) .onChildFault
      (fun _ _ => true) (goesThrough [rootPath / "a", rootPath / "b"] |>.take 5)).any fun stop =>
        stop.progress = .return
            (.failed (closedChannel "Failed to send stop action to child")) ∧
          stop.listed (rootPath / "b") = some 1 ∧ stop.world.finished 1 = false ∧
            1 ∉ stop.world.history.stopSent) = true := by
    decide
  obtain ⟨stop, followed, facts⟩ := (Option.any_eq_true _ _).mp taken
  obtain ⟨returned, listed, runs, unasked⟩ := of_decide_eq_true facts
  have reached : Reachable (step (.client 0)) (Begins (.client 0) (OfChildren rootPath)) stop :=
    follow_guarded (fun _ _ _ => trivial) faults followed
  rcases claimed _ _ stop _ reached returned _ _ listed with gone | told
  · cases runs.symm.trans gone
  · exact unasked told

theorem errs (child : ActorPath) : OfError child (SystemRequest.onChildError child).call := rfl

theorem own_child_asked :
    ∃ stop : StopCall, stop.removed = [1] ∧ stop.asked = [1] ∧
      stop.listed (rootPath / "p" / "c") = some 2 ∧ ChildOfActor stop.world 2 ∧
      (∀ path child, stop.listed path = some child → ChildOfActor stop.world child →
        stop.world.finished child = true) ∧
      ∀ child ∈ stop.removed, child ∈ stop.asked := by
  have taken : ((follow (creates 0 "p" ++ creates 1 "p/x" ++ createsChild 0 2 "c" ++
        [Label.task (.actor 2) .message, .task (.actor 2) .panics]) (.onChildError (rootPath / "p"))
      (fun stop label => decide (BreaksOffHarmlessly StopCall.asked (.client 0) stop label ∧
        ReachesRemoved (.client 0) stop label))
      (goesThrough [rootPath / "p" / "x", rootPath / "p" / "c"] |>.take 7)).any fun stop =>
        stop.progress = .return (.failed (notFoundForStopping (rootPath / "p" / "c"))) ∧
          stop.removed = [1] ∧ stop.asked = [1] ∧ stop.listed (rootPath / "p" / "c") = some 2 ∧
            stop.world.identityOf 2 = some (rootPath / "p" / "c", .actor 0)) = true := by
    decide
  obtain ⟨stop, followed, facts⟩ := (Option.any_eq_true _ _).mp taken
  obtain ⟨returned, removed, asked, listed, identity⟩ := of_decide_eq_true facts
  have errorGuarded : Guarded (step (.client 0)) (Begins (.client 0) (OfError (rootPath / "p")))
      (BreaksOffHarmlessly StopCall.asked (.client 0)) stop :=
    follow_guarded (fun _ _ checked => (of_decide_eq_true checked).1) (errs _) followed
  have stopGuarded : Guarded (step (.client 0)) (Begins (.client 0) Stopping)
      (ReachesRemoved (.client 0)) stop :=
    follow_guarded (fun _ _ checked => (of_decide_eq_true checked).2) (.children _) followed
  have reached : Reachable (step (.client 0)) (Begins (.client 0) (OfError (rootPath / "p"))) stop :=
    follow_guarded (fun _ _ _ => trivial) (errs _) followed
  obtain ⟨exactly, spared, accounted⟩ := supervision_loses_none returned
  have ended := (exactly (rootPath / "p") rfl reached).mp
    fun path child entry _ => spared (rootPath / "p") errorGuarded path child entry
  exact ⟨stop, removed, asked, listed, ⟨_, 0, identity⟩, ended, accounted stopGuarded⟩

/-- An error of an actor makes the system lose the actor's child. -/
theorem error_loses_child :
    (¬ ∀ (task : Task) (parent : ActorPath) (stop : StopCall) (outcome : Outcome),
      Reachable (step task) (Begins task (OfError parent)) stop → stop.progress = .return outcome →
        ∀ path child, stop.listed path = some child →
          stop.world.finished child = true ∨ child ∈ stop.asked) ∧
    ¬ ∀ (task : Task) (stop : StopCall) (outcome : Outcome),
      Reachable (step task) (Begins task Stopping) stop → stop.progress = .return outcome →
        ∀ child ∈ stop.removed, child ∈ stop.asked := by
  have taken : ((follow (creates 0 "a" ++ createsChild 0 1 "c") (.onChildError (rootPath / "a"))
      (fun _ _ => true) (goesThrough [rootPath / "a" / "c"] |>.take 4)).any fun stop =>
        stop.progress = .return (.failed (notFoundForStopping (rootPath / "a" / "c"))) ∧
          stop.listed (rootPath / "a" / "c") = some 1 ∧ stop.world.finished 1 = false ∧
            stop.removed = [1] ∧ stop.asked = []) = true := by
    decide
  obtain ⟨stop, followed, facts⟩ := (Option.any_eq_true _ _).mp taken
  obtain ⟨returned, listed, runs, removed, unasked⟩ := of_decide_eq_true facts
  constructor
  · intro claimed
    have reached : Reachable (step (.client 0))
        (Begins (.client 0) (OfError (rootPath / "a"))) stop :=
      follow_guarded (fun _ _ _ => trivial) (errs (rootPath / "a")) followed
    rcases claimed _ _ _ _ reached returned _ _ listed with gone | told
    · cases runs.symm.trans gone
    · rw [unasked] at told
      cases told
  · intro claimed
    have reached : Reachable (step (.client 0)) (Begins (.client 0) Stopping) stop :=
      follow_guarded (fun _ _ _ => trivial) (.children (rootPath / "a")) followed
    have told := claimed _ _ _ reached returned 1 (by rw [removed]; exact List.mem_singleton_self 1)
    rw [unasked] at told
    cases told

end Scenarios

end StopCall

end Rush.Actor
