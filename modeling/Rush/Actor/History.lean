import Rush.Actor.Step
import Rush.Library.Runs

/-! What a step adds: instances keep their path and supervisor, and the history
only grows. -/

namespace Rush.Actor

open Rush.Library Runs

structure History.Within (before after : History) : Prop where
  created : ∀ id ∈ before.created, id ∈ after.created
  stopSent : ∀ id ∈ before.stopSent, id ∈ after.stopSent
  emitted : ∀ id ∈ before.emitted, id ∈ after.emitted
  processed : ∀ id ∈ before.processed, id ∈ after.processed

theorem History.Within.refl (history : History) : history.Within history :=
  ⟨fun _ known => known, fun _ known => known, fun _ known => known, fun _ known => known⟩

namespace World

variable {world next after : World} {supervisor : Supervisor} {call : Call} {progress : Progress}
  {label : Label}

theorem announce_within (world : World) (child : ActorId) (signal : ActorSignal) :
    world.history.Within (world.announce child signal).history := by
  cases signal with
  | stopped path =>
      exact ⟨fun _ known => known, fun _ known => known,
        fun _ known => List.mem_cons_of_mem _ known, fun _ known => known⟩
  | _ => exact .refl _

theorem Access.within (access : Access world supervisor call next progress) :
    world.history.Within next.history := by
  cases access with
  | senderInserted =>
      exact ⟨fun _ known => List.mem_cons_of_mem _ known, fun _ known => known,
        fun _ known => known, fun _ known => known⟩
  | stopSent =>
      exact ⟨fun _ known => known, fun _ known => List.mem_cons_of_mem _ known,
        fun _ known => known, fun _ known => known⟩
  | childRemoved =>
      exact ⟨fun _ known => known, fun _ known => known, fun _ known => known,
        fun _ known => List.mem_append_right _ known⟩
  | emitRefused | emitted => exact announce_within world _ _
  | _ => exact .refl _

theorem Access.identityOf (access : Access world supervisor call next progress) {id : ActorId}
    {identity : ActorPath × Supervisor} (found : identity ∈ world.identityOf id) :
    identity ∈ next.identityOf id := by
  obtain ⟨runner, here, same⟩ := Option.map_eq_some_iff.mp found
  exact Option.map_eq_some_iff.mpr ⟨runner, access.lookup here, same⟩

theorem Access.identity_cases (access : Access world supervisor call next progress) {id : ActorId}
    {identity : ActorPath × Supervisor} (known : next.identityOf id = some identity) :
    world.identityOf id = some identity ∨ ∃ path strategy, call = .createActor path strategy ∧
      path ∉ world.registry ∧ id = world.actors.length ∧ identity = (path, supervisor) := by
  obtain ⟨runner, found, same⟩ := Option.map_eq_some_iff.mp known
  rcases access.actors with actors | ⟨path, strategy, calling, added⟩
  · rw [actors] at found
    exact .inl (Option.map_eq_some_iff.mpr ⟨runner, found, same⟩)
  · by_cases below : id < world.actors.length
    · rw [added, List.getElem?_append_left below] at found
      exact .inl (Option.map_eq_some_iff.mpr ⟨runner, found, same⟩)
    · right
      rw [added, List.getElem?_append_right (Nat.le_of_not_lt below)] at found
      obtain ⟨bound, new⟩ := List.getElem?_eq_some_iff.mp found
      rw [List.getElem_singleton] at new
      rw [List.length_singleton, Nat.lt_one_iff, Nat.sub_eq_zero_iff_le] at bound
      have here : id = world.actors.length := Nat.le_antisymm bound (Nat.le_of_not_lt below)
      refine ⟨path, strategy, calling, ?_, here, by rw [← same, ← new]; rfl⟩
      subst calling
      cases access with
      | taken => simp at added
      | spawned free => exact free

theorem step_within (taken : step world label = some after) :
    world.history.Within after.history := by
  cases label with
  | cancel =>
      cases taken
      exact .refl _
  | task task choice =>
      cases step_task taken with
      | access calling access follows continues =>
          rw [follows.history]
          exact access.within
      | own idle follows begins =>
          rw [follows.history]
          exact .refl _

theorem step_identity (taken : step world label = some after) {id : ActorId}
    {identity : ActorPath × Supervisor} (found : world.identityOf id = some identity) :
    after.identityOf id = some identity := by
  cases label with
  | cancel =>
      cases taken
      exact found
  | task task choice =>
      cases step_task taken with
      | access calling access follows continues =>
          rw [follows.identity]
          exact access.identityOf found
      | own idle follows begins =>
          rw [follows.identity]
          exact found

theorem Access.finished (access : Access world supervisor call next progress) {id : ActorId}
    {identity : ActorPath × Supervisor} (known : world.identityOf id = some identity) :
    next.finished id = world.finished id := by
  obtain ⟨runner, found, _⟩ := Option.map_eq_some_iff.mp known
  rw [World.finished, World.finished, access.lookup found, found]

theorem step_finished (taken : step world label = some after) {id : ActorId}
    (spawned : id < world.actors.length) (gone : world.finished id = true) :
    after.finished id = true := by
  cases label with
  | cancel =>
      cases taken
      exact gone
  | task task choice =>
      cases step_task taken with
      | own idle follows begins => exact follows.finished id gone
      | access calling access follows continues =>
          refine follows.finished id ?_
          have known : world.identityOf id = some (world.actors[id].identity) :=
            Option.map_eq_some_iff.mpr ⟨_, List.getElem?_eq_getElem spawned, rfl⟩
          rw [access.finished known]
          exact gone

theorem Access.stopSent_cases (access : Access world supervisor call next progress) {id : ActorId}
    (sent : id ∈ next.history.stopSent) :
    id ∈ world.history.stopSent ∨ ∃ rest, call = .sendStop id rest := by
  cases access with
  | @stopSent child rest =>
      rcases List.mem_cons.mp sent with rfl | old
      · exact .inr ⟨rest, rfl⟩
      · exact .inl old
  | @emitRefused child signal => cases signal <;> exact .inl sent
  | @emitted child signal => cases signal <;> exact .inl sent
  | _ => exact .inl sent

theorem Access.created_cases (access : Access world supervisor call next progress) {id : ActorId}
    (created : id ∈ next.history.created) :
    id ∈ world.history.created ∨
      call = .insertSender id ∧ ∃ runner, world.actors[id]? = some runner := by
  cases access with
  | senderInserted found =>
      rcases List.mem_cons.mp created with rfl | old
      · exact .inr ⟨rfl, _, found⟩
      · exact .inl old
  | @emitRefused child signal => cases signal <;> exact .inl created
  | @emitted child signal => cases signal <;> exact .inl created
  | _ => exact .inl created

theorem Access.emitted_cases (access : Access world supervisor call next progress) {id : ActorId}
    (emitted : id ∈ next.history.emitted) :
    id ∈ world.history.emitted ∨ ∃ path, call = .emit id (.stopped path) := by
  have announced {child : ActorId} {signal : ActorSignal}
      (emitted : id ∈ (world.announce child signal).history.emitted) :
      id ∈ world.history.emitted ∨ ∃ path, Call.emit child signal = .emit id (.stopped path) := by
    cases signal with
    | stopped path =>
        rcases List.mem_cons.mp emitted with rfl | old
        · exact .inr ⟨path, rfl⟩
        · exact .inl old
    | _ => exact .inl emitted
  cases access with
  | emitRefused | emitted => exact announced emitted
  | _ => exact .inl emitted

theorem Access.processed_cases (access : Access world supervisor call next progress) {id : ActorId}
    (processed : id ∈ next.history.processed) :
    id ∈ world.history.processed ∨ ∃ path, call = .removeChild path (some id) := by
  cases access with
  | @childRemoved path emitter =>
      rcases List.mem_append.mp processed with new | old
      · rw [Option.mem_toList] at new
        exact .inr ⟨path, by rw [show emitter = some id from new]⟩
      · exact .inl old
  | @emitRefused child signal => cases signal <;> exact .inl processed
  | @emitted child signal => cases signal <;> exact .inl processed
  | _ => exact .inl processed

inductive RegistryEffect (world next : World) : Call → Prop
  | same {call : Call} (registry : next.registry = world.registry)
      (calling : ∀ path emitter, call ≠ .removeChild path emitter) : RegistryEffect world next call
  | drop {call : Call} (path : ActorPath) (registry : next.registry = world.registry.erase path)
      (calling : (∃ child error runner, call = .dropEntry child error ∧
          world.actors[child]? = some runner ∧ path = runner.path) ∨
        (∃ rest, call = .stopChild path rest) ∨ ∃ emitter, call = .removeChild path emitter) :
      RegistryEffect world next call
  | insert (child : ActorId) (runner : ActorRunner) (found : world.actors[child]? = some runner)
      (registry : next.registry = world.registry.insert runner.path child) :
      RegistryEffect world next (.insertEntry child)

theorem Access.registryEffect (access : Access world supervisor call next progress) :
    RegistryEffect world next call := by
  cases access with
  | entryDropped found => exact .drop _ rfl (.inl ⟨_, _, _, rfl, found, rfl⟩)
  | entryTaken => exact .drop _ rfl (.inr (.inl ⟨_, rfl⟩))
  | childRemoved => exact .drop _ rfl (.inr (.inr ⟨_, rfl⟩))
  | entryInserted found => exact .insert _ _ found rfl
  | @emitRefused child signal => cases signal <;> exact .same rfl nofun
  | @emitted child signal => cases signal <;> exact .same rfl nofun
  | _ => exact .same rfl nofun

theorem identityOf_bound {id : ActorId} {identity : ActorPath × Supervisor}
    (known : world.identityOf id = some identity) : id < world.actors.length := by
  obtain ⟨runner, found, _⟩ := Option.map_eq_some_iff.mp known
  exact (List.getElem?_eq_some_iff.mp found).1

structure Known (world : World) : Prop where
  entries : ∀ path id, world.registry.lookup path = some id → id < world.actors.length
  supervisors : ∀ id path parent, world.identityOf id = some (path, .actor parent) → parent < id
  created : ∀ id ∈ world.history.created, id < world.actors.length

theorem step_known (known : world.Known) (taken : step world label = some after) :
    after.Known := by
  have size := step_size taken
  cases label with
  | cancel =>
      cases taken
      exact ⟨known.entries, known.supervisors, known.created⟩
  | task task choice =>
      cases step_task taken with
      | own idle follows begins =>
          constructor
          case entries =>
            intro path id entry
            rw [follows.registry] at entry
            exact lt_of_lt_of_le (known.entries path id entry) size
          case supervisors =>
            intro id path parent identity
            rw [follows.identity] at identity
            exact known.supervisors id path parent identity
          case created =>
            intro id created
            rw [follows.history] at created
            exact lt_of_lt_of_le (known.created id created) size
      | @access call next progress calling access follows continues =>
          constructor
          case entries =>
            intro path id entry
            refine lt_of_lt_of_le ?_ size
            rw [follows.registry] at entry
            cases access.registryEffect with
            | same registry =>
                rw [registry] at entry
                exact known.entries path id entry
            | drop here registry =>
                rw [registry] at entry
                by_cases same : path = here
                · rw [same, Finmap.lookup_erase] at entry
                  cases entry
                · rw [Finmap.lookup_erase_ne same] at entry
                  exact known.entries path id entry
            | insert child runner found registry =>
                rw [registry] at entry
                by_cases same : path = runner.path
                · rw [same, Finmap.lookup_insert] at entry
                  obtain rfl := Option.some.inj entry
                  exact (List.getElem?_eq_some_iff.mp found).1
                · rw [Finmap.lookup_insert_of_ne _ same] at entry
                  exact known.entries path id entry
          case supervisors =>
            intro id path parent identity
            rw [follows.identity] at identity
            rcases access.identity_cases identity with old | ⟨_, _, _, _, rfl, new⟩
            · exact known.supervisors id path parent old
            · cases task with
              | actor other =>
                  cases new
                  obtain ⟨runner, found, _⟩ := Option.bind_eq_some_iff.mp calling
                  exact (List.getElem?_eq_some_iff.mp found).1
              | runner => cases new
              | client => cases new
          case created =>
            intro id created
            refine lt_of_lt_of_le ?_ size
            rw [follows.history] at created
            rcases access.created_cases created with old | ⟨_, runner, found⟩
            · exact known.created id old
            · exact (List.getElem?_eq_some_iff.mp found).1

theorem new_known (config : Config) : (new config).Known := by
  constructor
  case entries => exact fun path id entry => nomatch (Finmap.lookup_empty path).symm.trans entry
  case supervisors => exact fun id path parent identity => nomatch identity
  case created => exact fun id created => nomatch created

theorem known_reached {allowed : World → Label → Prop}
    (reached : Guarded step Initial allowed world) : world.Known := by
  refine guarded_invariant Known ?_ ?_ reached
  · rintro world ⟨config, rfl⟩
    exact new_known config
  · exact fun world label after known _ taken => step_known known taken

end World

end Rush.Actor
