import Rush.Actor.Depth
import Rush.Actor.PathRelations

/-! Trees whose names have a single segment: each actor lies one level below the handler
that created it. -/

namespace Rush.Actor

open Rush.Library Runs

theorem ActorPath.div_tokens {path : ActorPath} {name : String}
    (single : (segments name).length = 1) : ∃ token, (path / name).tokens = path.tokens ++ [token] := by
  obtain ⟨token, segment⟩ := List.length_eq_one_iff.mp single
  refine ⟨token, ?_⟩
  change path.tokens ++ segments name = _
  rw [segment]

namespace World

def SingleNames : Label → Prop
  | .task (.client _) (.system (.createActor name _))
  | .task (.actor _) (.context (.createChild name _)) => (ActorPath.segments name).length = 1
  | _ => True

inductive ChildPath (world : World) : Supervisor → ActorPath → Prop
  | system {path : ActorPath} {token : String} (tokens : path.tokens = rootPath.tokens ++ [token]) :
      ChildPath world .system path
  | actor {id : ActorId} {parent path : ActorPath} {supervisor : Supervisor} {token : String}
      (known : world.identityOf id = some (parent, supervisor))
      (tokens : path.tokens = parent.tokens ++ [token]) : ChildPath world (.actor id) path

structure Layered (world : World) : Prop where
  actors : ∀ id path supervisor, world.identityOf id = some (path, supervisor) →
    world.ChildPath supervisor path
  creations : ∀ task path strategy, world.callOf task = some (.createActor path strategy) →
    world.ChildPath task.supervisor path

variable {world after : World} {label : Label} {path : ActorPath} {strategy : SupervisionStrategy}

theorem ChildPath.step {supervisor : Supervisor} (below : world.ChildPath supervisor path)
    (taken : step world label = some after) : after.ChildPath supervisor path := by
  cases below with
  | system tokens => exact .system tokens
  | actor known tokens => exact .actor (step_identity taken known) tokens

theorem step_creations (layered : world.Layered) (single : SingleNames label)
    (taken : step world label = some after) {task : Task}
    (calling : after.callOf task = some (.createActor path strategy)) :
    after.ChildPath task.supervisor path := by
  have old (before : world.callOf task = some (.createActor path strategy)) :
      after.ChildPath task.supervisor path :=
    (layered.creations task path strategy before).step taken
  cases label with
  | cancel =>
      cases taken
      exact old (by cases task <;> exact calling)
  | task owner choice =>
      by_cases here : task = owner
      · subst here
        cases task with
        | actor id =>
            rcases actorStep_requested taken calling with before | requested
            · exact old before
            · cases requested with
              | @context _ name runner found shallow named =>
                  obtain ⟨token, tokens⟩ := @ActorPath.div_tokens runner.path _ single
                  have known : world.identityOf id = some (runner.path, runner.supervisor) :=
                    identityOf_found found
                  exact .actor (step_identity taken known) (named ▸ tokens)
        | runner => exact (runnerStep_requested taken calling).elim
        | client id =>
            cases clientStep_requested taken calling with
            | system named =>
                obtain ⟨token, tokens⟩ := @ActorPath.div_tokens rootPath _ single
                exact .system (named ▸ tokens)
      · refine old ?_
        cases step_task taken with
        | access _ access follows _ =>
            rw [follows.others task here, access.callOf] at calling
            exact calling
        | own _ follows _ =>
            rw [follows.others task here] at calling
            exact calling

theorem step_layered (layered : world.Layered) (single : SingleNames label)
    (taken : step world label = some after) : after.Layered := by
  constructor
  case creations => exact fun task path strategy calling => step_creations layered single taken calling
  case actors =>
    intro id path supervisor identity
    have old (before : world.identityOf id = some (path, supervisor)) :
        after.ChildPath supervisor path :=
      (layered.actors id path supervisor before).step taken
    cases label with
    | cancel =>
        cases taken
        exact old identity
    | task task choice =>
        cases step_task taken with
        | own idle follows begins =>
            rw [follows.identity] at identity
            exact old identity
        | access calling access follows continues =>
            rw [follows.identity] at identity
            rcases access.identity_cases identity with before | ⟨_, strategy, rfl, _, _, new⟩
            · exact old before
            · cases new
              exact (layered.creations task path strategy calling).step taken

theorem new_layered (config : Config) : (new config).Layered := by
  constructor
  case actors => exact fun id path supervisor identity => nomatch identity
  case creations => exact fun task path strategy calling => by cases task <;> cases calling

end World

end Rush.Actor
