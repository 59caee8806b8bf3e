import Mathlib

/-! Items that climb a forest. A node gives the oldest item it holds to the holder above it;
above a root that is the sink. The items of one node reach the sink once each, in the order
in which the node sent them, however the others' items come between. -/

namespace Rush.Library

structure Relay (ν τ : Type) where
  holds : Option ν → List (ν × τ)
  sent : List (ν × τ)

namespace Relay

variable {ν τ : Type} [DecidableEq ν]

def empty : Relay ν τ := ⟨fun _ => [], []⟩

def push (relay : Relay ν τ) (holder : Option ν) (item : ν × τ) : Relay ν τ :=
  { relay with holds := Function.update relay.holds holder (relay.holds holder ++ [item]) }

def send (up : ν → Option ν) (relay : Relay ν τ) (node : ν) (value : τ) : Relay ν τ :=
  { relay.push (up node) (node, value) with sent := relay.sent ++ [(node, value)] }

def drop (relay : Relay ν τ) (node : ν) : Relay ν τ :=
  { relay with holds := Function.update relay.holds (some node) (relay.holds (some node)).tail }

def pass (up : ν → Option ν) (relay : Relay ν τ) (node : ν) (item : ν × τ) : Relay ν τ :=
  (relay.drop node).push (up node) item

def itemsOf (origin : ν) (items : List (ν × τ)) : List (ν × τ) :=
  items.filter fun item => item.1 = origin

inductive Route (up : ν → Option ν) : Option ν → List ν → Prop
  | sink : Route up none []
  | node {node : ν} {line : List ν} (above : Route up (up node) line) :
      Route up (some node) (node :: line)

section Route

variable {up : ν → Option ν} {holder : Option ν} {line other : List ν} {node : ν}

omit [DecidableEq ν] in
theorem Route.unique (route : Route up holder line) (second : Route up holder other) :
    line = other := by
  induction route generalizing other with
  | sink =>
      cases second
      rfl
  | node above ih =>
      cases second with
      | node aboveToo => rw [ih aboveToo]

omit [DecidableEq ν] in
theorem Route.split (route : Route up holder line) (member : node ∈ line) :
    ∃ front back, line = front ++ node :: back ∧ Route up (up node) back := by
  induction route with
  | sink => cases member
  | @node first line above ih =>
      rcases List.mem_cons.mp member with rfl | later
      · exact ⟨[], line, rfl, above⟩
      · obtain ⟨front, back, rfl, rest⟩ := ih later
        exact ⟨first :: front, back, rfl, rest⟩

omit [DecidableEq ν] in
theorem Route.notMem (above : Route up (up node) line) : node ∉ line := by
  intro member
  obtain ⟨front, back, whole, rest⟩ := above.split member
  have length := congrArg List.length (above.unique rest)
  rw [whole, List.length_append, List.length_cons] at length
  omega

omit [DecidableEq ν] in
theorem Route.nodup (route : Route up holder line) : line.Nodup := by
  induction route with
  | sink => exact List.nodup_nil
  | node above ih => exact List.nodup_cons.mpr ⟨above.notMem, ih⟩

end Route

def along (relay : Relay ν τ) (origin : ν) (line : List ν) : List (ν × τ) :=
  itemsOf origin (relay.holds none) ++
    line.reverse.flatMap fun node => itemsOf origin (relay.holds (some node))

section Along

variable {relay : Relay ν τ} {up : ν → Option ν} {origin node : ν} {holder : Option ν}
  {item : ν × τ} {line : List ν}

theorem itemsOf_append (origin : ν) (front back : List (ν × τ)) :
    itemsOf origin (front ++ back) = itemsOf origin front ++ itemsOf origin back :=
  List.filter_append front back

theorem itemsOf_own : itemsOf item.1 [item] = [item] :=
  List.filter_cons_of_pos (decide_eq_true rfl)

theorem itemsOf_other (different : item.1 ≠ origin) (rest : List (ν × τ)) :
    itemsOf origin (item :: rest) = itemsOf origin rest :=
  List.filter_cons_of_neg fun same => different (of_decide_eq_true same)

theorem along_cons (relay : Relay ν τ) (origin node : ν) (line : List ν) :
    relay.along origin (node :: line) =
      relay.along origin line ++ itemsOf origin (relay.holds (some node)) := by
  rw [along, along, List.reverse_cons, List.flatMap_append, List.flatMap_singleton,
    List.append_assoc]

theorem along_append (relay : Relay ν τ) (origin : ν) (lower line : List ν) :
    relay.along origin (lower ++ line) = relay.along origin line ++
      lower.reverse.flatMap fun node => itemsOf origin (relay.holds (some node)) := by
  rw [along, along, List.reverse_append, List.flatMap_append, List.append_assoc]

theorem along_congr {after : Relay ν τ}
    (sink : itemsOf origin (after.holds none) = itemsOf origin (relay.holds none))
    (nodes : ∀ node ∈ line,
      itemsOf origin (after.holds (some node)) = itemsOf origin (relay.holds (some node))) :
    after.along origin line = relay.along origin line := by
  rw [along, along, sink]
  congr 1
  exact List.flatMap_congr fun node member => nodes node (List.mem_reverse.mp member)

theorem push_holds (relay : Relay ν τ) (holder other : Option ν) (item : ν × τ) :
    (relay.push holder item).holds other =
      if other = holder then relay.holds holder ++ [item] else relay.holds other :=
  Function.update_apply _ _ _ _

theorem drop_holds (relay : Relay ν τ) (node : ν) (other : Option ν) :
    (relay.drop node).holds other =
      if other = some node then (relay.holds (some node)).tail else relay.holds other :=
  Function.update_apply _ _ _ _

theorem push_along_other (different : item.1 ≠ origin) :
    (relay.push holder item).along origin line = relay.along origin line := by
  have same (other : Option ν) :
      itemsOf origin ((relay.push holder item).holds other) = itemsOf origin (relay.holds other) := by
    rw [push_holds]
    split
    case isTrue here =>
      rw [itemsOf_append, itemsOf_other different, here]
      exact List.append_nil _
    case isFalse => rfl
  exact along_congr (same none) fun node _ => same (some node)

theorem push_along (route : Route up holder line) :
    (relay.push holder item).along item.1 line = relay.along item.1 line ++ [item] := by
  cases route with
  | sink =>
      rw [along, along, push_holds, if_pos rfl, itemsOf_append, itemsOf_own]
      simp
  | @node node line above =>
      have rest : (relay.push (some node) item).along item.1 line = relay.along item.1 line := by
        refine along_congr ?_ fun other member => ?_
        · rw [push_holds, if_neg nofun]
        · have apart : some other ≠ some node := by
            intro same
            obtain rfl := Option.some.inj same
            exact above.notMem member
          rw [push_holds, if_neg apart]
      rw [along_cons, along_cons, rest, push_holds, if_pos rfl, itemsOf_append, itemsOf_own,
        List.append_assoc]

end Along

structure Conserved (up : ν → Option ν) (relay : Relay ν τ) : Prop where
  placed : ∀ node, ∀ item ∈ relay.holds (some node), ∀ line, Route up (up item.1) line → node ∈ line
  ordered : ∀ origin line, Route up (up origin) line →
    relay.along origin line = itemsOf origin relay.sent

section Conserved

variable {relay : Relay ν τ} {up : ν → Option ν} {origin node : ν} {holder : Option ν}
  {item : ν × τ}

theorem empty_conserved (up : ν → Option ν) : Conserved up (empty : Relay ν τ) := by
  constructor
  case placed => exact fun node item held => nomatch held
  case ordered =>
    intro origin line _
    simp [along, empty, itemsOf]

theorem send_conserved (conserved : Conserved up relay) (node : ν) (value : τ) :
    Conserved up (relay.send up node value) := by
  constructor
  case placed =>
    intro other item held line route
    have either : item ∈ relay.holds (some other) ∨ some other = up node ∧ item = (node, value) := by
      change item ∈ (relay.push (up node) (node, value)).holds (some other) at held
      rw [push_holds] at held
      split at held
      case isTrue here =>
        rw [here]
        rcases List.mem_append.mp held with old | new
        · exact .inl old
        · exact .inr ⟨rfl, List.mem_singleton.mp new⟩
      case isFalse => exact .inl held
    rcases either with old | ⟨here, rfl⟩
    · exact conserved.placed other item old line route
    · change Route up (up node) line at route
      rw [← here] at route
      cases route
      exact List.mem_cons_self
  case ordered =>
    intro origin line route
    change (relay.push (up node) (node, value)).along origin line =
      itemsOf origin (relay.sent ++ [(node, value)])
    rw [itemsOf_append, ← conserved.ordered origin line route]
    by_cases own : node = origin
    · subst own
      rw [push_along route, @itemsOf_own ν τ _ (node, value)]
    · rw [push_along_other own, itemsOf_other own]
      exact (List.append_nil _).symm

theorem pass_along {rest : List (ν × τ)} (front : relay.holds (some node) = item :: rest)
    {line : List ν} (route : Route up holder line) (member : node ∈ line) :
    (relay.pass up node item).along item.1 line = relay.along item.1 line := by
  have nodup := route.nodup
  obtain ⟨lower, back, rfl, above⟩ := route.split member
  have apart := List.disjoint_of_nodup_append nodup
  have passed (other : ν) (different : other ≠ node) (notAbove : some other ≠ up node) :
      (relay.pass up node item).holds (some other) = relay.holds (some other) := by
    rw [pass, push_holds, if_neg notAbove, drop_holds,
      if_neg fun same => different (Option.some.inj same)]
  have notBack (other : ν) (outside : other ∉ back) : some other ≠ up node := by
    intro same
    rw [← same] at above
    cases above
    exact outside List.mem_cons_self
  have below : ∀ other ∈ lower.reverse,
      itemsOf item.1 ((relay.pass up node item).holds (some other)) =
        itemsOf item.1 (relay.holds (some other)) := by
    intro other inside
    have outside : ¬ other ∈ node :: back := apart (List.mem_reverse.mp inside)
    rw [List.mem_cons, not_or] at outside
    rw [passed other outside.1 (notBack other outside.2)]
  have here : (relay.pass up node item).holds (some node) = rest := by
    rw [pass, push_holds, if_neg (notBack node above.notMem), drop_holds, if_pos rfl, front,
      List.tail_cons]
  have upper : (relay.drop node).along item.1 back = relay.along item.1 back := by
    refine along_congr (by rw [drop_holds, if_neg nofun]) fun other inside => ?_
    have different : some other ≠ some node := by
      intro same
      obtain rfl := Option.some.inj same
      exact above.notMem inside
    rw [drop_holds, if_neg different]
  have moved : (relay.pass up node item).along item.1 back = relay.along item.1 back ++ [item] := by
    rw [pass, push_along above, upper]
  have first : itemsOf item.1 (item :: rest) = item :: itemsOf item.1 rest :=
    List.filter_cons_of_pos (decide_eq_true rfl)
  rw [along_append, along_append, along_cons, along_cons, List.flatMap_congr below, moved, here,
    front, first, List.append_cons _ item (itemsOf item.1 rest)]

theorem pass_conserved (conserved : Conserved up relay) {rest : List (ν × τ)}
    (front : relay.holds (some node) = item :: rest) : Conserved up (relay.pass up node item) := by
  have first : item ∈ relay.holds (some node) := by
    rw [front]
    exact List.mem_cons_self
  have dropped (other : Option ν) : (relay.drop node).holds other =
      if other = some node then rest else relay.holds other := by
    rw [drop_holds, front, List.tail_cons]
  constructor
  case placed =>
    intro other moved held line route
    have either : moved ∈ relay.holds (some other) ∨ some other = up node ∧ moved = item := by
      have old (holder : Option ν) (inside : moved ∈ (relay.drop node).holds holder) :
          moved ∈ relay.holds holder := by
        rw [dropped] at inside
        split at inside
        case isTrue here =>
          rw [here, front]
          exact List.mem_cons_of_mem item inside
        case isFalse => exact inside
      rw [pass, push_holds] at held
      split at held
      case isTrue here =>
        rcases List.mem_append.mp held with before | new
        · exact .inl (here ▸ old _ before)
        · exact .inr ⟨here, List.mem_singleton.mp new⟩
      case isFalse => exact .inl (old _ held)
    rcases either with before | ⟨above, rfl⟩
    · exact conserved.placed other moved before line route
    · -- the line of the item goes on from the node to the holder above
      obtain ⟨_, back, rfl, rest⟩ := route.split (conserved.placed node moved first line route)
      rw [← above] at rest
      cases rest
      simp
  case ordered =>
    intro origin line route
    change (relay.pass up node item).along origin line = itemsOf origin relay.sent
    rw [← conserved.ordered origin line route, pass]
    by_cases own : item.1 = origin
    · subst own
      exact pass_along front route (conserved.placed node item first line route)
    · rw [push_along_other own]
      refine along_congr ?_ fun other _ => ?_
      · rw [dropped, if_neg nofun]
      · rw [dropped]
        split
        case isTrue here => rw [here, front, itemsOf_other own]
        case isFalse => rfl

theorem Conserved.delivered (conserved : Conserved up relay)
    (passed : ∀ node, relay.holds (some node) = []) {line : List ν} (route : Route up (up origin) line) :
    itemsOf origin (relay.holds none) = itemsOf origin relay.sent := by
  have nothing : (line.reverse.flatMap fun node => itemsOf origin (relay.holds (some node))) = [] := by
    refine List.flatMap_eq_nil_iff.mpr fun node _ => ?_
    rw [passed node]
    rfl
  rw [← conserved.ordered origin line route, along, nothing, List.append_nil]

theorem perm_of_itemsOf [DecidableEq τ] {first second : List (ν × τ)}
    (same : ∀ origin, itemsOf origin first = itemsOf origin second) : first.Perm second := by
  rw [List.perm_iff_count]
  intro item
  have counted (items : List (ν × τ)) :
      List.count item (itemsOf item.1 items) = List.count item items :=
    List.count_filter (decide_eq_true rfl)
  rw [← counted first, ← counted second, same]

end Conserved

end Relay

end Rush.Library
