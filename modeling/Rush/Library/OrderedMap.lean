import Mathlib

/-! Ordered maps read as ascending lists of entries. The map itself is
`Std.ExtTreeMap`; these lemmas say that its entry list is determined by its
lookups, and which entry is the last one. -/

namespace Rush.Library.OrderedMap

open Std

variable {κ ν : Type} [Ord κ]

def Ascending (entries : List (κ × ν)) : Prop :=
  entries.Pairwise fun a b => compare a.1 b.1 = .lt

theorem ascending_nil : Ascending ([] : List (κ × ν)) := List.Pairwise.nil

theorem ascending_filter {entries : List (κ × ν)} (keep : κ × ν → Bool)
    (ordered : Ascending entries) : Ascending (entries.filter keep) :=
  List.Pairwise.filter keep ordered

theorem ascending_nodup [LawfulEqOrd κ] {entries : List (κ × ν)} (ordered : Ascending entries) :
    entries.Nodup := by
  apply List.Pairwise.imp _ ordered
  rintro a b less rfl
  rw [ReflOrd.compare_self] at less
  cases less

theorem ascending_pairwise [OrientedOrd κ] {entries : List (κ × ν)} {related : κ × ν → κ × ν → Prop}
    (ordered : Ascending entries) (along : entries.Pairwise related) {left right : κ × ν}
    (first : left ∈ entries) (second : right ∈ entries)
    (less : compare left.1 right.1 = .lt) : related left right := by
  induction entries with
  | nil => cases first
  | cons head tail ih =>
      have above := List.pairwise_cons.mp ordered
      have relates := List.pairwise_cons.mp along
      rcases List.mem_cons.mp second with rfl | later
      · rcases List.mem_cons.mp first with rfl | earlier
        · rw [ReflOrd.compare_self] at less
          cases less
        · rw [OrientedOrd.eq_swap, above.1 left earlier] at less
          cases less
      · rcases List.mem_cons.mp first with rfl | earlier
        · exact relates.1 right later
        · exact ih above.2 relates.2 earlier later

theorem getLast_greatest {entries : List (κ × ν)} {top : κ × ν} (ordered : Ascending entries)
    (last : entries.getLast? = some top) (entry : κ × ν) (member : entry ∈ entries) :
    entry = top ∨ compare entry.1 top.1 = .lt := by
  obtain ⟨front, rfl⟩ := List.getLast?_eq_some_iff.mp last
  rcases List.mem_append.mp member with before | final
  · right
    exact (List.pairwise_append.mp ordered).2.2 entry before top (List.mem_singleton_self top)
  · exact .inl (List.mem_singleton.mp final)

theorem toList_ascending [TransOrd κ] (map : ExtTreeMap κ ν compare) : Ascending map.toList :=
  ExtTreeMap.ordered_keys_toList

section Ordered

variable [TransOrd κ] [LawfulEqOrd κ]

theorem lookup_insert [DecidableEq κ] (map : ExtTreeMap κ ν compare) (key other : κ) (value : ν) :
    (map.insert key value)[other]? = if key = other then some value else map[other]? := by
  rw [ExtTreeMap.getElem?_insert]
  by_cases same : key = other
  · simp [same]
  · simp [same]

theorem lookup_erase [DecidableEq κ] (map : ExtTreeMap κ ν compare) (key other : κ) :
    (map.erase key)[other]? = if key = other then none else map[other]? := by
  rw [ExtTreeMap.getElem?_erase]
  by_cases same : key = other
  · simp [same]
  · simp [same]

theorem ascending_ext {left right : List (κ × ν)} (first : Ascending left)
    (second : Ascending right) (same : ∀ entry, entry ∈ left ↔ entry ∈ right) :
    left = right := by
  have perm : left.Perm right :=
    (List.perm_ext_iff_of_nodup (ascending_nodup first) (ascending_nodup second)).mpr same
  apply perm.eq_of_pairwise _ first second
  intro a b _ _ less more
  have swapped : compare b.1 a.1 = .gt := OrientedCmp.gt_iff_lt.mpr less
  rw [more] at swapped
  cases swapped

theorem toList_eq {map : ExtTreeMap κ ν compare} {entries : List (κ × ν)}
    (ordered : Ascending entries)
    (lookup : ∀ key value, (key, value) ∈ entries ↔ map[key]? = some value) :
    map.toList = entries := by
  apply ascending_ext (toList_ascending map) ordered
  rintro ⟨key, value⟩
  rw [ExtTreeMap.mem_toList_iff_getElem?_eq_some, lookup]

theorem toList_getLast_lookup {map : ExtTreeMap κ ν compare} {key : κ} {value : ν}
    (last : map.toList.getLast? = some (key, value)) : map[key]? = some value :=
  ExtTreeMap.mem_toList_iff_getElem?_eq_some.mp (List.mem_of_getLast? last)

theorem toList_getLast_none {map : ExtTreeMap κ ν compare}
    (last : map.toList.getLast? = none) (key : κ) : map[key]? = none := by
  rw [List.getLast?_eq_none_iff] at last
  cases found : map[key]? with
  | none => rfl
  | some value =>
      have member := ExtTreeMap.mem_toList_iff_getElem?_eq_some.mpr found
      rw [last] at member
      cases member

theorem toList_getLast_greatest {map : ExtTreeMap κ ν compare} {key : κ} {value : ν}
    (last : map.toList.getLast? = some (key, value)) (other : κ) (stored : ν)
    (found : map[other]? = some stored) : other = key ∨ compare other key = .lt := by
  have member := ExtTreeMap.mem_toList_iff_getElem?_eq_some.mpr found
  rcases getLast_greatest (toList_ascending map) last _ member with same | less
  · exact .inl (congrArg Prod.fst same)
  · exact .inr less

end Ordered

end Rush.Library.OrderedMap
