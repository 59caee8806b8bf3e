import Mathlib

/-! Lists cut at a separator and put together again. A joined list has the separator
in front of every segment, and one list of segments continues another exactly if its
joined form continues the other's behind a separator. -/

namespace Rush.Library.Segments

variable {α : Type} [DecidableEq α] {separator : α}

theorem splitOn_apart {text segment : List α} (member : segment ∈ text.splitOn separator) :
    separator ∉ segment := by
  induction text generalizing segment with
  | nil =>
      rw [List.splitOn_nil, List.mem_singleton] at member
      rw [member]
      exact List.not_mem_nil
  | cons char text ih =>
      rw [List.splitOn_cons_eq_if_modifyHead] at member
      by_cases here : char = separator
      · rw [if_pos (beq_iff_eq.mpr here)] at member
        rcases List.mem_cons.mp member with rfl | later
        · exact List.not_mem_nil
        · exact ih later
      · rw [if_neg (fun same => here (beq_iff_eq.mp same))] at member
        obtain ⟨first, rest, split⟩ := List.exists_cons_of_ne_nil (List.splitOn_ne_nil separator text)
        rw [split, List.modifyHead_cons] at member
        rcases List.mem_cons.mp member with rfl | later
        · intro inside
          rcases List.mem_cons.mp inside with same | inside
          · exact here same.symm
          · exact ih (by rw [split]; exact List.mem_cons_self) inside
        · exact ih (by rw [split]; exact List.mem_cons_of_mem _ later)

theorem rtakeWhile_separator (front : List α) {back : List α} (apart : separator ∉ back) :
    (front ++ separator :: back).rtakeWhile (fun char => char != separator) = back := by
  induction back using List.reverseRecOn with
  | nil => exact List.rtakeWhile_concat_neg _ _ _ (by simp)
  | append_singleton back char ih =>
      rw [List.mem_append, not_or, List.mem_singleton] at apart
      have whole : front ++ separator :: (back ++ [char]) = (front ++ separator :: back) ++ [char] := by
        simp
      have other : (char != separator) = true := bne_iff_ne.mpr (Ne.symm apart.2)
      rw [whole, List.rtakeWhile_concat, if_pos other, ih apart.1]

theorem getLast?_splitOn (text : List α) :
    (text.splitOn separator).getLast? = some (text.rtakeWhile fun char => char != separator) := by
  by_cases inside : separator ∈ text
  · obtain ⟨back, front, reversed, apart⟩ :=
      List.eq_append_cons_of_mem (List.mem_reverse.mpr inside)
    have cut : text = front.reverse ++ separator :: back.reverse := by
      rw [← List.reverse_reverse text, reversed]
      simp
    have behind : separator ∉ back.reverse := fun member => apart (List.mem_reverse.mp member)
    rw [cut, rtakeWhile_separator _ behind, List.splitOn_append_cons_self,
      List.splitOn_eq_singleton behind, List.getLast?_concat]
  · have whole : text.rtakeWhile (fun char => char != separator) = text := by
      rw [List.rtakeWhile_eq_self_iff]
      intro char member
      exact bne_iff_ne.mpr fun same => inside (same ▸ member)
    rw [List.splitOn_eq_singleton inside, whole, List.getLast?_singleton]

def joined (separator : α) (segments : List (List α)) : List α :=
  segments.flatMap fun segment => separator :: segment

omit [DecidableEq α] in
theorem joined_append (front back : List (List α)) :
    joined separator (front ++ back) = joined separator front ++ joined separator back :=
  List.flatMap_append

omit [DecidableEq α] in
theorem joined_cons (segment : List α) (segments : List (List α)) :
    joined separator (segment :: segments) = separator :: (segment ++ joined separator segments) := rfl

omit [DecidableEq α] in
theorem joined_eq_intercalate (segment : List α) (segments : List (List α)) :
    joined separator (segment :: segments) =
      separator :: [separator].intercalate (segment :: segments) := by
  induction segments generalizing segment with
  | nil => rw [joined_cons, List.intercalate_singleton, joined, List.flatMap_nil, List.append_nil]
  | cons next segments ih =>
      rw [joined_cons, ih next, List.intercalate_cons_cons]
      simp

theorem splitOn_joined {segments : List (List α)}
    (apart : ∀ segment ∈ segments, separator ∉ segment) :
    (joined separator segments).splitOn separator = [] :: segments := by
  cases segments with
  | nil => exact List.splitOn_nil separator
  | cons segment segments =>
      have split := List.splitOn_append_cons_self (a := separator) []
        ([separator].intercalate (segment :: segments))
      rw [List.splitOn_nil, List.splitOn_intercalate separator apart (List.cons_ne_nil _ _)] at split
      rw [joined_eq_intercalate]
      exact split

theorem joined_prefix_iff {front segments : List (List α)}
    (apartFront : ∀ segment ∈ front, separator ∉ segment)
    (apart : ∀ segment ∈ segments, separator ∉ segment) :
    joined separator front ++ [separator] <+: joined separator segments ↔
      front <+: segments ∧ front ≠ segments := by
  constructor
  · rintro ⟨rest, text⟩
    have split := congrArg (List.splitOn separator) text
    rw [List.append_assoc, List.singleton_append, List.splitOn_append_cons_self,
      splitOn_joined apartFront, splitOn_joined apart, List.cons_append, List.cons.injEq] at split
    refine ⟨⟨_, split.2⟩, ?_⟩
    intro same
    have empty := List.append_right_eq_self.mp (split.2.trans same.symm)
    exact List.splitOn_ne_nil separator rest empty
  · rintro ⟨⟨back, rfl⟩, different⟩
    cases back with
    | nil => exact absurd (List.append_nil front).symm different
    | cons segment back =>
        refine ⟨segment ++ joined separator back, ?_⟩
        rw [joined_append, joined_cons, List.append_assoc, List.singleton_append]

end Rush.Library.Segments
