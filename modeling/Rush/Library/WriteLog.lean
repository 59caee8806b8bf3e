import Mathlib

/-! A log of writes before a crash. A persist call settles every write before it; of the
others a crash keeps some, in their order. Of the writes of a key-value map, what a crash has
kept is judged by the values that the map shows. -/

namespace Rush.Library.WriteLog

variable {ω : Type}

inductive Call (ω : Type) where
  | write (written : ω)
  | persist
  deriving DecidableEq, Repr

structure Log (ω : Type) where
  settled : List ω
  unsettled : List ω
  deriving DecidableEq, Repr

def Log.empty : Log ω := { settled := [], unsettled := [] }

def Log.writes (log : Log ω) : List ω := log.settled ++ log.unsettled

def Log.record (log : Log ω) : Call ω → Log ω
  | .write written => { log with unsettled := log.unsettled ++ [written] }
  | .persist => { settled := log.writes, unsettled := [] }

def Log.Survives (log : Log ω) (kept : List ω) : Prop :=
  ∃ some, List.Sublist some log.unsettled ∧ kept = log.settled ++ some

def written (calls : List (Call ω)) : List ω :=
  calls.filterMap fun call =>
    match call with
    | .write written => some written
    | .persist => none

def Log.recordAll (log : Log ω) (calls : List (Call ω)) : Log ω := calls.foldl Log.record log

theorem writes_recordAll (log : Log ω) (calls : List (Call ω)) :
    (log.recordAll calls).writes = log.writes ++ written calls := by
  induction calls generalizing log with
  | nil => exact (List.append_nil _).symm
  | cons call calls ih =>
      have rest := ih (log.record call)
      cases call with
      | write first =>
          rw [Log.recordAll, List.foldl_cons]
          refine rest.trans ?_
          simp [Log.writes, Log.record, written]
      | persist =>
          rw [Log.recordAll, List.foldl_cons]
          refine rest.trans ?_
          simp [Log.writes, Log.record, written]

theorem settled_recordAll (log : Log ω) {calls : List (Call ω)} (plain : .persist ∉ calls) :
    (log.recordAll calls).settled = log.settled := by
  induction calls generalizing log with
  | nil => rfl
  | cons call calls ih =>
      rw [List.mem_cons, not_or] at plain
      cases call with
      | write first => exact ih (log.record (.write first)) plain.2
      | persist => exact absurd rfl plain.1

theorem survives_iff (log : Log ω) (none : log.settled = []) (kept : List ω) :
    log.Survives kept ↔ kept.Sublist log.writes := by
  rw [Log.writes, none, List.nil_append]
  constructor
  · rintro ⟨some, sublist, rfl⟩
    rw [none]
    exact sublist
  · intro sublist
    exact ⟨kept, sublist, by rw [none, List.nil_append]⟩

section Maps

variable {κ ν : Type} [DecidableEq κ]

structure MapWrite (κ ν : Type) where
  key : κ
  value : Option ν

def MapWrite.apply (map : κ → Option ν) (write : MapWrite κ ν) : κ → Option ν :=
  Function.update map write.key write.value

def replay (map : κ → Option ν) (writes : List (MapWrite κ ν)) : κ → Option ν :=
  writes.foldl MapWrite.apply map

variable (map : κ → Option ν)

theorem replay_append (front back : List (MapWrite κ ν)) :
    replay map (front ++ back) = replay (replay map front) back := List.foldl_append

theorem replay_lookup (writes : List (MapWrite κ ν)) (key : κ) :
    (∃ write ∈ writes, write.key = key ∧ replay map writes key = write.value) ∨
      (∀ write ∈ writes, write.key ≠ key) ∧ replay map writes key = map key := by
  induction writes using List.reverseRecOn with
  | nil => exact .inr ⟨fun _ member => absurd member List.not_mem_nil, rfl⟩
  | append_singleton writes write ih =>
      rw [replay_append]
      change (∃ other ∈ _, _ ∧ Function.update (replay map writes) write.key write.value key = _) ∨
        _ ∧ Function.update (replay map writes) write.key write.value key = _
      by_cases here : write.key = key
      · left
        refine ⟨write, List.mem_append_right _ (List.mem_singleton_self _), here, ?_⟩
        rw [← here, Function.update_self]
      · rw [Function.update_of_ne (Ne.symm here)]
        rcases ih with ⟨other, member, same, shown⟩ | ⟨others, shown⟩
        · exact .inl ⟨other, List.mem_append_left _ member, same, shown⟩
        · refine .inr ⟨?_, shown⟩
          intro other member
          rcases List.mem_append.mp member with before | last
          · exact others other before
          · rw [List.mem_singleton.mp last]
            exact here

theorem written_shown {writes : List (MapWrite κ ν)} {write : MapWrite κ ν}
    (member : write ∈ writes) :
    ∃ past, past <+: writes ∧ replay map past write.key = write.value := by
  obtain ⟨front, back, rfl⟩ := List.append_of_mem member
  refine ⟨front ++ [write], ?_, ?_⟩
  · exact ⟨back, by simp⟩
  · rw [replay_append]
    exact Function.update_self _ _ _

/-- Whatever part of the writes is kept, it looks like the first ones with some of the
others, exactly if each value that a key has shown up to these it shows after them. -/
theorem kept_explained_iff (front back : List (MapWrite κ ν)) :
    (∀ kept, kept.Sublist (front ++ back) → ∃ later, later.Sublist back ∧
      replay map kept = replay (replay map front) later) ↔
    ∀ key past, past <+: front → ∃ seen, seen <+: back ∧
      replay map past key = replay (replay map front) seen key := by
  classical
  constructor
  · intro explained key past before
    obtain ⟨later, sublist, same⟩ :=
      explained past (before.sublist.trans (List.sublist_append_left _ _))
    rw [same]
    rcases replay_lookup (replay map front) later key with
      ⟨write, member, rfl, shown⟩ | ⟨_, shown⟩
    · obtain ⟨seen, within, again⟩ := written_shown (replay map front) (sublist.subset member)
      exact ⟨seen, within, shown.trans again.symm⟩
    · exact ⟨[], List.nil_prefix, shown⟩
  · intro again kept sublist
    refine ⟨back.filter fun write => replay map kept write.key = write.value,
      List.filter_sublist, ?_⟩
    funext key
    have settled (shows : ∃ past, past <+: front ∧ replay map past key = replay map kept key)
        (none : ∀ write ∈ back, write.key = key → replay map kept key ≠ write.value) :
        replay map kept key = replay map front key := by
      obtain ⟨past, before, same⟩ := shows
      obtain ⟨seen, within, shown⟩ := again key past before
      rcases replay_lookup (replay map front) seen key with
        ⟨write, member, here, value⟩ | ⟨_, value⟩
      · exact absurd (same.symm.trans (shown.trans value)) (none write (within.subset member) here)
      · exact same.symm.trans (shown.trans value)
    rcases replay_lookup (replay map front)
        (back.filter fun write => replay map kept write.key = write.value) key with
      ⟨write, member, rfl, shown⟩ | ⟨others, shown⟩
    · rw [shown]
      exact of_decide_eq_true (List.mem_filter.mp member).2
    · rw [shown]
      have none (write : MapWrite κ ν) (member : write ∈ back) (here : write.key = key) :
          replay map kept key ≠ write.value := by
        intro same
        refine others write (List.mem_filter.mpr ⟨member, ?_⟩) here
        rw [here]
        exact decide_eq_true same
      refine settled ?_ none
      rcases replay_lookup map kept key with ⟨write, member, here, value⟩ | ⟨_, value⟩
      · rcases List.mem_append.mp (sublist.subset member) with early | late
        · obtain ⟨past, before, same⟩ := written_shown map early
          rw [here] at same
          exact ⟨past, before, same.trans value.symm⟩
        · exact absurd value (none write late here)
      · exact ⟨[], List.nil_prefix, value.symm⟩

end Maps
end Rush.Library.WriteLog
