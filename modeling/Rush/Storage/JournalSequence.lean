import Rush.Library.Runs
import Rush.Storage.FjallLawful
import Rush.Storage.JournalModel

/-! The numbering of a journal over its whole life. `put`, a successful import
and a re-opening keep `nextSequence` one past the greatest stored sequence; an
insertion keeps it only where it replaces a sequence that was already counted. -/

namespace Rush.Storage

open Std Rush.Library

namespace BaseJournal

/-- One operation on a journal, with the files an import sees. -/
inductive SequenceStep where
  | put (data : Bytes)
  | insert (sequence : UInt64) (data : Bytes)
  | importFrom (files : FileSystem) (dir : String)
  | reopen

section Steps

variable {σ : Type} [Store σ]

/-- A failed `put` or `insert` is a step too; of the imports only those that
succeed are. -/
def sequenceStep (journal : BaseJournal σ) : SequenceStep → Option (BaseJournal σ)
  | .put data => some (journal.put data).2
  | .insert sequence data => some (journal.insert sequence data).2
  | .importFrom files dir =>
    match journal.importEvents files dir with
    | (.ok (), after) => some after
    | (.error _, _) => none
  | .reopen => some (new journal.store)

def Newest (store : σ) (top : UInt64) (data : Bytes) : Prop :=
  stored store top = some data ∧
    ∀ (key : UInt64) (other : Bytes), stored store key = some other → key ≤ top

/-- The numbering a caller relies on. -/
structure Numbered (journal : BaseJournal σ) : Prop where
  exact_ : (∀ key, stored journal.store key = none) ∧ journal.nextSequence = 0 ∨
    ∃ top data, Newest journal.store top data ∧ journal.nextSequence.toNat = top.toNat + 1
  fresh : stored journal.store journal.nextSequence = none
  last : ∀ top data, Newest journal.store top data → journal.last = some (top, data)
  range : ∀ top data start, Newest journal.store top data → start ≤ top →
    (top, data) ∈ journal.range start none
  reopened : (new journal.store).nextSequence = journal.nextSequence

variable [LawfulStore σ]

/-- Insertions replace sequences that are already counted, and no sequence
number reaches the store's capacity. -/
def Contiguous (journal : BaseJournal σ) : SequenceStep → Prop
  | .put _ => journal.nextSequence.toNat < LawfulStore.capacity σ
  | .insert sequence _ => sequence < journal.nextSequence
  | .importFrom files dir =>
    (journal.importedEvents files dir).length ≤ LawfulStore.capacity σ
  | .reopen => True

/-- A journal opened over a store whose sequences stay below its capacity. -/
def OpenedOver (journal : BaseJournal σ) : Prop :=
  ∃ store entries, LawfulStore.Models store entries ∧ Narrow (LawfulStore.capacity σ) entries ∧
    journal = new store

end Steps

structure Counted (entries : EntryMap) (next : UInt64) : Prop where
  below : ∀ (key : UInt64) (data : Bytes), entries[key]? = some data → key < next
  top : next = 0 ∨ ∃ data, entries[next - 1]? = some data

theorem pred_toNat {next : UInt64} (positive : next ≠ 0) : (next - 1).toNat + 1 = next.toNat := by
  have present : next.toNat ≠ 0 := by
    intro zero
    exact positive (UInt64.toNat_inj.mp zero)
  have one : (1 : UInt64) ≤ next := by
    rw [UInt64.le_iff_toNat_le]
    change 1 ≤ next.toNat
    omega
  rw [UInt64.toNat_sub_of_le _ _ one]
  change next.toNat - 1 + 1 = next.toNat
  omega

theorem counted_unique {entries : EntryMap} {left right : UInt64}
    (first : Counted entries left) (second : Counted entries right) : left = right := by
  have bounded (one other : UInt64) (counted : Counted entries one)
      (counts : Counted entries other) : one.toNat ≤ other.toNat := by
    rcases counted.top with zero | ⟨data, present⟩
    · rw [zero]
      exact Nat.zero_le _
    · by_cases zero : one = 0
      · rw [zero]
        exact Nat.zero_le _
      · have less := UInt64.lt_iff_toNat_lt.mp (counts.below _ _ present)
        have last := pred_toNat zero
        omega
  exact UInt64.toNat_inj.mp (Nat.le_antisymm (bounded left right first second)
    (bounded right left second first))

theorem counted_put {entries : EntryMap} {next : UInt64} (counted : Counted entries next)
    (data : Bytes) (room : next.toNat + 1 < UInt64.size) :
    Counted (entries.insert next data) (next + 1) := by
  have successor := toNat_succ room
  constructor
  · intro key other present
    rw [OrderedMap.lookup_insert] at present
    rw [UInt64.lt_iff_toNat_lt, successor]
    split at present
    · next same =>
        rw [same]
        omega
    · have less := UInt64.lt_iff_toNat_lt.mp (counted.below _ _ present)
      omega
  · right
    refine ⟨data, ?_⟩
    rw [UInt64.add_sub_cancel, OrderedMap.lookup_insert, if_pos rfl]

theorem counted_insert {entries : EntryMap} {next sequence : UInt64}
    (counted : Counted entries next) (data : Bytes) (inside : sequence < next) :
    Counted (entries.insert sequence data) next := by
  constructor
  · intro key other present
    rw [OrderedMap.lookup_insert] at present
    split at present
    · next same => exact same ▸ inside
    · exact counted.below _ _ present
  · rcases counted.top with zero | ⟨last, present⟩
    · exact .inl zero
    · right
      rw [OrderedMap.lookup_insert]
      split
      · exact ⟨data, rfl⟩
      · exact ⟨last, present⟩

theorem counted_list {entries : EntryMap} {datas : List Bytes}
    (numbered : ∀ key : UInt64, entries[key]? = datas[key.toNat]?)
    (room : datas.length < UInt64.size) : Counted entries (UInt64.ofNat datas.length) := by
  have size : (UInt64.ofNat datas.length).toNat = datas.length := UInt64.toNat_ofNat_of_lt' room
  constructor
  · intro key data present
    rw [numbered key] at present
    rw [UInt64.lt_iff_toNat_lt, size]
    exact (List.getElem?_eq_some_iff.mp present).1
  · by_cases zero : UInt64.ofNat datas.length = 0
    · exact .inl zero
    · right
      have before := pred_toNat zero
      have inside : (UInt64.ofNat datas.length - 1).toNat < datas.length := by omega
      exact ⟨datas[(UInt64.ofNat datas.length - 1).toNat],
        by rw [numbered, List.getElem?_eq_getElem inside]⟩

variable {σ : Type} [Store σ] [LawfulStore σ] {journal : BaseJournal σ} {entries : EntryMap}

structure Sequential (journal : BaseJournal σ) (entries : EntryMap) : Prop where
  models : journal.Models entries
  counted : Counted entries journal.nextSequence
  bounded : journal.nextSequence.toNat ≤ LawfulStore.capacity σ

theorem Sequential.narrow (sequential : Sequential journal entries) :
    Narrow (LawfulStore.capacity σ) entries := by
  intro key data present
  have less := UInt64.lt_iff_toNat_lt.mp (sequential.counted.below key data present)
  exact Nat.lt_of_lt_of_le less sequential.bounded

theorem new_sequential {store : σ} (models : LawfulStore.Models store entries)
    (narrow : Narrow (LawfulStore.capacity σ) entries) : Sequential (new store) entries := by
  have small := LawfulStore.capacity_lt (σ := σ)
  have last := LawfulStore.last_models models narrow
  cases top : entries.toList.getLast? with
  | none =>
      rw [top] at last
      have shape : new store = { store, nextSequence := 0 } := by
        simp only [new, last]
      rw [shape]
      refine ⟨models, ⟨?_, .inl rfl⟩, Nat.zero_le _⟩
      intro key data present
      rw [OrderedMap.toList_getLast_none top] at present
      cases present
  | some entry =>
      rcases entry with ⟨key, data⟩
      rw [top] at last
      have shape : new store = { store, nextSequence := key + 1 } := by
        simp only [new, last]
      have present := OrderedMap.toList_getLast_lookup top
      have below := narrow key data present
      have successor := toNat_succ (show key.toNat + 1 < UInt64.size by omega)
      rw [shape]
      refine ⟨models, ⟨?_, .inr ⟨data, ?_⟩⟩, ?_⟩
      · intro other found other_present
        rw [UInt64.lt_iff_toNat_lt, successor]
        rcases OrderedMap.toList_getLast_greatest top other found other_present with same | less
        · rw [same]
          omega
        · have smaller := UInt64.lt_iff_toNat_lt.mp (Std.compare_eq_lt.mp less)
          omega
      · change entries[key + 1 - 1]? = some data
        rw [UInt64.add_sub_cancel]
        exact present
      · change (key + 1).toNat ≤ LawfulStore.capacity σ
        omega

theorem put_sequential (sequential : Sequential journal entries) (data : Bytes)
    (room : journal.nextSequence.toNat < LawfulStore.capacity σ) :
    ∃ entries, Sequential (journal.put data).2 entries := by
  have small := LawfulStore.capacity_lt (σ := σ)
  rcases put_cases sequential.models data with
    ⟨after, stored, models, advanced⟩ | ⟨err, after, failed, models, kept⟩
  · rw [stored]
    refine ⟨_, models, ?_, ?_⟩
    · rw [advanced]
      exact counted_put sequential.counted data (by omega)
    · rw [advanced, toNat_succ (by omega)]
      exact room
  · rw [failed]
    refine ⟨entries, models, ?_, ?_⟩
    · rw [kept]
      exact sequential.counted
    · rw [kept]
      exact sequential.bounded

theorem insert_sequential (sequential : Sequential journal entries) (sequence : UInt64)
    (data : Bytes) (inside : sequence < journal.nextSequence) :
    ∃ entries, Sequential (journal.insert sequence data).2 entries := by
  rcases insert_cases sequential.models sequence data with ⟨models, kept⟩
  rcases models with done | failed
  · refine ⟨_, done, ?_, ?_⟩
    · rw [kept]
      exact counted_insert sequential.counted data inside
    · rw [kept]
      exact sequential.bounded
  · refine ⟨entries, failed, ?_, ?_⟩
    · rw [kept]
      exact sequential.counted
    · rw [kept]
      exact sequential.bounded

theorem import_sequential (sequential : Sequential journal entries) (files : FileSystem)
    (dir : String) (room : (journal.importedEvents files dir).length ≤ LawfulStore.capacity σ)
    {after : BaseJournal σ} (done : journal.importEvents files dir = (.ok (), after)) :
    ∃ entries, Sequential after entries := by
  have small := LawfulStore.capacity_lt (σ := σ)
  rcases importEvents_cases sequential.models files dir done with
    ⟨err, rest, failed, _⟩ | ⟨taken, starts, models, counted, _, _⟩
  · cases failed
  · have size := starts.length_le
    refine ⟨_, models, ?_, ?_⟩
    · rw [counted]
      exact counted_list (fun key => appended_empty_lookup taken key (by omega)) (by omega)
    · rw [counted, UInt64.toNat_ofNat_of_lt' (by omega)]
      omega

theorem step_sequential (sequential : Sequential journal entries) (label : SequenceStep)
    (contiguous : Contiguous journal label) {after : BaseJournal σ}
    (taken : sequenceStep journal label = some after) : ∃ entries, Sequential after entries := by
  cases label with
  | put data =>
      cases taken
      exact put_sequential sequential data contiguous
  | insert sequence data =>
      cases taken
      exact insert_sequential sequential sequence data contiguous
  | importFrom files dir =>
      rcases done : journal.importEvents files dir with ⟨result, next⟩
      cases result with
      | error err =>
          simp only [sequenceStep, done, reduceCtorEq] at taken
      | ok value =>
          simp only [sequenceStep, done, Option.some.injEq] at taken
          subst taken
          exact import_sequential sequential files dir contiguous done
  | reopen =>
      cases taken
      exact ⟨entries, new_sequential sequential.models sequential.narrow⟩

theorem reached_sequential (reached : Runs.Guarded sequenceStep OpenedOver Contiguous journal) :
    ∃ entries, Sequential journal entries := by
  apply Runs.guarded_invariant (fun journal => ∃ entries, Sequential journal entries) _ _ reached
  · intro journal opened
    rcases opened with ⟨store, entries, models, narrow, rfl⟩
    exact ⟨entries, new_sequential models narrow⟩
  · intro journal label after holds contiguous taken
    rcases holds with ⟨entries, sequential⟩
    exact step_sequential sequential label contiguous taken

theorem newest_next (sequential : Sequential journal entries) {top : UInt64} {data : Bytes}
    (newest : Newest journal.store top data) :
    entries[top]? = some data ∧ journal.nextSequence.toNat = top.toNat + 1 := by
  have present := (stored_models sequential.models top).symm.trans newest.1
  have less := UInt64.lt_iff_toNat_lt.mp (sequential.counted.below top data present)
  refine ⟨present, ?_⟩
  rcases sequential.counted.top with zero | ⟨other, found⟩
  · rw [zero] at less
    exact absurd less (Nat.not_lt_zero _)
  · have seen := (stored_models sequential.models _).trans found
    have highest := UInt64.le_iff_toNat_le.mp (newest.2 _ other seen)
    have positive : journal.nextSequence ≠ 0 := by
      intro zero
      rw [zero] at less
      exact Nat.not_lt_zero _ less
    have before := pred_toNat positive
    omega

theorem latestSequence_newest (sequential : Sequential journal entries) {top : UInt64}
    {data : Bytes} (newest : Newest journal.store top data) : journal.latestSequence = top := by
  have count := (newest_next sequential newest).2
  have positive : journal.nextSequence ≠ 0 := by
    intro zero
    rw [zero] at count
    exact absurd count (Nat.succ_ne_zero _).symm
  have before := pred_toNat positive
  rw [latestSequence, if_neg positive]
  apply UInt64.toNat_inj.mp
  omega

theorem sequential_exact (sequential : Sequential journal entries) :
    (∀ key, stored journal.store key = none) ∧ journal.nextSequence = 0 ∨
      ∃ top data, Newest journal.store top data ∧ journal.nextSequence.toNat = top.toNat + 1 := by
  have seen := stored_models sequential.models
  by_cases zero : journal.nextSequence = 0
  · left
    refine ⟨?_, zero⟩
    intro key
    rw [seen]
    cases present : entries[key]? with
    | none => rfl
    | some data =>
        have less := UInt64.lt_iff_toNat_lt.mp (sequential.counted.below key data present)
        rw [zero] at less
        exact absurd less (Nat.not_lt_zero _)
  · right
    rcases sequential.counted.top with empty | ⟨data, present⟩
    · exact absurd empty zero
    · refine ⟨journal.nextSequence - 1, data, ⟨(seen _).trans present, ?_⟩, (pred_toNat zero).symm⟩
      intro key other found
      rw [seen] at found
      have less := UInt64.lt_iff_toNat_lt.mp (sequential.counted.below key other found)
      have before := pred_toNat zero
      rw [UInt64.le_iff_toNat_le]
      omega

/-- In a run whose insertions stay below the end and whose numbers stay within
the store's capacity, the numbering is sound in every state. -/
theorem contiguous_run_numbered
    (reached : Runs.Guarded sequenceStep OpenedOver Contiguous journal) : Numbered journal := by
  rcases reached_sequential reached with ⟨entries, sequential⟩
  constructor
  · exact sequential_exact sequential
  · rw [stored_models sequential.models]
    cases present : entries[journal.nextSequence]? with
    | none => rfl
    | some data =>
        have less := UInt64.lt_iff_toNat_lt.mp (sequential.counted.below _ data present)
        exact absurd less (Nat.lt_irrefl _)
  · intro top data newest
    have present := (newest_next sequential newest).1
    rw [last_models sequential.models, latestSequence_newest sequential newest, present]
    rfl
  · intro top data start newest inside
    have present := (newest_next sequential newest).1
    rw [range_models sequential.models sequential.narrow, List.mem_filter,
      ExtTreeMap.mem_toList_iff_getElem?_eq_some, Option.getD_none,
      latestSequence_newest sequential newest]
    exact ⟨present, by simpa using inside⟩
  · have again := new_sequential sequential.models sequential.narrow
    exact counted_unique again.counted sequential.counted

section Runs

def fresh : BaseJournal FjallStore :=
  new (FjallStore.createStore noEntry "Account-Journal" "user-1")

theorem fresh_opened : OpenedOver fresh :=
  ⟨_, ∅, FjallStore.models_noEntry _ _, narrow_empty _, rfl⟩

theorem corrected_event_numbered :
    Numbered (new ((fresh.put [1]).2.insert 0 [2]).2.store) := by
  apply contiguous_run_numbered
  have room : fresh.nextSequence.toNat < 10 ^ 14 := by decide
  have inside : 0 < (fresh.put [1]).2.nextSequence := by decide
  refine .next ((fresh.put [1]).2.insert 0 [2]).2 SequenceStep.reopen ?_ trivial rfl
  refine .next (fresh.put [1]).2 (SequenceStep.insert 0 [2]) ?_ inside rfl
  exact .next fresh (SequenceStep.put [1]) (.start fresh_opened) room rfl

/-- An insertion past the end of an empty journal is not counted, and a journal
re-opened over the store disagrees with the live one. -/
theorem insert_past_end_not_numbered :
    Runs.Reachable sequenceStep OpenedOver (fresh.insert 5 [1]).2 ∧
      ¬ Numbered (fresh.insert 5 [1]).2 := by
  constructor
  · exact .next fresh (SequenceStep.insert 5 [1]) (.start fresh_opened) trivial rfl
  · intro numbered
    exact absurd numbered.reopened (by decide)

end Runs

end BaseJournal

end Rush.Storage
