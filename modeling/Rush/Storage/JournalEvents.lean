import Rush.Storage.JournalSequence

/-! A journal that is only put to, as a list of events: event `n` is stored under
sequence `n`, and a range from `n` is the list without its first `n` events. -/

namespace Rush.Storage

open Std Rush.Library

/-- The events of a range with their numbers; without an end the range goes on to the last. -/
def between (datas : List Bytes) (start : UInt64) (stop : Option UInt64) :
    List (UInt64 × Bytes) :=
  (datas.zipIdx.filter fun entry =>
    start.toNat ≤ entry.2 && stop.all fun stop => entry.2 ≤ stop.toNat).map
      fun entry => (UInt64.ofNat entry.2, entry.1)

namespace BaseJournal

variable {σ : Type} [Store σ] [LawfulStore σ] {journal : BaseJournal σ} {datas : List Bytes}

def Stores (store : σ) (datas : List Bytes) : Prop :=
  datas.length ≤ LawfulStore.capacity σ ∧ ∃ entries : EntryMap,
    LawfulStore.Models store entries ∧ ∀ key : UInt64, entries[key]? = datas[key.toNat]?

structure Lists (journal : BaseJournal σ) (datas : List Bytes) : Prop where
  stores : Stores journal.store datas
  next : journal.nextSequence.toNat = datas.length

theorem stores_length_lt {store : σ} (stores : Stores store datas) :
    datas.length < UInt64.size :=
  Nat.lt_of_le_of_lt stores.1 (LawfulStore.capacity_lt (σ := σ))

theorem stores_narrow {entries : EntryMap} (bounded : datas.length ≤ LawfulStore.capacity σ)
    (numbered : ∀ key : UInt64, entries[key]? = datas[key.toNat]?) :
    Narrow (LawfulStore.capacity σ) entries := by
  intro key data present
  rw [numbered] at present
  exact Nat.lt_of_lt_of_le (List.getElem?_eq_some_iff.mp present).1 bounded

theorem stores_empty {store : σ} (models : LawfulStore.Models store ∅) : Stores store [] :=
  ⟨Nat.zero_le _, ∅, models, fun key => by simp⟩

omit [LawfulStore σ] in
theorem new_store (store : σ) : (new store).store = store := by
  unfold new
  cases Store.last store <;> rfl

theorem lists_new {store : σ} (stores : Stores store datas) : Lists (new store) datas := by
  have room := stores_length_lt stores
  rcases stores with ⟨bounded, entries, models, numbered⟩
  have opened := new_sequential models (stores_narrow bounded numbered)
  have next := counted_unique opened.counted (counted_list numbered room)
  constructor
  · rw [new_store]
    exact ⟨bounded, entries, models, numbered⟩
  · rw [next, UInt64.toNat_ofNat_of_lt' room]

theorem numbered_insert {entries : EntryMap} {next : UInt64}
    (numbered : ∀ key : UInt64, entries[key]? = datas[key.toNat]?)
    (last : next.toNat = datas.length) (data : Bytes) (key : UInt64) :
    (entries.insert next data)[key]? = (datas ++ [data])[key.toNat]? := by
  rw [OrderedMap.lookup_insert, numbered]
  by_cases same : next = key
  · rw [if_pos same, ← same, last, List.getElem?_concat_length]
  · have different : key.toNat ≠ datas.length := by
      intro equal
      exact same (UInt64.toNat_inj.mp (last.trans equal.symm))
    rw [if_neg same, List.getElem?_append]
    split
    · rfl
    · next outside =>
        rw [List.getElem?_eq_none (by omega), List.getElem?_eq_none]
        rw [List.length_singleton]
        omega

theorem lists_put (lists : Lists journal datas) (data : Bytes)
    (room : datas.length < LawfulStore.capacity σ) :
    (∃ after, journal.put data = (.ok (), after) ∧ Lists after (datas ++ [data]) ∧
      after.nextSequence = journal.nextSequence + 1) ∨
    ∃ err after, journal.put data = (.error err, after) ∧ Lists after datas ∧
      after.nextSequence = journal.nextSequence := by
  have small := LawfulStore.capacity_lt (σ := σ)
  rcases lists.stores with ⟨bounded, entries, models, numbered⟩
  rcases put_cases models data with
    ⟨after, done, holds, advanced⟩ | ⟨err, after, failed, holds, kept⟩
  · left
    refine ⟨after, done, ⟨⟨?_, _, holds, numbered_insert numbered lists.next data⟩, ?_⟩, advanced⟩
    · rw [List.length_append, List.length_singleton]
      exact room
    · have next := lists.next
      rw [advanced, toNat_succ (by omega), List.length_append, List.length_singleton, next]
  · right
    refine ⟨err, after, failed, ⟨⟨bounded, entries, holds, numbered⟩, ?_⟩, kept⟩
    rw [kept, lists.next]

theorem numbered_set {entries : EntryMap} {sequence : UInt64}
    (numbered : ∀ key : UInt64, entries[key]? = datas[key.toNat]?)
    (inside : sequence.toNat < datas.length) (data : Bytes) (key : UInt64) :
    (entries.insert sequence data)[key]? = (datas.set sequence.toNat data)[key.toNat]? := by
  rw [OrderedMap.lookup_insert, numbered]
  by_cases same : sequence = key
  · rw [if_pos same, ← same, List.getElem?_set_self inside]
  · have different : sequence.toNat ≠ key.toNat := fun equal => same (UInt64.toNat_inj.mp equal)
    rw [if_neg same, List.getElem?_set_ne different]

theorem lists_insert (lists : Lists journal datas) {sequence : UInt64}
    (inside : sequence.toNat < datas.length) (data : Bytes) :
    Lists (journal.insert sequence data).2 (datas.set sequence.toNat data) ∨
      Lists (journal.insert sequence data).2 datas := by
  rcases lists.stores with ⟨bounded, entries, models, numbered⟩
  obtain ⟨holds, next⟩ := insert_cases models sequence data
  have counter := lists.next
  rw [← next] at counter
  rcases holds with written | kept
  · left
    constructor
    · rw [Stores, List.length_set]
      exact ⟨bounded, _, written, numbered_set numbered inside data⟩
    · rw [counter, List.length_set]
  · exact .inr ⟨⟨bounded, entries, kept, numbered⟩, counter⟩

theorem lists_import {entries : EntryMap} (models : journal.Models entries) (files : FileSystem)
    (dir : String) (purges : (Store.purge journal.store).1 = .ok ())
    (room : (journal.importedEvents files dir).length ≤ LawfulStore.capacity σ) :
    ∃ taken, taken <+: journal.importedEvents files dir ∧
      Lists (journal.importEvents files dir).2 taken ∧
      ((journal.importEvents files dir).1 = .ok () → taken = journal.importedEvents files dir) := by
  rcases ran : journal.importEvents files dir with ⟨result, after⟩
  rcases importEvents_cases models files dir ran with
    ⟨_, _, _, failed, _⟩ | ⟨taken, starts, holds, next, _, complete⟩
  · exact absurd purges failed
  · have bounded : taken.length ≤ LawfulStore.capacity σ := Nat.le_trans starts.length_le room
    have size : taken.length < UInt64.size :=
      Nat.lt_of_le_of_lt bounded (LawfulStore.capacity_lt (σ := σ))
    refine ⟨taken, starts, ⟨⟨bounded, _, holds, ?_⟩, ?_⟩, fun done => (complete.mp done).1⟩
    · exact fun key => appended_empty_lookup taken key size
    · rw [next, UInt64.toNat_ofNat_of_lt' size]

theorem lists_latest (lists : Lists journal datas) :
    datas = [] ∧ journal.latestSequence = 0 ∨
      datas ≠ [] ∧ journal.latestSequence.toNat + 1 = datas.length := by
  have next := lists.next
  by_cases zero : journal.nextSequence = 0
  · left
    rw [zero] at next
    exact ⟨List.length_eq_zero_iff.mp next.symm, by rw [latestSequence, if_pos zero]⟩
  · right
    have before := pred_toNat zero
    constructor
    · intro empty
      rw [empty, List.length_nil] at next
      omega
    · rw [latestSequence, if_neg zero]
      omega

theorem toList_numbered {entries : EntryMap} (room : datas.length < UInt64.size)
    (numbered : ∀ key : UInt64, entries[key]? = datas[key.toNat]?) :
    entries.toList = datas.zipIdx.map fun entry => (UInt64.ofNat entry.2, entry.1) := by
  apply OrderedMap.toList_eq
  · unfold OrderedMap.Ascending
    rw [List.pairwise_map, List.pairwise_iff_getElem]
    intro i j first second less
    rw [List.length_zipIdx] at first second
    rw [List.getElem_zipIdx, List.getElem_zipIdx, Std.compare_eq_lt, UInt64.lt_iff_toNat_lt,
      UInt64.toNat_ofNat_of_lt' (by omega), UInt64.toNat_ofNat_of_lt' (by omega)]
    omega
  · intro key value
    rw [numbered, List.mem_map]
    constructor
    · intro found
      rcases found with ⟨⟨data, index⟩, member, same⟩
      have position := List.mem_zipIdx_iff_getElem?.mp member
      have inside := (List.getElem?_eq_some_iff.mp position).1
      cases same
      dsimp only at position inside ⊢
      rw [UInt64.toNat_ofNat_of_lt' (by omega)]
      exact position
    · intro present
      refine ⟨(value, key.toNat), List.mem_zipIdx_iff_getElem?.mpr present, ?_⟩
      rw [UInt64.ofNat_toNat]

theorem filter_zipIdx_drop (values : List Bytes) (start base : Nat) :
    ((values.zipIdx base).filter fun entry => decide (base + start ≤ entry.2)).map Prod.fst =
      values.drop start := by
  induction values generalizing start base with
  | nil => simp
  | cons value values ih =>
      cases start with
      | zero =>
          have all : ((value :: values).zipIdx base).filter
              (fun entry => decide (base + 0 ≤ entry.2)) = (value :: values).zipIdx base := by
            apply List.filter_eq_self.mpr
            intro entry member
            exact decide_eq_true (List.le_snd_of_mem_zipIdx member)
          rw [all, List.zipIdx_map_fst, List.drop_zero]
      | succ start =>
          have next := ih start (base + 1)
          rw [Nat.add_right_comm, Nat.add_assoc] at next
          rw [List.zipIdx_cons, List.filter_cons, if_neg (by simp), next, List.drop_succ_cons]

theorem range_between (lists : Lists journal datas) (start : UInt64) (stop : Option UInt64) :
    journal.range start stop = between datas start stop := by
  have room := stores_length_lt lists.stores
  rcases lists.stores with ⟨bounded, entries, models, numbered⟩
  rw [range_models models (stores_narrow bounded numbered), toList_numbered room numbered,
    List.filter_map, between]
  congr 1
  apply List.filter_congr
  intro entry member
  have position := List.mem_zipIdx_iff_getElem?.mp member
  have inside := (List.getElem?_eq_some_iff.mp position).1
  have size : (UInt64.ofNat entry.2).toNat = entry.2 := UInt64.toNat_ofNat_of_lt' (by omega)
  cases stop with
  | some stop => simp only [Function.comp, UInt64.le_iff_toNat_le, size, Option.getD_some,
      Option.all_some]
  | none =>
      have below : UInt64.ofNat entry.2 ≤ journal.latestSequence := by
        rw [UInt64.le_iff_toNat_le, size]
        rcases lists_latest lists with ⟨empty, _⟩ | ⟨_, latest⟩
        · rw [empty, List.length_nil] at inside
          omega
        · omega
      simp only [Function.comp, Option.getD_none, below, decide_true, Bool.and_true,
        UInt64.le_iff_toNat_le, size, Option.all_none]

theorem range_drop (lists : Lists journal datas) (start : UInt64) :
    (journal.range start none).map Prod.snd = datas.drop start.toNat := by
  have dropped := filter_zipIdx_drop datas start.toNat 0
  rw [range_between lists, between, List.map_map, ← dropped, Nat.zero_add]
  simp only [Option.all_none, Bool.and_true]
  rfl

end BaseJournal

end Rush.Storage
