import Rush.Storage.FjallLawful
import Rush.Storage.Isolation

/-! A `FjallStore` against the ordered map it should be. The keys are scanned in
the order of their texts, and the key format pads a number to fourteen digits
while a `u64` can have twenty. The store is the ordered map exactly while the
texts of the stored keys are in the order of their numbers. -/

namespace Rush.Storage

open Std Rush.Library

namespace FjallStore

def StoreOp.update (entries : EntryMap) : StoreOp → EntryMap
  | .put key data => entries.insert key data
  | .del key => entries.erase key
  | .purge => ∅

def contents (entries : EntryMap) (ops : List StoreOp) : EntryMap :=
  ops.foldl StoreOp.update entries

def limited (count : Option UInt64) (entries : List (UInt64 × Bytes)) : List (UInt64 × Bytes) :=
  match count with
  | none => entries
  | some count => entries.take count.toNat

def scanned (entries : EntryMap) : IteratorOptions → List (UInt64 × Bytes)
  | .forward start count =>
    limited count (entries.toList.filter fun entry => start.all fun start => start ≤ entry.1)
  | .reverse start count =>
    limited count (entries.toList.reverse.filter fun entry => start.all fun start => entry.1 ≤ start)
  | .range start stop =>
    entries.toList.filter fun entry => start ≤ entry.1 && stop.all fun stop => entry.1 ≤ stop

/-- Everything that can be read from the store is as in the ordered map. -/
structure OrderedMapOf (store : FjallStore) (entries : EntryMap) : Prop where
  get : ∀ key, (store.get key).toOption = entries[key]?
  last : store.last = entries.toList.getLast?
  iter : ∀ options, store.iter options = scanned entries options

section Operations

variable {store : FjallStore} {entries : EntryMap}

theorem del_faultless (faultless : store.keyspace.writeFaults = []) (key : UInt64) :
    ∃ after, store.del key = (.ok (), after) ∧ after.keyspace.writeFaults = [] := by
  rcases write_faultless faultless fun entries => entries.erase (keyBytes store.keyPrefix key) with
    ⟨after, removed, rest⟩
  refine ⟨{ store with keyspace := after }, ?_, rest⟩
  simp only [del, Keyspace.remove, removed]

theorem apply_models (models : store.Models entries) (faultless : store.keyspace.writeFaults = [])
    (op : StoreOp) : (op.apply store).Models (op.update entries) ∧
      (op.apply store).keyspace.writeFaults = [] := by
  have reliable : ReliableStore.Reliable store := faultless
  cases op with
  | put key data =>
      rcases ReliableStore.put_reliable reliable key data with ⟨after, done, rest⟩
      have written : store.put key data = (.ok (), after) := done
      rw [StoreOp.apply, written]
      exact ⟨models_after_put models written, rest⟩
  | del key =>
      rcases del_faultless faultless key with ⟨after, removed, rest⟩
      rw [StoreOp.apply, removed]
      exact ⟨models_after_del models removed, rest⟩
  | purge =>
      rcases ReliableStore.purge_reliable models reliable with ⟨after, done, rest⟩
      have cleared : after.Models ∅ := LawfulStore.purge_models models done
      have purged : store.purge = (.ok (), after) := done
      rw [StoreOp.apply, purged]
      exact ⟨cleared, rest⟩

theorem applyAll_models (models : store.Models entries)
    (faultless : store.keyspace.writeFaults = []) (ops : List StoreOp) :
    (applyAll store ops).Models (contents entries ops) := by
  induction ops generalizing store entries with
  | nil => exact models
  | cons op ops ih =>
      have step := apply_models models faultless op
      exact ih step.1 step.2

end Operations

section Scans

variable {store : FjallStore} {entries : EntryMap}

theorem length_lt_of_missing {key : UInt64} (missing : key ∉ entries) :
    entries.toList.length < UInt64.size := by
  let numbers := entries.toList.map fun entry => entry.1.toNat
  have distinct : numbers.Nodup := by
    rw [List.Nodup, List.pairwise_map]
    apply List.Pairwise.imp _ (OrderedMap.toList_ascending entries)
    intro a b less same
    rw [UInt64.toNat_inj.mp same, ReflOrd.compare_self] at less
    cases less
  have within : numbers.toFinset ⊆ (Finset.range UInt64.size).erase key.toNat := by
    intro number member
    rcases List.mem_map.mp (List.mem_toFinset.mp member) with ⟨entry, listed, rfl⟩
    rw [Finset.mem_erase, Finset.mem_range]
    constructor
    · intro same
      apply missing
      rw [← UInt64.toNat_inj.mp same, ExtTreeMap.mem_iff_isSome_getElem?,
        ExtTreeMap.mem_toList_iff_getElem?_eq_some.mp listed]
      rfl
    · exact entry.1.toNat_lt
  calc
    entries.toList.length = numbers.toFinset.card := by
      rw [List.toFinset_card_of_nodup distinct, List.length_map]
    _ ≤ ((Finset.range UInt64.size).erase key.toNat).card := Finset.card_le_card within
    _ = UInt64.size - 1 := by
      rw [Finset.card_erase_of_mem (Finset.mem_range.mpr key.toNat_lt), Finset.card_range]
    _ < UInt64.size := by decide

theorem keysInOrder_length (ordered : KeysInOrder entries) :
    entries.toList.length < UInt64.size := by
  by_cases low : (20000000000000 : UInt64) ∈ entries
  · have high : (100000000000000 : UInt64) ∉ entries := by
      intro both
      exact absurd (ordered _ _ low both (by decide)) (by decide)
    exact length_lt_of_missing high
  · exact length_lt_of_missing low

theorem take_count {listed : List (UInt64 × Bytes)} (short : listed.length < UInt64.size)
    (count : Option UInt64) : listed.take (count.getD maxCount).toNat = limited count listed := by
  cases count with
  | none =>
      apply List.take_of_length_le
      have size : maxCount.toNat + 1 = UInt64.size := rfl
      change listed.length ≤ maxCount.toNat
      omega
  | some count => rfl

theorem le_lastKey (last : store.last = entries.toList.getLast?) {entry : UInt64 × Bytes}
    (member : entry ∈ entries.toList) : entry.1 ≤ store.lastKey := by
  have key : store.lastKey = (store.last.map Prod.fst).getD 0 := rfl
  rw [key, last]
  cases top : entries.toList.getLast? with
  | none =>
      rw [List.getLast?_eq_none_iff.mp top] at member
      cases member
  | some final =>
      change entry.1 ≤ final.1
      rcases OrderedMap.getLast_greatest (OrderedMap.toList_ascending entries) top entry member with
        same | less
      · rw [same]
        exact UInt64.le_refl final.1
      · exact UInt64.le_of_lt (Std.compare_eq_lt.mp less)

theorem iter_ordered (models : store.Models entries) (ordered : KeysInOrder entries)
    (options : IteratorOptions) : store.iter options = scanned entries options := by
  have listed := prefixIterator_models models ordered
  have last : store.last = entries.toList.getLast? := by
    rw [last_eq_getLast models, listed]
  have short := keysInOrder_length ordered
  have filtered (from_ : List (UInt64 × Bytes)) (keep : UInt64 × Bytes → Bool)
      (same : from_.length = entries.toList.length) :
      (from_.filter keep).length < UInt64.size := by
    have fewer := List.length_filter_le keep from_
    omega
  cases options with
  | forward start count =>
      simp only [iter, scanned, listed]
      rw [take_count (filtered _ _ rfl)]
      congr 2
      funext entry
      cases start with
      | none => simp
      | some start => exact not_decide_lt entry.1 start
  | reverse start count =>
      simp only [iter, scanned, listed]
      rw [take_count (filtered _ _ List.length_reverse)]
      congr 1
      apply List.filter_congr
      intro entry member
      have below := le_lastKey last (List.mem_reverse.mp member)
      cases start with
      | none => simpa using below
      | some start => exact not_decide_lt start entry.1
  | range start stop =>
      simp only [iter, scanned, listed]
      apply List.filter_congr
      intro entry member
      have below := le_lastKey last member
      cases stop with
      | none => simp [below]
      | some stop => simp

theorem ordered_of_keysInOrder (models : store.Models entries) (ordered : KeysInOrder entries) :
    store.OrderedMapOf entries := by
  constructor
  · have found : LawfulStore.Models store entries := models
    exact LawfulStore.get_models found
  · rw [last_eq_getLast models, prefixIterator_models models ordered]
  · exact iter_ordered models ordered

theorem prefixIterator_length (models : store.Models entries) :
    store.prefixIterator.length = entries.toList.length := by
  have distinct : store.prefixIterator.Nodup := by
    apply List.Pairwise.imp _ (prefixIterator_texts models)
    intro a b texts same
    rw [same, ReflOrd.compare_self] at texts
    cases texts
  have once := OrderedMap.ascending_nodup (OrderedMap.toList_ascending entries)
  apply List.Perm.length_eq
  apply (List.perm_ext_iff_of_nodup distinct once).mpr
  intro entry
  rw [mem_prefixIterator models, ExtTreeMap.mem_toList_iff_getElem?_eq_some]

theorem keysInOrder_of_ordered (models : store.Models entries)
    (ordered : store.OrderedMapOf entries) : KeysInOrder entries := by
  have whole : store.prefixIterator.take maxCount.toNat = entries.toList := by
    have scan := ordered.iter (.forward none none)
    simpa [iter, scanned, limited] using scan
  have taken := congrArg List.length whole
  rw [List.length_take, ← prefixIterator_length models] at taken
  rw [List.take_of_length_le (by omega)] at whole
  apply keysInOrder_of_ascending models
  rw [whole]
  exact OrderedMap.toList_ascending entries

end Scans

/-- A store that has its keyspace to itself is an ordered map over the `u64` keys
put into it exactly while the texts of these keys are in numeric order. -/
theorem ordered_map_iff {store : FjallStore} {entries : EntryMap} (models : store.Models entries)
    (faultless : store.keyspace.writeFaults = []) (ops : List StoreOp) :
    (applyAll store ops).OrderedMapOf (contents entries ops) ↔
      KeysInOrder (contents entries ops) := by
  have holds := applyAll_models models faultless ops
  constructor
  · exact keysInOrder_of_ordered holds
  · exact ordered_of_keysInOrder holds

theorem small_keys_ordered :
    (applyAll (createStore noEntry "events" "user")
        [.put 99999999999999 [2], .put 7 [1]]).OrderedMapOf
      (contents ∅ [.put 99999999999999 [2], .put 7 [1]]) := by
  have narrow : Narrow (10 ^ 14) (contents ∅ [.put 99999999999999 [2], .put 7 [1]]) :=
    narrow_insert (narrow_insert (narrow_empty _) (by decide)) (by decide)
  exact (ordered_map_iff (models_noEntry "events" "user") rfl _).mpr (narrow_keysInOrder narrow)

/-- Of a key with fifteen digits and a smaller one the smaller is the last, and
the unbounded reverse scan loses the greater. -/
theorem fifteen_digits_out_of_order :
    let ops := [StoreOp.put 100000000000000 [1], StoreOp.put 99999999999999 [2]]
    let store := applyAll (createStore noEntry "events" "user") ops
    store.last = some (99999999999999, [2]) ∧
      store.iter (.reverse none none) = [(99999999999999, [2])] ∧
      (contents ∅ ops).toList.getLast? = some (100000000000000, [1]) ∧
      ¬ store.OrderedMapOf (contents ∅ ops) := by
  have last : (applyAll (createStore noEntry "events" "user")
      [.put 100000000000000 [1], .put 99999999999999 [2]]).last = some (99999999999999, [2]) := by
    decide
  have greatest : (contents ∅ [.put 100000000000000 [1],
      .put 99999999999999 [2]]).toList.getLast? = some (100000000000000, [1]) := by
    decide
  refine ⟨last, by decide, greatest, ?_⟩
  intro ordered
  have same := ordered.last
  rw [last, greatest] at same
  exact absurd same (by decide)

end FjallStore

end Rush.Storage
