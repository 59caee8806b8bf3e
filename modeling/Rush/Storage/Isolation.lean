import Rush.Storage.Fjall
import Rush.Storage.Journal

/-! Two stores over one keyspace. A store's scans start from its prefix text
alone, without the colon that ends it in the keys, so the stores are apart only
while neither prefix text starts a key of the other. -/

namespace Rush.Storage

open Std Rush.Library

namespace FjallStore

inductive StoreOp where
  | put (key : UInt64) (data : Bytes)
  | del (key : UInt64)
  | purge
  deriving DecidableEq, Repr

def StoreOp.apply (store : FjallStore) : StoreOp → FjallStore
  | .put key data => (store.put key data).2
  | .del key => (store.del key).2
  | .purge => store.purge.2

def applyAll (store : FjallStore) (ops : List StoreOp) : FjallStore := ops.foldl StoreOp.apply store

/-- All that a scan of a store shows: its last entry and last key, every
iterator, and where a journal opened over it continues. -/
structure SameView (before after : FjallStore) : Prop where
  last : after.last = before.last
  lastKey : after.lastKey = before.lastKey
  iter : ∀ options, after.iter options = before.iter options
  journal : (BaseJournal.new after).nextSequence = (BaseJournal.new before).nextSequence

/-- Work on the store with prefix `q` does not show in the store with prefix `p`
of the same keyspace, and purging the former removes no entry of the latter. -/
structure Isolated (p q : String) : Prop where
  unseen : ∀ name keyspace ops,
    SameView (createStore keyspace name p)
      (createStore (applyAll (createStore keyspace name q) ops).keyspace name p)
  kept : ∀ name keyspace (key : UInt64),
    (purge (createStore keyspace name q)).2.keyspace.entries[keyBytes p key]? =
      keyspace.entries[keyBytes p key]?

/-- Neither prefix text starts a key text of the other store. -/
def Apart (p q : String) : Prop :=
  ∀ key : UInt64, ¬ utf8 p <+: keyBytes q key ∧ ¬ utf8 q <+: keyBytes p key

section Frame

theorem write_frame (keyspace : Keyspace) (bytes : Bytes)
    (update : ExtTreeMap Bytes Bytes compare → ExtTreeMap Bytes Bytes compare)
    (other : (update keyspace.entries)[bytes]? = keyspace.entries[bytes]?) :
    (keyspace.write update).2.entries[bytes]? = keyspace.entries[bytes]? ∧
      (keyspace.write update).2.readFault = keyspace.readFault := by
  rcases written : keyspace.write update with ⟨result, after⟩
  cases result with
  | error err =>
      have kept := write_failed written
      exact ⟨by rw [kept.1], kept.2⟩
  | ok value =>
      have change := write_ok written
      exact ⟨by rw [change.1, other], change.2⟩

theorem apply_frame (store : FjallStore) (op : StoreOp) (bytes : Bytes)
    (foreign : ¬ utf8 store.keyPrefix <+: bytes) :
    (op.apply store).keyspace.entries[bytes]? = store.keyspace.entries[bytes]? ∧
      (op.apply store).keyspace.readFault = store.keyspace.readFault := by
  have different (key : UInt64) : keyBytes store.keyPrefix key ≠ bytes := by
    intro same
    apply foreign
    rw [← same, keyBytes_eq]
    exact List.prefix_append _ _
  cases op with
  | put key data =>
      have frame := write_frame store.keyspace bytes
        (fun entries => entries.insert (keyBytes store.keyPrefix key) data)
        (by rw [OrderedMap.lookup_insert, if_neg (different key)])
      exact frame
  | del key =>
      have frame := write_frame store.keyspace bytes
        (fun entries => entries.erase (keyBytes store.keyPrefix key))
        (by rw [OrderedMap.lookup_erase, if_neg (different key)])
      exact frame
  | purge =>
      refine ⟨?_, purgeLoop_readFault store.scan store.keyspace⟩
      rcases purgeLoop_lookup store.scan store.keyspace bytes with same | ⟨_, guard, member, hit⟩
      · exact same
      · have starts := ((mem_scanPrefix _ _ _).mp member).1
        rw [hit] at starts
        exact absurd starts foreign

theorem apply_keyPrefix (store : FjallStore) (op : StoreOp) :
    (op.apply store).keyPrefix = store.keyPrefix := by
  cases op <;> rfl

theorem applyAll_frame (store : FjallStore) (ops : List StoreOp) (bytes : Bytes)
    (foreign : ¬ utf8 store.keyPrefix <+: bytes) :
    (applyAll store ops).keyspace.entries[bytes]? = store.keyspace.entries[bytes]? ∧
      (applyAll store ops).keyspace.readFault = store.keyspace.readFault := by
  induction ops generalizing store with
  | nil => exact ⟨rfl, rfl⟩
  | cons op ops ih =>
      have one := apply_frame store op bytes foreign
      have rest := ih (op.apply store) (by rw [apply_keyPrefix]; exact foreign)
      exact ⟨rest.1.trans one.1, rest.2.trans one.2⟩

theorem scanPrefix_congr {before after : Keyspace} {start : Bytes}
    (entries : ∀ bytes, start <+: bytes → after.entries[bytes]? = before.entries[bytes]?)
    (faults : after.readFault = before.readFault) :
    after.scanPrefix start = before.scanPrefix start := by
  have same : (after.entries.toList.filter fun entry => start.isPrefixOf entry.1) =
      before.entries.toList.filter fun entry => start.isPrefixOf entry.1 := by
    apply OrderedMap.ascending_ext (OrderedMap.ascending_filter _ (OrderedMap.toList_ascending _))
      (OrderedMap.ascending_filter _ (OrderedMap.toList_ascending _))
    intro entry
    rcases entry with ⟨key, value⟩
    simp only [List.mem_filter, List.isPrefixOf_iff_prefix,
      ExtTreeMap.mem_toList_iff_getElem?_eq_some]
    constructor
    · intro found
      exact ⟨(entries key found.2).symm.trans found.1, found.2⟩
    · intro found
      exact ⟨(entries key found.2).trans found.1, found.2⟩
  simp only [Keyspace.scanPrefix, same, faults]

theorem sameView_of_scan {before after : FjallStore} (same : after.scan = before.scan) :
    SameView before after := by
  have last : after.last = before.last := by
    simp only [FjallStore.last, same]
  have lastKey : after.lastKey = before.lastKey := by
    simp only [FjallStore.lastKey, same]
  have entries : after.prefixIterator = before.prefixIterator := by
    simp only [prefixIterator, same]
  refine ⟨last, lastKey, ?_, ?_⟩
  · intro options
    cases options <;> simp only [FjallStore.iter, entries, lastKey]
  · have seen : Store.last after = Store.last before := last
    simp only [BaseJournal.new, seen]
    cases Store.last before <;> rfl

end Frame

section Apart

theorem apart_foreign {p q : String} (apart : Apart p q) {bytes : Bytes}
    (mine : utf8 p <+: bytes) : ¬ utf8 q <+: bytes := by
  intro theirs
  rcases List.prefix_or_prefix_of_prefix mine theirs with shorter | longer
  · apply (apart 0).1
    rw [keyBytes_eq]
    exact shorter.trans (List.prefix_append _ _)
  · apply (apart 0).2
    rw [keyBytes_eq]
    exact longer.trans (List.prefix_append _ _)

theorem apart_isolated {p q : String} (apart : Apart p q) : Isolated p q := by
  constructor
  · intro name keyspace ops
    apply sameView_of_scan
    have frame (bytes : Bytes) (foreign : ¬ utf8 q <+: bytes) :=
      applyAll_frame (createStore keyspace name q) ops bytes foreign
    apply scanPrefix_congr
    · intro bytes mine
      exact (frame bytes (apart_foreign apart mine)).1
    · exact (frame (keyBytes p 0) (apart 0).2).2
  · intro name keyspace key
    exact (apply_frame (createStore keyspace name q) .purge _ (apart key).2).1

def oneEntry (key value : Bytes) : Keyspace :=
  { entries := (∅ : ExtTreeMap Bytes Bytes compare).insert key value, readFault := fun _ => none,
    writeFaults := [] }

theorem scanPrefix_oneEntry {start key value : Bytes} (starts : start <+: key) :
    (oneEntry key value).scanPrefix start = [{ storedKey := key, value, fault := none }] := by
  have entries : ((∅ : ExtTreeMap Bytes Bytes compare).insert key value).toList =
      [(key, value)] := by
    apply OrderedMap.toList_eq (List.pairwise_singleton _ _)
    intro other stored
    rw [OrderedMap.lookup_insert, ExtTreeMap.getElem?_empty, List.mem_singleton, Prod.mk.injEq]
    by_cases same : key = other
    · simp only [same, true_and, if_true, Option.some.injEq]
      exact eq_comm
    · simp only [if_neg same, reduceCtorEq, iff_false]
      intro equal
      exact same equal.1.symm
  have kept : start.isPrefixOf key = true := List.isPrefixOf_iff_prefix.mpr starts
  simp [Keyspace.scanPrefix, oneEntry, entries, kept]

theorem scanPrefix_noEntry (start : Bytes) : noEntry.scanPrefix start = [] := by
  have entries : (∅ : ExtTreeMap Bytes Bytes compare).toList = [] := by
    apply OrderedMap.toList_eq OrderedMap.ascending_nil
    intro key value
    simp
  simp [Keyspace.scanPrefix, noEntry, entries]

theorem isolated_no_reach {p q : String} (isolated : Isolated p q) (key : UInt64) :
    ¬ utf8 p <+: keyBytes q key := by
  intro reaches
  have view := (isolated.unseen "" noEntry [.put key []]).last
  have after : (applyAll (createStore noEntry "" q) [.put key []]).keyspace =
      oneEntry (keyBytes q key) [] := rfl
  rw [after] at view
  simp only [FjallStore.last, scan, createStore, scanPrefix_noEntry,
    scanPrefix_oneEntry reaches] at view
  rw [List.getLast?_singleton, Option.bind_some, intoKeyValue_keyBytes] at view
  cases view

theorem isolated_no_purge {p q : String} (isolated : Isolated p q) (key : UInt64) :
    ¬ utf8 q <+: keyBytes p key := by
  intro reaches
  have kept := isolated.kept "" (oneEntry (keyBytes p key) []) key
  have present : (oneEntry (keyBytes p key) []).entries[keyBytes p key]? = some [] := by
    rw [oneEntry, OrderedMap.lookup_insert, if_pos rfl]
  have removed : (purge (createStore (oneEntry (keyBytes p key) []) "" q)).2.keyspace.entries[
      keyBytes p key]? = none := by
    simp only [purge, scan, createStore, scanPrefix_oneEntry reaches]
    change ((oneEntry (keyBytes p key) []).entries.erase (keyBytes p key))[keyBytes p key]? = none
    rw [OrderedMap.lookup_erase, if_pos rfl]
  rw [removed, present] at kept
  cases kept

end Apart

/-- Isolation is exactly the separation of the two prefix texts. -/
theorem isolated_iff_apart (p q : String) : Isolated p q ↔ Apart p q := by
  constructor
  · intro isolated key
    exact ⟨isolated_no_reach isolated key, isolated_no_purge isolated key⟩
  · exact apart_isolated

/-- A journal opened for the actor `user-1` continues after the events of the
actor `user-10`. -/
theorem user_1_sees_user_10 : "user-1" ≠ "user-10" ∧ ¬ Isolated "user-1" "user-10" := by
  refine ⟨by decide, ?_⟩
  intro isolated
  have same := (isolated.unseen "Account-Journal" noEntry [.put 7 [1]]).journal
  exact absurd same (by decide)

end FjallStore

end Rush.Storage
