import Rush.Library.WriteLog
import Rush.Storage.Fjall
import Rush.Storage.Journal
import Rush.Storage.Snapshotter

/-! What a crash leaves of a `FjallStore`. Of the calls on fjall, those that returned `Ok`
are recorded; a write is sure to survive only if a persist call of the database follows
it. -/

namespace Rush.Storage

open Std Rush.Library Rush.Library.WriteLog

abbrev KeyspaceWrite := MapWrite Bytes Bytes

abbrev KeyspaceEntries := ExtTreeMap Bytes Bytes compare

def applyWrite (entries : KeyspaceEntries) (write : KeyspaceWrite) : KeyspaceEntries :=
  match write.value with
  | some value => entries.insert write.key value
  | none => entries.erase write.key

def replayWrites (entries : KeyspaceEntries) (writes : List KeyspaceWrite) : KeyspaceEntries :=
  writes.foldl applyWrite entries

theorem replayWrites_append (entries : KeyspaceEntries) (front back : List KeyspaceWrite) :
    replayWrites entries (front ++ back) = replayWrites (replayWrites entries front) back :=
  List.foldl_append

theorem replayWrites_lookup (entries : KeyspaceEntries) (writes : List KeyspaceWrite) :
    (fun key => (replayWrites entries writes)[key]?) =
      replay (fun key => entries[key]?) writes := by
  induction writes generalizing entries with
  | nil => rfl
  | cons write writes ih =>
      refine (ih (applyWrite entries write)).trans ?_
      change replay _ writes = replay (MapWrite.apply _ write) writes
      congr 1
      funext key
      rw [applyWrite, MapWrite.apply, Function.update_apply]
      cases write.value with
      | none => simp [OrderedMap.lookup_erase, eq_comm]
      | some value => simp [OrderedMap.lookup_insert, eq_comm]

namespace FjallStore

inductive Operation where
  | put (key : UInt64) (data : Bytes)
  | del (key : UInt64)
  | purge
  | flush
  deriving DecidableEq, Repr

def Operation.run (store : FjallStore) : Operation → Except Error Unit × FjallStore
  | .put key data => Store.put store key data
  | .del key => Store.del store key
  | .purge => Store.purge store
  | .flush => (Store.flush store, store)

def callIfOk (result : Except Error Unit) (write : KeyspaceWrite) : List (Call KeyspaceWrite) :=
  match result with
  | .ok () => [.write write]
  | .error _ => []

def purgeCalls : List Guard → Keyspace → List (Call KeyspaceWrite)
  | [], _ => []
  | guard :: guards, keyspace =>
    match guard.key with
    | .error _ => []
    | .ok key =>
      match keyspace.remove key with
      | (.error _, _) => []
      | (.ok (), after) => .write ⟨key, none⟩ :: purgeCalls guards after

/-- The calls on fjall that an operation makes. `flush` is the one that the trait
provides, which calls nothing. -/
def Operation.calls (store : FjallStore) : Operation → List (Call KeyspaceWrite)
  | .put key data =>
    callIfOk (Store.put store key data).1 ⟨keyBytes store.keyPrefix key, some data⟩
  | .del key => callIfOk (Store.del store key).1 ⟨keyBytes store.keyPrefix key, none⟩
  | .purge => purgeCalls store.scan store.keyspace
  | .flush => []

/-- A store since it was opened, with the writes that preceded the last flush that
returned `Ok`. -/
structure Session where
  store : FjallStore
  log : Log KeyspaceWrite
  promised : List KeyspaceWrite

namespace Session

def opened (store : FjallStore) : Session := { store, log := .empty, promised := [] }

def step (session : Session) (operation : Operation) : Session :=
  let (result, store) := operation.run session.store
  { store
    log := session.log.recordAll (operation.calls session.store)
    promised :=
      match operation, result with
      | .flush, .ok () => session.log.writes
      | _, _ => session.promised }

def after (store : FjallStore) (operations : List Operation) : Session :=
  operations.foldl step (opened store)

def reopened (store : FjallStore) (kept : List KeyspaceWrite) : FjallStore :=
  { store with
    keyspace := { store.keyspace with entries := replayWrites store.keyspace.entries kept } }

/-- Whatever survives a crash, the store opened again shows what the operations up to the
last flush left, with some of the later writes. -/
def Durable (store : FjallStore) (session : Session) : Prop :=
  ∀ kept, session.log.Survives kept →
    ∃ later, later.Sublist (session.log.writes.drop session.promised.length) ∧
      (reopened store kept).keyspace.entries =
        replayWrites (replayWrites store.keyspace.entries session.promised) later

def upToFlush (operations : List Operation) : List Operation :=
  operations.rdropWhile fun operation => operation ≠ .flush

def shown (store : FjallStore) (operations : List Operation) (key : Bytes) : Option Bytes :=
  (after store operations).store.keyspace.entries[key]?

/-- Each value that a key has shown up to the last flush, it shows then or later. -/
def ShownAgain (store : FjallStore) (operations : List Operation) : Prop :=
  ∀ key front, front <+: upToFlush operations → ∃ whole, upToFlush operations <+: whole ∧
    whole <+: operations ∧ shown store front key = shown store whole key

end Session

theorem purge_replayed (guards : List Guard) (keyspace : Keyspace) :
    (purgeLoop guards keyspace).2.entries =
      replayWrites keyspace.entries (written (purgeCalls guards keyspace)) := by
  induction guards generalizing keyspace with
  | nil => rfl
  | cons guard guards ih =>
      cases loaded : guard.key with
      | error err =>
          simp only [purgeLoop, purgeCalls, loaded]
          rfl
      | ok key =>
          rcases removed : keyspace.remove key with ⟨result, next⟩
          cases result with
          | error err =>
              simp only [purgeLoop, purgeCalls, loaded, removed]
              exact (write_failed removed).1
          | ok done =>
              simp only [purgeLoop, purgeCalls, loaded, removed]
              rw [ih next, (write_ok removed).1]
              rfl

theorem run_replayed (store : FjallStore) (operation : Operation) :
    (operation.run store).2.keyspace.entries =
      replayWrites store.keyspace.entries (written (operation.calls store)) := by
  cases operation with
  | put key data =>
      change (FjallStore.put store key data).2.keyspace.entries =
        replayWrites _ (written (callIfOk (FjallStore.put store key data).1 _))
      rw [FjallStore.put]
      rcases inserted : store.keyspace.insert (keyBytes store.keyPrefix key) data with ⟨result, keyspace⟩
      cases result with
      | error err => exact (write_failed inserted).1
      | ok done => exact (write_ok inserted).1
  | del key =>
      change (FjallStore.del store key).2.keyspace.entries =
        replayWrites _ (written (callIfOk (FjallStore.del store key).1 _))
      rw [FjallStore.del]
      rcases removed : store.keyspace.remove (keyBytes store.keyPrefix key) with ⟨result, keyspace⟩
      cases result with
      | error err => exact (write_failed removed).1
      | ok done => exact (write_ok removed).1
  | purge => exact purge_replayed store.scan store.keyspace
  | flush => rfl

theorem purgeCalls_plain (guards : List Guard) (keyspace : Keyspace) :
    .persist ∉ purgeCalls guards keyspace := by
  induction guards generalizing keyspace with
  | nil => exact List.not_mem_nil
  | cons guard guards ih =>
      rw [purgeCalls]
      split
      · exact List.not_mem_nil
      · split
        · exact List.not_mem_nil
        · next removed done => exact List.not_mem_cons_of_ne_of_not_mem nofun (ih removed)

theorem purgeCalls_remove {guards : List Guard} {keyspace : Keyspace} {write : KeyspaceWrite}
    (member : write ∈ written (purgeCalls guards keyspace)) : write.value = none := by
  induction guards generalizing keyspace with
  | nil => exact absurd member List.not_mem_nil
  | cons guard guards ih =>
      rw [purgeCalls] at member
      split at member
      · exact absurd member List.not_mem_nil
      · split at member
        · exact absurd member List.not_mem_nil
        · rcases List.mem_cons.mp member with rfl | later
          · rfl
          · exact ih later

theorem flush_driven (gzip : Gzip) (journal : BaseJournal FjallStore) (files : FileSystem)
    (snapshotter : BaseSnapshotter FjallStore) :
    BaseJournal.handle gzip (journal, files) .flush =
      (.ok .none, { journal with store := (Operation.flush.run journal.store).2 }, files) ∧
    BaseSnapshotter.handle snapshotter .flush =
      (.ok .none, { store := (Operation.flush.run snapshotter.store).2 }) := ⟨rfl, rfl⟩

theorem calls_plain (store : FjallStore) (operation : Operation) :
    .persist ∉ operation.calls store := by
  have single (result : Except Error Unit) (write : KeyspaceWrite) :
      .persist ∉ callIfOk result write := by
    cases result with
    | error err => exact List.not_mem_nil
    | ok done => exact List.not_mem_cons_of_ne_of_not_mem nofun List.not_mem_nil
  cases operation with
  | put key data => exact single _ _
  | del key => exact single _ _
  | purge => exact purgeCalls_plain store.scan store.keyspace
  | flush => exact List.not_mem_nil

namespace Session

theorem after_concat (store : FjallStore) (operations : List Operation) (operation : Operation) :
    after store (operations ++ [operation]) = (after store operations).step operation :=
  List.foldl_concat _ _ _ _

theorem after_replayed (store : FjallStore) (operations : List Operation) :
    (after store operations).store.keyspace.entries =
      replayWrites store.keyspace.entries (after store operations).log.writes := by
  induction operations using List.reverseRecOn with
  | nil => rfl
  | append_singleton operations operation ih =>
      rw [after_concat]
      change (operation.run _).2.keyspace.entries = replayWrites _ (Log.recordAll _ _).writes
      rw [run_replayed, ih, writes_recordAll, replayWrites_append]

theorem after_settled (store : FjallStore) (operations : List Operation) :
    (after store operations).log.settled = [] := by
  induction operations using List.reverseRecOn with
  | nil => rfl
  | append_singleton operations operation ih =>
      rw [after_concat]
      exact (settled_recordAll _ (calls_plain _ operation)).trans ih

theorem writes_grow (store : FjallStore) (front back : List Operation) :
    (after store front).log.writes <+: (after store (front ++ back)).log.writes := by
  induction back using List.reverseRecOn with
  | nil => rw [List.append_nil]
  | append_singleton back operation ih =>
      rw [← List.append_assoc, after_concat]
      refine ih.trans ?_
      change _ <+: (Log.recordAll _ _).writes
      rw [writes_recordAll]
      exact List.prefix_append _ _

theorem promised_upToFlush (store : FjallStore) (operations : List Operation) :
    (after store operations).promised = (after store (upToFlush operations)).log.writes := by
  induction operations using List.reverseRecOn with
  | nil => rfl
  | append_singleton operations operation ih =>
      rw [after_concat, upToFlush]
      cases operation with
      | put | del | purge => rw [List.rdropWhile_concat_pos _ _ _ (by simp)]; exact ih
      | flush =>
          rw [List.rdropWhile_concat_neg _ _ _ (by simp), after_concat]
          rfl

theorem calls_agree (store : FjallStore) (operation : Operation) {first second : KeyspaceWrite}
    (one : first ∈ written (operation.calls store)) (other : second ∈ written (operation.calls store)) :
    first.key = second.key → first.value = second.value := by
  have single {result : Except Error Unit} {write : KeyspaceWrite} (member : first ∈ written (callIfOk result write))
      (again : second ∈ written (callIfOk result write)) : first.value = second.value := by
    cases result with
    | error => exact absurd member List.not_mem_nil
    | ok => rw [List.mem_singleton.mp member, List.mem_singleton.mp again]
  intro same
  cases operation with
  | put | del => exact single one other
  | purge => rw [purgeCalls_remove one, purgeCalls_remove other]
  | flush => exact absurd one List.not_mem_nil

theorem calls_shown (store : FjallStore) (operation : Operation) {part : List KeyspaceWrite}
    (within : part <+: written (operation.calls store)) (key : Bytes) :
    replay (fun key => store.keyspace.entries[key]?) part key = store.keyspace.entries[key]? ∨
      replay (fun key => store.keyspace.entries[key]?) part key =
        (operation.run store).2.keyspace.entries[key]? := by
  rw [run_replayed, congrFun (replayWrites_lookup _ _) key]
  rcases replay_lookup (fun key => store.keyspace.entries[key]?) part key with
    ⟨write, member, rfl, value⟩ | ⟨_, value⟩
  · right
    rcases replay_lookup (fun key => store.keyspace.entries[key]?)
        (written (operation.calls store)) write.key with ⟨last, among, same, final⟩ | ⟨others, _⟩
    · rw [value, final]
      exact calls_agree store operation (within.subset member) among same.symm
    · exact absurd rfl (others write (within.subset member))
  · exact .inl value

theorem shown_replay (store : FjallStore) (operations : List Operation) :
    shown store operations =
      replay (fun key => store.keyspace.entries[key]?) (after store operations).log.writes := by
  rw [← replayWrites_lookup]
  funext key
  rw [shown, after_replayed]

theorem shown_between (store : FjallStore) (flushed later : List Operation)
    {writes : List KeyspaceWrite} (behind : (after store flushed).log.writes <+: writes)
    (within : writes <+: (after store (flushed ++ later)).log.writes) (key : Bytes) :
    ∃ whole, flushed <+: whole ∧ whole <+: flushed ++ later ∧
      replay (fun key => store.keyspace.entries[key]?) writes key = shown store whole key := by
  induction later using List.reverseRecOn with
  | nil =>
      rw [List.append_nil] at within
      have same := behind.eq_of_length_le within.length_le
      exact ⟨flushed, List.prefix_rfl, List.prefix_append _ _, by rw [shown_replay, same]⟩
  | append_singleton later operation ih =>
      have grown : (after store (flushed ++ later)).log.writes <+:
          (after store (flushed ++ (later ++ [operation]))).log.writes := by
        rw [← List.append_assoc]
        exact writes_grow store _ _
      have shorter : flushed ++ later <+: flushed ++ (later ++ [operation]) := by
        rw [List.prefix_append_right_inj]
        exact List.prefix_append _ _
      rcases List.prefix_or_prefix_of_prefix within grown with before | ⟨part, rfl⟩
      · obtain ⟨whole, longer, among, same⟩ := ih before
        exact ⟨whole, longer, among.trans shorter, same⟩
      · rw [← List.append_assoc, after_concat] at within
        change _ <+: (Log.recordAll _ _).writes at within
        rw [writes_recordAll, List.prefix_append_right_inj] at within
        have now := calls_shown (after store (flushed ++ later)).store operation within key
        have before : (fun key => (after store (flushed ++ later)).store.keyspace.entries[key]?) =
            shown store (flushed ++ later) := rfl
        rw [before, shown_replay, ← replay_append] at now
        rcases now with kept | moved
        · exact ⟨flushed ++ later, List.prefix_append _ _, shorter, kept⟩
        · refine ⟨flushed ++ (later ++ [operation]), List.prefix_append _ _, List.prefix_rfl,
            moved.trans ?_⟩
          rw [← List.append_assoc, shown, after_concat]
          rfl

theorem reopened_eq_iff (store : FjallStore) (kept promised later : List KeyspaceWrite) :
    (reopened store kept).keyspace.entries =
        replayWrites (replayWrites store.keyspace.entries promised) later ↔
      replay (fun key => store.keyspace.entries[key]?) kept =
        replay (replay (fun key => store.keyspace.entries[key]?) promised) later := by
  rw [← replay_append, ← replayWrites_append, ← replayWrites_lookup, ← replayWrites_lookup]
  constructor
  · intro same
    rw [← same]
    rfl
  · intro same
    exact ExtTreeMap.ext_getElem? fun key => congrFun same key

/-- A flush keeps its promise exactly in the runs in which nothing that was shown up to it
has gone for good. -/
theorem flush_durable_iff (store : FjallStore) (operations : List Operation) :
    (after store operations).Durable store ↔ ShownAgain store operations := by
  obtain ⟨later, split⟩ : upToFlush operations <+: operations := List.rdropWhile_prefix _ _
  obtain ⟨back, grown⟩ := writes_grow store (upToFlush operations) later
  rw [split] at grown
  have promised := promised_upToFlush store operations
  have since : (after store operations).log.writes.drop
      (after store (upToFlush operations)).log.writes.length = back := by
    rw [← grown, List.drop_left]
  have explained : (after store operations).Durable store ↔
      ∀ kept, kept.Sublist ((after store (upToFlush operations)).log.writes ++ back) →
        ∃ more, more.Sublist back ∧ replay (fun key => store.keyspace.entries[key]?) kept =
          replay (replay (fun key => store.keyspace.entries[key]?)
            (after store (upToFlush operations)).log.writes) more := by
    rw [Durable, promised, since]
    simp only [survives_iff _ (after_settled store operations), reopened_eq_iff, grown]
  rw [explained, kept_explained_iff]
  constructor
  · intro again key front within
    obtain ⟨rest, front_rest⟩ := within
    have past := writes_grow store front rest
    rw [front_rest] at past
    obtain ⟨seen, among, same⟩ := again key _ past
    rw [← replay_append] at same
    obtain ⟨whole, longer, shorter, last⟩ := shown_between store (upToFlush operations) later
      (List.prefix_append _ seen)
      (by rw [split, ← grown, List.prefix_append_right_inj]; exact among) key
    rw [split] at shorter
    refine ⟨whole, longer, shorter, ?_⟩
    rw [shown_replay store front, same, last]
  · intro again key past before
    obtain ⟨front, _, among, first⟩ := shown_between store [] (upToFlush operations)
      List.nil_prefix before key
    obtain ⟨whole, longer, ⟨rest, whole_rest⟩, last⟩ := again key front among
    obtain ⟨more, rfl⟩ := longer
    obtain ⟨seen, written⟩ := writes_grow store (upToFlush operations) more
    have grows := writes_grow store (upToFlush operations ++ more) rest
    rw [whole_rest, ← written, ← grown, List.prefix_append_right_inj] at grows
    refine ⟨seen, grows, ?_⟩
    rw [first, last, shown_replay, ← written, replay_append]

/-- A flush that returned `Ok` and a crash: the event put before is gone. -/
theorem flushed_put_lost :
    ¬ ∀ (store : FjallStore) (operations : List Operation), (after store operations).Durable store := by
  intro claimed
  have durable := claimed { name := "Tally-Journal", keyPrefix := "votes", keyspace := noEntry }
    [.put 0 [7], .flush]
  obtain ⟨later, sublist, same⟩ := durable [] ⟨[], List.nil_sublist _, rfl⟩
  obtain rfl := List.sublist_nil.mp sublist
  have shows := congrArg (fun entries : KeyspaceEntries => entries[keyBytes "votes" 0]?) same
  change (∅ : KeyspaceEntries)[keyBytes "votes" 0]? =
    ((∅ : KeyspaceEntries).insert (keyBytes "votes" 0) [7])[keyBytes "votes" 0]? at shows
  rw [OrderedMap.lookup_insert, if_pos rfl, ExtTreeMap.getElem?_empty] at shows
  cases shows

end Session

end FjallStore

end Rush.Storage
