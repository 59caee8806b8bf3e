import Rush.Storage.FjallLawful
import Rush.Storage.Memory

/-! The two back ends side by side. Calls through the handles of one store give
the same answers on both: the contents stay equal, and each scan of the one is
the matching scan of the other. -/

namespace Rush.Storage

open Std Rush.Library

/-- The keyspaces by name; one that was not there before is opened empty. -/
structure FjallDbManager where
  keyspaces : String → Keyspace

namespace FjallDbManager

def new : FjallDbManager := { keyspaces := fun _ => noEntry }

def createStore (manager : FjallDbManager) (name keyPrefix : String) :
    FjallStore × FjallDbManager :=
  (FjallStore.createStore (manager.keyspaces name) name keyPrefix, manager)

end FjallDbManager

instance : DbManager FjallDbManager FjallStore where
  createStore := FjallDbManager.createStore
  load manager store := { store with keyspace := manager.keyspaces store.name }
  save manager store :=
    { keyspaces := Function.update manager.keyspaces store.name store.keyspace }

/-- Two stores of one name and prefix and one content. The keyspace has no entry
of another store and no fault ahead. -/
structure SameStore (memory : MemoryStore) (fjall : FjallStore) : Prop where
  name : memory.name = fjall.name
  keyPrefix : memory.keyPrefix = fjall.keyPrefix
  data : memory.data = fjall.keyspace.entries
  alone : ∃ entries, fjall.Models entries
  faultless : fjall.keyspace.writeFaults = []

def Fits (data : ExtTreeMap Bytes Bytes compare) : Prop := data.size < UInt64.size

section Scans

variable {memory : MemoryStore} {fjall : FjallStore}

theorem iterPrefix_eq (same : SameStore memory fjall) :
    memory.iterPrefix memory.keyPrefix = fjall.prefixIterator := by
  obtain ⟨entries, models⟩ := same.alone
  unfold MemoryStore.iterPrefix FjallStore.prefixIterator FjallStore.scan Keyspace.scanPrefix
  rw [List.filterMap_map, List.filterMap_filter, same.data, same.keyPrefix]
  congr 1
  funext entry
  rcases entry with ⟨key, value⟩
  simp only [Function.comp_apply, models.readable, FjallStore.intoKeyValue_faultless,
    MemoryStore.keyValue]

/-- Every key of the content parses and starts with the prefix, so that the last
entry is the last one of the iterator. -/
theorem last_eq (same : SameStore memory fjall) : memory.last = fjall.last := by
  obtain ⟨entries, models⟩ := same.alone
  have kept : memory.iterPrefix memory.keyPrefix = memory.data.toList.filterMap MemoryStore.keyValue := by
    apply List.filterMap_congr
    intro entry member
    have present := ExtTreeMap.mem_toList_iff_getElem?_eq_some.mp member
    rw [same.data] at present
    obtain ⟨key, text⟩ := models.alone entry.1 entry.2 present
    have starts : (utf8 memory.keyPrefix).isPrefixOf entry.1 = true := by
      rw [List.isPrefixOf_iff_prefix, text, same.keyPrefix]
      exact FjallStore.utf8_prefix_keyBytes fjall.keyPrefix key
    rw [if_pos starts]
  rw [FjallStore.last_eq_getLast models, ← iterPrefix_eq same, kept, List.getLast?_filterMap]
  rfl

theorem prefixIterator_size (same : SameStore memory fjall) (fits : Fits memory.data) :
    fjall.prefixIterator.length < UInt64.size := by
  have fewer := List.length_filterMap_le (fun entry : Bytes × Bytes =>
    if (utf8 memory.keyPrefix).isPrefixOf entry.1 then MemoryStore.keyValue entry else none)
    memory.data.toList
  rw [← iterPrefix_eq same]
  unfold Fits at fits
  rw [← ExtTreeMap.length_toList] at fits
  exact Nat.lt_of_le_of_lt fewer fits

theorem take_size {listed : List (UInt64 × Bytes)} {length : Nat} (short : length < UInt64.size)
    (fewer : listed.length ≤ length) (count : Option UInt64) :
    listed.take (count.getD (UInt64.ofNat length)).toNat =
      listed.take (count.getD FjallStore.maxCount).toNat := by
  cases count with
  | none =>
      have greatest : FjallStore.maxCount.toNat + 1 = UInt64.size := rfl
      have all : listed.take (UInt64.ofNat length).toNat = listed := by
        rw [UInt64.toNat_ofNat_of_lt' short, List.take_of_length_le fewer]
      have most : listed.take FjallStore.maxCount.toNat = listed :=
        List.take_of_length_le (by omega)
      exact all.trans most.symm
  | some count => rfl

theorem lastKey_eq {entries : EntryMap} (models : fjall.Models entries) :
    fjall.lastKey = (fjall.prefixIterator.getLast?.map Prod.fst).getD 0 := by
  rw [← FjallStore.last_eq_getLast models]
  rfl

theorem range_eq (same : SameStore memory fjall) (start : UInt64) (stop : Option UInt64) :
    memory.iter (.range start stop) = fjall.iter (.range start stop) := by
  obtain ⟨entries, models⟩ := same.alone
  have lastKey := lastKey_eq models
  unfold MemoryStore.iter FjallStore.iter
  rw [iterPrefix_eq same]
  cases top : fjall.prefixIterator.getLast? with
  | none =>
      have empty := List.getLast?_eq_none_iff.mp top
      simp [empty]
  | some final =>
      rw [top] at lastKey
      have bound : stop.getD fjall.lastKey = stop.getD final.1 := by
        rw [lastKey]
        rfl
      simp only [top, bound]
      by_cases crossed : start > stop.getD final.1
      · rw [if_pos crossed, eq_comm, List.filter_eq_nil_iff]
        intro entry member inside
        rw [Bool.and_eq_true, decide_eq_true_eq, decide_eq_true_eq] at inside
        exact absurd (UInt64.le_trans inside.1 inside.2) (UInt64.not_le.mpr crossed)
      · rw [if_neg crossed]

theorem iter_eq (same : SameStore memory fjall) (fits : Fits memory.data)
    (options : IteratorOptions) : memory.iter options = fjall.iter options := by
  obtain ⟨entries, models⟩ := same.alone
  have short := prefixIterator_size same fits
  have lastKey := lastKey_eq models
  cases options with
  | forward start count =>
      unfold MemoryStore.iter FjallStore.iter
      rw [iterPrefix_eq same]
      have fewer := List.length_filter_le (fun entry : UInt64 × Bytes => decide (start.getD 0 ≤ entry.1))
        fjall.prefixIterator
      simp only [FjallStore.not_decide_lt]
      exact take_size short fewer count
  | reverse start count =>
      unfold MemoryStore.iter FjallStore.iter
      rw [iterPrefix_eq same]
      cases top : fjall.prefixIterator.getLast? with
      | none =>
          have empty := List.getLast?_eq_none_iff.mp top
          simp [empty]
      | some final =>
          rw [top] at lastKey
          have fewer := List.length_filter_le
            (fun entry : UInt64 × Bytes => decide (entry.1 ≤ start.getD final.1))
            fjall.prefixIterator.reverse
          rw [List.length_reverse] at fewer
          have bound : start.getD fjall.lastKey = start.getD final.1 := by
            rw [lastKey]
            rfl
          simp only [top, bound, gt_iff_lt, FjallStore.not_decide_lt]
          exact take_size short fewer count
  | range start stop => exact range_eq same start stop

end Scans

section Calls

variable {memory : MemoryStore} {fjall : FjallStore}

theorem get_eq (same : SameStore memory fjall) (key : UInt64) : memory.get key = fjall.get key := by
  obtain ⟨entries, models⟩ := same.alone
  simp only [MemoryStore.get, FjallStore.get, Keyspace.get, models.readable, same.data,
    same.keyPrefix]
  cases fjall.keyspace.entries[keyBytes fjall.keyPrefix key]? <;> rfl

theorem put_same (same : SameStore memory fjall) (key : UInt64) (data : Bytes) :
    (memory.put key data).1 = (fjall.put key data).1 ∧
      SameStore (memory.put key data).2 (fjall.put key data).2 := by
  obtain ⟨entries, models⟩ := same.alone
  have written : fjall.put key data = (.ok (), { fjall with keyspace := { fjall.keyspace with
      entries := fjall.keyspace.entries.insert (keyBytes fjall.keyPrefix key) data } }) := by
    simp only [FjallStore.put, Keyspace.insert, Keyspace.write, same.faultless]
  have alone := FjallStore.models_after_put models written
  rw [written]
  refine ⟨rfl, same.name, same.keyPrefix, ?_, ⟨_, alone⟩, same.faultless⟩
  simp only [MemoryStore.put, same.data, same.keyPrefix]

theorem del_same (same : SameStore memory fjall) (key : UInt64) :
    (memory.del key).1 = (fjall.del key).1 ∧
      SameStore (memory.del key).2 (fjall.del key).2 := by
  obtain ⟨entries, models⟩ := same.alone
  have removed : fjall.del key = (.ok (), { fjall with keyspace := { fjall.keyspace with
      entries := fjall.keyspace.entries.erase (keyBytes fjall.keyPrefix key) } }) := by
    simp only [FjallStore.del, Keyspace.remove, Keyspace.write, same.faultless]
  have alone := FjallStore.models_after_del models removed
  rw [removed]
  refine ⟨rfl, same.name, same.keyPrefix, ?_, ⟨_, alone⟩, same.faultless⟩
  simp only [MemoryStore.del, same.data, same.keyPrefix]

theorem models_empty {store : FjallStore} (models : store.Models ∅) :
    store.keyspace.entries = ∅ := by
  apply ExtTreeMap.ext_getElem?
  intro bytes
  rw [ExtTreeMap.getElem?_empty]
  cases found : store.keyspace.entries[bytes]? with
  | none => rfl
  | some value =>
      obtain ⟨key, text⟩ := models.alone bytes value found
      rw [text, models.lookup, ExtTreeMap.getElem?_empty] at found
      cases found

theorem purge_same (same : SameStore memory fjall) :
    memory.purge.1 = fjall.purge.1 ∧ SameStore memory.purge.2 fjall.purge.2 := by
  obtain ⟨entries, models⟩ := same.alone
  have reliable : ReliableStore.Reliable fjall := same.faultless
  obtain ⟨after, done, faultless⟩ := ReliableStore.purge_reliable models reliable
  have cleared : after.Models ∅ := LawfulStore.purge_models models done
  have purged : fjall.purge = (.ok (), after) := done
  have names : after.name = fjall.name ∧ after.keyPrefix = fjall.keyPrefix := by
    have kept : fjall.purge.2.name = fjall.name ∧ fjall.purge.2.keyPrefix = fjall.keyPrefix :=
      ⟨rfl, rfl⟩
    rw [purged] at kept
    exact kept
  rw [purged]
  exact ⟨rfl, same.name.trans names.1.symm, same.keyPrefix.trans names.2.symm,
    (models_empty cleared).symm, ⟨∅, cleared⟩, faultless⟩

theorem run_same (same : SameStore memory fjall) (fits : Fits memory.data) (call : StoreCall) :
    (call.run memory).1 = (call.run fjall).1 ∧ SameStore (call.run memory).2 (call.run fjall).2 := by
  cases call with
  | put key data =>
      have written := put_same same key data
      exact ⟨congrArg StoreAnswer.written written.1, written.2⟩
  | del key =>
      have removed := del_same same key
      exact ⟨congrArg StoreAnswer.written removed.1, removed.2⟩
  | purge =>
      have purged := purge_same same
      exact ⟨congrArg StoreAnswer.written purged.1, purged.2⟩
  | get key => exact ⟨congrArg StoreAnswer.value (get_eq same key), same⟩
  | last => exact ⟨congrArg StoreAnswer.entry (last_eq same), same⟩
  | iter options => exact ⟨congrArg StoreAnswer.entries (iter_eq same fits options), same⟩

end Calls

def MemoryStore.onDisk (memory : MemoryStore) : FjallStore :=
  FjallStore.createStore { noEntry with entries := memory.data } memory.name memory.keyPrefix

theorem same_onDisk {memory : MemoryStore} {entries : EntryMap}
    (models : memory.onDisk.Models entries) : SameStore memory memory.onDisk :=
  ⟨rfl, rfl, rfl, ⟨entries, models⟩, rfl⟩

instance : LawfulStore MemoryStore where
  Models memory entries := memory.onDisk.Models entries
  capacity := 10 ^ 14
  capacity_pos := @LawfulStore.capacity_pos FjallStore _ _
  capacity_lt := @LawfulStore.capacity_lt FjallStore _ _
  get_models := by
    intro memory entries models key
    have onDisk : LawfulStore.Models memory.onDisk entries := models
    rw [← LawfulStore.get_models onDisk key]
    exact congrArg Except.toOption (get_eq (same_onDisk models) key)
  put_models := by
    intro memory after entries key data models done
    cases done
    exact FjallStore.models_after_put models rfl
  put_failed := by
    intro memory after entries key data err models failed
    cases failed
  del_models := by
    intro memory after entries key models done
    cases done
    exact FjallStore.models_after_del models rfl
  del_failed := by
    intro memory after entries key err models failed
    cases failed
  purge_models := by
    intro memory after entries models done
    cases done
    exact FjallStore.models_noEntry memory.name memory.keyPrefix
  purge_failed := by
    intro memory after entries err models failed
    cases failed
  purge_keyPrefix _ := rfl
  last_models := by
    intro memory entries models narrow
    have onDisk : LawfulStore.Models memory.onDisk entries := models
    rw [← LawfulStore.last_models onDisk narrow]
    exact last_eq (same_onDisk models)
  range_models := by
    intro memory entries models narrow start stop
    have onDisk : LawfulStore.Models memory.onDisk entries := models
    rw [← LawfulStore.range_models onDisk narrow start stop]
    exact range_eq (same_onDisk models) start (some stop)

instance : ReliableStore MemoryStore where
  Reliable _ := True
  put_reliable _ _ _ := ⟨_, rfl, trivial⟩
  purge_reliable _ _ := ⟨_, rfl, trivial⟩

namespace Handles

structure SameHandles (name keyPrefix : String) (memory : Handles MemoryDbManager MemoryStore)
    (fjall : Handles FjallDbManager FjallStore) : Prop where
  content : SameStore { name, keyPrefix, data := memory.manager.content name keyPrefix }
    (FjallStore.createStore (fjall.manager.keyspaces name) name keyPrefix)
  memoryNames : ∀ store ∈ memory.stores, store.name = name ∧ store.keyPrefix = keyPrefix
  fjallNames : ∀ store ∈ fjall.stores, store.name = name ∧ store.keyPrefix = keyPrefix
  count : memory.stores.length = fjall.stores.length

section Run

variable {name keyPrefix : String} {memory : Handles MemoryDbManager MemoryStore}
  {fjall : Handles FjallDbManager FjallStore}

theorem content_update (data : String × String → Option (ExtTreeMap Bytes Bytes compare))
    (held : ExtTreeMap Bytes Bytes compare) : MemoryDbManager.content
      { data := Function.update data (name, keyPrefix) (some held) } name keyPrefix = held := by
  simp only [MemoryDbManager.content, Function.update_self, Option.getD_some]

theorem load_memory {store : MemoryStore} (named : store.name = name ∧ store.keyPrefix = keyPrefix)
    (manager : MemoryDbManager) : DbManager.load manager store =
      { name, keyPrefix, data := manager.content name keyPrefix } := by
  obtain ⟨rfl, rfl⟩ := named
  rfl

theorem load_fjall {store : FjallStore} (named : store.name = name ∧ store.keyPrefix = keyPrefix)
    (manager : FjallDbManager) : DbManager.load manager store =
      FjallStore.createStore (manager.keyspaces name) name keyPrefix := by
  obtain ⟨rfl, rfl⟩ := named
  rfl

theorem run_names (store : MemoryStore) (call : StoreCall) :
    (call.run store).2.name = store.name ∧ (call.run store).2.keyPrefix = store.keyPrefix := by
  cases call <;> exact ⟨rfl, rfl⟩

theorem save_same {left : MemoryStore} {right : FjallStore} (same : SameStore left right)
    (named : left.name = name ∧ left.keyPrefix = keyPrefix)
    (first : MemoryDbManager) (second : FjallDbManager) :
    SameStore
      { name, keyPrefix, data := (DbManager.save first left).content name keyPrefix }
      (FjallStore.createStore ((DbManager.save second right).keyspaces name) name keyPrefix) := by
  obtain ⟨rfl, rfl⟩ := named
  have held : (DbManager.save first left).content left.name left.keyPrefix = left.data :=
    content_update first.data left.data
  have kept : (DbManager.save second right).keyspaces left.name = right.keyspace := by
    rw [same.name]
    exact Function.update_self right.name right.keyspace second.keyspaces
  rw [held, kept, same.name, same.keyPrefix]
  exact ⟨rfl, rfl, same.data, same.alone, same.faultless⟩

theorem step_same (same : SameHandles name keyPrefix memory fjall)
    (fits : Fits (memory.manager.content name keyPrefix)) (call : HandleCall) :
    (memory.step name keyPrefix call).1 = (fjall.step name keyPrefix call).1 ∧
      SameHandles name keyPrefix (memory.step name keyPrefix call).2
        (fjall.step name keyPrefix call).2 := by
  cases call with
  | createStore =>
      refine ⟨rfl, ?_, ?_, ?_, ?_⟩
      · have kept : (memory.step name keyPrefix .createStore).2.manager.content name keyPrefix =
            memory.manager.content name keyPrefix := content_update memory.manager.data _
        have content := same.content
        rw [← kept] at content
        exact content
      · exact List.forall_mem_append.mpr ⟨same.memoryNames, by simp⟩
      · exact List.forall_mem_append.mpr ⟨same.fjallNames, by simp [FjallStore.createStore]⟩
      · change (memory.stores ++ [_]).length = (fjall.stores ++ [_]).length
        rw [List.length_append, List.length_append, same.count]
        rfl
  | call handle call =>
      by_cases known : handle < memory.stores.length
      · have left := List.getElem?_eq_getElem known
        have right := List.getElem?_eq_getElem (same.count ▸ known)
        have leftNames := same.memoryNames _ (List.getElem_mem known)
        have rightNames := same.fjallNames _ (List.getElem_mem (same.count ▸ known))
        have ran := run_same same.content fits call
        have names := run_names { name, keyPrefix, data := memory.manager.content name keyPrefix } call
        simp only [step, left, right, load_memory leftNames, load_fjall rightNames]
        exact ⟨congrArg some ran.1, save_same ran.2 names _ _, same.memoryNames, same.fjallNames,
          same.count⟩
      · have left := List.getElem?_eq_none (Nat.le_of_not_lt known)
        have right := List.getElem?_eq_none (same.count ▸ Nat.le_of_not_lt known)
        simp only [step, left, right]
        exact ⟨trivial, same⟩

/-- Every content that the run reaches can be collected. -/
def AllFit (name keyPrefix : String) (memory : Handles MemoryDbManager MemoryStore)
    (calls : List HandleCall) : Prop :=
  ∀ front, front <+: calls →
    Fits ((memory.after name keyPrefix front).manager.content name keyPrefix)

theorem answers_same (same : SameHandles name keyPrefix memory fjall) {calls : List HandleCall}
    (fits : AllFit name keyPrefix memory calls) :
    answers name keyPrefix memory calls = answers name keyPrefix fjall calls := by
  induction calls generalizing memory fjall with
  | nil => rfl
  | cons call calls ih =>
      have step := step_same same (fits [] List.nil_prefix) call
      have later : AllFit name keyPrefix (memory.step name keyPrefix call).2 calls := by
        intro front starts
        exact fits (call :: front) (List.cons_prefix_cons.mpr ⟨rfl, starts⟩)
      rw [answers, answers, step.1, ih step.2 later]

theorem run_size (store : MemoryStore) (call : StoreCall) :
    (call.run store).2.data.size ≤ store.data.size + 1 := by
  cases call with
  | put key data => exact ExtTreeMap.size_insert_le
  | del key => exact Nat.le_succ_of_le ExtTreeMap.size_erase_le
  | purge => exact Nat.zero_le _
  | get key => exact Nat.le_succ _
  | last => exact Nat.le_succ _
  | iter options => exact Nat.le_succ _

theorem step_size (named : ∀ store ∈ memory.stores, store.name = name ∧ store.keyPrefix = keyPrefix)
    (call : HandleCall) :
    ((memory.step name keyPrefix call).2.manager.content name keyPrefix).size ≤
        (memory.manager.content name keyPrefix).size + 1 ∧
      ∀ store ∈ (memory.step name keyPrefix call).2.stores,
        store.name = name ∧ store.keyPrefix = keyPrefix := by
  cases call with
  | createStore =>
      have kept : (memory.step name keyPrefix .createStore).2.manager.content name keyPrefix =
          memory.manager.content name keyPrefix := content_update memory.manager.data _
      rw [kept]
      exact ⟨Nat.le_succ _, List.forall_mem_append.mpr ⟨named, by simp⟩⟩
  | call handle call =>
      cases found : memory.stores[handle]? with
      | none =>
          simp only [step, found]
          exact ⟨Nat.le_succ _, named⟩
      | some store =>
          have names := named store (List.mem_of_getElem? found)
          have ran := run_size { name, keyPrefix, data := memory.manager.content name keyPrefix } call
          have after := run_names { name, keyPrefix, data := memory.manager.content name keyPrefix } call
          simp only [step, found, load_memory names]
          refine ⟨?_, named⟩
          simp only [DbManager.save, after.1, after.2, content_update]
          exact ran

theorem after_size (named : ∀ store ∈ memory.stores, store.name = name ∧ store.keyPrefix = keyPrefix)
    (calls : List HandleCall) :
    ((memory.after name keyPrefix calls).manager.content name keyPrefix).size ≤
      (memory.manager.content name keyPrefix).size + calls.length := by
  induction calls generalizing memory with
  | nil => exact Nat.le_refl _
  | cons call calls ih =>
      have one := step_size named call
      have rest := ih one.2
      simp only [after, List.foldl_cons, List.length_cons] at rest ⊢
      omega

theorem allFit_of_length {calls : List HandleCall} (short : calls.length < UInt64.size) :
    AllFit name keyPrefix { manager := MemoryDbManager.new, stores := [] } calls := by
  intro front starts
  let start : Handles MemoryDbManager MemoryStore := { manager := MemoryDbManager.new, stores := [] }
  have size : ((start.after name keyPrefix front).manager.content name keyPrefix).size ≤
      (MemoryDbManager.new.content name keyPrefix).size + front.length :=
    after_size (by simp [start]) front
  have length := starts.length_le
  have empty : (MemoryDbManager.new.content name keyPrefix).size = 0 := ExtTreeMap.size_empty
  change ((start.after name keyPrefix front).manager.content name keyPrefix).size < UInt64.size
  omega

end Run

/-- Through any handles to one store the two back ends give the same answers. -/
theorem back_ends_agree (name keyPrefix : String) (memory : MemoryDbManager) (fjall : FjallDbManager)
    (same : SameStore (memory.createStore name keyPrefix).1 (fjall.createStore name keyPrefix).1)
    (calls : List HandleCall)
    (fits : AllFit name keyPrefix { manager := memory, stores := [] } calls) :
    answers name keyPrefix { manager := memory, stores := [] } calls =
      answers name keyPrefix { manager := fjall, stores := [] } calls := by
  have start : SameHandles name keyPrefix { manager := memory, stores := [] }
      { manager := fjall, stores := [] } := ⟨same, by simp, by simp, rfl⟩
  exact answers_same start fits

theorem same_new (name keyPrefix : String) :
    SameStore (MemoryDbManager.new.createStore name keyPrefix).1
      (FjallDbManager.new.createStore name keyPrefix).1 :=
  ⟨rfl, rfl, rfl, ⟨∅, FjallStore.models_noEntry name keyPrefix⟩, rfl⟩

theorem new_managers_agree :
    answers "events" "user" { manager := MemoryDbManager.new, stores := [] }
        [.createStore, .createStore, .call 0 (.put 100000000000000 [1]), .call 1 (.put 7 [2]),
          .call 0 .last, .call 1 (.iter (.reverse none none)), .call 0 .purge, .call 1 (.get 7)] =
      answers "events" "user" { manager := FjallDbManager.new, stores := [] }
        [.createStore, .createStore, .call 0 (.put 100000000000000 [1]), .call 1 (.put 7 [2]),
          .call 0 .last, .call 1 (.iter (.reverse none none)), .call 0 .purge, .call 1 (.get 7)] :=
  back_ends_agree "events" "user" .new .new (same_new "events" "user") _
    (allFit_of_length (by decide))

end Handles

end Rush.Storage
