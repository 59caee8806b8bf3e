import Rush.Storage.BackEnds

/-! The stores of a database manager as one map. An entry has an address: the name of
its store, the store's prefix and a key. The key text tells the addresses of one
keyspace apart, so that `get`, `put` and `del` work on the entry at their own address
and on no other. -/

namespace Rush.Storage

open Std Rush.Library

structure Address where
  name : String
  keyPrefix : String
  key : UInt64
  deriving DecidableEq, Repr

abbrev Contents := Address → Option Bytes

def Address.bytes (address : Address) : Bytes := keyBytes address.keyPrefix address.key

def addressOf {σ : Type} [Store σ] (store : σ) (key : UInt64) : Address :=
  { name := Store.name store, keyPrefix := Store.keyPrefix store, key }

inductive KeyCall where
  | get (key : UInt64)
  | put (key : UInt64) (data : Bytes)
  | del (key : UInt64)
  deriving DecidableEq, Repr

namespace KeyCall

def key : KeyCall → UInt64
  | .get key => key
  | .put key _ => key
  | .del key => key

def toCall : KeyCall → StoreCall
  | .get key => .get key
  | .put key data => .put key data
  | .del key => .del key

def entryAfter (entry : Option Bytes) : KeyCall → Option Bytes
  | .get _ => entry
  | .put _ data => some data
  | .del _ => none

end KeyCall

def StoreAnswer.succeeded : StoreAnswer → Bool
  | .written (.error _) => false
  | .value (.error _) => false
  | _ => true

/-- A call with its answer, on the map that a manager stands for. -/
def Contents.after (contents : Contents) (address : Address) (call : KeyCall)
    (answer : StoreAnswer) : Contents :=
  if answer.succeeded then Function.update contents address (call.entryAfter (contents address))
  else contents

def readingAt (address : Address) : Option Error → Option Bytes → Except Error Bytes
  | some fault, _ => .error fault
  | none, some value => .ok value
  | none, none =>
    .error (.entryNotFound s!"Key not found: {keyString address.keyPrefix address.key}")

section Managers

variable {μ σ : Type} [Store σ] [DbManager μ σ]

def callThrough (manager : μ) (store : σ) (call : KeyCall) : StoreAnswer × μ :=
  let (answer, after) := call.toCall.run (DbManager.load manager store)
  (answer, DbManager.save manager after)

def afterCalls (manager : μ) (calls : List (σ × KeyCall)) : μ :=
  calls.foldl (fun manager call => (callThrough manager call.1 call.2).2) manager

def performedAt (address : Address) : μ → List (σ × KeyCall) → List KeyCall
  | _, [] => []
  | manager, (store, call) :: calls =>
    let (answer, after) := callThrough manager store call
    if addressOf store call.key = address ∧ answer.succeeded then
      call :: performedAt address after calls
    else performedAt address after calls

end Managers

/-- A manager that stands for one map over addresses: a call changes the entry at its
own address, and a read depends on the entry there and on the fault that it meets. -/
class AddressedManager (μ : Type) (σ : outParam Type) [Store σ] [DbManager μ σ] where
  contents : μ → Contents
  readFault : μ → Address → Option Error
  call_contents (manager : μ) (store : σ) (call : KeyCall) :
    contents (callThrough manager store call).2 =
      (contents manager).after (addressOf store call.key) call (callThrough manager store call).1
  call_readFault (manager : μ) (store : σ) (call : KeyCall) :
    readFault (callThrough manager store call).2 = readFault manager
  get_reads (manager : μ) (store : σ) (key : UInt64) :
    Store.get (DbManager.load manager store) key =
      readingAt (addressOf store key) (readFault manager (addressOf store key))
        (contents manager (addressOf store key))

def OtherStore {σ : Type} [Store σ] (other store : σ) : Prop :=
  Store.name other ≠ Store.name store ∨ Store.keyPrefix other ≠ Store.keyPrefix store

/-- Calls through other stores, whether or not they succeed, leave every entry of a
store and the answer of `get` for it, and that answer depends on this entry alone. -/
structure StoresApart (μ σ : Type) [Store σ] [DbManager μ σ] [AddressedManager μ σ] : Prop where
  untouched : ∀ (manager : μ) (calls : List (σ × KeyCall)) (store : σ) (key : UInt64),
    (∀ call ∈ calls, OtherStore call.1 store) →
    AddressedManager.contents (afterCalls manager calls) (addressOf store key) =
        AddressedManager.contents manager (addressOf store key) ∧
      Store.get (DbManager.load (afterCalls manager calls) store) key =
        Store.get (DbManager.load manager store) key
  own : ∀ (left right : μ) (store : σ) (key : UInt64),
    AddressedManager.contents left (addressOf store key) =
      AddressedManager.contents right (addressOf store key) →
    AddressedManager.readFault left (addressOf store key) =
      AddressedManager.readFault right (addressOf store key) →
    Store.get (DbManager.load left store) key = Store.get (DbManager.load right store) key

section Runs

variable {μ σ : Type} [Store σ] [DbManager μ σ] [AddressedManager μ σ]

open AddressedManager

theorem after_lookup (contents : Contents) (address other : Address) (call : KeyCall)
    (answer : StoreAnswer) : contents.after address call answer other =
      if address = other ∧ answer.succeeded then call.entryAfter (contents other)
      else contents other := by
  unfold Contents.after
  split
  · next done =>
      by_cases here : address = other
      · subst here
        rw [Function.update_self, if_pos ⟨rfl, done⟩]
      · rw [Function.update_of_ne (Ne.symm here), if_neg fun both => here both.1]
  · next failed => rw [if_neg fun both => failed both.2]

theorem entry_history (manager : μ) (calls : List (σ × KeyCall)) (address : Address) :
    contents (afterCalls manager calls) address =
      (performedAt address manager calls).foldl KeyCall.entryAfter (contents manager address) := by
  induction calls generalizing manager with
  | nil => rfl
  | cons entry calls ih =>
      rcases entry with ⟨store, call⟩
      have rest := ih (callThrough manager store call).2
      rw [call_contents, after_lookup] at rest
      simp only [performedAt]
      split
      · next here =>
          rw [if_pos here] at rest
          exact rest
      · next elsewhere =>
          rw [if_neg elsewhere] at rest
          exact rest

omit [AddressedManager μ σ] in
theorem performedAt_apart {address : Address} (manager : μ) {calls : List (σ × KeyCall)}
    (apart : ∀ call ∈ calls, addressOf call.1 call.2.key ≠ address) :
    performedAt address manager calls = [] := by
  induction calls generalizing manager with
  | nil => rfl
  | cons entry calls ih =>
      have first := apart entry List.mem_cons_self
      have rest := ih (callThrough manager entry.1 entry.2).2
        fun call member => apart call (List.mem_cons_of_mem entry member)
      simp only [performedAt]
      rw [if_neg (fun here => first here.1)]
      exact rest

theorem afterCalls_readFault (manager : μ) (calls : List (σ × KeyCall)) :
    readFault (afterCalls manager calls) = readFault manager := by
  induction calls generalizing manager with
  | nil => rfl
  | cons entry calls ih =>
      exact (ih _).trans (call_readFault manager entry.1 entry.2)

theorem otherStore_apart {other store : σ} (apart : OtherStore other store)
    (key number : UInt64) : addressOf other number ≠ addressOf store key := by
  intro same
  rcases apart with name | keyPrefix
  · exact name (congrArg Address.name same)
  · exact keyPrefix (congrArg Address.keyPrefix same)

theorem stores_apart : StoresApart μ σ := by
  constructor
  · intro manager calls store key others
    have none : performedAt (addressOf store key) manager calls = [] :=
      performedAt_apart manager fun call member =>
        otherStore_apart (others call member) key call.2.key
    have kept := entry_history manager calls (addressOf store key)
    rw [none, List.foldl_nil] at kept
    refine ⟨kept, ?_⟩
    rw [get_reads, get_reads, kept, afterCalls_readFault]
  · intro left right store key entries faults
    rw [get_reads, get_reads, entries, faults]

theorem get_after_put (manager : μ) (store : σ) (key : UInt64) (data : Bytes)
    {calls : List (σ × KeyCall)}
    (written : (callThrough manager store (.put key data)).1.succeeded = true)
    (apart : ∀ call ∈ calls, addressOf call.1 call.2.key ≠ addressOf store key)
    (readable : readFault manager (addressOf store key) = none) :
    Store.get (DbManager.load (afterCalls manager ((store, .put key data) :: calls)) store) key =
      .ok data := by
  have none := performedAt_apart (callThrough manager store (.put key data)).2 apart
  have performed : performedAt (addressOf store key) manager ((store, .put key data) :: calls) =
      [.put key data] := by
    simp only [performedAt]
    rw [if_pos ⟨rfl, written⟩, none]
  have stored := entry_history manager ((store, .put key data) :: calls) (addressOf store key)
  rw [performed] at stored
  rw [get_reads, afterCalls_readFault, readable, stored]
  rfl

end Runs

section Rooms

variable {ι : Type} [DecidableEq ι] (room : Address → ι)

def readFrom (maps : ι → ExtTreeMap Bytes Bytes compare) : Contents :=
  fun address => (maps (room address))[address.bytes]?

theorem address_eq {left right : Address} (name : left.name = right.name)
    (bytes : left.bytes = right.bytes) : left = right := by
  rcases left with ⟨leftName, leftPrefix, leftKey⟩
  rcases right with ⟨rightName, rightPrefix, rightKey⟩
  obtain ⟨rfl, rfl⟩ := keyBytes_inj.mp bytes
  obtain rfl : leftName = rightName := name
  rfl

theorem readFrom_update (named : ∀ left right, room left = room right → left.name = right.name)
    (maps : ι → ExtTreeMap Bytes Bytes compare) (address : Address)
    {changed : ExtTreeMap Bytes Bytes compare} {entry : Option Bytes}
    (lookup : ∀ bytes, changed[bytes]? =
      if address.bytes = bytes then entry else (maps (room address))[bytes]?) :
    readFrom room (Function.update maps (room address) changed) =
      Function.update (readFrom room maps) address entry := by
  funext other
  by_cases same : other = address
  · subst same
    rw [readFrom, Function.update_self, Function.update_self, lookup, if_pos rfl]
  · rw [readFrom, Function.update_of_ne same]
    by_cases shared : room other = room address
    · have different : address.bytes ≠ other.bytes := by
        intro bytes
        exact same (address_eq (named other address shared) bytes.symm)
      rw [shared, Function.update_self, lookup, if_neg different, readFrom, shared]
    · rw [Function.update_of_ne shared]
      rfl

def KeyCall.change (bytes : Bytes) (entries : ExtTreeMap Bytes Bytes compare) :
    KeyCall → ExtTreeMap Bytes Bytes compare
  | .get _ => entries
  | .put _ data => entries.insert bytes data
  | .del _ => entries.erase bytes

theorem change_lookup (bytes : Bytes) (entries : ExtTreeMap Bytes Bytes compare) (call : KeyCall)
    (other : Bytes) : (call.change bytes entries)[other]? =
      if bytes = other then call.entryAfter entries[bytes]? else entries[other]? := by
  cases call with
  | get key =>
      by_cases same : bytes = other
      · rw [if_pos same, same]
        rfl
      · rw [if_neg same]
        rfl
  | put key data => exact OrderedMap.lookup_insert entries bytes other data
  | del key => exact OrderedMap.lookup_erase entries bytes other

theorem readFrom_after (named : ∀ left right, room left = room right → left.name = right.name)
    (maps : ι → ExtTreeMap Bytes Bytes compare) (address : Address) (call : KeyCall)
    (answer : StoreAnswer) {after : ExtTreeMap Bytes Bytes compare}
    (changed : after = if answer.succeeded then call.change address.bytes (maps (room address))
      else maps (room address)) :
    readFrom room (Function.update maps (room address) after) =
      (readFrom room maps).after address call answer := by
  unfold Contents.after
  split
  · next done =>
      rw [if_pos done] at changed
      apply readFrom_update room named
      intro bytes
      rw [changed, change_lookup]
      rfl
  · next failed =>
      rw [if_neg failed] at changed
      rw [changed, Function.update_eq_self]

end Rooms

section BackEnds

theorem write_entries (keyspace : Keyspace)
    (update : ExtTreeMap Bytes Bytes compare → ExtTreeMap Bytes Bytes compare) :
    (keyspace.write update).2.entries =
        (if (StoreAnswer.written (keyspace.write update).1).succeeded then update keyspace.entries
          else keyspace.entries) ∧
      (keyspace.write update).2.readFault = keyspace.readFault := by
  rcases written : keyspace.write update with ⟨result, after⟩
  cases result with
  | error err => exact write_failed written
  | ok value => exact write_ok written

theorem fjall_call (manager : FjallDbManager) (store : FjallStore) (call : KeyCall) :
    ∃ after : Keyspace, (callThrough manager store call).2 =
        { keyspaces := Function.update manager.keyspaces store.name after } ∧
      after.entries =
        (if (callThrough manager store call).1.succeeded then
          call.change (addressOf store call.key).bytes (manager.keyspaces store.name).entries
          else (manager.keyspaces store.name).entries) ∧
      after.readFault = (manager.keyspaces store.name).readFault := by
  cases call with
  | get key => exact ⟨manager.keyspaces store.name, rfl, (ite_self _).symm, rfl⟩
  | put key data =>
      exact ⟨_, rfl, write_entries (manager.keyspaces store.name)
        fun entries => entries.insert (keyBytes store.keyPrefix key) data⟩
  | del key =>
      exact ⟨_, rfl, write_entries (manager.keyspaces store.name)
        fun entries => entries.erase (keyBytes store.keyPrefix key)⟩

theorem memory_call (manager : MemoryDbManager) (store : MemoryStore) (call : KeyCall) :
    ∃ after : ExtTreeMap Bytes Bytes compare, (callThrough manager store call).2 =
        { data := Function.update manager.data (store.name, store.keyPrefix) (some after) } ∧
      after =
        if (callThrough manager store call).1.succeeded then
          call.change (addressOf store call.key).bytes (manager.content store.name store.keyPrefix)
        else manager.content store.name store.keyPrefix := by
  cases call with
  | get key => exact ⟨manager.content store.name store.keyPrefix, rfl, (ite_self _).symm⟩
  | put key data => exact ⟨_, rfl, rfl⟩
  | del key => exact ⟨_, rfl, rfl⟩

instance : AddressedManager FjallDbManager FjallStore where
  contents manager := readFrom Address.name fun name => (manager.keyspaces name).entries
  readFault manager address :=
    ((manager.keyspaces address.name).readFault address.bytes).map Error.fjall
  call_contents := by
    intro manager store call
    obtain ⟨after, left, entries, -⟩ := fjall_call manager store call
    have held : (fun name => (Function.update manager.keyspaces store.name after name).entries) =
        Function.update (fun name => (manager.keyspaces name).entries) store.name after.entries := by
      funext name
      exact Function.apply_update (fun _ => Keyspace.entries) manager.keyspaces store.name after name
    rw [left, held]
    exact readFrom_after Address.name (fun _ _ same => same)
      (fun name => (manager.keyspaces name).entries) (addressOf store call.key) call _ entries
  call_readFault := by
    intro manager store call
    obtain ⟨after, left, -, faults⟩ := fjall_call manager store call
    funext address
    simp only [left]
    by_cases here : address.name = store.name
    · rw [here, Function.update_self, faults]
    · rw [Function.update_of_ne here]
  get_reads := by
    intro manager store key
    change FjallStore.get { store with keyspace := manager.keyspaces store.name } key =
      readingAt (addressOf store key)
        (((manager.keyspaces store.name).readFault (keyBytes store.keyPrefix key)).map Error.fjall)
        (manager.keyspaces store.name).entries[keyBytes store.keyPrefix key]?
    simp only [FjallStore.get, Keyspace.get]
    cases (manager.keyspaces store.name).readFault (keyBytes store.keyPrefix key) with
    | some fault => rfl
    | none => cases (manager.keyspaces store.name).entries[keyBytes store.keyPrefix key]? <;> rfl

instance : AddressedManager MemoryDbManager MemoryStore where
  contents manager := readFrom (fun address => (address.name, address.keyPrefix))
    (Function.uncurry manager.content)
  readFault _ _ := none
  call_contents := by
    intro manager store call
    obtain ⟨after, left, entries⟩ := memory_call manager store call
    have held : Function.uncurry (MemoryDbManager.content
        { data := Function.update manager.data (store.name, store.keyPrefix) (some after) }) =
        Function.update (Function.uncurry manager.content) (store.name, store.keyPrefix) after := by
      funext room
      exact Function.apply_update (fun _ => (Option.getD · ∅)) manager.data
        (store.name, store.keyPrefix) (some after) room
    rw [left, held]
    exact readFrom_after (fun address => (address.name, address.keyPrefix))
      (fun _ _ same => congrArg Prod.fst same) (Function.uncurry manager.content)
      (addressOf store call.key) call _ entries
  call_readFault _ _ _ := rfl
  get_reads := by
    intro manager store key
    change MemoryStore.get { store with data := manager.content store.name store.keyPrefix } key =
      readingAt (addressOf store key) none
        (manager.content store.name store.keyPrefix)[keyBytes store.keyPrefix key]?
    simp only [MemoryStore.get]
    cases (manager.content store.name store.keyPrefix)[keyBytes store.keyPrefix key]? <;> rfl

end BackEnds

/-- A key text is the prefix, a colon and the digits of the key behind the zeros that
they lack. Its last part gives the key back, one prefix and one key have it, and the
stores of either back end are apart. -/
theorem key_codec :
    (∀ (p : String) (k : UInt64), (keyString p k).toList =
      p.toList ++ ':' :: (List.replicate (14 - (Nat.toDigits 10 k.toNat).length) '0' ++
        Nat.toDigits 10 k.toNat)) ∧
    (∀ (p : String) (k : UInt64),
      ((utf8 (keyString p k)).splitOn 58).getLast?.bind parseU64 = some k) ∧
    (∀ (p : String) (k : UInt64) (value : Bytes),
      FjallStore.intoKeyValue { storedKey := keyBytes p k, value, fault := none } =
          .ok (k, value) ∧
        MemoryStore.keyValue (keyBytes p k, value) = some (k, value)) ∧
    (∀ (p q : String) (k j : UInt64), keyString p k = keyString q j ↔ p = q ∧ k = j) ∧
    StoresApart FjallDbManager FjallStore ∧ StoresApart MemoryDbManager MemoryStore := by
  refine ⟨keyString_toList, ?_, ?_, fun _ _ _ _ => keyString_inj, stores_apart, stores_apart⟩
  · intro p k
    rw [next_back_split, Option.bind_some]
    exact parseU64_keyBytes p k
  · intro p k value
    exact ⟨FjallStore.intoKeyValue_keyBytes p k value, MemoryStore.keyValue_keyBytes p k value⟩

example : keyString "x:00000000000007" 18446744073709551615 =
    "x:00000000000007:18446744073709551615" := by decide

end Rush.Storage
