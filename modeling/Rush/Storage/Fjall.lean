import Rush.Storage.KeyText

/-! `FjallStore`: the `Store` trait over one fjall keyspace, with keys written as
`prefix:number`.

The keyspace is fjall's documented map in byte order of the keys. A read fails
for the keys that `readFault` names, a write takes its outcome from the front of
`writeFaults`; with no faults left every call succeeds. -/

namespace Rush.Storage

open Std Rush.Library

structure Keyspace where
  entries : ExtTreeMap Bytes Bytes compare
  readFault : Bytes → Option String
  writeFaults : List (Option String)

structure Guard where
  storedKey : Bytes
  value : Bytes
  fault : Option String

def Guard.intoInner (guard : Guard) : Except Error (Bytes × Bytes) :=
  match guard.fault with
  | some fault => .error (.fjall fault)
  | none => .ok (guard.storedKey, guard.value)

def Guard.key (guard : Guard) : Except Error Bytes :=
  guard.intoInner.map Prod.fst

def Keyspace.get (keyspace : Keyspace) (key : Bytes) : Except Error (Option Bytes) :=
  match keyspace.readFault key with
  | some fault => .error (.fjall fault)
  | none => .ok keyspace.entries[key]?

/-- One write: its outcome comes from the front of the fault list, and a failed
write leaves the entries as they were. -/
def Keyspace.write (keyspace : Keyspace)
    (update : ExtTreeMap Bytes Bytes compare → ExtTreeMap Bytes Bytes compare) :
    Except Error Unit × Keyspace :=
  match keyspace.writeFaults with
  | [] => (.ok (), { keyspace with entries := update keyspace.entries })
  | none :: rest => (.ok (), { keyspace with entries := update keyspace.entries, writeFaults := rest })
  | some fault :: rest => (.error (.fjall fault), { keyspace with writeFaults := rest })

def Keyspace.insert (keyspace : Keyspace) (key value : Bytes) : Except Error Unit × Keyspace :=
  keyspace.write fun entries => entries.insert key value

def Keyspace.remove (keyspace : Keyspace) (key : Bytes) : Except Error Unit × Keyspace :=
  keyspace.write fun entries => entries.erase key

/-- `Keyspace::prefix`: the entries whose keys start with the given bytes, in
byte order. -/
def Keyspace.scanPrefix (keyspace : Keyspace) (start : Bytes) : List Guard :=
  (keyspace.entries.toList.filter fun entry => start.isPrefixOf entry.1).map fun entry =>
    { storedKey := entry.1, value := entry.2, fault := keyspace.readFault entry.1 }

def noEntry : Keyspace := { entries := ∅, readFault := fun _ => none, writeFaults := [] }

structure FjallStore where
  name : String
  keyPrefix : String
  keyspace : Keyspace

namespace FjallStore

/-- What `FjallDbManager::create_store` makes of an opened keyspace. -/
def createStore (keyspace : Keyspace) (name keyPrefix : String) : FjallStore :=
  { name, keyPrefix, keyspace }

def lossyText (bytes : Bytes) : String :=
  match String.fromUTF8? ⟨bytes.toArray⟩ with
  | some text => text
  | none => String.ofList (bytes.map fun b => if b < 128 then Char.ofNat b.toNat else '\uFFFD')

def intoKeyValue (guard : Guard) : Except Error (UInt64 × Bytes) := do
  let (key, value) ← guard.intoInner
  match parseU64 (lastPart key) with
  | some number => .ok (number, value)
  | none => .error (.reading s!"failed to parse key from fjall -> {lossyText key}")

def scan (store : FjallStore) : List Guard := store.keyspace.scanPrefix (utf8 store.keyPrefix)

def lastKey (store : FjallStore) : UInt64 :=
  ((store.scan.getLast?.bind fun guard => (intoKeyValue guard).toOption).map Prod.fst).getD 0

def prefixIterator (store : FjallStore) : List (UInt64 × Bytes) :=
  store.scan.filterMap fun guard => (intoKeyValue guard).toOption

def get (store : FjallStore) (key : UInt64) : Except Error Bytes := do
  match ← store.keyspace.get (keyBytes store.keyPrefix key) with
  | some value => .ok value
  | none => .error (.entryNotFound s!"Key not found: {keyString store.keyPrefix key}")

def put (store : FjallStore) (key : UInt64) (data : Bytes) : Except Error Unit × FjallStore :=
  let (result, keyspace) := store.keyspace.insert (keyBytes store.keyPrefix key) data
  (result, { store with keyspace })

def del (store : FjallStore) (key : UInt64) : Except Error Unit × FjallStore :=
  let (result, keyspace) := store.keyspace.remove (keyBytes store.keyPrefix key)
  (result, { store with keyspace })

def last (store : FjallStore) : Option (UInt64 × Bytes) :=
  store.scan.getLast?.bind fun guard => (intoKeyValue guard).toOption

def purgeLoop : List Guard → Keyspace → Except Error Unit × Keyspace
  | [], keyspace => (.ok (), keyspace)
  | guard :: guards, keyspace =>
    match guard.key with
    | .error err => (.error err, keyspace)
    | .ok key =>
      match keyspace.remove key with
      | (.error err, after) => (.error err, after)
      | (.ok (), after) => purgeLoop guards after

/-- The scan reads one snapshot of the keyspace while the loop removes from it. -/
def purge (store : FjallStore) : Except Error Unit × FjallStore :=
  let (result, keyspace) := purgeLoop store.scan store.keyspace
  (result, { store with keyspace })

def maxCount : UInt64 := 18446744073709551615

def iter (store : FjallStore) : IteratorOptions → List (UInt64 × Bytes)
  | .forward start count =>
    let start := start.getD 0
    let count := count.getD maxCount
    (store.prefixIterator.filter fun entry => !(entry.1 < start)).take count.toNat
  | .reverse start count =>
    let start := start.getD store.lastKey
    let count := count.getD maxCount
    (store.prefixIterator.reverse.filter fun entry => !(entry.1 > start)).take count.toNat
  | .range start stop =>
    let stop := stop.getD store.lastKey
    store.prefixIterator.filter fun entry => start ≤ entry.1 && entry.1 ≤ stop

theorem utf8_prefix_keyBytes (keyPrefix : String) (key : UInt64) :
    utf8 keyPrefix <+: keyBytes keyPrefix key := by
  rw [keyBytes_eq]
  exact List.prefix_append _ _

theorem intoKeyValue_readable (key value : Bytes) :
    intoKeyValue { storedKey := key, value, fault := none } =
      match parseU64 (lastPart key) with
      | some number => .ok (number, value)
      | none => .error (.reading s!"failed to parse key from fjall -> {lossyText key}") := rfl

theorem intoKeyValue_keyBytes (keyPrefix : String) (key : UInt64) (value : Bytes) :
    intoKeyValue { storedKey := keyBytes keyPrefix key, value, fault := none } =
      .ok (key, value) := by
  rw [intoKeyValue_readable, parseU64_keyBytes]

theorem intoKeyValue_faultless (key value : Bytes) :
    (intoKeyValue { storedKey := key, value, fault := none }).toOption =
      (parseU64 (lastPart key)).map fun number => (number, value) := by
  rw [intoKeyValue_readable]
  cases parseU64 (lastPart key) <;> rfl

end FjallStore

instance : Store FjallStore where
  name store := store.name
  keyPrefix store := store.keyPrefix
  get := FjallStore.get
  put := FjallStore.put
  del := FjallStore.del
  last := FjallStore.last
  purge := FjallStore.purge
  iter := FjallStore.iter

section Keyspace

theorem write_ok {keyspace after : Keyspace}
    {update : ExtTreeMap Bytes Bytes compare → ExtTreeMap Bytes Bytes compare}
    (done : keyspace.write update = (.ok (), after)) :
    after.entries = update keyspace.entries ∧ after.readFault = keyspace.readFault := by
  unfold Keyspace.write at done
  split at done
  · cases done
    exact ⟨rfl, rfl⟩
  · cases done
    exact ⟨rfl, rfl⟩
  · cases done

theorem write_failed {keyspace after : Keyspace} {err : Error}
    {update : ExtTreeMap Bytes Bytes compare → ExtTreeMap Bytes Bytes compare}
    (failed : keyspace.write update = (.error err, after)) :
    after.entries = keyspace.entries ∧ after.readFault = keyspace.readFault := by
  unfold Keyspace.write at failed
  split at failed
  · cases failed
  · cases failed
  · cases failed
    exact ⟨rfl, rfl⟩

theorem guard_key_ok {guard : Guard} {key : Bytes} (loaded : guard.key = .ok key) :
    key = guard.storedKey := by
  unfold Guard.key Guard.intoInner at loaded
  split at loaded
  · cases loaded
  · cases loaded
    rfl

/-- One round of the removal loop ends it with the keyspace's entries as they
were, or erases the guard's key and goes on. -/
theorem purgeLoop_cons (guard : Guard) (guards : List Guard) (keyspace : Keyspace) :
    (∃ err after, FjallStore.purgeLoop (guard :: guards) keyspace = (.error err, after) ∧
      after.entries = keyspace.entries ∧ after.readFault = keyspace.readFault) ∨
    ∃ next, FjallStore.purgeLoop (guard :: guards) keyspace = FjallStore.purgeLoop guards next ∧
      next.entries = keyspace.entries.erase guard.storedKey ∧
      next.readFault = keyspace.readFault := by
  cases loaded : guard.key with
  | error err =>
      left
      exact ⟨err, keyspace, by simp only [FjallStore.purgeLoop, loaded], rfl, rfl⟩
  | ok key =>
      have same := guard_key_ok loaded
      subst same
      rcases removed : keyspace.remove guard.storedKey with ⟨outcome, after⟩
      cases outcome with
      | error err =>
          left
          have kept := write_failed removed
          exact ⟨err, after, by simp only [FjallStore.purgeLoop, loaded, removed], kept.1, kept.2⟩
      | ok value =>
          right
          have erased := write_ok removed
          exact ⟨after, by simp only [FjallStore.purgeLoop, loaded, removed], erased.1, erased.2⟩

theorem purgeLoop_lookup (guards : List Guard) (keyspace : Keyspace) (bytes : Bytes) :
    (FjallStore.purgeLoop guards keyspace).2.entries[bytes]? = keyspace.entries[bytes]? ∨
      (FjallStore.purgeLoop guards keyspace).2.entries[bytes]? = none ∧
        ∃ guard ∈ guards, guard.storedKey = bytes := by
  induction guards generalizing keyspace with
  | nil => exact .inl rfl
  | cons guard guards ih =>
      rcases purgeLoop_cons guard guards keyspace with
        ⟨err, after, ended, entries, _⟩ | ⟨next, goesOn, entries, _⟩
      · left
        rw [ended, entries]
      · rw [goesOn]
        rcases ih next with kept | ⟨gone, other, member, same⟩
        · rw [kept, entries, OrderedMap.lookup_erase]
          by_cases hit : guard.storedKey = bytes
          · right
            exact ⟨if_pos hit, guard, List.mem_cons_self, hit⟩
          · left
            exact if_neg hit
        · right
          exact ⟨gone, other, List.mem_cons_of_mem guard member, same⟩

theorem purgeLoop_readFault (guards : List Guard) (keyspace : Keyspace) :
    (FjallStore.purgeLoop guards keyspace).2.readFault = keyspace.readFault := by
  induction guards generalizing keyspace with
  | nil => rfl
  | cons guard guards ih =>
      rcases purgeLoop_cons guard guards keyspace with
        ⟨err, after, ended, _, faults⟩ | ⟨next, goesOn, _, faults⟩
      · rw [ended, faults]
      · rw [goesOn, ih next, faults]

theorem purgeLoop_done {guards : List Guard} {keyspace after : Keyspace}
    (done : FjallStore.purgeLoop guards keyspace = (.ok (), after)) (guard : Guard)
    (member : guard ∈ guards) : after.entries[guard.storedKey]? = none := by
  induction guards generalizing keyspace with
  | nil => cases member
  | cons first guards ih =>
      rcases purgeLoop_cons first guards keyspace with
        ⟨err, other, ended, _⟩ | ⟨next, goesOn, entries, _⟩
      · rw [ended] at done
        cases done
      · rw [goesOn] at done
        rcases List.mem_cons.mp member with same | later
        · subst same
          have erased : next.entries[guard.storedKey]? = none := by
            rw [entries, OrderedMap.lookup_erase, if_pos rfl]
          rcases purgeLoop_lookup guards next guard.storedKey with kept | ⟨gone, _⟩
          · rw [done] at kept
            exact kept.trans erased
          · rw [done] at gone
            exact gone
        · exact ih done later

theorem mem_scanPrefix (keyspace : Keyspace) (start : Bytes) (guard : Guard) :
    guard ∈ keyspace.scanPrefix start ↔ start <+: guard.storedKey ∧
      keyspace.entries[guard.storedKey]? = some guard.value ∧
      guard.fault = keyspace.readFault guard.storedKey := by
  rcases guard with ⟨key, value, fault⟩
  simp only [Keyspace.scanPrefix, List.mem_map, List.mem_filter, List.isPrefixOf_iff_prefix,
    Guard.mk.injEq]
  constructor
  · intro found
    rcases found with ⟨⟨storedKey, storedValue⟩, ⟨member, starts⟩, rfl, rfl, rfl⟩
    exact ⟨starts, ExtTreeMap.mem_toList_iff_getElem?_eq_some.mp member, rfl⟩
  · intro found
    rcases found with ⟨starts, present, rfl⟩
    exact ⟨(key, value), ⟨ExtTreeMap.mem_toList_iff_getElem?_eq_some.mpr present, starts⟩,
      rfl, rfl, rfl⟩

end Keyspace

end Rush.Storage
