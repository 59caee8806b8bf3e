import Rush.Storage.Handles
import Rush.Storage.KeyText

/-! `MemoryStore`: the `Store` trait over a map in memory, for tests. The order
of `String` keys is the order of their bytes. No call panics while it holds the
lock, so the lock is never poisoned. -/

namespace Rush.Storage

open Std Rush.Library

structure MemoryStore where
  name : String
  keyPrefix : String
  data : ExtTreeMap Bytes Bytes compare

namespace MemoryStore

def keyValue (entry : Bytes × Bytes) : Option (UInt64 × Bytes) :=
  (parseU64 (lastPart entry.1)).map fun key => (key, entry.2)

def iterPrefix (store : MemoryStore) (start : String) : List (UInt64 × Bytes) :=
  store.data.toList.filterMap fun entry =>
    if (utf8 start).isPrefixOf entry.1 then keyValue entry else none

def get (store : MemoryStore) (key : UInt64) : Except Error Bytes :=
  match store.data[keyBytes store.keyPrefix key]? with
  | some value => .ok value
  | none => .error (.entryNotFound s!"Key not found: {keyString store.keyPrefix key}")

def put (store : MemoryStore) (key : UInt64) (data : Bytes) : Except Error Unit × MemoryStore :=
  (.ok (), { store with data := store.data.insert (keyBytes store.keyPrefix key) data })

def del (store : MemoryStore) (key : UInt64) : Except Error Unit × MemoryStore :=
  (.ok (), { store with data := store.data.erase (keyBytes store.keyPrefix key) })

def last (store : MemoryStore) : Option (UInt64 × Bytes) :=
  store.data.toList.reverse.findSome? keyValue

def purge (store : MemoryStore) : Except Error Unit × MemoryStore :=
  (.ok (), { store with data := ∅ })

def iter (store : MemoryStore) (options : IteratorOptions) : List (UInt64 × Bytes) :=
  let data := store.iterPrefix store.keyPrefix
  let size := UInt64.ofNat data.length
  match options with
  | .forward start count =>
    let start := start.getD 0
    let count := count.getD size
    (data.filter fun entry => start ≤ entry.1).take count.toNat
  | .reverse start count =>
    match data.getLast? with
    | none => []
    | some (lastKey, _) =>
      let start := start.getD lastKey
      let count := count.getD size
      (data.reverse.filter fun entry => entry.1 ≤ start).take count.toNat
  | .range start stop =>
    match data.getLast? with
    | none => []
    | some (lastKey, _) =>
      let stop := stop.getD lastKey
      if start > stop then []
      else data.filter fun entry => start ≤ entry.1 && entry.1 ≤ stop

theorem keyValue_keyBytes (keyPrefix : String) (key : UInt64) (value : Bytes) :
    MemoryStore.keyValue (keyBytes keyPrefix key, value) = some (key, value) := by
  rw [MemoryStore.keyValue, parseU64_keyBytes, Option.map_some]

end MemoryStore

/-- The accessor `prefix`, which the source leaves out here, reads the field. -/
instance : Store MemoryStore where
  name store := store.name
  keyPrefix store := store.keyPrefix
  get := MemoryStore.get
  put := MemoryStore.put
  del := MemoryStore.del
  last := MemoryStore.last
  purge := MemoryStore.purge
  iter := MemoryStore.iter

/-- The contents by name and prefix. -/
structure MemoryDbManager where
  data : String × String → Option (ExtTreeMap Bytes Bytes compare)

namespace MemoryDbManager

def new : MemoryDbManager := { data := fun _ => none }

def content (manager : MemoryDbManager) (name keyPrefix : String) :
    ExtTreeMap Bytes Bytes compare :=
  (manager.data (name, keyPrefix)).getD ∅

def createStore (manager : MemoryDbManager) (name keyPrefix : String) :
    MemoryStore × MemoryDbManager :=
  let data := manager.content name keyPrefix
  ({ name, keyPrefix, data },
    { data := Function.update manager.data (name, keyPrefix) (some data) })

end MemoryDbManager

instance : DbManager MemoryDbManager MemoryStore where
  createStore := MemoryDbManager.createStore
  load manager store := { store with data := manager.content store.name store.keyPrefix }
  save manager store :=
    { data := Function.update manager.data (store.name, store.keyPrefix) (some store.data) }

end Rush.Storage
