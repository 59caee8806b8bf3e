import Rush.Library.OrderedMap
import Rush.Storage.Error

/-! The `Store` trait of the store crate and the ordered map a store stands for.

A mutating operation returns its result together with the store it leaves, also
when it fails. -/

namespace Rush.Storage

open Std

abbrev Bytes := List UInt8

inductive IteratorOptions where
  | reverse (start : Option UInt64) (count : Option UInt64)
  | forward (start : Option UInt64) (count : Option UInt64)
  | range (start : UInt64) (stop : Option UInt64)
  deriving DecidableEq, Repr

class Store (σ : Type) where
  name : σ → String
  keyPrefix : σ → String
  get : σ → UInt64 → Except Error Bytes
  put : σ → UInt64 → Bytes → Except Error Unit × σ
  del : σ → UInt64 → Except Error Unit × σ
  last : σ → Option (UInt64 × Bytes)
  purge : σ → Except Error Unit × σ
  iter : σ → IteratorOptions → List (UInt64 × Bytes)
  flush : σ → Except Error Unit := fun _ => .ok ()

/-- The contents of a store as an ordered map over all `u64` keys. -/
abbrev EntryMap := ExtTreeMap UInt64 Bytes compare

def Narrow (bound : Nat) (entries : EntryMap) : Prop :=
  ∀ (key : UInt64) (data : Bytes), entries[key]? = some data → key.toNat < bound

/-- What a back end has to provide for the journal and the snapshotter: lookups
and updates are those of an ordered map over all keys, and below `capacity` the
scans follow its order. A failed `put` or `del` changes nothing; a failed
`purge` may have removed some of the entries. -/
class LawfulStore (σ : Type) [Store σ] where
  Models : σ → EntryMap → Prop
  capacity : Nat
  capacity_pos : 0 < capacity
  capacity_lt : capacity < UInt64.size
  get_models {store : σ} {entries : EntryMap} (models : Models store entries) (key : UInt64) :
    (Store.get store key).toOption = entries[key]?
  put_models {store after : σ} {entries : EntryMap} {key : UInt64} {data : Bytes}
    (models : Models store entries) (done : Store.put store key data = (.ok (), after)) :
    Models after (entries.insert key data)
  put_failed {store after : σ} {entries : EntryMap} {key : UInt64} {data : Bytes} {err : Error}
    (models : Models store entries) (failed : Store.put store key data = (.error err, after)) :
    Models after entries
  del_models {store after : σ} {entries : EntryMap} {key : UInt64}
    (models : Models store entries) (done : Store.del store key = (.ok (), after)) :
    Models after (entries.erase key)
  del_failed {store after : σ} {entries : EntryMap} {key : UInt64} {err : Error}
    (models : Models store entries) (failed : Store.del store key = (.error err, after)) :
    Models after entries
  purge_models {store after : σ} {entries : EntryMap}
    (models : Models store entries) (done : Store.purge store = (.ok (), after)) :
    Models after ∅
  purge_failed {store after : σ} {entries : EntryMap} {err : Error}
    (models : Models store entries) (failed : Store.purge store = (.error err, after)) :
    ∃ rest : EntryMap, Models after rest ∧
      ∀ (key : UInt64) (data : Bytes), rest[key]? = some data → entries[key]? = some data
  purge_keyPrefix (store : σ) : Store.keyPrefix (Store.purge store).2 = Store.keyPrefix store
  last_models {store : σ} {entries : EntryMap} (models : Models store entries)
    (narrow : Narrow capacity entries) : Store.last store = entries.toList.getLast?
  range_models {store : σ} {entries : EntryMap} (models : Models store entries)
    (narrow : Narrow capacity entries) (start stop : UInt64) :
    Store.iter store (.range start (some stop)) =
      entries.toList.filter fun entry => start ≤ entry.1 && entry.1 ≤ stop

/-- Stores for which no write fault is ahead: writing and purging succeed, and
go on doing so. -/
class ReliableStore (σ : Type) [Store σ] [LawfulStore σ] where
  Reliable : σ → Prop
  put_reliable {store : σ} (reliable : Reliable store) (key : UInt64) (data : Bytes) :
    ∃ after, Store.put store key data = (.ok (), after) ∧ Reliable after
  purge_reliable {store : σ} {entries : EntryMap} (models : LawfulStore.Models store entries)
    (reliable : Reliable store) : ∃ after, Store.purge store = (.ok (), after) ∧ Reliable after

def stored {σ : Type} [Store σ] (store : σ) (key : UInt64) : Option Bytes :=
  (Store.get store key).toOption

section Entries

variable {σ : Type} [Store σ] [LawfulStore σ]

theorem stored_models {store : σ} {entries : EntryMap}
    (models : LawfulStore.Models store entries) (key : UInt64) :
    stored store key = entries[key]? := LawfulStore.get_models models key

theorem narrow_empty (bound : Nat) : Narrow bound ∅ := by
  intro key data found
  rw [ExtTreeMap.getElem?_empty] at found
  cases found

theorem narrow_insert {bound : Nat} {entries : EntryMap} {key : UInt64} {data : Bytes}
    (narrow : Narrow bound entries) (below : key.toNat < bound) :
    Narrow bound (entries.insert key data) := by
  intro other found present
  rw [Library.OrderedMap.lookup_insert] at present
  split at present
  · next same => exact same ▸ below
  · exact narrow other found present

end Entries

end Rush.Storage
