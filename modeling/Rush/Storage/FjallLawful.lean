import Rush.Storage.Fjall

/-! A `FjallStore` that has its keyspace to itself, with readable entries, is an
ordered map. The text order of its keys is their numeric order below `10 ^ 14`,
where the number text still has its fixed width. -/

namespace Rush.Storage

open Std Rush.Library

namespace FjallStore

structure Models (store : FjallStore) (entries : EntryMap) : Prop where
  readable : ∀ bytes, store.keyspace.readFault bytes = none
  lookup : ∀ key : UInt64,
    store.keyspace.entries[keyBytes store.keyPrefix key]? = entries[key]?
  alone : ∀ bytes value, store.keyspace.entries[bytes]? = some value →
    ∃ key : UInt64, bytes = keyBytes store.keyPrefix key

/-- No stored key comes after a greater one in text order: it is at most the front
of the greater key's digits, cut to its own width. -/
def KeysInOrder (entries : EntryMap) : Prop :=
  ∀ left right : UInt64, left ∈ entries → right ∈ entries → left < right →
    left.toNat ≤ right.toNat / 10 ^ (keyWidth right - keyWidth left)

theorem narrow_keysInOrder {entries : EntryMap} (narrow : Narrow (10 ^ 14) entries) :
    KeysInOrder entries := by
  intro left right storedLeft storedRight less
  have width (key : UInt64) (present : key ∈ entries) : keyWidth key = 14 := by
    obtain ⟨data, found⟩ := Option.isSome_iff_exists.mp
      (ExtTreeMap.mem_iff_isSome_getElem?.mp present)
    exact keyWidth_narrow (narrow key data found)
  rw [width left storedLeft, width right storedRight, Nat.sub_self, pow_zero, Nat.div_one]
  exact (UInt64.lt_iff_toNat_lt.mp less).le

section Models

variable {store : FjallStore} {entries : EntryMap}

theorem mem_scan (models : store.Models entries) (guard : Guard) :
    guard ∈ store.scan ↔ ∃ key value, entries[key]? = some value ∧
      guard = { storedKey := keyBytes store.keyPrefix key, value, fault := none } := by
  rw [scan, mem_scanPrefix, models.readable]
  constructor
  · intro found
    rcases found with ⟨_, present, faultless⟩
    rcases models.alone _ _ present with ⟨key, same⟩
    refine ⟨key, guard.value, ?_, ?_⟩
    · rw [← models.lookup, ← same]
      exact present
    · rw [← same, ← faultless]
  · intro found
    rcases found with ⟨key, value, present, rfl⟩
    refine ⟨utf8_prefix_keyBytes _ _, ?_, rfl⟩
    rw [models.lookup]
    exact present

theorem scan_decodes (models : store.Models entries) (guard : Guard) (member : guard ∈ store.scan) :
    ∃ key value, entries[key]? = some value ∧ intoKeyValue guard = .ok (key, value) ∧
      guard.storedKey = keyBytes store.keyPrefix key := by
  rcases (mem_scan models guard).mp member with ⟨key, value, present, rfl⟩
  exact ⟨key, value, present, intoKeyValue_keyBytes _ _ _, rfl⟩

theorem scan_ordered (store : FjallStore) :
    store.scan.Pairwise fun a b => compare a.storedKey b.storedKey = .lt := by
  have entries : OrderedMap.Ascending store.keyspace.entries.toList :=
    OrderedMap.toList_ascending _
  unfold scan Keyspace.scanPrefix
  rw [List.pairwise_map]
  exact OrderedMap.ascending_filter _ entries

theorem mem_prefixIterator (models : store.Models entries) (key : UInt64) (value : Bytes) :
    (key, value) ∈ store.prefixIterator ↔ entries[key]? = some value := by
  rw [prefixIterator, List.mem_filterMap]
  constructor
  · intro found
    rcases found with ⟨guard, member, decoded⟩
    rcases scan_decodes models guard member with ⟨found, stored, present, decodes, _⟩
    rw [decodes] at decoded
    cases decoded
    exact present
  · intro present
    refine ⟨_, (mem_scan models _).mpr ⟨key, value, present, rfl⟩, ?_⟩
    rw [intoKeyValue_keyBytes]
    rfl

theorem prefixIterator_texts (models : store.Models entries) :
    store.prefixIterator.Pairwise fun a b =>
      compare (keyBytes store.keyPrefix a.1) (keyBytes store.keyPrefix b.1) = .lt := by
  unfold prefixIterator
  rw [List.pairwise_filterMap]
  apply List.Pairwise.imp_of_mem _ (scan_ordered store)
  intro a b memberA memberB less left decodedA right decodedB
  rcases scan_decodes models a memberA with ⟨keyA, valueA, _, decodesA, textA⟩
  rcases scan_decodes models b memberB with ⟨keyB, valueB, _, decodesB, textB⟩
  rw [decodesA] at decodedA
  rw [decodesB] at decodedB
  cases decodedA
  cases decodedB
  rw [textA, textB] at less
  exact less

theorem mem_of_prefixIterator (models : store.Models entries) {entry : UInt64 × Bytes}
    (member : entry ∈ store.prefixIterator) : entry.1 ∈ entries := by
  have present := (mem_prefixIterator models entry.1 entry.2).mp member
  rw [ExtTreeMap.mem_iff_isSome_getElem?, present]
  rfl

theorem prefixIterator_ascending (models : store.Models entries)
    (ordered : KeysInOrder entries) : OrderedMap.Ascending store.prefixIterator := by
  apply List.Pairwise.imp_of_mem _ (prefixIterator_texts models)
  intro a b memberA memberB texts
  have storedA := mem_of_prefixIterator models memberA
  have storedB := mem_of_prefixIterator models memberB
  rcases lt_trichotomy a.1 b.1 with less | same | more
  · exact Std.compare_eq_lt.mpr less
  · rw [same, ReflOrd.compare_self] at texts
    cases texts
  · have swapped := (compare_keyBytes store.keyPrefix more).mpr (ordered b.1 a.1 storedB storedA more)
    rw [OrientedCmp.gt_of_lt swapped] at texts
    cases texts

theorem keysInOrder_of_ascending (models : store.Models entries)
    (ascending : OrderedMap.Ascending store.prefixIterator) : KeysInOrder entries := by
  intro left right storedLeft storedRight less
  have along := prefixIterator_texts models
  obtain ⟨leftData, foundLeft⟩ := Option.isSome_iff_exists.mp
    (ExtTreeMap.mem_iff_isSome_getElem?.mp storedLeft)
  obtain ⟨rightData, foundRight⟩ := Option.isSome_iff_exists.mp
    (ExtTreeMap.mem_iff_isSome_getElem?.mp storedRight)
  have texts := OrderedMap.ascending_pairwise ascending along
    ((mem_prefixIterator models left leftData).mpr foundLeft)
    ((mem_prefixIterator models right rightData).mpr foundRight) (Std.compare_eq_lt.mpr less)
  exact (compare_keyBytes store.keyPrefix less).mp texts

theorem prefixIterator_models (models : store.Models entries)
    (ordered : KeysInOrder entries) : store.prefixIterator = entries.toList :=
  (OrderedMap.toList_eq (prefixIterator_ascending models ordered)
    (mem_prefixIterator models)).symm

theorem last_eq_getLast (models : store.Models entries) :
    store.last = store.prefixIterator.getLast? := by
  have decodes (guard : Guard) (member : guard ∈ store.scan) :
      ((intoKeyValue guard).toOption).isSome := by
    rcases scan_decodes models guard member with ⟨key, value, _, decoded, _⟩
    rw [decoded]
    rfl
  unfold last prefixIterator
  rcases List.eq_nil_or_concat store.scan with empty | ⟨front, final, split⟩
  · rw [empty]
    rfl
  · rw [List.concat_eq_append] at split
    have member : final ∈ store.scan := by
      rw [split]
      exact List.mem_append_right front (List.mem_singleton_self final)
    rcases Option.isSome_iff_exists.mp (decodes final member) with ⟨entry, decoded⟩
    rw [split, List.filterMap_append, List.getLast?_concat, Option.bind_some, decoded]
    simp [decoded]

theorem models_after_put {after : FjallStore} {key : UInt64} {data : Bytes}
    (models : store.Models entries) (done : store.put key data = (.ok (), after)) :
    after.Models (entries.insert key data) := by
  unfold put at done
  rcases written : store.keyspace.insert (keyBytes store.keyPrefix key) data with ⟨result, keyspace⟩
  rw [written] at done
  cases done
  have change := write_ok written
  refine ⟨?_, ?_, ?_⟩
  · intro bytes
    rw [change.2]
    exact models.readable bytes
  · intro other
    rw [change.1, OrderedMap.lookup_insert, OrderedMap.lookup_insert, models.lookup]
    by_cases same : key = other
    · rw [if_pos (congrArg _ same), if_pos same]
    · rw [if_neg fun text => same (keyBytes_injective _ _ _ text), if_neg same]
  · intro bytes value present
    rw [change.1, OrderedMap.lookup_insert] at present
    split at present
    · next same => exact ⟨key, same.symm⟩
    · exact models.alone bytes value present

theorem models_after_del {after : FjallStore} {key : UInt64}
    (models : store.Models entries) (done : store.del key = (.ok (), after)) :
    after.Models (entries.erase key) := by
  unfold del at done
  rcases written : store.keyspace.remove (keyBytes store.keyPrefix key) with ⟨result, keyspace⟩
  rw [written] at done
  cases done
  have change := write_ok written
  refine ⟨?_, ?_, ?_⟩
  · intro bytes
    rw [change.2]
    exact models.readable bytes
  · intro other
    rw [change.1, OrderedMap.lookup_erase, OrderedMap.lookup_erase, models.lookup]
    by_cases same : key = other
    · rw [if_pos (congrArg _ same), if_pos same]
    · rw [if_neg fun text => same (keyBytes_injective _ _ _ text), if_neg same]
  · intro bytes value present
    rw [change.1, OrderedMap.lookup_erase] at present
    split at present
    · cases present
    · exact models.alone bytes value present

theorem models_same {after : FjallStore} (models : store.Models entries)
    (samePrefix : after.keyPrefix = store.keyPrefix)
    (sameEntries : after.keyspace.entries = store.keyspace.entries)
    (sameFault : after.keyspace.readFault = store.keyspace.readFault) : after.Models entries := by
  refine ⟨?_, ?_, ?_⟩
  · rw [sameFault]
    exact models.readable
  · rw [samePrefix, sameEntries]
    exact models.lookup
  · rw [samePrefix, sameEntries]
    exact models.alone

theorem models_after_failed_put {after : FjallStore} {key : UInt64} {data : Bytes} {err : Error}
    (models : store.Models entries) (failed : store.put key data = (.error err, after)) :
    after.Models entries := by
  unfold put at failed
  rcases written : store.keyspace.insert (keyBytes store.keyPrefix key) data with ⟨result, keyspace⟩
  rw [written] at failed
  cases failed
  have kept := write_failed written
  exact models_same models rfl kept.1 kept.2

theorem models_after_failed_del {after : FjallStore} {key : UInt64} {err : Error}
    (models : store.Models entries) (failed : store.del key = (.error err, after)) :
    after.Models entries := by
  unfold del at failed
  rcases written : store.keyspace.remove (keyBytes store.keyPrefix key) with ⟨result, keyspace⟩
  rw [written] at failed
  cases failed
  have kept := write_failed written
  exact models_same models rfl kept.1 kept.2

theorem purge_subset {after : FjallStore} {result : Except Error Unit}
    (purged : store.purge = (result, after)) (bytes value : Bytes)
    (present : after.keyspace.entries[bytes]? = some value) :
    store.keyspace.entries[bytes]? = some value := by
  unfold purge at purged
  rcases loop : purgeLoop store.scan store.keyspace with ⟨outcome, keyspace⟩
  rw [loop] at purged
  cases purged
  change keyspace.entries[bytes]? = some value at present
  rcases purgeLoop_lookup store.scan store.keyspace bytes with same | ⟨gone, _⟩
  · rw [loop] at same
    rw [← same]
    exact present
  · rw [loop] at gone
    rw [gone] at present
    cases present

theorem models_after_purge {after : FjallStore} {result : Except Error Unit}
    (models : store.Models entries) (purged : store.purge = (result, after)) :
    after.Models (entries.filterMap fun key _ =>
      after.keyspace.entries[keyBytes store.keyPrefix key]?) := by
  have kept := purge_subset purged
  unfold purge at purged
  rcases loop : purgeLoop store.scan store.keyspace with ⟨outcome, keyspace⟩
  rw [loop] at purged
  cases purged
  refine ⟨?_, ?_, ?_⟩
  · intro bytes
    have faults := purgeLoop_readFault store.scan store.keyspace
    rw [loop] at faults
    change keyspace.readFault bytes = none
    rw [faults]
    exact models.readable bytes
  · intro key
    change keyspace.entries[keyBytes store.keyPrefix key]? = _
    rw [ExtTreeMap.getElem?_filterMap']
    cases found : keyspace.entries[keyBytes store.keyPrefix key]? with
    | none => cases entries[key]? <;> rfl
    | some value =>
        have before := kept _ _ found
        rw [models.lookup] at before
        rw [before]
        rfl
  · intro bytes value present
    exact models.alone bytes value (kept bytes value present)

theorem purge_clears {after : FjallStore} (models : store.Models entries)
    (done : store.purge = (.ok (), after)) (key : UInt64) :
    after.keyspace.entries[keyBytes store.keyPrefix key]? = none := by
  unfold purge at done
  rcases loop : purgeLoop store.scan store.keyspace with ⟨outcome, keyspace⟩
  rw [loop] at done
  cases done
  cases before : store.keyspace.entries[keyBytes store.keyPrefix key]? with
  | none =>
      rcases purgeLoop_lookup store.scan store.keyspace (keyBytes store.keyPrefix key) with
        same | ⟨gone, _⟩
      · rw [loop] at same
        exact same.trans before
      · rw [loop] at gone
        exact gone
  | some value =>
      rw [models.lookup] at before
      exact purgeLoop_done loop _ ((mem_scan models _).mpr ⟨key, value, before, rfl⟩)

end Models

theorem write_faultless {keyspace : Keyspace} (faultless : keyspace.writeFaults = [])
    (update : ExtTreeMap Bytes Bytes compare → ExtTreeMap Bytes Bytes compare) :
    ∃ after, keyspace.write update = (.ok (), after) ∧ after.writeFaults = [] := by
  unfold Keyspace.write
  rw [faultless]
  exact ⟨_, rfl, rfl⟩

theorem purgeLoop_faultless (guards : List Guard) (keyspace : Keyspace)
    (faultless : keyspace.writeFaults = []) (readable : ∀ guard ∈ guards, guard.fault = none) :
    ∃ after, purgeLoop guards keyspace = (.ok (), after) ∧ after.writeFaults = [] := by
  induction guards generalizing keyspace with
  | nil => exact ⟨keyspace, rfl, faultless⟩
  | cons guard guards ih =>
      have loaded : guard.key = .ok guard.storedKey := by
        simp only [Guard.key, Guard.intoInner, readable guard List.mem_cons_self]
        rfl
      rcases write_faultless faultless fun entries => entries.erase guard.storedKey with
        ⟨after, removed, rest⟩
      simp only [purgeLoop, loaded, Keyspace.remove, removed]
      exact ih after rest fun other member => readable other (List.mem_cons_of_mem guard member)

theorem not_decide_lt (left right : UInt64) : (!decide (left < right)) = decide (right ≤ left) := by
  rw [← decide_not]
  simp only [UInt64.not_lt]

theorem models_noEntry (name keyPrefix : String) :
    (createStore noEntry name keyPrefix).Models ∅ := by
  refine ⟨fun _ => rfl, fun _ => rfl, ?_⟩
  intro bytes value present
  change (∅ : ExtTreeMap Bytes Bytes compare)[bytes]? = some value at present
  rw [ExtTreeMap.getElem?_empty] at present
  cases present

end FjallStore

instance : LawfulStore FjallStore where
  Models := FjallStore.Models
  capacity := 10 ^ 14
  capacity_pos := by decide
  capacity_lt := by decide
  get_models := by
    intro store entries models key
    rw [← models.lookup]
    change (FjallStore.get store key).toOption = _
    simp only [FjallStore.get, Keyspace.get, models.readable]
    cases found : store.keyspace.entries[keyBytes store.keyPrefix key]? with
    | none => rfl
    | some value => rfl
  put_models := FjallStore.models_after_put
  put_failed := FjallStore.models_after_failed_put
  del_models := FjallStore.models_after_del
  del_failed := FjallStore.models_after_failed_del
  purge_models := by
    intro store after entries models done
    have remaining := FjallStore.models_after_purge models done
    have empty : (entries.filterMap fun key _ =>
        after.keyspace.entries[keyBytes store.keyPrefix key]?) = ∅ := by
      apply ExtTreeMap.ext_getElem?
      intro key
      rw [ExtTreeMap.getElem?_filterMap', FjallStore.purge_clears models done]
      cases entries[key]? <;> rfl
    rw [empty] at remaining
    exact remaining
  purge_failed := by
    intro store after entries err models failed
    refine ⟨_, FjallStore.models_after_purge models failed, ?_⟩
    intro key data present
    rw [ExtTreeMap.getElem?_filterMap'] at present
    rcases Option.bind_eq_some_iff.mp present with ⟨before, _, found⟩
    rw [← models.lookup]
    exact FjallStore.purge_subset failed _ _ found
  purge_keyPrefix _ := rfl
  last_models := by
    intro store entries models narrow
    rw [← FjallStore.prefixIterator_models models (FjallStore.narrow_keysInOrder narrow)]
    exact FjallStore.last_eq_getLast models
  range_models := by
    intro store entries models narrow start stop
    rw [← FjallStore.prefixIterator_models models (FjallStore.narrow_keysInOrder narrow)]
    rfl

instance : ReliableStore FjallStore where
  Reliable store := store.keyspace.writeFaults = []
  put_reliable := by
    intro store reliable key data
    rcases FjallStore.write_faultless reliable fun entries =>
      entries.insert (keyBytes store.keyPrefix key) data with ⟨after, written, faultless⟩
    refine ⟨{ store with keyspace := after }, ?_, faultless⟩
    change FjallStore.put store key data = _
    simp only [FjallStore.put, Keyspace.insert, written]
  purge_reliable := by
    intro store entries models reliable
    have readable (guard : Guard) (member : guard ∈ store.scan) : guard.fault = none := by
      rcases (FjallStore.mem_scan models guard).mp member with ⟨key, value, _, rfl⟩
      rfl
    rcases FjallStore.purgeLoop_faultless store.scan store.keyspace reliable readable with
      ⟨after, done, faultless⟩
    refine ⟨{ store with keyspace := after }, ?_, faultless⟩
    change FjallStore.purge store = _
    simp only [FjallStore.purge, done]

end Rush.Storage
