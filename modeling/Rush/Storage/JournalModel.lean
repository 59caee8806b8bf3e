import Rush.Storage.Journal

/-! What the journal operations do to the entries its store stands for. The
results hold over every lawful store; each operation is summed up once, with its
failures, and later modules do not unfold it. -/

namespace Rush.Storage

open Std Rush.Actor Rush.Library

def appended : EntryMap → UInt64 → List Bytes → EntryMap
  | entries, _, [] => entries
  | entries, next, data :: datas => appended (entries.insert next data) (next + 1) datas

theorem toNat_succ {next : UInt64} (room : next.toNat + 1 < UInt64.size) :
    (next + 1).toNat = next.toNat + 1 := by
  rw [UInt64.toNat_add]
  exact Nat.mod_eq_of_lt room

theorem appended_lookup (entries : EntryMap) (next : UInt64) (datas : List Bytes) (key : UInt64)
    (room : next.toNat + datas.length < UInt64.size) :
    (appended entries next datas)[key]? =
      if next.toNat ≤ key.toNat ∧ key.toNat < next.toNat + datas.length
      then datas[key.toNat - next.toNat]? else entries[key]? := by
  induction datas generalizing entries next with
  | nil =>
      rw [appended, List.length_nil, if_neg (by omega)]
  | cons data datas ih =>
      rw [List.length_cons] at room
      have successor := toNat_succ (show next.toNat + 1 < UInt64.size by omega)
      rw [appended, ih _ _ (by omega), successor, List.length_cons]
      rcases Nat.lt_trichotomy key.toNat next.toNat with before | at_ | after
      · have different : next ≠ key := by
          intro same
          rw [same] at before
          omega
        rw [if_neg (by omega), if_neg (by omega), OrderedMap.lookup_insert, if_neg different]
      · have same : next = key := UInt64.toNat_inj.mp at_.symm
        rw [if_neg (by omega), if_pos (by omega), OrderedMap.lookup_insert, if_pos same, at_,
          Nat.sub_self, List.getElem?_cons_zero]
      · have different : next ≠ key := by
          intro same
          rw [same] at after
          omega
        by_cases inside : key.toNat < next.toNat + (datas.length + 1)
        · have shift : key.toNat - next.toNat = key.toNat - (next.toNat + 1) + 1 := by omega
          rw [if_pos (by omega), if_pos (by omega), shift, List.getElem?_cons_succ]
        · rw [if_neg (by omega), if_neg (by omega), OrderedMap.lookup_insert, if_neg different]

theorem appended_empty_lookup (datas : List Bytes) (key : UInt64)
    (room : datas.length < UInt64.size) :
    (appended ∅ 0 datas)[key]? = datas[key.toNat]? := by
  have zero : (0 : UInt64).toNat = 0 := rfl
  rw [appended_lookup ∅ 0 datas key (by omega), zero]
  by_cases inside : key.toNat < datas.length
  · rw [if_pos (by omega), Nat.sub_zero]
  · rw [if_neg (by omega), ExtTreeMap.getElem?_empty,
      List.getElem?_eq_none (by omega)]

namespace BaseJournal

variable {σ : Type} [Store σ] [LawfulStore σ] {journal : BaseJournal σ} {entries : EntryMap}

def Models (journal : BaseJournal σ) (entries : EntryMap) : Prop :=
  LawfulStore.Models journal.store entries

theorem put_cases (models : journal.Models entries) (data : Bytes) :
    (∃ after, journal.put data = (.ok (), after) ∧
      after.Models (entries.insert journal.nextSequence data) ∧
      after.nextSequence = journal.nextSequence + 1) ∨
    ∃ err after, journal.put data = (.error err, after) ∧ after.Models entries ∧
      after.nextSequence = journal.nextSequence := by
  rcases written : Store.put journal.store journal.nextSequence data with ⟨result, store⟩
  cases result with
  | ok value =>
      left
      refine ⟨{ store, nextSequence := journal.nextSequence + 1 }, ?_, ?_, rfl⟩
      · simp only [put, written]
      · exact LawfulStore.put_models models written
  | error err =>
      right
      refine ⟨.store s!"Failed to store event: {err}", { journal with store }, ?_, ?_, rfl⟩
      · simp only [put, written]
        rfl
      · exact LawfulStore.put_failed models written

theorem insert_cases (models : journal.Models entries) (sequence : UInt64) (data : Bytes) :
    ((journal.insert sequence data).2.Models (entries.insert sequence data) ∨
      (journal.insert sequence data).2.Models entries) ∧
    (journal.insert sequence data).2.nextSequence = journal.nextSequence := by
  rcases written : Store.put journal.store sequence data with ⟨result, store⟩
  have shape : (journal.insert sequence data).2 = { journal with store } := by
    simp only [insert, written]
  rw [shape]
  refine ⟨?_, rfl⟩
  cases result with
  | ok value => exact .inl (LawfulStore.put_models models written)
  | error err => exact .inr (LawfulStore.put_failed models written)

theorem get_models (models : journal.Models entries) (key : UInt64) :
    (journal.get key).toOption = entries[key]? := by
  rw [← LawfulStore.get_models models key]
  unfold get actorStore
  cases Store.get journal.store key <;> rfl

theorem last_models (models : journal.Models entries) :
    journal.last = entries[journal.latestSequence]?.map fun data =>
      (journal.latestSequence, data) := by
  rw [last, get_models models]

theorem range_models (models : journal.Models entries)
    (narrow : Narrow (LawfulStore.capacity σ) entries) (start : UInt64) (stop : Option UInt64) :
    journal.range start stop = entries.toList.filter fun entry =>
      start ≤ entry.1 && entry.1 ≤ stop.getD journal.latestSequence :=
  LawfulStore.range_models models narrow start _

theorem importLoop_spec (limit : Nat) (reader : Bytes) (models : journal.Models entries)
    {result : Except ActorError Unit} {after : BaseJournal σ}
    (ran : importLoop limit journal reader = (result, after)) :
    ∃ taken : List Bytes, taken <+: Framing.framesUpTo lengthWidth limit reader ∧
      after.Models (appended entries journal.nextSequence taken) ∧
      after.nextSequence = journal.nextSequence + UInt64.ofNat taken.length ∧
      (result = .ok () ↔ taken = Framing.framesUpTo lengthWidth limit reader) := by
  induction limit generalizing journal entries reader with
  | zero =>
      cases ran
      exact ⟨[], List.nil_prefix, models, by simp, by simp [Framing.framesUpTo]⟩
  | succ limit ih =>
      cases read : Framing.unframe lengthWidth reader with
      | none =>
          simp only [importLoop, readData, read] at ran
          cases ran
          exact ⟨[], List.nil_prefix, models, by simp, by simp [Framing.framesUpTo, read]⟩
      | some pair =>
          rcases pair with ⟨data, rest⟩
          simp only [importLoop, readData, read] at ran
          simp only [Framing.framesUpTo, read]
          rcases put_cases models data with
            ⟨next, stored, holds, advanced⟩ | ⟨err, next, failed, holds, kept⟩
          · rw [stored] at ran
            rcases ih rest holds ran with ⟨taken, starts, models, counted, complete⟩
            refine ⟨data :: taken, (List.cons_prefix_cons.mpr ⟨rfl, starts⟩), ?_, ?_, ?_⟩
            · rw [appended, ← advanced]
              exact models
            · rw [counted, advanced, List.length_cons, UInt64.ofNat_add, UInt64.add_assoc]
              congr 1
              exact UInt64.add_comm _ _
            · rw [complete, List.cons_inj_right]
          · rw [failed] at ran
            cases ran
            exact ⟨[], List.nil_prefix, holds, by simpa using kept, by simp⟩

/-- The events an import would put: the whole frames of the file it opens. -/
def importedEvents (journal : BaseJournal σ) (files : FileSystem) (dir : String) : List Bytes :=
  match files.openFile (journal.exportPath dir) with
  | .ok file => Framing.frames lengthWidth (readThroughDecoder file)
  | .error _ => []

/-- An import fails in its purge and leaves some of the old entries, or it
leaves a run of the imported events numbered from zero: none of them where the
file cannot be opened, and all of them where it succeeds. -/
theorem importEvents_cases (models : journal.Models entries) (files : FileSystem) (dir : String)
    {result : Except ActorError Unit} {after : BaseJournal σ}
    (ran : journal.importEvents files dir = (result, after)) :
    (∃ err rest, result = .error err ∧ (Store.purge journal.store).1 ≠ .ok () ∧ after.Models rest ∧
      (∀ (key : UInt64) (data : Bytes), rest[key]? = some data → entries[key]? = some data) ∧
      after.nextSequence = journal.nextSequence) ∨
    ∃ taken, taken <+: journal.importedEvents files dir ∧ after.Models (appended ∅ 0 taken) ∧
      after.nextSequence = UInt64.ofNat taken.length ∧ (Store.purge journal.store).1 = .ok () ∧
      (result = .ok () ↔ taken = journal.importedEvents files dir ∧
        ∃ file, files.openFile (journal.exportPath dir) = .ok file) := by
  have samePath := LawfulStore.purge_keyPrefix journal.store
  rcases purged : Store.purge journal.store with ⟨outcome, store⟩
  rw [purged] at samePath
  cases outcome with
  | error err =>
      left
      rcases LawfulStore.purge_failed models purged with ⟨rest, holds, subset⟩
      simp only [importEvents, purged] at ran
      cases ran
      exact ⟨_, rest, rfl, by simp, holds, subset, rfl⟩
  | ok value =>
      right
      have cleared := LawfulStore.purge_models models purged
      have path : exportPath { store, nextSequence := 0 } dir = journal.exportPath dir := by
        simp only [exportPath, samePath]
      simp only [importEvents, purged, path] at ran
      unfold importedEvents
      cases opened : files.openFile (journal.exportPath dir) with
      | error text =>
          simp only [opened] at ran
          cases ran
          exact ⟨[], List.nil_prefix, cleared, rfl, rfl, by simp⟩
      | ok file =>
          simp only [opened] at ran
          have start : BaseJournal.Models { store, nextSequence := 0 } ∅ := cleared
          rcases importLoop_spec _ _ start ran with
            ⟨taken, starts, holds, counted, complete⟩
          refine ⟨taken, starts, holds, ?_, rfl, ?_⟩
          · rw [counted]
            exact UInt64.zero_add _
          · rw [complete]
            simp [Framing.frames]

end BaseJournal

end Rush.Storage
