import Rush.Storage.JournalSequence

/-! What a failed import leaves. The purge comes first and is not undone: once it
has succeeded the old events are gone, whether or not the file can be opened. -/

namespace Rush.Storage

open Std Rush.Library

namespace BaseJournal

section Failure

variable {σ : Type} [Store σ] {journal : BaseJournal σ}

/-- What a failed import leaves: a part of the old events under the old counter
where the purge failed, and otherwise the events before the one that could not
be put, numbered from zero. -/
inductive LeftBehind (journal after : BaseJournal σ) (events : List Bytes) : Prop
  | purgeFailed
      (failed : (Store.purge journal.store).1 ≠ .ok ())
      (subset : ∀ (key : UInt64) (data : Bytes), stored after.store key = some data →
        stored journal.store key = some data)
      (next : after.nextSequence = journal.nextSequence)
  | purged (taken : List Bytes)
      (done : (Store.purge journal.store).1 = .ok ())
      (starts : taken <+: events)
      (missing : events = [] ∨ taken.length < events.length)
      (numbered : ∀ key : UInt64, stored after.store key = taken[key.toNat]?)
      (next : after.nextSequence.toNat = taken.length)

def FileFits (journal : BaseJournal σ) (files : FileSystem) (dir : String) : Prop :=
  ∀ file, files.openFile (journal.exportPath dir) = .ok file → file.length < UInt64.size

theorem importedEvents_length (files : FileSystem) (dir : String)
    (fits : journal.FileFits files dir) :
    (journal.importedEvents files dir).length < UInt64.size := by
  unfold importedEvents
  cases opened : files.openFile (journal.exportPath dir) with
  | error text => exact (by decide : 0 < UInt64.size)
  | ok file =>
      have frames : (Framing.frames lengthWidth file).length ≤ file.length :=
        Framing.frames_length_le (by decide) file
      exact Nat.lt_of_le_of_lt frames (fits file opened)

variable [LawfulStore σ] {entries : EntryMap}

theorem failed_import_leaves (models : journal.Models entries) (files : FileSystem) (dir : String)
    (fits : journal.FileFits files dir) {err : ActorError} {after : BaseJournal σ}
    (failed : journal.importEvents files dir = (.error err, after)) :
    LeftBehind journal after (journal.importedEvents files dir) := by
  have room := importedEvents_length files dir fits
  rcases importEvents_cases models files dir failed with
    ⟨cause, rest, _, purge, holds, subset, next⟩ | ⟨taken, starts, holds, next, purge, complete⟩
  · apply LeftBehind.purgeFailed purge _ next
    intro key data present
    rw [stored_models holds] at present
    rw [stored_models models]
    exact subset key data present
  · have size : taken.length < UInt64.size := Nat.lt_of_le_of_lt starts.length_le room
    apply LeftBehind.purged taken purge starts
    · cases opened : files.openFile (journal.exportPath dir) with
      | error text =>
          left
          simp only [importedEvents, opened]
      | ok file =>
          right
          apply Nat.lt_of_le_of_ne starts.length_le
          intro same
          have all := starts.eq_of_length same
          have success := complete.mpr ⟨all, file, opened⟩
          cases success
    · intro key
      rw [stored_models holds, appended_empty_lookup taken key size]
    · rw [next]
      exact UInt64.toNat_ofNat_of_lt' size

end Failure

section Runs

def recorded : BaseJournal FjallStore := (fresh.put [1]).2

theorem recorded_models : recorded.Models ((∅ : EntryMap).insert 0 [1]) :=
  LawfulStore.put_models (FjallStore.models_noEntry "Account-Journal" "user-1") rfl

theorem missing_file_leaves :
    LeftBehind recorded (recorded.importEvents .noFiles "/backup").2
      (recorded.importedEvents .noFiles "/backup") := by
  apply failed_import_leaves recorded_models .noFiles "/backup"
  · intro file opened
    cases opened
  · rfl

/-- The event of the journal is lost although the import failed. -/
theorem missing_file_loses_event :
    (recorded.importEvents .noFiles "/backup").1.isOk = false ∧
      stored recorded.store 0 = some [1] ∧
      stored (recorded.importEvents .noFiles "/backup").2.store 0 = none ∧
      recorded.nextSequence = 1 ∧
      (recorded.importEvents .noFiles "/backup").2.nextSequence = 0 := by
  decide

end Runs

end BaseJournal

end Rush.Storage
