import Rush.Storage.JournalImport

/-! What a successful import says about the file. The loop takes every failed read
for the end of the export: the end of the file, a frame cut short and an input error
alike. -/

namespace Rush.Storage

open Std Rush.Library

def FileSystem.ReadFails (files : FileSystem) (path : String) : Prop :=
  ∃ bytes limit, files.content (files.resolve path) = some bytes ∧
    files.readLimit (files.resolve path) = some limit ∧ limit ≤ bytes.length

namespace BaseJournal

variable {σ : Type} [Store σ] {journal : BaseJournal σ}

/-- The file can be read to its end and is these frames, one after the other. -/
structure Delivers (journal : BaseJournal σ) (files : FileSystem) (dir : String)
    (datas : List Bytes) : Prop where
  opened : files.openFile (journal.exportPath dir) = .ok (datas.flatMap writeData)
  readable : ¬ files.ReadFails (journal.exportPath dir)
  framed : ∀ data ∈ datas, data.length < 256 ^ lengthWidth

structure Holds (journal : BaseJournal σ) (datas : List Bytes) : Prop where
  numbered : ∀ key : UInt64, stored journal.store key = datas[key.toNat]?
  next : journal.nextSequence.toNat = datas.length

/-- An import that returns `Ok` has read a whole export and the journal holds it. -/
def AcceptsWhole (journal : BaseJournal σ) (files : FileSystem) (dir : String) : Prop :=
  (journal.importEvents files dir).1 = .ok () →
    ∃ datas, journal.Delivers files dir datas ∧ (journal.importEvents files dir).2.Holds datas

/-- The store does not take one of these events, put in turn. -/
def Refuses : σ → UInt64 → List Bytes → Prop
  | _, _, [] => False
  | store, next, data :: rest =>
      (Store.put store next data).1 ≠ .ok () ∨ Refuses (Store.put store next data).2 (next + 1) rest

theorem importLoop_refused (limit : Nat) (reader : Bytes) :
    (importLoop limit journal reader).1 = .ok () ↔
      ¬ Refuses journal.store journal.nextSequence
        (Framing.framesUpTo lengthWidth limit reader) := by
  induction limit generalizing journal reader with
  | zero => simp [importLoop, Framing.framesUpTo, Refuses]
  | succ limit ih =>
      cases read : Framing.unframe lengthWidth reader with
      | none => simp [importLoop, readData, read, Framing.framesUpTo, Refuses]
      | some pair =>
          obtain ⟨data, rest⟩ := pair
          rcases written : Store.put journal.store journal.nextSequence data with ⟨result, store⟩
          cases result with
          | error err =>
              simp [importLoop, readData, read, Framing.framesUpTo, Refuses, put, written,
                Actor.actorStore]
          | ok value =>
              have next := @ih { store, nextSequence := journal.nextSequence + 1 } rest
              simp only [importLoop, readData, read, Framing.framesUpTo, Refuses, put, written, next]
              simp

theorem delivered_frames {files : FileSystem} {dir : String} {datas : List Bytes}
    (delivers : journal.Delivers files dir datas) :
    journal.importedEvents files dir = datas := by
  simp only [importedEvents, delivers.opened, readThroughDecoder]
  exact Framing.frames_flatMap (by decide) datas delivers.framed

section Lawful

variable [LawfulStore σ] {entries : EntryMap}

theorem imported_holds (models : journal.Models entries) (files : FileSystem) (dir : String)
    (fits : journal.FileFits files dir) (done : (journal.importEvents files dir).1 = .ok ()) :
    (journal.importEvents files dir).2.Holds (journal.importedEvents files dir) := by
  have room := importedEvents_length files dir fits
  rcases ran : journal.importEvents files dir with ⟨result, after⟩
  rw [ran] at done
  rcases importEvents_cases models files dir ran with
    ⟨err, _, failed, _⟩ | ⟨taken, _, holds, next, _, complete⟩
  · rw [failed] at done
    cases done
  · obtain ⟨all, _⟩ := complete.mp done
    rw [all] at holds next
    constructor
    · intro key
      rw [stored_models holds, appended_empty_lookup _ key room]
    · rw [next]
      exact UInt64.toNat_ofNat_of_lt' room

theorem import_ok_iff (journal : BaseJournal σ) (files : FileSystem) (dir : String) :
    (journal.importEvents files dir).1 = .ok () ↔
      (∃ file, files.openFile (journal.exportPath dir) = .ok file) ∧
      (Store.purge journal.store).1 = .ok () ∧
      ¬ Refuses (Store.purge journal.store).2 0 (journal.importedEvents files dir) := by
  have samePath := LawfulStore.purge_keyPrefix journal.store
  rcases purged : Store.purge journal.store with ⟨outcome, store⟩
  rw [purged] at samePath
  cases outcome with
  | error err => simp [importEvents, purged, Actor.actorStore]
  | ok value =>
      have path : exportPath { store, nextSequence := 0 } dir = journal.exportPath dir := by
        simp only [exportPath, samePath]
      cases opened : files.openFile (journal.exportPath dir) with
      | error text => simp [importEvents, purged, path, opened]
      | ok file =>
          have loop := @importLoop_refused σ _ { store, nextSequence := 0 } file.length file
          simp only [importEvents, purged, path, opened, importedEvents, readThroughDecoder, loop]
          simp [Framing.frames]

/-- An import accepts no more than whole exports exactly if the file is one, cannot
be opened, or holds frames that the store does not take. -/
theorem import_whole_iff (models : journal.Models entries) (files : FileSystem) (dir : String)
    (fits : journal.FileFits files dir) :
    journal.AcceptsWhole files dir ↔
      (∃ datas, journal.Delivers files dir datas) ∨
      (∀ file, files.openFile (journal.exportPath dir) ≠ .ok file) ∨
      (Store.purge journal.store).1 ≠ .ok () ∨
      Refuses (Store.purge journal.store).2 0 (journal.importedEvents files dir) := by
  by_cases done : (journal.importEvents files dir).1 = .ok ()
  · have holds := imported_holds models files dir fits done
    obtain ⟨⟨file, opened⟩, purged, taken⟩ := (import_ok_iff journal files dir).mp done
    constructor
    · intro accepts
      obtain ⟨datas, delivers, _⟩ := accepts done
      exact .inl ⟨datas, delivers⟩
    · rintro (⟨datas, delivers⟩ | unopened | unpurged | refused) _
      · rw [delivered_frames delivers] at holds
        exact ⟨datas, delivers, holds⟩
      · exact absurd opened (unopened file)
      · exact absurd purged unpurged
      · exact absurd refused taken
  · constructor
    · intro _
      rw [import_ok_iff, not_and_or, not_and_or, not_exists, not_not] at done
      exact .inr done
    · exact fun _ succeeded => absurd succeeded done

end Lawful

section Runs

def filesOf (bytes : Bytes) : FileSystem := { FileSystem.noFiles with content := fun _ => some bytes }

theorem filesOf_readable (bytes : Bytes) (path : String) : ¬ (filesOf bytes).ReadFails path := by
  rintro ⟨_, _, _, limited, _⟩
  cases limited

theorem whole_export_accepted :
    recorded.AcceptsWhole (filesOf [0, 0, 0, 2, 7, 8, 0, 0, 0, 0]) "/backup" := by
  apply (import_whole_iff recorded_models _ _ _).mpr
  · left
    exact ⟨[[7, 8], []], rfl, filesOf_readable _ _, by decide⟩
  · intro file opened
    cases opened
    decide

/-- A frame of five bytes cut after the second. -/
theorem cut_frame_accepted :
    ¬ recorded.AcceptsWhole (filesOf [0, 0, 0, 5, 1, 2]) "/backup" := by
  intro accepts
  obtain ⟨datas, delivers, _⟩ := accepts (by decide)
  have frames := delivered_frames delivers
  have none : recorded.importedEvents (filesOf [0, 0, 0, 5, 1, 2]) "/backup" = [] := by decide
  have opened := delivers.opened
  rw [← frames, none] at opened
  cases opened

end Runs

end BaseJournal

end Rush.Storage
