import Rush.Storage.JournalImport

/-! Exporting journals into one directory and importing one of them again. The
compressed bytes are read as if they were the exported frames, so what comes
back is decided by the gzip header: as a length it announces a first event of
half a gigabyte. -/

namespace Rush.Storage

open Std Rush.Library

namespace BaseJournal

section Export

variable {σ : Type} [Store σ] {journal : BaseJournal σ}

def countedEvents (journal : BaseJournal σ) : List Bytes :=
  (List.range journal.nextSequence.toNat).map fun seq =>
    (stored journal.store (UInt64.ofNat seq)).getD []

/-- What a complete export writes into its encoder. -/
def exportedBytes (journal : BaseJournal σ) : Bytes := journal.countedEvents.flatMap writeData

/-- Exports one journal after the other; all of them have to succeed. -/
def exportAll (gzip : Gzip) (dir : String) : List (BaseJournal σ) → FileSystem → Option FileSystem
  | [], files => some files
  | journal :: journals, files =>
    match journal.exportEvents gzip files dir with
    | (.ok (), after) => exportAll gzip dir journals after
    | (.error _, _) => none

/-- The last of the journals whose export goes to the given file. -/
def lastExportTo (files : FileSystem) (dir file : String) (journals : List (BaseJournal σ)) :
    Option (BaseJournal σ) :=
  (journals.filter fun other => files.resolve (other.exportPath dir) = file).getLast?

def Spells (events : List Bytes) (journal : BaseJournal σ) : Prop :=
  (∀ key : UInt64, stored journal.store key = events[key.toNat]?) ∧
    journal.nextSequence.toNat = events.length

/-- The second journal has the entries and the counter of the first. -/
def SameEvents (journal after : BaseJournal σ) : Prop :=
  (∀ key, stored after.store key = stored journal.store key) ∧
    after.nextSequence = journal.nextSequence

theorem exportLoop_ok (fault : Option WriteFault) (seq remaining : Nat) (written out : Bytes)
    (done : exportLoop journal fault seq remaining written = (.ok (), out)) :
    out = written ++ (List.range' seq remaining).flatMap fun number =>
      writeData ((stored journal.store (UInt64.ofNat number)).getD []) := by
  induction remaining generalizing seq written with
  | zero =>
      cases done
      simp
  | succ remaining ih =>
      cases found : Store.get journal.store (UInt64.ofNat seq) with
      | error err =>
          simp only [exportLoop, get, found, Actor.actorStore, Actor.withContext_error] at done
          cases done
      | ok data =>
          have event : (stored journal.store (UInt64.ofNat seq)).getD [] = data := by
            simp only [stored, found]
            rfl
          have goesOn : exportLoop journal fault (seq + 1) remaining (written ++ writeData data) =
              (.ok (), out) := by
            simp only [exportLoop, get, found, Actor.actorStore, Actor.withContext_ok] at done
            split at done
            · split at done
              · cases done
              · exact done
            · exact done
          rw [ih (seq + 1) _ goesOn, List.range'_succ, List.flatMap_cons, event, List.append_assoc]

theorem exportEvents_ok {gzip : Gzip} {files after : FileSystem} {dir : String}
    (done : journal.exportEvents gzip files dir = (.ok (), after)) :
    FileSystem.SameHost files after ∧ ∀ file, after.content file =
      if file = files.resolve (journal.exportPath dir)
      then some (gzip.compress journal.exportedBytes) else files.content file := by
  unfold exportEvents FileSystem.create at done
  dsimp only at done
  cases refused : files.createFault (files.resolve (journal.exportPath dir)) with
  | some text =>
      simp only [refused] at done
      cases done
  | none =>
      simp only [refused] at done
      split at done
      · cases done
      · next written loop =>
          have complete := exportLoop_ok _ _ _ _ _ loop
          have bytes : written = journal.exportedBytes := by
            rw [complete, List.nil_append, ← List.range_eq_range']
            simp only [exportedBytes, countedEvents, List.flatMap_map]
          split at done
          · cases done
          · cases done
          · cases done
            refine ⟨⟨rfl, rfl, rfl, rfl, rfl⟩, ?_⟩
            intro file
            rw [FileSystem.write_content, FileSystem.write_resolve, FileSystem.write_content, bytes]
            split <;> rfl

theorem exportAll_content {gzip : Gzip} {dir : String} {journals : List (BaseJournal σ)}
    {files after : FileSystem} (done : exportAll gzip dir journals files = some after) :
    FileSystem.SameHost files after ∧ ∀ file, after.content file =
      match lastExportTo files dir file journals with
      | some other => some (gzip.compress other.exportedBytes)
      | none => files.content file := by
  induction journals generalizing files with
  | nil =>
      cases done
      exact ⟨.refl after, fun _ => rfl⟩
  | cons journal journals ih =>
      rcases exported : journal.exportEvents gzip files dir with ⟨result, next⟩
      cases result with
      | error err =>
          simp only [exportAll, exported, reduceCtorEq] at done
      | ok value =>
          simp only [exportAll, exported] at done
          have one := exportEvents_ok exported
          have rest := ih done
          refine ⟨one.1.trans rest.1, ?_⟩
          intro file
          have sameFiles : lastExportTo next dir file journals =
              lastExportTo files dir file journals := by
            simp only [lastExportTo, one.1.resolve]
          rw [rest.2, sameFiles, one.2]
          by_cases hit : files.resolve (journal.exportPath dir) = file
          · have kept : lastExportTo files dir file (journal :: journals) =
                some ((lastExportTo files dir file journals).getD journal) := by
              simp only [lastExportTo, List.filter_cons, hit, decide_true, if_true,
                List.getLast?_cons]
            rw [kept]
            cases lastExportTo files dir file journals with
            | some other => rfl
            | none =>
                simp only [Option.getD_none]
                rw [if_pos hit.symm]
          · have skipped : lastExportTo files dir file (journal :: journals) =
                lastExportTo files dir file journals := by
              simp only [lastExportTo, List.filter_cons, hit, decide_false, Bool.false_eq_true,
                if_false]
            rw [skipped, if_neg fun same => hit same.symm]

theorem spells_iff_sameEvents (journal : BaseJournal σ) {events : List Bytes} {after : BaseJournal σ}
    (spelled : Spells events after) : SameEvents journal after ↔ Spells events journal := by
  constructor
  · intro same
    exact ⟨fun key => (same.1 key).symm.trans (spelled.1 key),
      (congrArg UInt64.toNat same.2).symm.trans spelled.2⟩
  · intro spells
    exact ⟨fun key => (spelled.1 key).trans (spells.1 key).symm,
      UInt64.toNat_inj.mp (spelled.2.trans spells.2.symm)⟩

end Export

def announcedSize : Nat := 4 + 0x1f8b0800

theorem gzip_header_length (gzip : Gzip) (data : Bytes) :
    Framing.fromBigEndian ((gzip.compress data).take lengthWidth) = 0x1f8b0800 := by
  rcases gzip.header data with ⟨rest, shape⟩
  rw [← shape]
  change Framing.fromBigEndian [0x1f, 0x8b, 0x08, 0x00] = _
  decide

theorem frames_short (gzip : Gzip) (data : Bytes)
    (short : (gzip.compress data).length < announcedSize) :
    Framing.frames lengthWidth (gzip.compress data) = [] := by
  have none_ : Framing.unframe lengthWidth (gzip.compress data) = none := by
    apply Framing.unframe_none
    rw [gzip_header_length]
    exact short
  rw [Framing.frames_eq (by decide), none_]

/-- A journal that comes back from a longer file has a first event of exactly
the announced size, `0x1f8b0800` bytes. -/
theorem spells_long_first_event {σ : Type} [Store σ] {journal : BaseJournal σ} (gzip : Gzip)
    (data : Bytes) (long : announcedSize ≤ (gzip.compress data).length)
    (spells : Spells (Framing.frames lengthWidth (gzip.compress data)) journal) :
    ∃ event, stored journal.store 0 = some event ∧ event.length = 0x1f8b0800 := by
  have enough : lengthWidth + Framing.fromBigEndian ((gzip.compress data).take lengthWidth) ≤
      (gzip.compress data).length := by
    rw [gzip_header_length]
    exact long
  rcases Framing.unframe_enough enough with ⟨event, rest, read⟩
  refine ⟨event, ?_, ?_⟩
  · rw [spells.1, Framing.frames_eq (by decide), read]
    rfl
  · rw [(Framing.unframe_some read).2, gzip_header_length]

section Import

variable {σ : Type} [Store σ] [LawfulStore σ] [ReliableStore σ]
  {journal target : BaseJournal σ} {entries : EntryMap}

theorem importLoop_reliable (limit : Nat) (reader : Bytes) (journal : BaseJournal σ)
    (reliable : ReliableStore.Reliable journal.store) :
    ∃ after, importLoop limit journal reader = (.ok (), after) := by
  induction limit generalizing reader journal with
  | zero => exact ⟨journal, rfl⟩
  | succ limit ih =>
      cases read : readData reader with
      | none =>
          refine ⟨journal, ?_⟩
          simp only [importLoop, read]
      | some pair =>
          rcases pair with ⟨data, rest⟩
          rcases ReliableStore.put_reliable reliable journal.nextSequence data with
            ⟨store, written, again⟩
          simp only [importLoop, read, put, written]
          exact ih rest { store, nextSequence := journal.nextSequence + 1 } again

theorem import_reliable (models : target.Models entries)
    (reliable : ReliableStore.Reliable target.store) (files : FileSystem) (dir : String)
    {file : Bytes} (opened : files.openFile (target.exportPath dir) = .ok file)
    (fits : file.length < UInt64.size) :
    ∃ after, target.importEvents files dir = (.ok (), after) ∧
      Spells (Framing.frames lengthWidth file) after := by
  have events : target.importedEvents files dir = Framing.frames lengthWidth file := by
    simp only [importedEvents, opened, readThroughDecoder]
  have room : (Framing.frames lengthWidth file).length < UInt64.size :=
    Nat.lt_of_le_of_lt (Framing.frames_length_le (by decide) file) fits
  rcases ReliableStore.purge_reliable models reliable with ⟨store, purged, again⟩
  have path : exportPath { store, nextSequence := 0 } dir = target.exportPath dir := by
    have same := LawfulStore.purge_keyPrefix target.store
    rw [purged] at same
    simp only [exportPath, same]
  rcases importLoop_reliable file.length file { store, nextSequence := 0 } again with ⟨after, ran⟩
  have done : target.importEvents files dir = (.ok (), after) := by
    simp only [importEvents, purged, path, opened, readThroughDecoder, ran]
  refine ⟨after, done, ?_⟩
  rcases importEvents_cases models files dir done with
    ⟨err, rest, failed, _⟩ | ⟨taken, _, holds, next, _, complete⟩
  · cases failed
  · have all := (complete.mp rfl).1
    rw [events] at all
    rw [all] at holds next
    constructor
    · intro key
      rw [stored_models holds, appended_empty_lookup _ key room]
    · rw [next, UInt64.toNat_ofNat_of_lt' room]

/-- When the export of a journal comes back: the last export to its file is
short and the journal empty, or that file is long enough for the event its
header announces and its compressed bytes spell the journal. -/
def ComesBack (file : Bytes) (journal : BaseJournal σ) : Prop :=
  file.length < announcedSize ∧ Spells [] journal ∨
    announcedSize ≤ file.length ∧ Spells (Framing.frames lengthWidth file) journal

/-- After any exports into one directory, importing a journal succeeds, and it
gives back the events exactly in the cases of `ComesBack`. -/
theorem import_restores_iff (gzip : Gzip) (dir : String) (journals : List (BaseJournal σ))
    (files after : FileSystem) (other : BaseJournal σ)
    (exported : exportAll gzip dir journals files = some after)
    (last : lastExportTo files dir (files.resolve (journal.exportPath dir)) journals = some other)
    (samePrefix : Store.keyPrefix target.store = Store.keyPrefix journal.store)
    (models : target.Models entries) (reliable : ReliableStore.Reliable target.store)
    (opens : files.openFault (files.resolve (journal.exportPath dir)) = none)
    (reads : files.readLimit (files.resolve (journal.exportPath dir)) = none)
    (fits : (gzip.compress other.exportedBytes).length < UInt64.size) :
    (∃ imported, target.importEvents after dir = (.ok (), imported) ∧
      SameEvents journal imported) ↔ ComesBack (gzip.compress other.exportedBytes) journal := by
  have path : target.exportPath dir = journal.exportPath dir := by
    simp only [exportPath, samePrefix]
  have host := (exportAll_content exported).1
  have content := (exportAll_content exported).2 (files.resolve (journal.exportPath dir))
  rw [last] at content
  have opened : after.openFile (target.exportPath dir) =
      .ok (gzip.compress other.exportedBytes) := by
    simp only [FileSystem.openFile, path, host.resolve, host.openFault, host.readLimit, opens,
      content, reads]
  rcases import_reliable models reliable after dir opened fits with ⟨imported, done, spelled⟩
  have agree := spells_iff_sameEvents journal spelled
  constructor
  · intro restored
    rcases restored with ⟨found, ran, same⟩
    rw [done] at ran
    cases ran
    have spells := agree.mp same
    by_cases short : (gzip.compress other.exportedBytes).length < announcedSize
    · left
      rw [frames_short gzip _ short] at spells
      exact ⟨short, spells⟩
    · right
      exact ⟨Nat.le_of_not_lt short, spells⟩
  · intro comes
    refine ⟨imported, done, agree.mpr ?_⟩
    rcases comes with ⟨short, spells⟩ | ⟨_, spells⟩
    · rw [frames_short gzip _ short]
      exact spells
    · exact spells

end Import

section Runs

/-- A gzip encoder for two inputs, no bytes and one frame with one byte: behind the header
stands one of the streams that inflate to the input. Other input is passed through as it is. -/
def sampleGzip : Gzip where
  compress data := [0x1f, 0x8b, 0x08, 0x00, 0x00, 0x00, 0x00, 0x00, 0x00, 0xff] ++
    (if data = [] then [0x03, 0x00, 0, 0, 0, 0, 0, 0, 0, 0]
    else if data = [0, 0, 0, 1, 97] then
      [0x63, 0x60, 0x60, 0x60, 0x4c, 0x04, 0x00, 0x92, 0x97, 0x8c, 0xe5, 5, 0, 0, 0]
    else data)
  abandoned _ := []
  header _ := List.prefix_append _ _

def exportedFiles (journal : BaseJournal FjallStore) : FileSystem :=
  (journal.exportEvents sampleGzip .noFiles "/backup").2

theorem empty_journal_restored : ∃ imported,
    fresh.importEvents (exportedFiles fresh) "/backup" = (.ok (), imported) ∧
      SameEvents fresh imported := by
  have exported : exportAll sampleGzip "/backup" [fresh] .noFiles = some (exportedFiles fresh) := by
    rfl
  have models : fresh.Models ∅ := FjallStore.models_noEntry "Account-Journal" "user-1"
  have last : lastExportTo .noFiles "/backup"
      (FileSystem.resolve .noFiles (fresh.exportPath "/backup")) [fresh] = some fresh := by
    rfl
  have spelled : Spells [] fresh := by
    refine ⟨?_, rfl⟩
    intro key
    rw [stored_models models]
    simp
  refine (import_restores_iff sampleGzip "/backup" [fresh] .noFiles (exportedFiles fresh) fresh
    exported last rfl models rfl rfl rfl (by decide)).mpr ?_
  exact .inl ⟨by decide, spelled⟩

/-- A journal with one event: export and import both succeed, and the event is
gone. -/
theorem exported_event_not_restored :
    (((fresh.put [97]).2.exportEvents sampleGzip .noFiles "/backup").1.isOk = true) ∧
      ((fresh.put [97]).2.importEvents (exportedFiles (fresh.put [97]).2) "/backup").1.isOk =
        true ∧
      ¬ SameEvents (fresh.put [97]).2
        ((fresh.put [97]).2.importEvents (exportedFiles (fresh.put [97]).2) "/backup").2 := by
  refine ⟨by decide, by decide, ?_⟩
  intro same
  exact absurd same.2 (by decide)

end Runs

end BaseJournal

end Rush.Storage
