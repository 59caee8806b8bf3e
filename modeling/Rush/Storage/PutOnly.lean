import Rush.Storage.JournalEvents
import Rush.Storage.JournalExport

/-! A journal that is only put to and opened again is the list of its events, as the
journal's own answers tell it. -/

namespace Rush.Storage

open Std Rush.Actor Rush.Library

inductive PutStep where
  | put (data : Bytes)
  | reopen
  deriving DecidableEq, Repr

def PutStep.event? : PutStep → Option Bytes
  | .put data => some data
  | .reopen => none

def events (steps : List PutStep) : List Bytes := steps.filterMap PutStep.event?

namespace BaseJournal

section Run

variable {σ : Type} [Store σ]

/-- The answers to the puts, and the journal and files they leave. -/
def putRun (gzip : Gzip) : List PutStep → BaseJournal σ × FileSystem →
    List (Except ActorError JournalResponse) × BaseJournal σ × FileSystem
  | [], host => ([], host)
  | .put data :: steps, host =>
      let (answer, after) := handle gzip host (.put data)
      let (answers, last) := putRun gzip steps after
      (answer :: answers, last)
  | .reopen :: steps, (journal, files) => putRun gzip steps (new journal.store, files)

variable [LawfulStore σ] {journal : BaseJournal σ} {datas : List Bytes}

theorem get_listed (lists : Lists journal datas) (key : UInt64) :
    (journal.get key).toOption = datas[key.toNat]? := by
  rcases lists.stores with ⟨_, entries, models, numbered⟩
  rw [get_models models, numbered]

theorem last_listed (lists : Lists journal datas) :
    journal.last = datas.getLast?.map fun data => (UInt64.ofNat (datas.length - 1), data) := by
  have room := stores_length_lt lists.stores
  rw [last, get_listed lists]
  rcases lists_latest lists with ⟨rfl, zero⟩ | ⟨nonempty, latest⟩
  · rw [zero]
    rfl
  · have number : journal.latestSequence = UInt64.ofNat (datas.length - 1) := by
      apply UInt64.toNat_inj.mp
      rw [UInt64.toNat_ofNat_of_lt' (by omega)]
      omega
    have index : journal.latestSequence.toNat = datas.length - 1 := by omega
    rw [index, number, List.getLast?_eq_getElem?]

variable [ReliableStore σ]

theorem put_answers (gzip : Gzip) (files : FileSystem) (lists : Lists journal datas)
    (reliable : ReliableStore.Reliable journal.store)
    (room : datas.length < LawfulStore.capacity σ) (data : Bytes) :
    ∃ after : BaseJournal σ,
      handle gzip (journal, files) (.put data) =
        (.ok (.lastSequence (UInt64.ofNat datas.length)), after, files) ∧
      Lists after (datas ++ [data]) ∧ ReliableStore.Reliable after.store := by
  obtain ⟨store, written, lasting⟩ :=
    ReliableStore.put_reliable reliable journal.nextSequence data
  have done : journal.put data = (.ok (), { store, nextSequence := journal.nextSequence + 1 }) := by
    simp only [put, written]
  refine ⟨{ store, nextSequence := journal.nextSequence + 1 }, ?_, ?_, lasting⟩
  · simp only [handle, done, report, UInt64.add_sub_cancel]
    rw [← lists.next, UInt64.ofNat_toNat]
  · rcases lists_put lists data room with ⟨after, same, listed, _⟩ | ⟨err, after, failed, _, _⟩
    · rw [done] at same
      cases same
      exact listed
    · rw [done] at failed
      cases failed

theorem putRun_lists (gzip : Gzip) (files : FileSystem) (steps : List PutStep)
    (lists : Lists journal datas) (reliable : ReliableStore.Reliable journal.store)
    (room : datas.length + (events steps).length ≤ LawfulStore.capacity σ) :
    (putRun gzip steps (journal, files)).1 =
        (List.range' datas.length (events steps).length).map
          (fun number => .ok (.lastSequence (UInt64.ofNat number))) ∧
      Lists (putRun gzip steps (journal, files)).2.1 (datas ++ events steps) := by
  induction steps generalizing journal datas with
  | nil =>
      rw [events, List.filterMap_nil, List.append_nil]
      exact ⟨rfl, lists⟩
  | cons step steps ih =>
      cases step with
      | reopen =>
          have reopened : Lists (new journal.store) datas := lists_new lists.stores
          exact ih reopened (by rw [new_store]; exact reliable) room
      | put data =>
          have put_first : events (.put data :: steps) = data :: events steps := rfl
          rw [put_first, List.length_cons] at room ⊢
          obtain ⟨after, answered, listed, lasting⟩ :=
            put_answers gzip files lists reliable (by omega) data
          have length : (datas ++ [data]).length = datas.length + 1 := List.length_append
          obtain ⟨answers, lasts⟩ := ih listed lasting (by omega)
          rw [length] at answers
          rw [List.append_assoc, List.singleton_append] at lasts
          simp only [putRun, answered]
          rw [answers, List.range'_succ, List.map_cons]
          exact ⟨rfl, lasts⟩

end Run

/-- A journal over an empty `FjallStore`, put to and opened again in any order, is the
list of its events. -/
theorem put_only_list {store : FjallStore} (models : store.Models ∅)
    (faultless : store.keyspace.writeFaults = []) (gzip : Gzip) (files : FileSystem)
    (steps : List PutStep) (few : (events steps).length < 10 ^ 14) :
    let datas := events steps
    let run := putRun gzip steps (new store, files)
    let journal := run.2.1
    run.1 = (List.range datas.length).map
        (fun number => .ok (.lastSequence (UInt64.ofNat number))) ∧
      (∀ key, (journal.get key).toOption = datas[key.toNat]?) ∧
      journal.last = (datas.getLast?.map fun data => (UInt64.ofNat (datas.length - 1), data)) ∧
      ∀ start stop, journal.range start stop = between datas start stop := by
  intro datas run journal
  have opened : Lists (new store) [] := lists_new (stores_empty models)
  have reliable : ReliableStore.Reliable (new store).store := by
    rw [new_store]
    exact faultless
  obtain ⟨answers, lists⟩ := putRun_lists gzip files steps opened reliable
    (by rw [List.length_nil, Nat.zero_add]; exact few.le)
  refine ⟨?_, get_listed lists, last_listed lists, range_between lists⟩
  rw [List.range_eq_range']
  exact answers

theorem two_events_listed :
    let run := putRun sampleGzip [.put [1], .reopen, .put [2, 3]]
      (new (FjallStore.createStore noEntry "Account-Journal" "user-1"), .noFiles)
    run.1 = [.ok (.lastSequence 0), .ok (.lastSequence 1)] ∧
      run.2.1.last = some (1, [2, 3]) ∧ run.2.1.range 1 none = [(1, [2, 3])] := by
  have few : (events [.put [1], .reopen, .put [2, 3]]).length < 10 ^ 14 := by decide
  obtain ⟨answers, _, last, range⟩ := put_only_list
    (FjallStore.models_noEntry "Account-Journal" "user-1") rfl sampleGzip .noFiles
    [.put [1], .reopen, .put [2, 3]] few
  exact ⟨answers, last, range 1 none⟩

end BaseJournal

end Rush.Storage
