import Rush.Actor.Answers
import Rush.Storage.Requests

/-! The journal as an actor of the system. Whoever sends to it, and in whatever order the
messages come in, its answers are those that a list of events gives. -/

namespace Rush.Storage

open Std Rush.Actor Rush.Library Runs

namespace BaseJournal

variable {σ : Type} [Store σ] [LawfulStore σ] {journal : BaseJournal σ} {datas : List Bytes}
  {message : JournalMessage} (gzip : Gzip) {files : FileSystem}

section Handler

/-- What a list of events answers to a message, over a store that may refuse a write. -/
inductive Records (datas : List Bytes) :
    JournalMessage × Outside → Except ActorError JournalResponse → List Bytes → Prop
  | put {data : Bytes} {outside : Outside} {sequence : UInt64} (written : outside.written = .ok ())
      (numbered : sequence.toNat = datas.length) :
      Records datas (.put data, outside) (.ok (.lastSequence sequence)) (datas ++ [data])
  | putFailed {data : Bytes} {outside : Outside} {reason : Error}
      (refuses : outside.written = .error reason) :
      Records datas (.put data, outside)
        (report (actorStore outside.written "Failed to store event")
          "Failed to put event in journal" fun _ => .none) datas
  | inserted {sequence : UInt64} {data : Bytes} {outside : Outside}
      (written : outside.written = .ok ()) :
      Records datas (.insert sequence data, outside) (.ok .none) (datas.set sequence.toNat data)
  | insertFailed {sequence : UInt64} {data : Bytes} {outside : Outside} {reason : Error}
      (refuses : outside.written = .error reason) :
      Records datas (.insert sequence data, outside)
        (report (actorStore outside.written "Failed to insert event")
          "Failed to insert event in journal" fun _ => .none) datas
  | event {sequence : UInt64} {data : Bytes} {outside : Outside}
      (present : datas[sequence.toNat]? = some data) :
      Records datas (.get sequence, outside) (.ok (.event data)) datas
  | noEvent {sequence : UInt64} {outside : Outside} {err : ActorError}
      (absent : datas[sequence.toNat]? = none) :
      Records datas (.get sequence, outside) (.error err) datas
  | last {data : Bytes} {outside : Outside} (last : datas.getLast? = some data) :
      Records datas (.last, outside) (.ok (.last (UInt64.ofNat (datas.length - 1)) data)) datas
  | notFound {outside : Outside} (empty : datas = []) :
      Records datas (.last, outside) (.ok .notFound) datas
  | lastSequence {sequence : UInt64} {outside : Outside}
      (last : sequence.toNat = datas.length - 1) :
      Records datas (.lastSequence, outside) (.ok (.lastSequence sequence)) datas
  | range {start : UInt64} {stop : Option UInt64} {outside : Outside} :
      Records datas (.range start stop, outside) (.ok (.events (between datas start stop))) datas
  | flushed {outside : Outside} :
      Records datas (.flush, outside)
        (report (actorStore outside.written "Failed to flush store") "Failed to flush journal"
          fun _ => .none) datas
  | exported {path : String} {outside : Outside} {result : Except ActorError JournalResponse} :
      Records datas (.exportTo path, outside) result datas
  | imported {path : String} {outside : Outside} {result : Except ActorError JournalResponse}
      {events : List Bytes} (begins : events <+: outside.file)
      (whole : result = .ok .none → events = outside.file) :
      Records datas (.importFrom path, outside) result events

def Fits (journal : BaseJournal σ) (files : FileSystem) : JournalMessage → Prop
  | .put _ => journal.nextSequence.toNat < LawfulStore.capacity σ
  | .insert sequence _ => sequence < journal.nextSequence
  | .importFrom dir => (Store.purge journal.store).1 = .ok () ∧
      (journal.importedEvents files dir).length ≤ LawfulStore.capacity σ
  | _ => True

theorem handle_records (lists : journal.Lists datas) (fits : journal.Fits files message) :
    ∃ next, Records datas (message, outside (journal, files) message)
        (handle gzip (journal, files) message).1 next ∧
      (handle gzip (journal, files) message).2.1.Lists next := by
  cases message with
  | put data =>
      have room : datas.length < LawfulStore.capacity σ := by
        rw [← lists.next]
        exact fits
      have result := journal.put_result data
      simp only [handle, result]
      rcases put_lists lists data room with ⟨stored, listed, advanced⟩ | ⟨reason, refuses, listed⟩
      · refine ⟨datas ++ [data], ?_, listed⟩
        rw [stored, advanced, UInt64.add_sub_cancel]
        exact .put stored lists.next
      · refine ⟨datas, ?_, listed⟩
        have brought : (outside (journal, files) (.put data)).written = .error reason := refuses
        have failed : Records datas (.put data, outside (journal, files) (.put data))
            (report (actorStore (outside (journal, files) (.put data)).written
              "Failed to store event") "Failed to put event in journal" fun _ => .none) datas :=
          .putFailed refuses
        rw [brought] at failed
        rw [refuses]
        exact failed
  | insert sequence data =>
      have inside : sequence.toNat < datas.length := by
        rw [← lists.next]
        exact UInt64.lt_iff_toNat_lt.mp fits
      simp only [handle, insert_result]
      rcases insert_lists lists inside data with ⟨stored, listed⟩ | ⟨reason, refuses, listed⟩
      · refine ⟨_, ?_, listed⟩
        rw [stored]
        exact .inserted stored
      · exact ⟨datas, .insertFailed refuses, listed⟩
  | get sequence =>
      have found := get_listed lists sequence
      refine ⟨datas, ?_, lists⟩
      cases got : journal.get sequence with
      | error err =>
          rw [got] at found
          simp only [handle, got, report]
          exact .noEvent found.symm
      | ok data =>
          rw [got] at found
          simp only [handle, got, report]
          exact .event found.symm
  | last =>
      refine ⟨datas, ?_, lists⟩
      simp only [handle, last_listed lists]
      cases top : datas.getLast? with
      | none => exact .notFound (List.getLast?_eq_none_iff.mp top)
      | some data => exact .last top
  | lastSequence =>
      refine ⟨datas, .lastSequence ?_, lists⟩
      show journal.latestSequence.toNat = _
      rcases lists_latest lists with ⟨rfl, zero⟩ | ⟨_, latest⟩
      · simp [zero]
      · omega
  | range start stop =>
      refine ⟨datas, ?_, lists⟩
      simp only [handle, range_between lists]
      exact .range
  | flush => exact ⟨datas, .flushed, lists⟩
  | importFrom dir =>
      obtain ⟨_, entries, models, _⟩ := lists.stores
      obtain ⟨taken, starts, listed, whole⟩ := lists_import models files dir fits.1 fits.2
      refine ⟨taken, .imported starts fun done => whole ?_, listed⟩
      cases result : (journal.importEvents files dir).1 with
      | ok => rfl
      | error err =>
          simp only [handle, result] at done
          cases done
  | exportTo dir => exact ⟨datas, .exported, lists⟩

end Handler

section Protocol

variable {id : ActorId} {start : BaseJournal σ × FileSystem}
  {state after : Messaging JournalMessage JournalResponse}
  {label : Messaging.Label JournalMessage JournalResponse}

/-- The journal that has handled what the actor has handled. -/
def journalOf (gzip : Gzip) (start : BaseJournal σ × FileSystem) (id : ActorId)
    (state : Messaging JournalMessage JournalResponse) : BaseJournal σ × FileSystem :=
  Messaging.handledState (handle gzip) start (state.mail.books.served id)

def calls (gzip : Gzip) : BaseJournal σ × FileSystem →
    List (ActorMessage JournalMessage × Except ActorError JournalResponse) →
      List ((JournalMessage × Outside) × Except ActorError JournalResponse)
  | _, [] => []
  | host, (letter, result) :: served =>
      ((letter.body.msg, outside host letter.body.msg), result) ::
        calls gzip (handle gzip host letter.body.msg).2 served

/-- The messages that the actor has handled, with its answers. -/
def answered (gzip : Gzip) (start : BaseJournal σ × FileSystem) (id : ActorId)
    (state : Messaging JournalMessage JournalResponse) :
    List ((JournalMessage × Outside) × Except ActorError JournalResponse) :=
  calls gzip start (state.mail.books.served id)

omit [LawfulStore σ] in
theorem calls_concat (host : BaseJournal σ × FileSystem)
    (served : List (ActorMessage JournalMessage × Except ActorError JournalResponse))
    (letter : ActorMessage JournalMessage) (result : Except ActorError JournalResponse) :
    calls gzip host (served ++ [(letter, result)]) = calls gzip host served ++
      [((letter.body.msg,
        outside (Messaging.handledState (handle gzip) host served) letter.body.msg), result)] := by
  induction served generalizing host with
  | nil => rfl
  | cons first served ih =>
      rw [List.cons_append, calls, calls, ih]
      rfl

omit [LawfulStore σ] in
theorem mem_calls {host : BaseJournal σ × FileSystem}
    {served : List (ActorMessage JournalMessage × Except ActorError JournalResponse)}
    {letter : ActorMessage JournalMessage} {result : Except ActorError JournalResponse}
    (member : (letter, result) ∈ served) :
    ∃ outside, ((letter.body.msg, outside), result) ∈ calls gzip host served := by
  induction served generalizing host with
  | nil => cases member
  | cons first served ih =>
      rcases List.mem_cons.mp member with rfl | later
      · exact ⟨_, List.mem_cons_self⟩
      · obtain ⟨outside, called⟩ := ih later
        exact ⟨outside, List.mem_cons_of_mem _ called⟩

/-- The actor is the journal, and what it handles fits. -/
def Journaling (gzip : Gzip) (start : BaseJournal σ × FileSystem) (id : ActorId)
    (state : Messaging JournalMessage JournalResponse)
    (label : Messaging.Label JournalMessage JournalResponse) : Prop :=
  Messaging.Handles (handle gzip) start id state label ∧
    ∀ result, label = .handled id result → ∀ letter ∈ state.mail.serving id,
      (journalOf gzip start id state).1.Fits (journalOf gzip start id state).2 letter.body.msg

theorem journaling_step (permitted : Journaling gzip start id state label)
    (taken : state.step label = some after)
    (held : ∃ datas, Trace Records [] (answered gzip start id state) datas ∧
      (journalOf gzip start id state).1.Lists datas) :
    ∃ datas, Trace Records [] (answered gzip start id after) datas ∧
      (journalOf gzip start id after).1.Lists datas := by
  -- only an answer adds to what the actor has handled
  rcases Messaging.step_mail (Messaging.step_moves taken) with same | ⟨op, applied, _, performs⟩
  · rw [answered, journalOf, same]
    exact held
  · rcases (Exchange.apply_moves applied).served id with kept | ⟨letter, result, answers, busy, more⟩
    · rw [answered, journalOf, kept]
      exact held
    · obtain rfl : label = .handled id result := by
        subst answers
        exact performs
      obtain ⟨datas, told, lists⟩ := held
      have right := permitted.1 rfl letter busy
      obtain ⟨next, records, listed⟩ := handle_records gzip lists (permitted.2 result rfl letter busy)
      have goesOn : journalOf gzip start id after =
          (handle gzip (journalOf gzip start id state) letter.body.msg).2 := by
        rw [journalOf, more, Messaging.handledState, Exchange.stateAfter, List.foldl_concat]
        rfl
      refine ⟨next, ?_, ?_⟩
      · rw [answered, more, calls_concat, right]
        exact told.served records
      · rw [goesOn]
        exact listed

/-- A journal that any tasks send to, in any order: what it has answered is what a list of
events gives to its messages one after the other, and an `ask` that has returned is among
them. -/
theorem journal_linearizes {store : σ} (empty : LawfulStore.Models store ∅)
    (reached : Guarded Messaging.step Messaging.Initial (Journaling gzip (new store, files) id)
      state) :
    (∃ datas, Trace Records [] (answered gzip (new store, files) id state) datas ∧
      (journalOf gzip (new store, files) id state).1.Lists datas) ∧
      ∀ letter result, state.Returned id letter result → ∃ outside,
        ((letter.body.msg, outside), result) ∈ answered gzip (new store, files) id state := by
  constructor
  · refine guarded_invariant (fun state => ∃ datas,
      Trace Records [] (answered gzip (new store, files) id state) datas ∧
      (journalOf gzip (new store, files) id state).1.Lists datas) ?_ ?_ reached
    · rintro _ ⟨_, _, _, rfl⟩
      exact ⟨[], .begun, lists_new (stores_empty empty)⟩
    · exact fun _ _ _ held permitted taken => journaling_step gzip permitted taken held
  · intro letter result returned
    have coherent := Messaging.coherent_reached (guarded_mono (fun _ _ _ => trivial) reached)
    exact mem_calls gzip (coherent.returned returned).1

def twoWriters : List (Messaging.Label JournalMessage JournalResponse) :=
  Messaging.creates 0 "j" ++ Messaging.asks (.client 0) 0 (.put [7]) (.lastSequence 0) ++
    Messaging.asks (.client 1) 0 (.put [8]) (.lastSequence 1) ++
    Messaging.asks (.client 0) 0 (.range 0 none) (.events [(0, [7]), (1, [8])])

def journalingNow (gzip : Gzip) (start : BaseJournal FjallStore × FileSystem) (id : ActorId)
    (state : Messaging JournalMessage JournalResponse) :
    Messaging.Label JournalMessage JournalResponse → Bool
  | .handled there result =>
      decide (Messaging.Handles (handle gzip) start id state (.handled there result)) &&
        (state.mail.serving id).all fun letter =>
          match letter.body.msg with
          | .put _ => (journalOf gzip start id state).1.nextSequence < 1000
          | .range _ _ => true
          | _ => false
  | _ => true

theorem journalingNow_sound (gzip : Gzip) (start : BaseJournal FjallStore × FileSystem)
    (id : ActorId) (state : Messaging JournalMessage JournalResponse)
    (label : Messaging.Label JournalMessage JournalResponse)
    (checked : journalingNow gzip start id state label = true) :
    Journaling gzip start id state label := by
  cases label with
  | handled there result =>
      simp only [journalingNow, Bool.and_eq_true, decide_eq_true_eq] at checked
      refine ⟨checked.1, fun _ _ letter serving => ?_⟩
      have fits := (Option.all_eq_true _ _).mp checked.2 letter (Option.mem_def.mp serving)
      revert fits
      cases letter.body.msg with
      | put data =>
          intro few
          have less := UInt64.lt_iff_toNat_lt.mp (of_decide_eq_true few)
          show _ < 10 ^ 14
          exact less.trans (by decide)
      | range start stop => exact fun _ => trivial
      | _ =>
          intro impossible
          cases impossible
  | _ =>
      refine ⟨trivial, fun result same => ?_⟩
      cases same

theorem two_writers_linearize : ∃ state, ∃ datas : List Bytes,
    Trace Records [] [((.put [7], {}), .ok (.lastSequence 0)),
      ((.put [8], {}), .ok (.lastSequence 1)),
      ((.range 0 none, {}), .ok (.events [(0, [7]), (1, [8])]))] datas ∧
      (journalOf sampleGzip (fresh, .noFiles) 0 state).1.Lists datas := by
  have taken : ((Runs.checkedRun Messaging.step (journalingNow sampleGzip (fresh, .noFiles) 0)
      (Messaging.new Config.default 10) twoWriters).any fun state =>
        answered sampleGzip (fresh, .noFiles) 0 state =
          [((.put [7], {}), .ok (.lastSequence 0)),
            ((.put [8], {}), .ok (.lastSequence 1)),
            ((.range 0 none, {}), .ok (.events [(0, [7]), (1, [8])]))]) = true := by
    decide
  obtain ⟨state, reached, answers⟩ : ∃ state, Guarded Messaging.step Messaging.Initial
      (Journaling sampleGzip (fresh, .noFiles) 0) state ∧ _ :=
    guarded_shown (journalingNow_sound sampleGzip (fresh, .noFiles) 0) ⟨_, _, by decide, rfl⟩ taken
  have linear : ∃ datas, Trace Records [] (answered sampleGzip (fresh, .noFiles) 0 state) datas ∧
      (journalOf sampleGzip (fresh, .noFiles) 0 state).1.Lists datas :=
    (journal_linearizes sampleGzip (FjallStore.models_noEntry _ _) reached).1
  rw [answers] at linear
  exact ⟨state, linear⟩

end Protocol

end BaseJournal

end Rush.Storage
