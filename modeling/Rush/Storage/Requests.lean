import Rush.Library.Refinement
import Rush.Storage.Edits
import Rush.Storage.PutOnly

/-! What a persistent actor can ask of its history. The journal is there to be a list of
events: in any order of requests, edits, snapshots and re-creations, every answer is the one
that the list gives. -/

namespace Rush.Storage

open Std Rush.Actor Rush.Library

/-- What the store and the files bring to a message: the answer to its write, and the
events of the file it imports. -/
structure Outside where
  written : Except Error Unit := .ok ()
  file : List Bytes := []
  deriving DecidableEq

namespace BaseJournal

variable {σ : Type} [Store σ]

def outside (host : BaseJournal σ × FileSystem) : JournalMessage → Outside
  | .put data => { written := (Store.put host.1.store host.1.nextSequence data).1 }
  | .insert sequence data => { written := (Store.put host.1.store sequence data).1 }
  | .flush => { written := Store.flush host.1.store }
  | .importFrom dir => { file := host.1.importedEvents host.2 dir }
  | _ => {}

theorem put_result (journal : BaseJournal σ) (data : Bytes) :
    (journal.put data).1 =
      actorStore (Store.put journal.store journal.nextSequence data).1 "Failed to store event" := by
  rw [put]
  rcases Store.put journal.store journal.nextSequence data with ⟨result, store⟩
  cases result <;> rfl

theorem insert_result (journal : BaseJournal σ) (sequence : UInt64) (data : Bytes) :
    (journal.insert sequence data).1 =
      actorStore (Store.put journal.store sequence data).1 "Failed to insert event" := rfl

variable [LawfulStore σ] {journal : BaseJournal σ} {datas : List Bytes}

theorem put_lists (lists : journal.Lists datas) (data : Bytes)
    (room : datas.length < LawfulStore.capacity σ) :
    ((Store.put journal.store journal.nextSequence data).1 = .ok () ∧
      (journal.put data).2.Lists (datas ++ [data]) ∧
        (journal.put data).2.nextSequence = journal.nextSequence + 1) ∨
    ∃ reason, (Store.put journal.store journal.nextSequence data).1 = .error reason ∧
      (journal.put data).2.Lists datas := by
  have result := journal.put_result data
  rcases lists_put lists data room with
    ⟨after, done, listed, advanced⟩ | ⟨err, after, failed, listed, _⟩
  · rw [done] at result ⊢
    cases stored : (Store.put journal.store journal.nextSequence data).1 with
    | ok => exact .inl ⟨rfl, listed, advanced⟩
    | error reason =>
        rw [stored] at result
        cases result
  · rw [failed] at result ⊢
    cases stored : (Store.put journal.store journal.nextSequence data).1 with
    | ok =>
        rw [stored] at result
        cases result
    | error reason => exact .inr ⟨reason, rfl, listed⟩

/-- An insert at an existing sequence replaces the event there where the store writes it, and
changes nothing where it does not. -/
theorem insert_lists (lists : journal.Lists datas) {sequence : UInt64}
    (inside : sequence.toNat < datas.length) (data : Bytes) :
    ((Store.put journal.store sequence data).1 = .ok () ∧
      (journal.insert sequence data).2.Lists (datas.set sequence.toNat data)) ∨
    ∃ reason, (Store.put journal.store sequence data).1 = .error reason ∧
      (journal.insert sequence data).2.Lists datas := by
  obtain ⟨bounded, entries, models, numbered⟩ := lists.stores
  rw [insert]
  rcases written : Store.put journal.store sequence data with ⟨result, store⟩
  cases result with
  | ok value =>
      refine .inl ⟨rfl, ⟨?_, _, LawfulStore.put_models models written,
        numbered_set numbered inside data⟩, ?_⟩
      · rw [List.length_set]
        exact bounded
      · rw [List.length_set]
        exact lists.next
  | error reason =>
      exact .inr ⟨reason, rfl, ⟨bounded, entries, LawfulStore.put_failed models written, numbered⟩,
        lists.next⟩

end BaseJournal

namespace PersistentActor

section Model

variable {S E σ : Type} [Store σ] (actor : PersistentActor S E) (gzip : Gzip)

def lastEvent (ctx : ActorContext σ) : Option (UInt64 × E) × ActorContext σ :=
  match ctx.journal with
  | none => (none, ctx)
  | some journal =>
    let (response, journal) := journal.ask (BaseJournal.handle gzip) .last
    let ctx := { ctx with journal := some journal }
    match response with
    | .ok (.last seq bytes) =>
      match actor.fromSliceEvent bytes with
      | .ok event => (some (seq, event), ctx)
      | .error _ => (none, ctx)
    | _ => (none, ctx)

def decodeEvents : List (UInt64 × Bytes) → Except ActorError (List E)
  | [] => .ok []
  | (_, bytes) :: records => do
    let event ← actorDeserialization (actor.fromSliceEvent bytes) "Failed to deserialize event"
    let events ← decodeEvents records
    return event :: events

def getEvents (ctx : ActorContext σ) (fromSequence : UInt64) (toSequence : Option UInt64) :
    Except ActorError (List E) × ActorContext σ :=
  match ctx.journal with
  | none => (.error (.store "Journal not found"), ctx)
  | some journal =>
    let (response, journal) :=
      journal.ask (BaseJournal.handle gzip) (.range fromSequence toSequence)
    let ctx := { ctx with journal := some journal }
    match response with
    | .error err => (actorStore (.error err) "Failed to send get events request to journal", ctx)
    | .ok (.events records) => (actor.decodeEvents records, ctx)
    | .ok _ =>
      (.error (.store "Unexpected response when requesting events from journal"), ctx)

def getEvent (ctx : ActorContext σ) (sequence : UInt64) : Except ActorError E × ActorContext σ :=
  match ctx.journal with
  | none => (.error (.store "Journal not found"), ctx)
  | some journal =>
    let (response, journal) := journal.ask (BaseJournal.handle gzip) (.get sequence)
    let ctx := { ctx with journal := some journal }
    match response with
    | .error err => (actorStore (.error err) "Failed to send get event request to journal", ctx)
    | .ok (.event bytes) =>
      (actorDeserialization (actor.fromSliceEvent bytes) "Failed to deserialize event", ctx)
    | .ok _ =>
      (.error (.store "Unexpected response when requesting event from journal"), ctx)

def lastSnapshot (ctx : ActorContext σ) : Option (UInt64 × S) × ActorContext σ :=
  match ctx.snapshotter with
  | none => (none, ctx)
  | some snapshotter =>
    let (response, snapshotter) := snapshotter.ask BaseSnapshotter.handle .lastSnapshot
    let ctx := { ctx with snapshotter := some snapshotter }
    match response with
    | .ok (.lastResult (some (sn, data))) =>
      match actor.fromSliceState data with
      | .ok state => (some (sn, state), ctx)
      | .error _ => (none, ctx)
    | _ => (none, ctx)

inductive Request (E : Type) where
  | edit (label : EditMove E)
  | lastSequence
  | lastEvent
  | getEvent (sequence : UInt64)
  | getEvents (start : UInt64) (stop : Option UInt64)

inductive Answer (E : Type) where
  | persisted (result : Except ActorError UInt64)
  | inserted (result : Except ActorError Unit)
  | done
  | lastSequence (result : Except ActorError UInt64)
  | lastEvent (entry : Option (UInt64 × E))
  | getEvent (result : Except ActorError E)
  | getEvents (result : Except ActorError (List E))

def answer (world : World S E σ) : EditMove E → Answer E
  | .life (.persist event) => .persisted (actor.persist gzip world.live event world.ctx).1
  | .insert sequence newEvent =>
    .inserted (actor.insertEvent gzip world.ctx sequence newEvent).1
  | _ => .done

def Request.message? : Request E → Option JournalMessage
  | .edit (.life (.persist event)) => (actor.toVecEvent event).toOption.map .put
  | .edit (.insert sequence event) => (actor.toVecEvent event).toOption.map (.insert sequence)
  | .edit (.importFrom dir) => some (.importFrom dir)
  | _ => none

def outside (ctx : ActorContext σ) (request : Request E) : Outside :=
  match ctx.journal, request.message? actor with
  | some journal, some message => BaseJournal.outside (journal.drained (BaseJournal.handle gzip)) message
  | _, _ => {}

def request (initial : S) (world : World S E σ) : Request E → Option (Answer E × World S E σ)
  | .edit label =>
    (actor.edit gzip initial world label).map fun after => (actor.answer gzip world label, after)
  | .lastSequence =>
    let (result, ctx) := PersistentActor.lastSequence gzip world.ctx
    some (.lastSequence result, { world with ctx })
  | .lastEvent =>
    let (entry, ctx) := actor.lastEvent gzip world.ctx
    some (.lastEvent entry, { world with ctx })
  | .getEvent sequence =>
    let (result, ctx) := actor.getEvent gzip world.ctx sequence
    some (.getEvent result, { world with ctx })
  | .getEvents start stop =>
    let (result, ctx) := actor.getEvents gzip world.ctx start stop
    some (.getEvents result, { world with ctx })

end Model

/-- The events numbered from `start` up to `stop`, or to the last. -/
def slice {α : Type} (history : List α) (start : Nat) : Option Nat → List α
  | none => history.drop start
  | some stop => (history.take (stop + 1)).drop start

/-- The journal as its actor is meant to see it: a list of events, over a store that may
refuse a write. -/
inductive Tells {S E : Type} (actor : PersistentActor S E) (history : List E) :
    Request E × Outside → Answer E → List E → Prop
  | persisted {event : E} {outside : Outside} {data : Bytes} {sequence : UInt64}
      (encoded : actor.toVecEvent event = .ok data) (written : outside.written = .ok ())
      (numbered : sequence.toNat = history.length) :
      Tells actor history (.edit (.life (.persist event)), outside) (.persisted (.ok sequence))
        (history ++ [event])
  /-- The event is stored before `apply_event` rejects it. -/
  | rejected {event : E} {outside : Outside} {data : Bytes} {err : ActorError}
      (encoded : actor.toVecEvent event = .ok data) (written : outside.written = .ok ())
      (rejects : ∃ state, (actor.applyEvent state event).1 = .error err) :
      Tells actor history (.edit (.life (.persist event)), outside) (.persisted (.error err))
        (history ++ [event])
  | refused {event : E} {outside : Outside} {data : Bytes} {reason : Error} {err : ActorError}
      (encoded : actor.toVecEvent event = .ok data) (refuses : outside.written = .error reason)
      (reported : BaseJournal.report (actorStore outside.written "Failed to store event")
        "Failed to put event in journal" (fun _ => .none) = .error err) :
      Tells actor history (.edit (.life (.persist event)), outside)
        (.persisted (actorStore (.error err) "Failed to send event to journal")) history
  | unencoded {event : E} {outside : Outside} {text : String}
      (fails : actor.toVecEvent event = .error text) :
      Tells actor history (.edit (.life (.persist event)), outside)
        (.persisted (actorSerialization (.error text) "Failed to serialize event")) history
  | inserted {sequence : UInt64} {event : E} {outside : Outside} {data : Bytes}
      (encoded : actor.toVecEvent event = .ok data) (written : outside.written = .ok ()) :
      Tells actor history (.edit (.insert sequence event), outside) (.inserted (.ok ()))
        (history.set sequence.toNat event)
  | uninserted {sequence : UInt64} {event : E} {outside : Outside} {data : Bytes} {reason : Error}
      {err : ActorError} (encoded : actor.toVecEvent event = .ok data)
      (refuses : outside.written = .error reason)
      (reported : BaseJournal.report (actorStore outside.written "Failed to insert event")
        "Failed to insert event in journal" (fun _ => .none) = .error err) :
      Tells actor history (.edit (.insert sequence event), outside)
        (.inserted (actorStore (.error err) "Failed to send insert request to journal")) history
  | unencodedInsert {sequence : UInt64} {event : E} {outside : Outside} {text : String}
      (fails : actor.toVecEvent event = .error text) :
      Tells actor history (.edit (.insert sequence event), outside)
        (.inserted (actorSerialization (.error text) "Failed to serialize event")) history
  | imported {dir : String} {outside : Outside} {taken : List Bytes} {events : List E}
      (begins : taken <+: outside.file) (decodes : Decodes actor events taken) :
      Tells actor history (.edit (.importFrom dir), outside) .done events
  | quiet {label : Move E} {outside : Outside} (quiet : ∀ event, label ≠ .persist event) :
      Tells actor history (.edit (.life label), outside) .done history
  | lastSequence {sequence : UInt64} {outside : Outside}
      (last : sequence.toNat = history.length - 1) :
      Tells actor history (.lastSequence, outside) (.lastSequence (.ok sequence)) history
  | lastEvent {outside : Outside} :
      Tells actor history (.lastEvent, outside) (.lastEvent (history.getLast?.map fun event =>
        (UInt64.ofNat (history.length - 1), event))) history
  | event {sequence : UInt64} {event : E} {outside : Outside}
      (present : history[sequence.toNat]? = some event) :
      Tells actor history (.getEvent sequence, outside) (.getEvent (.ok event)) history
  | noEvent {sequence : UInt64} {err : ActorError} {outside : Outside}
      (absent : history[sequence.toNat]? = none) :
      Tells actor history (.getEvent sequence, outside) (.getEvent (.error err)) history
  | events {start : UInt64} {stop : Option UInt64} {outside : Outside} :
      Tells actor history (.getEvents start stop, outside)
        (.getEvents (.ok (slice history start.toNat (stop.map UInt64.toNat)))) history

variable {S E σ : Type} [Store σ] [LawfulStore σ] {actor : PersistentActor S E} (gzip : Gzip)
  {initial : S} {ctx : ActorContext σ} {history : List E}

section Slices

theorem filter_zipIdx_take (values : List Bytes) (stop base : Nat) :
    (values.zipIdx base).filter (fun entry => decide (entry.2 < base + stop)) =
      (values.take stop).zipIdx base := by
  induction values generalizing stop base with
  | nil => simp
  | cons value values ih =>
      cases stop with
      | zero =>
          apply List.filter_eq_nil_iff.mpr
          intro entry member
          have behind := List.le_snd_of_mem_zipIdx member
          simp only [Nat.add_zero, decide_eq_true_eq]
          omega
      | succ stop =>
          have next := ih stop (base + 1)
          rw [Nat.add_right_comm, Nat.add_assoc] at next
          simp [List.zipIdx_cons, next]

theorem between_data (datas : List Bytes) (start : UInt64) (stop : Option UInt64) :
    (between datas start stop).map Prod.snd =
      slice datas start.toNat (stop.map UInt64.toNat) := by
  rw [between, List.map_map]
  cases stop with
  | none =>
      have dropped := BaseJournal.filter_zipIdx_drop datas start.toNat 0
      simpa [slice, Function.comp_def] using dropped
  | some stop =>
      have taken := filter_zipIdx_take datas (stop.toNat + 1) 0
      have dropped := BaseJournal.filter_zipIdx_drop (datas.take (stop.toNat + 1)) start.toNat 0
      rw [← taken, List.filter_filter] at dropped
      simpa [slice, Nat.lt_succ_iff, Function.comp_def] using dropped

theorem slice_decodes {datas : List Bytes} (decodes : Decodes actor history datas) (start : Nat)
    (stop : Option Nat) : Decodes actor (slice history start stop) (slice datas start stop) := by
  cases stop with
  | none => exact List.forall₂_drop _ decodes
  | some stop => exact List.forall₂_drop _ (List.forall₂_take _ decodes)

omit [Store σ] [LawfulStore σ] in
theorem decodeEvents_decoded {events : List E} {records : List (UInt64 × Bytes)}
    (decodes : Decodes actor events (records.map Prod.snd)) :
    actor.decodeEvents records = .ok events := by
  induction records generalizing events with
  | nil =>
      cases decodes
      rfl
  | cons record records ih =>
      cases decodes with
      | cons decoded rest =>
          simp only [decodeEvents, decoded, ih rest, actorDeserialization, withContext_ok]
          rfl

end Slices

section Reads

variable {child : JournalChild σ}

def emptied (ctx : ActorContext σ) (child : JournalChild σ) : ActorContext σ :=
  { ctx with journal := some { child with mailbox := [] } }

theorem lastSequence_journaled (present : ctx.journal = some child)
    (journaled : Journaled actor history child) :
    ∃ sequence, lastSequence gzip ctx = (.ok sequence, emptied ctx child) ∧
      sequence.toNat = history.length - 1 := by
  obtain ⟨datas, lists, decodes⟩ := journaled.events
  refine ⟨child.state.1.latestSequence, ?_, ?_⟩
  · simp only [lastSequence, present, journaled_ask gzip journaled, BaseJournal.handle, emptied]
  · rw [decodes_length decodes]
    rcases BaseJournal.lists_latest lists with ⟨rfl, zero⟩ | ⟨_, latest⟩
    · simp [zero]
    · omega

theorem lastEvent_journaled (present : ctx.journal = some child)
    (journaled : Journaled actor history child) :
    actor.lastEvent gzip ctx = (history.getLast?.map fun event =>
      (UInt64.ofNat (history.length - 1), event), emptied ctx child) := by
  obtain ⟨datas, lists, decodes⟩ := journaled.events
  have last := BaseJournal.last_listed lists
  have length := decodes_length decodes
  simp only [lastEvent, present, journaled_ask gzip journaled, BaseJournal.handle, last, emptied]
  rw [List.getLast?_eq_getElem?, List.getLast?_eq_getElem?, ← length]
  cases entry : datas[history.length - 1]? with
  | none =>
      have none : history[history.length - 1]? = none := by
        rw [List.getElem?_eq_none_iff] at entry ⊢
        omega
      simp [none]
  | some data =>
      obtain ⟨inside, same⟩ := List.getElem?_eq_some_iff.mp entry
      have within : history.length - 1 < history.length := by omega
      have decoded := (List.forall₂_iff_get.mp decodes).2 _ within inside
      simp only [List.get_eq_getElem, same] at decoded
      simp [decoded, List.getElem?_eq_getElem within]

theorem getEvent_journaled (present : ctx.journal = some child)
    (journaled : Journaled actor history child) (sequence : UInt64) :
    ∃ result, actor.getEvent gzip ctx sequence = (result, emptied ctx child) ∧
      result.toOption = history[sequence.toNat]? := by
  obtain ⟨datas, lists, decodes⟩ := journaled.events
  have found := BaseJournal.get_listed lists sequence
  have length := decodes_length decodes
  simp only [getEvent, present, journaled_ask gzip journaled, BaseJournal.handle, emptied]
  cases got : child.state.1.get sequence with
  | error err =>
      refine ⟨_, rfl, ?_⟩
      rw [got] at found
      have absent : datas.length ≤ sequence.toNat := List.getElem?_eq_none_iff.mp found.symm
      exact (List.getElem?_eq_none (by omega)).symm
  | ok data =>
      refine ⟨_, rfl, ?_⟩
      rw [got] at found
      obtain ⟨inside, same⟩ := List.getElem?_eq_some_iff.mp found.symm
      have within : sequence.toNat < history.length := by omega
      have decoded := (List.forall₂_iff_get.mp decodes).2 _ within inside
      simp only [List.get_eq_getElem, same] at decoded
      simp only [decoded, actorDeserialization, withContext_ok]
      exact (List.getElem?_eq_getElem within).symm

theorem getEvents_journaled (present : ctx.journal = some child)
    (journaled : Journaled actor history child) (start : UInt64) (stop : Option UInt64) :
    actor.getEvents gzip ctx start stop =
      (.ok (slice history start.toNat (stop.map UInt64.toNat)), emptied ctx child) := by
  obtain ⟨datas, lists, decodes⟩ := journaled.events
  have decoded : actor.decodeEvents (child.state.1.range start stop) =
      .ok (slice history start.toNat (stop.map UInt64.toNat)) := by
    apply decodeEvents_decoded
    rw [BaseJournal.range_between lists, between_data]
    exact slice_decodes decodes _ _
  simp only [getEvents, present, journaled_ask gzip journaled, BaseJournal.handle, decoded, emptied]

end Reads

section Requests

variable {world after : World S E σ}

structure Holding (actor : PersistentActor S E) (history : List E) (ctx : ActorContext σ) : Prop where
  edited : Edited actor ctx
  holds : JournalHolds actor history ctx

theorem Holding.journal {next : List E} {child : JournalChild σ} (holding : Holding actor history ctx)
    (journaled : Journaled actor next child) :
    Holding actor next { ctx with journal := some child } :=
  ⟨edited_journal holding.edited journaled, child, rfl, journaled⟩

theorem outside_journaled (present : ctx.journal = some child)
    (journaled : Journaled actor history child) {request : Request E} {message : JournalMessage}
    (carries : request.message? actor = some message) :
    actor.outside gzip ctx request = BaseJournal.outside child.state message := by
  simp only [outside, present, carries, idle_drained gzip journaled.mailbox]

theorem persist_tells (lossless : actor.Lossless) (holding : Holding actor history ctx) (state : S)
    (event : E) (room : ∀ child, ctx.journal = some child →
      child.state.1.nextSequence.toNat < LawfulStore.capacity σ) :
    ∃ next, Tells actor history (.edit (.life (.persist event)),
          actor.outside gzip ctx (.edit (.life (.persist event))))
        (.persisted (actor.persist gzip state event ctx).1) next ∧
      Holding actor next (actor.persist gzip state event ctx).2.2 := by
  obtain ⟨child, present, journaled⟩ := holding.holds
  obtain ⟨datas, lists, decodes⟩ := journaled.events
  have length := decodes_length decodes
  cases encoded : actor.toVecEvent event with
  | error text =>
      simp only [persist, encoded]
      exact ⟨history, .unencoded encoded, holding⟩
  | ok data =>
      have brings : (actor.outside gzip ctx (.edit (.life (.persist event)))).written =
          (Store.put child.state.1.store child.state.1.nextSequence data).1 := by
        rw [outside_journaled gzip present journaled (by rw [Request.message?, encoded]; rfl)]
        rfl
      have space : datas.length < LawfulStore.capacity σ := by
        rw [← lists.next]
        exact room child present
      have result := child.state.1.put_result data
      have idle : ∀ message ∈ ([] : List JournalMessage), message = .flush :=
        fun _ member => absurd member List.not_mem_nil
      rcases done : child.state.1.put data with ⟨answer, after⟩
      rw [done] at result
      rcases BaseJournal.put_lists lists data space with
        ⟨stored, listed, advanced⟩ | ⟨reason, refuses, listed⟩
      · rw [done] at listed advanced
        rw [stored] at result brings
        obtain rfl : answer = .ok () := result
        have still : Holding actor (history ++ [event])
            { ctx with journal := some { child with
                state := (after, child.state.2)
                mailbox := [] } } := by
          refine holding.journal ⟨journaled.running, idle, datas ++ [data], listed, ?_⟩
          exact List.rel_append decodes (.cons (lossless.event event data encoded) .nil)
        refine ⟨history ++ [event], ?_⟩
        rcases applied : actor.applyEvent state event with ⟨result, next⟩
        cases result with
        | error err =>
            simp only [persist, encoded, present, journaled_ask gzip journaled, BaseJournal.handle, done,
              BaseJournal.report, applied]
            exact ⟨.rejected encoded brings ⟨state, by rw [applied]⟩, still⟩
        | ok value =>
            simp only [persist, encoded, present, journaled_ask gzip journaled, BaseJournal.handle, done,
              BaseJournal.report, applied]
            refine ⟨.persisted encoded brings ?_, still⟩
            rw [advanced, UInt64.add_sub_cancel, lists.next, length]
      · rw [done] at listed
        have written := brings.trans refuses
        rw [refuses] at result
        obtain rfl : answer = actorStore (.error reason) "Failed to store event" := result
        simp only [persist, encoded, present, journaled_ask gzip journaled, BaseJournal.handle, done]
        refine ⟨history, .refused encoded written ?_,
          holding.journal ⟨journaled.running, idle, datas, listed, decodes⟩⟩
        rw [written]
        rfl

theorem insert_tells (lossless : actor.Lossless) (holding : Holding actor history ctx)
    {sequence : UInt64} (event : E) (inside : ∀ child, ctx.journal = some child →
      sequence < child.state.1.nextSequence) :
    ∃ next, Tells actor history (.edit (.insert sequence event),
          actor.outside gzip ctx (.edit (.insert sequence event)))
        (.inserted (actor.insertEvent gzip ctx sequence event).1) next ∧
      Holding actor next (actor.insertEvent gzip ctx sequence event).2 := by
  obtain ⟨child, present, journaled⟩ := holding.holds
  obtain ⟨datas, lists, decodes⟩ := journaled.events
  have within : sequence.toNat < datas.length := by
    rw [← lists.next]
    exact UInt64.lt_iff_toNat_lt.mp (inside child present)
  cases encoded : actor.toVecEvent event with
  | error text =>
      simp only [insertEvent, present, encoded]
      exact ⟨history, .unencodedInsert encoded, holding⟩
  | ok data =>
      have brings : (actor.outside gzip ctx (.edit (.insert sequence event))).written =
          (Store.put child.state.1.store sequence data).1 := by
        rw [outside_journaled gzip present journaled (by rw [Request.message?, encoded]; rfl)]
        rfl
      have idle : ∀ message ∈ ([] : List JournalMessage), message = .flush :=
        fun _ member => absurd member List.not_mem_nil
      rcases BaseJournal.insert_lists lists within data with
        ⟨stored, listed⟩ | ⟨reason, refuses, listed⟩
      · have result : (child.state.1.insert sequence data).1 = .ok () := by
          rw [BaseJournal.insert_result, stored]
          rfl
        simp only [insertEvent, present, encoded, journaled_ask gzip journaled, BaseJournal.handle,
          result, BaseJournal.report]
        refine ⟨_, .inserted encoded (brings.trans stored),
          holding.journal ⟨journaled.running, idle, _, listed, ?_⟩⟩
        exact forall₂_set decodes (lossless.event event data encoded) sequence.toNat
      · have written := brings.trans refuses
        have result : (child.state.1.insert sequence data).1 =
            actorStore (.error reason) "Failed to insert event" := by
          rw [BaseJournal.insert_result, refuses]
        simp only [insertEvent, present, encoded, journaled_ask gzip journaled, BaseJournal.handle,
          result]
        refine ⟨history, .uninserted encoded written ?_,
          holding.journal ⟨journaled.running, idle, datas, listed, decodes⟩⟩
        rw [written]
        rfl

theorem import_tells (holding : Holding actor history ctx) {dir : String}
    (importable : ∀ child, ctx.journal = some child →
      (Store.purge child.state.1.store).1 = .ok () ∧ ∃ events : List E,
        events.length ≤ LawfulStore.capacity σ ∧
        Decodes actor events (child.state.1.importedEvents child.state.2 dir)) :
    ∃ next, Tells actor history (.edit (.importFrom dir),
          actor.outside gzip ctx (.edit (.importFrom dir))) .done next ∧
      Holding actor next (importFrom gzip ctx dir) := by
  have edited := importFrom_edited gzip holding.edited importable
  obtain ⟨child, present, journaled⟩ := holding.holds
  obtain ⟨purges, events, room, decodes⟩ := importable child present
  obtain ⟨datas, lists, _⟩ := journaled.events
  obtain ⟨_, entries, models, _⟩ := lists.stores
  rw [decodes_length decodes] at room
  obtain ⟨taken, starts, listed, _⟩ := BaseJournal.lists_import models child.state.2 dir purges room
  have brings : (actor.outside gzip ctx (.edit (.importFrom dir))).file =
      child.state.1.importedEvents child.state.2 dir := by
    rw [outside_journaled gzip present journaled rfl]
    rfl
  have first : Decodes actor (events.take taken.length) taken := by
    rw [List.prefix_iff_eq_take.mp starts, List.length_take, Nat.min_eq_left starts.length_le]
    exact List.forall₂_take _ decodes
  have still : Journaled actor (events.take taken.length) { child with
      state := ((child.state.1.importEvents child.state.2 dir).2, child.state.2)
      mailbox := [] } :=
    ⟨journaled.running, fun _ member => absurd member List.not_mem_nil, taken, listed, first⟩
  refine ⟨_, .imported (by rw [brings]; exact starts) first, edited, _, ?_, still⟩
  simp only [importFrom, present, Option.map_some, journaled_ask gzip journaled, BaseJournal.handle]

theorem recover_holding (holding : Holding actor history ctx) :
    Holding actor history (actor.recover gzip initial ctx).2.2 := by
  obtain ⟨journal, hasJournal, journaled⟩ := holding.holds
  obtain ⟨snapshotter, hasSnapshotter, meet⟩ := holding.edited.snapshotter
  obtain ⟨datas, lists, decodes⟩ := journaled.events
  have ready := reopened_ready actor initial holding.edited.storage holding.edited.childFault
    hasJournal hasSnapshotter
  obtain ⟨createStore, storage, _⟩ := ready.storage
  have begun : Journaled actor history (.started (.new journal.state.1.store,
      (actor.reopened (actor.id initial) ctx).files) : JournalChild σ) :=
    ⟨rfl, fun _ member => absurd member List.not_mem_nil,
      datas, BaseJournal.lists_new lists.stores, decodes⟩
  have present := withChildren_journal (actor.reopened (actor.id initial) ctx)
    journal.state.1.store snapshotter.state.store
  have reborn : Holding actor history (withChildren (actor.reopened (actor.id initial) ctx)
      journal.state.1.store snapshotter.state.store) := by
    have stored : (withChildren (actor.reopened (actor.id initial) ctx) journal.state.1.store
        snapshotter.state.store).storage.isSome = true := by
      simp [withChildren, storage]
    have holds : JournalHolds actor history (withChildren (actor.reopened (actor.id initial) ctx)
        journal.state.1.store snapshotter.state.store) := ⟨_, present, begun⟩
    refine ⟨⟨stored, holding.edited.childFault, ⟨history, holds⟩, _, rfl, rfl, meet.stored, ?_⟩, holds⟩
    exact fun _ member => absurd member List.not_mem_nil
  have replays (state : S) (start : UInt64) := replayFrom_journaled gzip present begun state start
  have answered := reborn.journal (journaled_answered begun)
  rw [recover, initState_ready gzip ready]
  cases Store.last snapshotter.state.store with
  | none =>
      simp only [replays]
      exact answered
  | some entry =>
      obtain ⟨key, data⟩ := entry
      simp only
      cases actor.fromSliceState data with
      | error err => exact reborn
      | ok state =>
          simp only [replays]
          exact answered

theorem quiet_holding (holding : Holding actor history world.ctx) {label : Move E}
    (quiet : ∀ event, label ≠ .persist event)
    (taken : actor.move gzip initial world label = some after) : Holding actor history after.ctx := by
  obtain ⟨journal, hasJournal, journaled⟩ := holding.holds
  obtain ⟨snapshotter, hasSnapshotter, meet⟩ := holding.edited.snapshotter
  have below (data : Bytes) (_ : actor.toVecState world.live = .ok data) := latest_below journaled
  have both {journal : JournalChild σ} {snapshotter : SnapshotterChild σ}
      (journaled : Journaled actor history journal)
      (meet : SnapshotsMeet (fun key _ => key.toNat < LawfulStore.capacity σ) snapshotter) :
      Holding actor history
        { world.ctx with journal := some journal, snapshotter := some snapshotter } :=
    ⟨edited_children holding.edited journaled meet, journal, rfl, journaled⟩
  cases label with
  | persist event => exact absurd rfl (quiet event)
  | recreate =>
      cases taken
      exact recover_holding gzip holding
  | snapshot =>
      cases outcome : world.outcome with
      | error err => simp [move, outcome] at taken
      | ok value =>
          simp only [move, outcome, Option.some.injEq] at taken
          subst taken
          obtain ⟨_, _, _, done, journaled, meet⟩ :=
            snapshot_meets gzip hasJournal hasSnapshotter journaled meet below
          rw [done]
          exact both journaled meet
  | flush =>
      cases outcome : world.outcome with
      | error err => simp [move, outcome] at taken
      | ok value =>
          simp only [move, outcome, Option.some.injEq] at taken
          subst taken
          obtain ⟨_, _, _, done, journaled, meet⟩ :=
            flush_meets gzip hasJournal hasSnapshotter journaled meet below
          rw [done]
          exact both journaled meet
  | deliverJournal =>
      cases outcome : world.outcome with
      | error err => simp [move, outcome] at taken
      | ok value =>
          simp only [move, outcome, hasJournal, Option.map_some, Option.some.injEq] at taken
          subst taken
          exact holding.journal (journaled_deliver gzip journaled)
  | deliverSnapshotter =>
      cases outcome : world.outcome with
      | error err => simp [move, outcome] at taken
      | ok value =>
          simp only [move, outcome, hasSnapshotter, Option.map_some, Option.some.injEq] at taken
          subst taken
          exact ⟨⟨holding.edited.storage, holding.edited.childFault, holding.edited.journal, _, rfl,
            meet_deliver meet⟩, holding.holds⟩

def Fits (actor : PersistentActor S E) (world : World S E σ) : Request E → Prop
  | .edit (.life (.persist _)) => ∀ child, world.ctx.journal = some child →
      child.state.1.nextSequence.toNat < LawfulStore.capacity σ
  | .edit (.insert sequence _) => ∀ child, world.ctx.journal = some child →
      sequence < child.state.1.nextSequence
  | .edit (.importFrom dir) => ∀ child, world.ctx.journal = some child →
      (Store.purge child.state.1.store).1 = .ok () ∧ ∃ events : List E,
        events.length ≤ LawfulStore.capacity σ ∧
        Decodes actor events (child.state.1.importedEvents child.state.2 dir)
  | _ => True

def Serves (actor : PersistentActor S E) (gzip : Gzip) (initial : S) (world : World S E σ)
    (label : Request E × Outside) (answer : Answer E) (after : World S E σ) : Prop :=
  Fits actor world label.1 ∧ label.2 = actor.outside gzip world.ctx label.1 ∧
    actor.request gzip initial world label.1 = some (answer, after)

theorem serves_tells (lossless : actor.Lossless) {label : Request E × Outside} {answer : Answer E}
    (holding : Holding actor history world.ctx)
    (serves : Serves actor gzip initial world label answer after) :
    ∃ next, Tells actor history label answer next ∧ Holding actor next after.ctx := by
  obtain ⟨request, outside⟩ := label
  obtain ⟨fits, brings, taken⟩ := serves
  replace brings : outside = actor.outside gzip world.ctx request := brings
  subst brings
  obtain ⟨child, present, journaled⟩ := holding.holds
  have read := holding.journal (journaled_answered journaled)
  cases request with
  | edit label =>
      obtain ⟨next, moved, same⟩ := Option.map_eq_some_iff.mp taken
      cases same
      cases label with
      | insert sequence event =>
          cases moved
          exact insert_tells gzip lossless holding event fits
      | importFrom dir =>
          cases moved
          exact import_tells gzip holding fits
      | life label =>
          rw [edit] at moved
          cases label with
          | persist event =>
              cases outcome : world.outcome with
              | error err => simp [move, outcome] at moved
              | ok value =>
                  simp only [move, outcome, Option.some.injEq] at moved
                  subst moved
                  exact persist_tells gzip lossless holding world.live event fits
          | snapshot | flush | deliverJournal | deliverSnapshotter | recreate =>
              refine ⟨history, .quiet ?_, quiet_holding gzip holding ?_ moved⟩
              all_goals
                intro event same
                cases same
  | lastSequence =>
      obtain ⟨sequence, done, last⟩ := lastSequence_journaled gzip present journaled
      simp only [PersistentActor.request, done] at taken
      cases taken
      exact ⟨history, .lastSequence last, read⟩
  | lastEvent =>
      simp only [PersistentActor.request, lastEvent_journaled gzip present journaled] at taken
      cases taken
      exact ⟨history, .lastEvent, read⟩
  | getEvent sequence =>
      obtain ⟨result, done, found⟩ := getEvent_journaled gzip present journaled sequence
      simp only [PersistentActor.request, done] at taken
      cases taken
      cases result with
      | error err => exact ⟨history, .noEvent found.symm, read⟩
      | ok event => exact ⟨history, .event found.symm, read⟩
  | getEvents start stop =>
      simp only [PersistentActor.request, getEvents_journaled gzip present journaled] at taken
      cases taken
      exact ⟨history, .events, read⟩

/-- Whatever a persistent actor is asked for, and however it is snapshotted, flushed, edited
and created again in between, every answer is the one that a list of events gives. -/
theorem history_refined (lossless : actor.Lossless) {first : World S E σ}
    {calls : List ((Request E × Outside) × Answer E)} (fresh : Fresh actor gzip initial first)
    (run : Trace (Serves actor gzip initial) first calls world) :
    ∃ history, Trace (Tells actor) [] calls history ∧ JournalHolds actor history world.ctx := by
  have simulates : Simulates (fun (world : World S E σ) history => Holding actor history world.ctx)
      (Serves actor gzip initial) (Tells actor) :=
    fun _ _ _ _ _ holding serves => serves_tells gzip lossless holding serves
  have sound : Sound actor True initial first := fresh_sound gzip lossless fresh
  obtain ⟨child, present, journaled⟩ := sound.journal
  have empty : first.persisted = [] := by
    obtain ⟨_, _, _, _, _, _, rfl⟩ := fresh
    rfl
  rw [empty] at journaled
  obtain ⟨history, told, holding⟩ :=
    simulates.trace ⟨sound_edited sound, child, present, journaled⟩ run
  exact ⟨history, told, holding.holds⟩

def requested (requests : List (Request Nat)) : World Nat Nat FjallStore :=
  requests.foldl (fun world request =>
    ((adder.request BaseJournal.sampleGzip 0 world request).map Prod.snd).getD world)
    (lifeOf adder [])

theorem edited_list_told : ∃ history, Trace (Tells adder) []
      [((.edit (.life (.persist 3)), {}), .persisted (.ok 0)),
        ((.edit (.insert 0 9), {}), .inserted (.ok ())),
        ((.getEvents 0 none, {}), .getEvents (.ok [9]))] history ∧
    JournalHolds adder history (requested [.edit (.life (.persist 3)), .edit (.insert 0 9),
      .getEvents 0 none]).ctx := by
  refine history_refined BaseJournal.sampleGzip adder_lossless (fresh_life adder) ?_
  have none : Trace (Serves adder BaseJournal.sampleGzip 0) (lifeOf adder []) [] (requested []) :=
    .begun
  have room : Fits adder (requested []) (.edit (.life (.persist 3))) := by
    intro child present
    cases present
    decide
  have inside : Fits adder (requested [.edit (.life (.persist 3))]) (.edit (.insert 0 9)) := by
    intro child present
    cases present
    decide
  exact ((none.served ⟨room, rfl, rfl⟩).served ⟨inside, rfl, rfl⟩).served ⟨trivial, rfl, rfl⟩

end Requests

section Snapshots

variable {world : World S E σ} {good : UInt64 → Bytes → Prop} {child : SnapshotterChild σ}

theorem meet_drained (meet : SnapshotsMeet good child) :
    ∃ entries : EntryMap,
      LawfulStore.Models (child.drained BaseSnapshotter.handle).store entries ∧
        ∀ (key : UInt64) (data : Bytes), entries[key]? = some data → good key data := by
  obtain ⟨_, stored, waiting⟩ := meet
  rw [Child.drained]
  generalize child.state = snapshotter at stored
  generalize child.mailbox = messages at waiting
  induction messages generalizing snapshotter with
  | nil => exact stored
  | cons message messages ih =>
      rw [List.foldl_cons]
      apply ih
      · exact meet_handle stored (waiting message List.mem_cons_self)
      · exact fun other member => waiting other (List.mem_cons_of_mem message member)

omit [LawfulStore σ] in
theorem lastSnapshot_drained (present : ctx.snapshotter = some child)
    (running : child.running = true) :
    actor.lastSnapshot ctx =
      ((Store.last (child.drained BaseSnapshotter.handle).store).bind fun (sn, data) =>
        (actor.fromSliceState data).toOption.map fun state => (sn, state),
        { ctx with snapshotter := some { child with
          state := child.drained BaseSnapshotter.handle
          mailbox := [] } }) := by
  simp only [lastSnapshot, present, Child.ask, running, if_true, BaseSnapshotter.handle,
    BaseSnapshotter.lastSnapshot]
  cases Store.last (child.drained BaseSnapshotter.handle).store with
  | none => rfl
  | some entry =>
      obtain ⟨key, data⟩ := entry
      simp only [Option.bind_some]
      cases actor.fromSliceState data <;> rfl

/-- The state of a life, read back: `last_snapshot` with the events that `get_events` has
after it, or all events from the initial state where there is no snapshot. -/
theorem snapshot_and_tail (lossless : actor.Lossless)
    (reached : Runs.Guarded (actor.move gzip initial) (Fresh actor gzip initial)
      (Allowed actor False initial) world) :
    match actor.lastSnapshot world.ctx with
    | (some (sequence, state), ctx) => ∃ events,
        (actor.getEvents gzip ctx (sequence + 1) none).1 = .ok events ∧
          actor.replay state events = (.ok (), world.live)
    | (none, ctx) => (actor.getEvents gzip ctx 0 none).1 = .ok world.persisted ∧
        actor.replay initial world.persisted = (.ok (), world.live) := by
  have sound := lives_sound gzip lossless reached
  obtain ⟨journal, hasJournal, journaled⟩ := sound.journal
  obtain ⟨snapshotter, hasSnapshotter, snapshotted⟩ := sound.snapshotter
  obtain ⟨entries, models, faithful⟩ := meet_drained (snapshotted_iff.mp snapshotted)
  obtain ⟨datas, lists, decodes⟩ := journaled.events
  have bounded : world.persisted.length ≤ LawfulStore.capacity σ := by
    rw [decodes_length decodes]
    exact lists.stores.1
  have last := LawfulStore.last_models models (snapshots_narrow bounded faithful)
  have reads (child : SnapshotterChild σ) (start : UInt64) :
      (actor.getEvents gzip { world.ctx with snapshotter := some child } start none).1 =
        .ok (world.persisted.drop start.toNat) := by
    have present : { world.ctx with snapshotter := some child }.journal = some journal := hasJournal
    rw [getEvents_journaled gzip present journaled]
    rfl
  rw [lastSnapshot_drained hasSnapshotter snapshotted.running]
  cases top : Store.last (snapshotter.drained BaseSnapshotter.handle).store with
  | none => exact ⟨reads _ 0, sound.replayed⟩
  | some entry =>
      obtain ⟨key, data⟩ := entry
      rw [top] at last
      have present := OrderedMap.toList_getLast_lookup last.symm
      rcases faithful key data present with ⟨inside, state, decoded, prefixed⟩ | ⟨impossible, _⟩
      · have room := LawfulStore.capacity_lt (σ := σ)
        have successor : (key + 1).toNat = key.toNat + 1 := toNat_succ (by omega)
        simp only [Option.bind_some, decoded, Except.toOption, Option.map_some]
        refine ⟨_, reads _ (key + 1), ?_⟩
        rw [successor, replay_split prefixed, sound.replayed]
      · exact impossible.elim

theorem total_read_back :
    (adder.lastSnapshot (lifeOf adder snapshotLife).ctx).1 = some (0, 3) ∧
      ∃ events, (adder.getEvents BaseJournal.sampleGzip
          (adder.lastSnapshot (lifeOf adder snapshotLife).ctx).2 1 none).1 = .ok events ∧
        adder.replay 3 events = (.ok (), 7) := by
  have read := snapshot_and_tail BaseJournal.sampleGzip adder_lossless
    (Runs.guarded_mono (replayable_allowed adder_total) snapshotLife_reached)
  exact ⟨rfl, read⟩

end Snapshots

end PersistentActor

end Rush.Storage
