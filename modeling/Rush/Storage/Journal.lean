import Rush.Storage.Files

/-! `BaseJournal`: the numbered events of one actor over a store, and the
messages its actor answers.

Counters wrap, as they do in a release build. The journal reads through `get`
and `iter` and writes through `put` and `purge`; the only other state it has is
`nextSequence`. -/

namespace Rush.Storage

open Rush.Actor Rush.Library

structure BaseJournal (σ : Type) where
  store : σ
  nextSequence : UInt64

namespace BaseJournal

section Operations

variable {σ : Type} [Store σ]

def new (store : σ) : BaseJournal σ :=
  match Store.last store with
  | some (seq, _) => { store, nextSequence := seq + 1 }
  | none => { store, nextSequence := 0 }

def latestSequence (journal : BaseJournal σ) : UInt64 :=
  if journal.nextSequence = 0 then 0 else journal.nextSequence - 1

def put (journal : BaseJournal σ) (data : Bytes) : Except ActorError Unit × BaseJournal σ :=
  match Store.put journal.store journal.nextSequence data with
  | (.error err, store) =>
    (actorStore (.error err) "Failed to store event", { journal with store })
  | (.ok (), store) => (.ok (), { store, nextSequence := journal.nextSequence + 1 })

def insert (journal : BaseJournal σ) (sequence : UInt64) (data : Bytes) :
    Except ActorError Unit × BaseJournal σ :=
  let (result, store) := Store.put journal.store sequence data
  (actorStore result "Failed to insert event", { journal with store })

def get (journal : BaseJournal σ) (sequence : UInt64) : Except ActorError Bytes :=
  actorStore (Store.get journal.store sequence) "Failed to retrieve event"

def last (journal : BaseJournal σ) : Option (UInt64 × Bytes) :=
  (journal.get journal.latestSequence).toOption.map fun event => (journal.latestSequence, event)

def range (journal : BaseJournal σ) (start : UInt64) (stop : Option UInt64) :
    List (UInt64 × Bytes) :=
  let stop := stop.getD journal.latestSequence
  Store.iter journal.store (.range start (some stop))

def flush (journal : BaseJournal σ) : Except ActorError Unit :=
  actorStore (Store.flush journal.store) "Failed to flush store"

/-- Width of the length that `write_u32` and `read_u32` transfer. -/
def lengthWidth : Nat := 4

def writeData (data : Bytes) : Bytes := Framing.frame lengthWidth data

def readData (reader : Bytes) : Option (Bytes × Bytes) := Framing.unframe lengthWidth reader

def exportPath (journal : BaseJournal σ) (dir : String) : String :=
  joinPath dir s!"{Store.keyPrefix journal.store}.export"

/-- The loop over `0..next_sequence`, with what it has written so far. -/
def exportLoop (journal : BaseJournal σ) (fault : Option WriteFault) :
    Nat → Nat → Bytes → Except ActorError Unit × Bytes
  | _, 0, written => (.ok (), written)
  | seq, remaining + 1, written =>
    match journal.get (UInt64.ofNat seq) with
    | .error err => (.error err, written)
    | .ok data =>
      match fault with
      | some (.event index text) =>
        if index = seq then (actorStore (.error text) "Failed to write event data", written)
        else exportLoop journal fault (seq + 1) remaining (written ++ writeData data)
      | _ => exportLoop journal fault (seq + 1) remaining (written ++ writeData data)

/-- `export`. An encoder that is dropped before its shutdown leaves the file
unfinished. -/
def exportEvents (gzip : Gzip) (journal : BaseJournal σ) (files : FileSystem) (dir : String) :
    Except ActorError Unit × FileSystem :=
  let path := journal.exportPath dir
  match files.create path with
  | .error text =>
    (.error (.store s!"Failed to create export file {path} from path {path.quote}: {text}"), files)
  | .ok files =>
    let fault := files.writeFault (files.resolve path)
    match exportLoop journal fault 0 journal.nextSequence.toNat [] with
    | (.error err, written) => (.error err, files.write path (gzip.abandoned written))
    | (.ok (), written) =>
      match fault with
      | some (.flush text) =>
        (actorStore (.error text) "Failed to flush export writer",
          files.write path (gzip.abandoned written))
      | some (.shutdown text) =>
        (actorStore (.error text) "Failed to shutdown export writer",
          files.write path (gzip.abandoned written))
      | _ => (.ok (), files.write path (gzip.compress written))

/-- Reads and puts until a read fails, of whatever kind. Each frame takes bytes
off the reader, so its length is limit enough. -/
def importLoop : Nat → BaseJournal σ → Bytes → Except ActorError Unit × BaseJournal σ
  | 0, journal, _ => (.ok (), journal)
  | limit + 1, journal, reader =>
    match readData reader with
    | none => (.ok (), journal)
    | some (data, rest) =>
      match journal.put data with
      | (.error err, after) => (.error err, after)
      | (.ok (), after) => importLoop limit after rest

def importEvents (journal : BaseJournal σ) (files : FileSystem) (dir : String) :
    Except ActorError Unit × BaseJournal σ :=
  match Store.purge journal.store with
  | (.error err, store) => (actorStore (.error err) "Purge store error", { journal with store })
  | (.ok (), store) =>
    let journal : BaseJournal σ := { store, nextSequence := 0 }
    let path := journal.exportPath dir
    match files.openFile path with
    | .error text =>
      (.error (.store s!"Failed to open import file {path} from path {path.quote}: {text}"), journal)
    | .ok file =>
      let reader := readThroughDecoder file
      importLoop reader.length journal reader

end Operations

end BaseJournal

inductive JournalMessage where
  | put (event : Bytes)
  | insert (sequence : UInt64) (event : Bytes)
  | get (sequence : UInt64)
  | last
  | lastSequence
  | range (start : UInt64) (stop : Option UInt64)
  | flush
  | importFrom (path : String)
  | exportTo (path : String)
  deriving DecidableEq, Repr

inductive JournalResponse where
  | event (data : Bytes)
  | events (entries : List (UInt64 × Bytes))
  | last (sequence : UInt64) (data : Bytes)
  | lastSequence (sequence : UInt64)
  | notFound
  | none
  deriving DecidableEq, Repr

namespace BaseJournal

variable {σ : Type} [Store σ]

def report {α : Type} (result : Except ActorError α) (context : String)
    (respond : α → JournalResponse) : Except ActorError JournalResponse :=
  match result with
  | .ok value => .ok (respond value)
  | .error err => .error (.store s!"{context}: {err}")

def handle (gzip : Gzip) (host : BaseJournal σ × FileSystem) :
    JournalMessage → Except ActorError JournalResponse × BaseJournal σ × FileSystem
  | .put event =>
    let (result, after) := host.1.put event
    (report result "Failed to put event in journal" fun _ => .lastSequence (after.nextSequence - 1),
      after, host.2)
  | .insert seq event =>
    let (result, after) := host.1.insert seq event
    (report result "Failed to insert event in journal" fun _ => .none, after, host.2)
  | .get sequence =>
    (report (host.1.get sequence) "Failed to get event from journal" .event, host)
  | .last =>
    (.ok (match host.1.last with
      | some (seq, event) => .last seq event
      | none => .notFound), host)
  | .lastSequence => (.ok (.lastSequence host.1.latestSequence), host)
  | .range start stop => (.ok (.events (host.1.range start stop)), host)
  | .flush => (report host.1.flush "Failed to flush journal" fun _ => .none, host)
  | .importFrom path =>
    let (result, after) := host.1.importEvents host.2 path
    (result.map fun _ => .none, after, host.2)
  | .exportTo path =>
    let (result, after) := host.1.exportEvents gzip host.2 path
    (result.map fun _ => .none, host.1, after)

end BaseJournal

end Rush.Storage
