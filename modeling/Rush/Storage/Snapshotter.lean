import Rush.Storage.Stores

/-! `BaseSnapshotter`: the stored states of one actor by sequence number, and the
messages its actor answers. -/

namespace Rush.Storage

open Rush.Actor

structure BaseSnapshotter (σ : Type) where
  store : σ

inductive SnapshotMessage where
  | saveSnapshot (key : UInt64) (data : Bytes)
  | loadSnapshot (key : UInt64)
  | lastSnapshot
  | flush
  deriving DecidableEq, Repr

inductive SnapshotResponse where
  | loadResult (data : Option Bytes)
  | lastResult (snapshot : Option (UInt64 × Bytes))
  | none
  deriving DecidableEq, Repr

namespace BaseSnapshotter

variable {σ : Type} [Store σ]

def new (store : σ) : BaseSnapshotter σ := { store }

def saveSnapshot (snapshotter : BaseSnapshotter σ) (key : UInt64) (data : Bytes) :
    Except ActorError Unit × BaseSnapshotter σ :=
  let (result, store) := Store.put snapshotter.store key data
  (actorStore result "Failed to save snapshot", { store })

def loadSnapshot (snapshotter : BaseSnapshotter σ) (key : UInt64) : Option Bytes :=
  (Store.get snapshotter.store key).toOption

def lastSnapshot (snapshotter : BaseSnapshotter σ) : Option (UInt64 × Bytes) :=
  Store.last snapshotter.store

def flush (snapshotter : BaseSnapshotter σ) : Except ActorError Unit :=
  actorStore (Store.flush snapshotter.store) "Failed to flush store"

def handle (snapshotter : BaseSnapshotter σ) :
    SnapshotMessage → Except ActorError SnapshotResponse × BaseSnapshotter σ
  | .saveSnapshot key data =>
    let (result, after) := snapshotter.saveSnapshot key data
    (result.map fun _ => .none, after)
  | .loadSnapshot key => (.ok (.loadResult (snapshotter.loadSnapshot key)), snapshotter)
  | .lastSnapshot => (.ok (.lastResult snapshotter.lastSnapshot), snapshotter)
  | .flush => (snapshotter.flush.map fun _ => .none, snapshotter)

def postStop (snapshotter : BaseSnapshotter σ) : Except ActorError Unit :=
  actorStore (Store.flush snapshotter.store) "Failed to flush store on snapshotter shutdown"

end BaseSnapshotter

end Rush.Storage
