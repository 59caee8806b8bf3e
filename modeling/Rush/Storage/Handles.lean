import Rush.Storage.Stores

/-! Calls on a store through its handles. Every handle that a database manager
creates for one name and prefix works on the same content. -/

namespace Rush.Storage

inductive StoreCall where
  | put (key : UInt64) (data : Bytes)
  | del (key : UInt64)
  | purge
  | get (key : UInt64)
  | last
  | iter (options : IteratorOptions)
  deriving DecidableEq, Repr

/-- What the caller gets back. -/
inductive StoreAnswer where
  | written (result : Except Error Unit)
  | value (result : Except Error Bytes)
  | entry (result : Option (UInt64 × Bytes))
  | entries (result : List (UInt64 × Bytes))

def StoreCall.run {σ : Type} [Store σ] (store : σ) : StoreCall → StoreAnswer × σ
  | .put key data => (.written (Store.put store key data).1, (Store.put store key data).2)
  | .del key => (.written (Store.del store key).1, (Store.del store key).2)
  | .purge => (.written (Store.purge store).1, (Store.purge store).2)
  | .get key => (.value (Store.get store key), store)
  | .last => (.entry (Store.last store), store)
  | .iter options => (.entries (Store.iter store options), store)

/-- A database manager holds the contents of its stores. A store is a handle: a
call through it works on the content that `load` finds and `save` puts back. -/
class DbManager (μ : Type) (σ : outParam Type) where
  createStore : μ → String → String → σ × μ
  load : μ → σ → σ
  save : μ → σ → μ

/-- A manager with the handles created so far. -/
structure Handles (μ σ : Type) where
  manager : μ
  stores : List σ

inductive HandleCall where
  | createStore
  | call (handle : Nat) (call : StoreCall)
  deriving DecidableEq, Repr

namespace Handles

variable {μ σ : Type} [Store σ] [DbManager μ σ]

/-- One more handle to the store of this name and prefix, or a call through one
of the handles there are. -/
def step (name keyPrefix : String) (handles : Handles μ σ) :
    HandleCall → Option StoreAnswer × Handles μ σ
  | .createStore =>
    let (store, manager) := DbManager.createStore handles.manager name keyPrefix
    (none, { manager, stores := handles.stores ++ [store] })
  | .call handle call =>
    match handles.stores[handle]? with
    | none => (none, handles)
    | some store =>
      let (answer, after) := call.run (DbManager.load handles.manager store)
      (some answer, { handles with manager := DbManager.save handles.manager after })

def answers (name keyPrefix : String) : Handles μ σ → List HandleCall → List (Option StoreAnswer)
  | _, [] => []
  | handles, call :: calls =>
    (handles.step name keyPrefix call).1 ::
      answers name keyPrefix (handles.step name keyPrefix call).2 calls

def after (name keyPrefix : String) (handles : Handles μ σ) (calls : List HandleCall) :
    Handles μ σ :=
  calls.foldl (fun handles call => (handles.step name keyPrefix call).2) handles

end Handles

end Rush.Storage
