import Rush.Library.Runs
import Rush.Storage.Fjall
import Rush.Storage.Memory
import Rush.Storage.Persist

/-! `SnapshotActor`: the provided methods of the trait, and the life of one actor that
saves its state under key 0 and starts again from what is stored there. -/

namespace Rush.Storage

open Rush.Actor Rush.Library
open scoped List

/-- What an implementation of the trait provides, with its `rmp_serde` codec. -/
structure SnapshotActor (S : Type) where
  typeName : String
  id : S → String
  toVec : S → Except String Bytes
  fromSlice : Bytes → Except String S

namespace SnapshotActor

section Methods

variable {S σ : Type} [Store σ] (actor : SnapshotActor S)

def snapshotterName : String := s!"{actor.typeName}-Snapshotter"

def createStore (state : S) (ctx : ActorContext σ) : Except ActorError Unit × ActorContext σ :=
  match ctx.storage with
  | none => (.error (.store "DB Manager not found"), ctx)
  | some createStore =>
    match createStore actor.snapshotterName (actor.id state) with
    | .error err => (actorStore (.error err) "Failed to create snapshotter store", ctx)
    | .ok store =>
      match ctx.createChild "snapshotter" ctx.snapshotter.isSome with
      | .error err => (.error (.store s!"Failed to create snapshotter actor: {err}"), ctx)
      | .ok () => (.ok (), { ctx with snapshotter := some (.started (.new store)) })

def save (state : S) (ctx : ActorContext σ) : Except ActorError Unit × ActorContext σ :=
  match ctx.snapshotter with
  | none => (.error (.store "Snapshotter actor not found"), ctx)
  | some snapshotter =>
    match actor.toVec state with
    | .error err => (actorSerialization (.error err) "Failed to serialize snapshot", ctx)
    | .ok data =>
      let (result, snapshotter) := snapshotter.tell (.saveSnapshot 0 data)
      (actorStore result "Failed to save snapshot", { ctx with snapshotter := some snapshotter })

def load (state : S) (ctx : ActorContext σ) : Except ActorError Unit × S × ActorContext σ :=
  match ctx.snapshotter with
  | none => (.error (.store "Snapshotter actor not found"), state, ctx)
  | some snapshotter =>
    let (response, snapshotter) := snapshotter.ask BaseSnapshotter.handle (.loadSnapshot 0)
    let ctx := { ctx with snapshotter := some snapshotter }
    match response with
    | .ok (.loadResult (some data)) =>
      match actor.fromSlice data with
      | .error err =>
        (actorDeserialization (.error err) "Failed to deserialize snapshot", state, ctx)
      | .ok loaded => (.ok (), loaded, ctx)
    | .ok (.loadResult none) => (.error (.store "Snapshot not found"), state, ctx)
    | _ => (.error (.store "Failed to load snapshot"), state, ctx)

def flush (ctx : ActorContext σ) : Except ActorError Unit × ActorContext σ :=
  match ctx.snapshotter with
  | none => (.error (.store "Snapshotter actor not found"), ctx)
  | some snapshotter =>
    let (result, snapshotter) := snapshotter.tell .flush
    (actorStore result "Failed to flush snapshot", { ctx with snapshotter := some snapshotter })

/-- `init_state`: a failed `load` is logged and forgotten. -/
def initState (state : S) (ctx : ActorContext σ) : Except ActorError Unit × S × ActorContext σ :=
  match actor.createStore state ctx with
  | (.error err, ctx) => (.error err, state, ctx)
  | (.ok (), ctx) =>
    let (_, state, ctx) := actor.load state ctx
    (.ok (), state, ctx)

def opened (state : S) (ctx : ActorContext σ) : Option σ :=
  ctx.storage.bind fun createStore =>
    (createStore actor.snapshotterName (actor.id state)).toOption

def loaded (state : S) (store : σ) : S :=
  (((Store.get store 0).toOption.bind fun data => (actor.fromSlice data).toOption)).getD state

def Startable (ctx : ActorContext σ) : Prop :=
  ctx.snapshotter = none ∧ ctx.childFault "snapshotter" = none

variable {actor} {state : S} {ctx : ActorContext σ}

omit [Store σ] in
theorem createStore_ok (startable : Startable ctx) {store : σ}
    (opens : actor.opened state ctx = some store) :
    actor.createStore state ctx =
      (.ok (), { ctx with snapshotter := some (.started (.new store)) }) := by
  obtain ⟨createStore, storage, made⟩ := Option.bind_eq_some_iff.mp opens
  cases result : createStore actor.snapshotterName (actor.id state) with
  | error err =>
      rw [result] at made
      cases made
  | ok found =>
      rw [result] at made
      cases made
      simp [SnapshotActor.createStore, storage, result, ActorContext.createChild, startable.1,
        startable.2]

omit [Store σ] in
theorem createStore_failed (missing : ¬ Startable ctx ∨ actor.opened state ctx = none) :
    ∃ err, actor.createStore state ctx = (.error err, ctx) := by
  cases storage : ctx.storage with
  | none =>
      refine ⟨.store "DB Manager not found", ?_⟩
      simp only [SnapshotActor.createStore, storage]
  | some createStore =>
      cases result : createStore actor.snapshotterName (actor.id state) with
      | error err =>
          refine ⟨.store s!"Failed to create snapshotter store: {err}", ?_⟩
          simp only [SnapshotActor.createStore, storage, result]
          rfl
      | ok store =>
          have opens : actor.opened state ctx = some store := by
            rw [SnapshotActor.opened, storage, Option.bind_some, result]
            rfl
          have refused : ∃ err, ctx.createChild "snapshotter" ctx.snapshotter.isSome = .error err := by
            rcases missing with taken | unopened
            · rw [Startable, not_and_or] at taken
              cases present : ctx.snapshotter with
              | some child => exact ⟨_, rfl⟩
              | none =>
                  cases fault : ctx.childFault "snapshotter" with
                  | none => exact absurd taken (by simp [present, fault])
                  | some err => exact ⟨err, by simp [ActorContext.createChild, fault]⟩
            · cases opens.symm.trans unopened
          obtain ⟨err, refused⟩ := refused
          refine ⟨.store s!"Failed to create snapshotter actor: {err}", ?_⟩
          simp only [SnapshotActor.createStore, storage, result, refused]

/-- What `init_state` does: it fails as `create_store` does, or it leaves what `load`
leaves, whether that is the stored state or not. -/
theorem initState_ok (startable : Startable ctx) {store : σ}
    (opens : actor.opened state ctx = some store) :
    actor.initState state ctx =
      (.ok (), actor.loaded state store,
        { ctx with snapshotter := some (.started (.new store)) }) := by
  have created := createStore_ok startable opens
  cases read : Store.get store 0 with
  | error err =>
      simp [initState, created, load, Child.ask, Child.started, Child.drained,
        BaseSnapshotter.handle, BaseSnapshotter.loadSnapshot, BaseSnapshotter.new, read, loaded,
        Except.toOption]
  | ok data =>
      cases decoded : actor.fromSlice data with
      | error err =>
          simp [initState, created, load, Child.ask, Child.started, Child.drained,
            BaseSnapshotter.handle, BaseSnapshotter.loadSnapshot, BaseSnapshotter.new, read, loaded,
            Except.toOption, decoded]
      | ok found =>
          simp [initState, created, load, Child.ask, Child.started, Child.drained,
            BaseSnapshotter.handle, BaseSnapshotter.loadSnapshot, BaseSnapshotter.new, read, loaded,
            Except.toOption, decoded]

theorem initState_failed (missing : ¬ Startable ctx ∨ actor.opened state ctx = none) :
    ∃ err, actor.initState state ctx = (.error err, state, ctx) := by
  obtain ⟨err, failed⟩ := createStore_failed missing
  exact ⟨err, by simp only [initState, failed]⟩

end Methods

/-- What a back end keeps under key 0, whether or not it can be read. -/
structure Slot (σ : Type) [Store σ] where
  entry : σ → Option Bytes
  get_ok : ∀ {store : σ} {data : Bytes}, Store.get store 0 = .ok data → entry store = some data
  put_ok : ∀ {store after : σ} {data : Bytes}, Store.put store 0 data = (.ok (), after) →
    entry after = some data
  put_failed : ∀ {store after : σ} {data : Bytes} {err : Error},
    Store.put store 0 data = (.error err, after) → entry after = entry store

def fjallSlot : Slot FjallStore where
  entry store := store.keyspace.entries[keyBytes store.keyPrefix 0]?
  get_ok := by
    intro store data read
    change FjallStore.get store 0 = .ok data at read
    rw [FjallStore.get, Keyspace.get] at read
    cases fault : store.keyspace.readFault (keyBytes store.keyPrefix 0) with
    | some text =>
        rw [fault] at read
        cases read
    | none =>
        rw [fault] at read
        cases found : store.keyspace.entries[keyBytes store.keyPrefix 0]? with
        | none =>
            rw [found] at read
            cases read
        | some value =>
            rw [found] at read
            cases read
            rfl
  put_ok := by
    intro store after data done
    change FjallStore.put store 0 data = _ at done
    rw [FjallStore.put] at done
    rcases written : store.keyspace.insert (keyBytes store.keyPrefix 0) data with ⟨result, keyspace⟩
    rw [written] at done
    cases done
    change keyspace.entries[keyBytes store.keyPrefix 0]? = some data
    rw [(write_ok written).1, OrderedMap.lookup_insert, if_pos rfl]
  put_failed := by
    intro store after data err failed
    change FjallStore.put store 0 data = _ at failed
    rw [FjallStore.put] at failed
    rcases written : store.keyspace.insert (keyBytes store.keyPrefix 0) data with ⟨result, keyspace⟩
    rw [written] at failed
    cases failed
    change keyspace.entries[keyBytes store.keyPrefix 0]? = _
    rw [(write_failed written).1]

def memorySlot : Slot MemoryStore where
  entry store := store.data[keyBytes store.keyPrefix 0]?
  get_ok := by
    intro store data read
    change MemoryStore.get store 0 = .ok data at read
    rw [MemoryStore.get] at read
    cases found : store.data[keyBytes store.keyPrefix 0]? with
    | none =>
        rw [found] at read
        cases read
    | some value =>
        rw [found] at read
        cases read
        rfl
  put_ok := by
    intro store after data done
    cases done
    change (store.data.insert (keyBytes store.keyPrefix 0) data)[keyBytes store.keyPrefix 0]? = _
    rw [OrderedMap.lookup_insert, if_pos rfl]
  put_failed := by
    intro store after data err failed
    cases failed

section Life

variable {S σ : Type} [Store σ] (actor : SnapshotActor S)

/-- An actor between two of its calls. -/
structure Life (S σ : Type) where
  live : S
  ctx : ActorContext σ

inductive Move (S : Type) where
  | handle (next : S)
  | save
  | load
  | flush
  | deliver

def move (life : Life S σ) : Move S → Option (Life S σ)
  | .handle next => some { life with live := next }
  | .save => some { life with ctx := (actor.save life.live life.ctx).2 }
  | .load =>
    let (_, live, ctx) := actor.load life.live life.ctx
    some { live, ctx }
  | .flush => some { life with ctx := (flush life.ctx).2 }
  | .deliver =>
    let snapshotter := life.ctx.snapshotter.map fun child => child.deliver BaseSnapshotter.handle
    some { life with ctx := { life.ctx with snapshotter } }

def Begun (state : S) (ctx : ActorContext σ) (life : Life S σ) : Prop :=
  actor.initState state ctx = (.ok (), life.live, life.ctx)

/-- The handlers of the actor take one state to another; they alone change it. -/
def Handled (handles : S → S → Prop) (life : Life S σ) : Move S → Prop
  | .handle next => handles life.live next
  | _ => True

def Derived (handles : S → S → Prop) (data : Bytes) (state : S) : Prop :=
  ∃ origin, (actor.fromSlice data = .ok origin ∨ actor.toVec origin = .ok data) ∧
    Relation.ReflTransGen handles origin state

def Succeeds (handles : S → S → Prop) (old new : Bytes) : Prop :=
  ∃ state, actor.toVec state = .ok new ∧ actor.Derived handles old state

/-- A save that is about to reach the store replaces no snapshot but one its state goes
back to. -/
def Unmasked (slot : Slot σ) (handles : S → S → Prop) (life : Life S σ) : Prop :=
  ∀ child, life.ctx.snapshotter = some child → ∀ old, slot.entry child.state.store = some old →
    ∀ new rest, child.mailbox = .saveSnapshot 0 new :: rest → actor.Succeeds handles old new

def Readable (store : σ) (data : Bytes) : Prop :=
  Store.get store 0 = .ok data ∧ ∃ found, actor.fromSlice data = .ok found

/-- `init_state` returns `Ok` only with the decoded entry, and an error where there is
none to be had. -/
def Faithful (slot : Slot σ) (state : S) (ctx : ActorContext σ) : Prop :=
  ∀ store data, actor.opened state ctx = some store → slot.entry store = some data →
    ((actor.initState state ctx).1 = .ok () →
      actor.fromSlice data = .ok (actor.initState state ctx).2.1) ∧
    (¬ actor.Readable store data → ∃ err, (actor.initState state ctx).1 = .error err)

variable {actor}

theorem Derived.mono {handles : S → S → Prop} {data : Bytes} {state next : S}
    (derived : actor.Derived handles data state) (handled : handles state next) :
    actor.Derived handles data next := by
  obtain ⟨origin, taken, reaches⟩ := derived
  exact ⟨origin, taken, reaches.tail handled⟩

theorem derived_decoded {handles : S → S → Prop} {data : Bytes} {state : S}
    (decoded : actor.fromSlice data = .ok state) : actor.Derived handles data state :=
  ⟨state, .inl decoded, .refl⟩

theorem derived_encoded {handles : S → S → Prop} {data : Bytes} {state : S}
    (encoded : actor.toVec state = .ok data) : actor.Derived handles data state :=
  ⟨state, .inr encoded, .refl⟩

section Calls

omit [Store σ] in
theorem save_cases (state : S) (ctx : ActorContext σ) :
    (actor.save state ctx).2.snapshotter = ctx.snapshotter ∨
      ∃ child data, ctx.snapshotter = some child ∧ actor.toVec state = .ok data ∧
        (actor.save state ctx).2.snapshotter =
          some { child with mailbox := child.mailbox ++ [.saveSnapshot 0 data] } := by
  cases found : ctx.snapshotter with
  | none =>
      left
      simp only [SnapshotActor.save, found]
  | some child =>
      cases encoded : actor.toVec state with
      | error err =>
          left
          simp only [SnapshotActor.save, found, encoded]
      | ok data =>
          by_cases running : child.running = true
          · right
            refine ⟨child, data, rfl, rfl, ?_⟩
            simp only [SnapshotActor.save, found, encoded, Child.tell_running running]
          · left
            simp only [SnapshotActor.save, found, encoded, Child.tell, if_neg running]

omit [Store σ] in
theorem flush_cases (ctx : ActorContext σ) :
    (flush ctx).2.snapshotter = ctx.snapshotter ∨
      ∃ child, ctx.snapshotter = some child ∧ (flush ctx).2.snapshotter =
        some { child with mailbox := child.mailbox ++ [.flush] } := by
  cases found : ctx.snapshotter with
  | none =>
      left
      simp only [SnapshotActor.flush, found]
  | some child =>
      by_cases running : child.running = true
      · right
        refine ⟨child, rfl, ?_⟩
        simp only [SnapshotActor.flush, found, Child.tell_running running]
      · left
        simp only [SnapshotActor.flush, found, Child.tell, if_neg running]

/-- A load leaves everything as it was, or it empties the mailbox and then takes the
state from the entry or keeps it. -/
theorem load_cases (state : S) (ctx : ActorContext σ) :
    ((actor.load state ctx).2.1 = state ∧
      (actor.load state ctx).2.2.snapshotter = ctx.snapshotter) ∨
    ∃ child, ctx.snapshotter = some child ∧
      (actor.load state ctx).2.2.snapshotter = some
        { child with state := child.drained BaseSnapshotter.handle, mailbox := [] } ∧
      ((actor.load state ctx).2.1 = state ∨
        ∃ data, Store.get (child.drained BaseSnapshotter.handle).store 0 = .ok data ∧
          actor.fromSlice data = .ok (actor.load state ctx).2.1) := by
  cases found : ctx.snapshotter with
  | none =>
      left
      simp only [SnapshotActor.load, found, and_self]
  | some child =>
      by_cases running : child.running = true
      · right
        refine ⟨child, rfl, ?_⟩
        cases read : Store.get (child.drained BaseSnapshotter.handle).store 0 with
        | error err =>
            simp [SnapshotActor.load, found, Child.ask, running, BaseSnapshotter.handle,
              BaseSnapshotter.loadSnapshot, read, Except.toOption]
        | ok data =>
            cases decoded : actor.fromSlice data with
            | error err =>
                simp [SnapshotActor.load, found, Child.ask, running, BaseSnapshotter.handle,
                  BaseSnapshotter.loadSnapshot, read, Except.toOption, decoded]
            | ok loaded =>
                simp [SnapshotActor.load, found, Child.ask, running, BaseSnapshotter.handle,
                  BaseSnapshotter.loadSnapshot, read, Except.toOption, decoded]
      · left
        simp [SnapshotActor.load, found, Child.ask, running, actorMessage, withContext, Except.mapError]

end Calls

def carried : SnapshotMessage → Option Bytes
  | .saveSnapshot _ data => some data
  | _ => none

theorem carried_cons (message : SnapshotMessage) (messages : List SnapshotMessage) :
    (message :: messages).filterMap carried =
      (carried message).toList ++ messages.filterMap carried := by
  cases taken : carried message <;> simp [taken]

def Sent (message : SnapshotMessage) : Prop :=
  message = .flush ∨ ∃ data, message = .saveSnapshot 0 data

def pending (slot : Slot σ) (child : SnapshotterChild σ) : List Bytes :=
  (slot.entry child.state.store).toList ++ child.mailbox.filterMap carried

theorem handle_entry (slot : Slot σ) (snapshotter : BaseSnapshotter σ) {message : SnapshotMessage}
    (sent : Sent message) :
    (slot.entry (BaseSnapshotter.handle snapshotter message).2.store).toList <+
      (slot.entry snapshotter.store).toList ++ (carried message).toList := by
  rcases sent with rfl | ⟨data, rfl⟩
  · exact List.sublist_append_left _ _
  · rcases written : Store.put snapshotter.store 0 data with ⟨result, after⟩
    simp only [BaseSnapshotter.handle, BaseSnapshotter.saveSnapshot, written]
    cases result with
    | error err =>
        rw [slot.put_failed written]
        exact List.sublist_append_left _ _
    | ok done =>
        rw [slot.put_ok written]
        exact List.sublist_append_right _ _

theorem foldl_entry (slot : Slot σ) (messages : List SnapshotMessage)
    (sent : ∀ message ∈ messages, Sent message) (snapshotter : BaseSnapshotter σ) :
    (slot.entry (messages.foldl
      (fun state message => (BaseSnapshotter.handle state message).2) snapshotter).store).toList <+
      (slot.entry snapshotter.store).toList ++ messages.filterMap carried := by
  induction messages generalizing snapshotter with
  | nil => exact List.sublist_append_left _ _
  | cons message messages ih =>
      have rest := ih (fun other member => sent other (List.mem_cons_of_mem _ member))
        (BaseSnapshotter.handle snapshotter message).2
      have first := handle_entry slot snapshotter (sent message List.mem_cons_self)
      rw [List.foldl_cons, carried_cons, ← List.append_assoc]
      exact rest.trans (first.append_right _)

theorem pending_deliver (slot : Slot σ) {child : SnapshotterChild σ}
    (sent : ∀ message ∈ child.mailbox, Sent message) :
    pending slot (child.deliver BaseSnapshotter.handle) <+ pending slot child := by
  obtain ⟨state, mailbox, running⟩ := child
  cases mailbox with
  | nil => exact .refl _
  | cons message rest =>
      have first := handle_entry slot state (sent message List.mem_cons_self)
      rw [Child.deliver, pending, pending, carried_cons, ← List.append_assoc]
      exact first.append_right _

structure Chained (slot : Slot σ) (handles : S → S → Prop) (live : S)
    (child : SnapshotterChild σ) : Prop where
  sent : ∀ message ∈ child.mailbox, Sent message
  ordered : (pending slot child).Pairwise (actor.Succeeds handles)
  lives : ∀ data ∈ pending slot child, actor.Derived handles data live

def Traced (slot : Slot σ) (handles : S → S → Prop) (life : Life S σ) : Prop :=
  ∀ child, life.ctx.snapshotter = some child → actor.Chained slot handles life.live child

section Chains

variable {slot : Slot σ} {handles : S → S → Prop} {live : S} {child : SnapshotterChild σ}

theorem Chained.handled (chained : actor.Chained slot handles live child) {next : S}
    (handled : handles live next) : actor.Chained slot handles next child :=
  { chained with lives := fun data member => (chained.lives data member).mono handled }

theorem Chained.saved (chained : actor.Chained slot handles live child) {data : Bytes}
    (encoded : actor.toVec live = .ok data) :
    actor.Chained slot handles live
      { child with mailbox := child.mailbox ++ [.saveSnapshot 0 data] } := by
  have grown : pending slot { child with mailbox := child.mailbox ++ [.saveSnapshot 0 data] } =
      pending slot child ++ [data] := by
    simp [pending, carried]
  refine { sent := ?_, ordered := ?_, lives := ?_ }
  · intro message member
    rcases List.mem_append.mp member with old | new
    · exact chained.sent message old
    · exact .inr ⟨data, List.mem_singleton.mp new⟩
  · rw [grown, List.pairwise_append]
    refine ⟨chained.ordered, List.pairwise_singleton _ _, ?_⟩
    intro old member new same
    rw [List.mem_singleton.mp same]
    exact ⟨live, encoded, chained.lives old member⟩
  · intro other member
    rw [grown] at member
    rcases List.mem_append.mp member with old | new
    · exact chained.lives other old
    · rw [List.mem_singleton.mp new]
      exact derived_encoded encoded

theorem Chained.flushed (chained : actor.Chained slot handles live child) :
    actor.Chained slot handles live { child with mailbox := child.mailbox ++ [.flush] } := by
  have same : pending slot { child with mailbox := child.mailbox ++ [.flush] } =
      pending slot child := by
    simp [pending, carried]
  refine { sent := ?_, ordered := same ▸ chained.ordered, lives := same ▸ chained.lives }
  intro message member
  rcases List.mem_append.mp member with old | new
  · exact chained.sent message old
  · exact .inl (List.mem_singleton.mp new)

theorem Chained.delivered (chained : actor.Chained slot handles live child) :
    actor.Chained slot handles live (child.deliver BaseSnapshotter.handle) := by
  have fewer := pending_deliver slot chained.sent
  refine { sent := ?_, ordered := chained.ordered.sublist fewer,
           lives := fun data member => chained.lives data (fewer.subset member) }
  obtain ⟨state, mailbox, running⟩ := child
  cases mailbox with
  | nil => exact chained.sent
  | cons message rest => exact fun other member => chained.sent other (List.mem_cons_of_mem _ member)

theorem Chained.drained (chained : actor.Chained slot handles live child) {after : S}
    (taken : after = live ∨ ∃ data, Store.get (child.drained BaseSnapshotter.handle).store 0 =
      .ok data ∧ actor.fromSlice data = .ok after) :
    actor.Chained slot handles after
      { child with state := child.drained BaseSnapshotter.handle, mailbox := [] } := by
  have fewer : pending slot
      { child with state := child.drained BaseSnapshotter.handle, mailbox := [] } <+
        pending slot child := by
    rw [pending, List.filterMap_nil, List.append_nil]
    exact foldl_entry slot child.mailbox chained.sent child.state
  refine { sent := fun message member => (List.not_mem_nil member).elim,
           ordered := chained.ordered.sublist fewer, lives := ?_ }
  intro old member
  rcases taken with rfl | ⟨data, read, decoded⟩
  · exact chained.lives old (fewer.subset member)
  · have entry := slot.get_ok read
    simp only [pending, entry, List.filterMap_nil, List.append_nil, Option.toList_some,
      List.mem_singleton] at member
    rw [member]
    exact derived_decoded decoded

theorem Chained.replaces (chained : actor.Chained slot handles live child) {old : Bytes}
    (entry : slot.entry child.state.store = some old) {new : Bytes} {rest : List SnapshotMessage}
    (mailbox : child.mailbox = .saveSnapshot 0 new :: rest) : actor.Succeeds handles old new := by
  have ordered := chained.ordered
  rw [pending, entry, mailbox, carried_cons] at ordered
  exact List.rel_of_pairwise_cons ordered List.mem_cons_self

end Chains

theorem traced_move {slot : Slot σ} {handles : S → S → Prop} {life after : Life S σ}
    {label : Move S} (traced : actor.Traced slot handles life)
    (permitted : Handled handles life label) (taken : actor.move life label = some after) :
    actor.Traced slot handles after := by
  intro child found
  cases label with
  | handle next =>
      cases taken
      exact (traced child found).handled permitted
  | save =>
      cases taken
      rcases actor.save_cases life.live life.ctx with kept | ⟨old, data, present, encoded, sent⟩
      · exact traced child (kept.symm.trans found)
      · cases sent.symm.trans found
        exact (traced old present).saved encoded
  | load =>
      cases taken
      rcases actor.load_cases life.live life.ctx with
        ⟨same, kept⟩ | ⟨old, present, emptied, outcome⟩
      · have before := traced child (kept.symm.trans found)
        rw [← same] at before
        exact before
      · cases emptied.symm.trans found
        exact (traced old present).drained outcome
  | flush =>
      cases taken
      rcases flush_cases life.ctx with kept | ⟨old, present, sent⟩
      · exact traced child (kept.symm.trans found)
      · cases sent.symm.trans found
        exact (traced old present).flushed
  | deliver =>
      cases taken
      obtain ⟨old, present, delivered⟩ := Option.map_eq_some_iff.mp found
      rw [← delivered]
      exact (traced old present).delivered

end Life

section StartUp

variable {S σ : Type} [Store σ] {actor : SnapshotActor S} {slot : Slot σ} {state : S}
  {ctx : ActorContext σ}

/-- The entry that `init_state` meets can be read and decoded. -/
def EntryReadable (actor : SnapshotActor S) (slot : Slot σ) (state : S) (ctx : ActorContext σ) :
    Prop :=
  Startable ctx → ∀ store, actor.opened state ctx = some store →
    ∀ data, slot.entry store = some data → actor.Readable store data

theorem faithful_iff :
    actor.Faithful slot state ctx ↔ EntryReadable actor slot state ctx := by
  constructor
  · intro faithful startable store opens data entry
    have started := initState_ok startable opens
    by_contra unreadable
    obtain ⟨err, failed⟩ := (faithful store data opens entry).2 unreadable
    rw [started] at failed
    cases failed
  · intro readable store data opens entry
    by_cases startable : Startable ctx
    · obtain ⟨read, found, decoded⟩ := readable startable store opens data entry
      have started := initState_ok startable opens
      refine ⟨fun _ => ?_, fun unreadable => (unreadable ⟨read, found, decoded⟩).elim⟩
      rw [started]
      simp [loaded, read, decoded, Except.toOption]
    · obtain ⟨err, failed⟩ := initState_failed (.inl startable)
      rw [failed]
      exact ⟨nofun, fun _ => ⟨err, rfl⟩⟩

theorem traced_begun {handles : S → S → Prop} (readable : EntryReadable actor slot state ctx)
    {life : Life S σ} (begun : actor.Begun state ctx life) : actor.Traced slot handles life := by
  intro child found
  rw [Begun] at begun
  by_cases missing : ¬ Startable ctx ∨ actor.opened state ctx = none
  · obtain ⟨err, failed⟩ := initState_failed missing
    cases failed.symm.trans begun
  · obtain ⟨startable, opens⟩ := not_or.mp missing
    rw [not_not] at startable
    obtain ⟨store, opens⟩ := Option.ne_none_iff_exists'.mp opens
    have started := initState_ok startable opens
    rw [begun, Prod.mk.injEq, Prod.mk.injEq] at started
    obtain ⟨_, live, context⟩ := started
    rw [context] at found
    cases found
    refine { sent := fun message member => (List.not_mem_nil member).elim, ordered := ?_, lives := ?_ }
    · cases entry : slot.entry store <;> simp [pending, Child.started, BaseSnapshotter.new, entry]
    · intro data member
      have entry : slot.entry store = some data := by
        simpa [pending, Child.started, BaseSnapshotter.new] using member
      obtain ⟨read, found, decoded⟩ := readable startable store opens data entry
      rw [live]
      refine derived_decoded ?_
      simp [loaded, read, decoded, Except.toOption]

/-- `init_state` is faithful, and then no save replaces a snapshot but one its state
goes back to, exactly if the entry that it meets can be read and decoded. -/
theorem start_masks_nothing (slot : Slot σ) (handles : S → S → Prop) (state : S)
    (ctx : ActorContext σ) :
    (actor.Faithful slot state ctx ∧
      ∀ life, Runs.Guarded actor.move (actor.Begun state ctx) (Handled handles) life →
        actor.Unmasked slot handles life) ↔
      EntryReadable actor slot state ctx := by
  constructor
  · intro faithful
    exact faithful_iff.mp faithful.1
  · intro readable
    refine ⟨faithful_iff.mpr readable, ?_⟩
    intro life reached child found old entry new rest mailbox
    have traced : actor.Traced slot handles life :=
      Runs.guarded_invariant (actor.Traced slot handles)
        (fun life begun => traced_begun readable begun)
        (fun life label after traced permitted taken => traced_move traced permitted taken) reached
    exact (traced child found).replaces entry mailbox

end StartUp

def tally : SnapshotActor UInt8 where
  typeName := "Tally"
  id _ := "votes"
  toVec count := .ok [count]
  fromSlice
    | [count] => .ok count
    | _ => .error "invalid length"

/-- A snapshot of two bytes, which `tally` cannot decode. -/
def tornStore : FjallStore :=
  { name := "Tally-Snapshotter", keyPrefix := "votes",
    keyspace := { noEntry with entries := noEntry.entries.insert (keyBytes "votes" 0) [1, 2] } }

def tornHost : ActorContext FjallStore :=
  { path := "/user/tally", storage := some fun _ _ => .ok tornStore, childFault := fun _ => none,
    files := .noFiles, journal := none, snapshotter := none }

theorem torn_entry : fjallSlot.entry tornStore = some [1, 2] := by
  change (noEntry.entries.insert (keyBytes "votes" 0) [1, 2])[keyBytes "votes" 0]? = _
  rw [OrderedMap.lookup_insert, if_pos rfl]

/-- `init_state` returns `Ok` over a snapshot that it could not decode, and the next
save replaces it. -/
theorem torn_snapshot_masked :
    ¬ tally.Faithful fjallSlot 0 tornHost ∧
    ¬ ∀ life, Runs.Guarded tally.move (tally.Begun 0 tornHost) (Handled fun _ _ => False) life →
      tally.Unmasked fjallSlot (fun _ _ => False) life := by
  have startable : Startable tornHost := ⟨rfl, rfl⟩
  have opens : tally.opened 0 tornHost = some tornStore := rfl
  have started := initState_ok startable opens
  have undecodable : ¬ tally.Readable tornStore [1, 2] := fun readable => nomatch readable.2
  constructor
  · intro faithful
    exact undecodable (faithful_iff.mp faithful startable tornStore opens [1, 2] torn_entry)
  · intro claimed
    have kept : tally.loaded 0 tornStore = 0 := by
      cases read : Store.get tornStore 0 with
      | error err => simp [loaded, read, Except.toOption]
      | ok data =>
          cases (fjallSlot.get_ok read).symm.trans torn_entry
          simp [loaded, read, Except.toOption, tally]
    rw [kept] at started
    have begun : tally.Begun 0 tornHost
        { live := 0, ctx := { tornHost with snapshotter := some (.started (.new tornStore)) } } :=
      started
    have reached : Runs.Guarded tally.move (tally.Begun 0 tornHost) (Handled fun _ _ => False) _ :=
      .next _ Move.save (.start begun) (show True from trivial) rfl
    obtain ⟨state, written, origin, taken, _⟩ := claimed _ reached
      { state := .new tornStore, mailbox := [.saveSnapshot 0 [0]], running := true } rfl
      [1, 2] torn_entry [0] [] rfl
    rcases taken with decoded | encoded
    · cases decoded
    · cases encoded

end SnapshotActor

end Rush.Storage
