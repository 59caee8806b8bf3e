import Rush.Storage.SnapshotActor

/-! The names of the stores. An actor's stores are those of its type's name, shortened
at the last `::`, and of its id. -/

namespace Rush.Storage

open Rush.Actor
open scoped List

def beforeColons : List Char → List Char
  | [] => []
  | ':' :: ':' :: _ => []
  | char :: rest => char :: beforeColons rest

/-- `type_name`: the first part that `rsplit("::")` gives of the qualified name. -/
def typeName (qualified : String) : String :=
  String.ofList (beforeColons qualified.toList.reverse).reverse

inductive StoreKind where
  | journal
  | snapshotter
  deriving DecidableEq, Repr

def StoreKind.suffix : StoreKind → String
  | .journal => "-Journal"
  | .snapshotter => "-Snapshotter"

/-- One use of a store: by an actor of the type with this qualified name. -/
structure StoreUse where
  qualified : String
  id : String
  kind : StoreKind
  deriving DecidableEq, Repr

namespace StoreUse

/-- The keyspace name and the prefix that `create_stores` and `create_store` ask for. -/
def storeOf (use : StoreUse) : String × String :=
  (typeName use.qualified ++ use.kind.suffix, use.id)

/-- The keyspace and the key under which an entry is kept. -/
def entryOf (use : StoreUse) (key : UInt64) : String × Bytes :=
  (use.storeOf.1, keyBytes use.storeOf.2 key)

end StoreUse

section Chosen

variable {S E σ : Type} [Store σ] {qualified : String} {ctx after : ActorContext σ} {state : S}

theorem createStores_chosen {actor : PersistentActor S E} (named : actor.typeName = typeName qualified)
    (created : actor.createStores state ctx = (.ok (), after)) :
    ∃ manager journalStore snapshotterStore, ctx.storage = some manager ∧
      Function.uncurry manager (StoreUse.storeOf ⟨qualified, actor.id state, .journal⟩) =
        .ok journalStore ∧
      Function.uncurry manager (StoreUse.storeOf ⟨qualified, actor.id state, .snapshotter⟩) =
        .ok snapshotterStore ∧
      after.journal = some (.started (.new journalStore, ctx.files)) ∧
      after.snapshotter = some (.started (.new snapshotterStore)) := by
  have journalName : actor.journalName = typeName qualified ++ StoreKind.journal.suffix :=
    congrArg (· ++ "-Journal") named
  have snapshotterName : actor.snapshotterName = typeName qualified ++ StoreKind.snapshotter.suffix :=
    congrArg (· ++ "-Snapshotter") named
  unfold PersistentActor.createStores at created
  split at created
  case h_1 => cases created
  case h_2 manager storage =>
    split at created
    case h_1 => cases created
    case h_2 journalStore opened =>
      split at created
      case h_1 => cases created
      case h_2 snapshotterStore openedSnapshotter =>
        split at created
        case h_1 => cases created
        case h_2 =>
          simp only at created
          split at created
          case h_1 => cases created
          case h_2 =>
            cases created
            rw [journalName] at opened
            rw [snapshotterName] at openedSnapshotter
            exact ⟨manager, journalStore, snapshotterStore, storage, opened, openedSnapshotter, rfl, rfl⟩

omit [Store σ] in
theorem createStore_chosen {actor : SnapshotActor S} (named : actor.typeName = typeName qualified)
    (created : actor.createStore state ctx = (.ok (), after)) :
    ∃ manager store, ctx.storage = some manager ∧
      Function.uncurry manager (StoreUse.storeOf ⟨qualified, actor.id state, .snapshotter⟩) =
        .ok store ∧
      after.snapshotter = some (.started (.new store)) := by
  have snapshotterName : actor.snapshotterName = typeName qualified ++ StoreKind.snapshotter.suffix :=
    congrArg (· ++ "-Snapshotter") named
  unfold SnapshotActor.createStore at created
  split at created
  case h_1 => cases created
  case h_2 manager storage =>
    split at created
    case h_1 => cases created
    case h_2 store opened =>
      split at created
      case h_1 => cases created
      case h_2 =>
        cases created
        rw [snapshotterName] at opened
        exact ⟨manager, store, storage, opened, rfl⟩

end Chosen

section Endings

def Colons (text : List Char) : Prop := [':', ':'] <:+: text

/-- An ending is all of a name without a double colon, or what stands behind the last
double colon of the name. -/
def Ending (name ending : List Char) : Prop :=
  name = ending ∧ ¬ Colons ending ∨
    (∃ path, name = path ++ ':' :: ':' :: ending) ∧ ¬ Colons (':' :: ending)

theorem colons_cons {char : Char} {text : List Char} :
    Colons (char :: text) ↔ (char = ':' ∧ ∃ rest, text = ':' :: rest) ∨ Colons text := by
  rw [Colons, Colons, List.infix_cons_iff, List.cons_prefix_cons]
  refine or_congr_left (and_congr eq_comm ?_)
  constructor
  · rintro ⟨rest, shape⟩
    exact ⟨rest, shape.symm⟩
  · rintro ⟨rest, shape⟩
    exact ⟨rest, shape.symm⟩

theorem colons_reverse {text : List Char} : Colons text.reverse ↔ Colons text := by
  have same : ([':', ':'] : List Char) = [':', ':'].reverse := rfl
  rw [Colons, same, List.reverse_infix]
  rfl

theorem ending_reverse (text front : List Char) :
    Ending text.reverse front.reverse ↔
      text = front ∧ ¬ Colons front ∨
        (∃ rest, text = front ++ ':' :: ':' :: rest) ∧ ¬ Colons (front ++ [':']) := by
  have whole : text.reverse = front.reverse ↔ text = front := List.reverse_inj
  have last : ':' :: front.reverse = (front ++ [':']).reverse := by simp
  have split : (∃ path, text.reverse = path ++ ':' :: ':' :: front.reverse) ↔
      ∃ rest, text = front ++ ':' :: ':' :: rest := by
    constructor
    · rintro ⟨path, shape⟩
      exact ⟨path.reverse, by rw [← List.reverse_inj, shape]; simp⟩
    · rintro ⟨rest, rfl⟩
      exact ⟨rest.reverse, by simp⟩
  rw [Ending, whole, split, last, colons_reverse, colons_reverse]

theorem beforeColons_iff (text front : List Char) :
    (text = front ∧ ¬ Colons front ∨
      (∃ rest, text = front ++ ':' :: ':' :: rest) ∧ ¬ Colons (front ++ [':'])) ↔
      beforeColons text = front := by
  induction text using beforeColons.induct generalizing front with
  | case1 =>
      rw [beforeColons]
      constructor
      · rintro (⟨whole, _⟩ | ⟨⟨rest, shape⟩, _⟩)
        · exact whole
        · simp at shape
      · rintro rfl
        exact .inl ⟨rfl, by simp [Colons]⟩
  | case2 rest =>
      rw [beforeColons]
      constructor
      · rintro (⟨rfl, plain⟩ | ⟨⟨back, shape⟩, plain⟩)
        · exact absurd ⟨[], rest, rfl⟩ plain
        · match front, shape, plain with
          | [], _, _ => rfl
          | [_], shape, plain =>
              cases shape
              exact absurd ⟨[], [], rfl⟩ plain
          | _ :: _ :: front, shape, plain =>
              cases shape
              exact absurd ⟨[], front ++ [':'], rfl⟩ plain
      · rintro rfl
        refine .inr ⟨⟨rest, rfl⟩, ?_⟩
        rintro ⟨path, back, shape⟩
        have length := congrArg List.length shape
        simp at length
        omega
  | case3 char rest single ih =>
      have apart {text : List Char} (colons : Colons (char :: text))
          (same : text.head? = rest.head?) : Colons text := by
        rcases colons_cons.mp colons with ⟨colon, tail, shape⟩ | inside
        · obtain ⟨back, shape⟩ := List.head?_eq_some_iff.mp (same.symm.trans (by rw [shape]; rfl))
          exact (single back colon shape).elim
        · exact inside
      have goesOn : beforeColons (char :: rest) = char :: beforeColons rest := by
        rw [beforeColons]
        exact single
      rw [goesOn]
      constructor
      · rintro (⟨rfl, plain⟩ | ⟨⟨back, shape⟩, plain⟩)
        · rw [(ih rest).mp (.inl ⟨rfl, fun colons => plain (colons_cons.mpr (.inr colons))⟩)]
        · cases front with
          | nil =>
              cases shape
              exact (single back rfl rfl).elim
          | cons first front =>
              cases shape
              rw [(ih front).mp (.inr ⟨⟨back, rfl⟩, fun colons =>
                plain (colons_cons.mpr (.inr colons))⟩)]
      · rintro rfl
        rcases (ih _).mpr rfl with ⟨whole, plain⟩ | ⟨⟨back, shape⟩, plain⟩
        · exact .inl ⟨congrArg _ whole, fun colons => plain (apart colons (congrArg _ whole.symm))⟩
        · refine .inr ⟨⟨back, congrArg _ shape⟩, fun colons => plain (apart colons ?_)⟩
          rw [congrArg List.head? shape]
          cases beforeColons rest <;> rfl

theorem ending_iff (name ending : List Char) :
    Ending name ending ↔ (beforeColons name.reverse).reverse = ending := by
  have backwards := ending_reverse name.reverse ending.reverse
  rw [List.reverse_reverse, List.reverse_reverse] at backwards
  rw [backwards, beforeColons_iff, List.reverse_eq_iff]

theorem typeName_iff (qualified ending : String) :
    typeName qualified = ending ↔ Ending qualified.toList ending.toList := by
  rw [ending_iff, typeName, ← String.toList_inj, String.toList_ofList]

end Endings

def EndingsApart (types : Set String) : Prop :=
  ∀ name ∈ types, ∀ other ∈ types, ∀ ending,
    Ending name.toList ending → Ending other.toList ending → name = other

theorem endingsApart_iff (types : Set String) : EndingsApart types ↔ Set.InjOn typeName types := by
  constructor
  · intro apart name member other memberOther same
    exact apart name member other memberOther _ ((typeName_iff name _).mp rfl)
      ((typeName_iff other _).mp same.symm)
  · intro injective name member other memberOther ending ends endsOther
    have first := (ending_iff _ _).mp ends
    have second := (ending_iff _ _).mp endsOther
    exact injective member memberOther (congrArg String.ofList (first.trans second.symm))

namespace StoreUse

theorem suffix_cancel {left right : String} {kind other : StoreKind}
    (same : left ++ kind.suffix = right ++ other.suffix) : left = right ∧ kind = other := by
  have texts := congrArg String.toList same
  rw [String.toList_append, String.toList_append] at texts
  have last := congrArg List.getLast? texts
  cases kind <;> cases other
  case journal.journal => exact ⟨String.toList_inj.mp (List.append_cancel_right texts), rfl⟩
  case snapshotter.snapshotter =>
    exact ⟨String.toList_inj.mp (List.append_cancel_right texts), rfl⟩
  case journal.snapshotter => simp [StoreKind.suffix] at last
  case snapshotter.journal => simp [StoreKind.suffix] at last

theorem storeOf_injOn {types : Set String} :
    Set.InjOn storeOf {use | use.qualified ∈ types} ↔ Set.InjOn typeName types := by
  constructor
  · intro injective name member other memberOther same
    have uses := @injective ⟨name, "", .journal⟩ member ⟨other, "", .journal⟩ memberOther
      (by rw [storeOf, storeOf, same])
    exact congrArg StoreUse.qualified uses
  · rintro injective ⟨name, id, kind⟩ member ⟨other, otherId, otherKind⟩ memberOther same
    obtain ⟨names, rfl⟩ := Prod.mk.inj same
    obtain ⟨names, rfl⟩ := suffix_cancel names
    obtain rfl := injective member memberOther names
    rfl

theorem entryOf_eq {use other : StoreUse} {key otherKey : UInt64} :
    use.entryOf key = other.entryOf otherKey ↔ use.storeOf = other.storeOf ∧ key = otherKey := by
  rw [entryOf, entryOf, Prod.mk.injEq, keyBytes_inj, Prod.ext_iff, and_assoc]

/-- The stores of different uses, and the places of their entries, are different exactly
if no two of the types' names have an ending in common. -/
theorem stores_distinct (types : Set String) :
    (Set.InjOn storeOf {use | use.qualified ∈ types} ∧
      ∀ use other : StoreUse, use.qualified ∈ types → other.qualified ∈ types → use ≠ other →
        ∀ key otherKey, use.entryOf key ≠ other.entryOf otherKey) ↔
      EndingsApart types := by
  rw [endingsApart_iff, ← storeOf_injOn]
  constructor
  · exact And.left
  · intro injective
    refine ⟨injective, ?_⟩
    intro use other member memberOther different key otherKey same
    exact different (injective member memberOther (entryOf_eq.mp same).1)

/-- Two types of one name in different modules, and two with one generic argument. -/
theorem accounts_share_store :
    ¬ Function.Injective storeOf ∧
      storeOf ⟨"bank::Account<ids::Id>", "1", .journal⟩ =
        storeOf ⟨"shop::Cart<ids::Id>", "1", .journal⟩ := by
  refine ⟨fun injective => ?_, by decide⟩
  have same := @injective ⟨"bank::accounts::Account", "1", .journal⟩
    ⟨"shop::accounts::Account", "1", .journal⟩ (by decide)
  exact absurd same (by decide)

end StoreUse

end Rush.Storage
