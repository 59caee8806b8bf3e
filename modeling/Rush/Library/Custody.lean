import Mathlib

/-! Tokens that are handed over and never copied. Each lies in one place at most
and, once spent, in none. -/

namespace Rush.Library

@[ext] structure Custody (π τ : Type) where
  holds : π → Option τ
  minted : Set τ
  spent : Set τ

namespace Custody

variable {π τ : Type} [DecidableEq π]

def mint (custody : Custody π τ) (place : π) (token : τ) : Custody π τ :=
  { custody with
    holds := Function.update custody.holds place (some token)
    minted := insert token custody.minted }

def handOver (custody : Custody π τ) (source target : π) : Custody π τ :=
  { custody with
    holds := Function.update (Function.update custody.holds target (custody.holds source))
      source none }

def drop (custody : Custody π τ) (place : π) : Custody π τ :=
  { custody with holds := Function.update custody.holds place none }

def spend (custody : Custody π τ) (place : π) (token : τ) : Custody π τ :=
  { custody.drop place with spent := insert token custody.spent }

theorem mint_holds (custody : Custody π τ) (place : π) (token : τ) (other : π) :
    (custody.mint place token).holds other =
      if other = place then some token else custody.holds other :=
  Function.update_apply _ _ _ _

theorem handOver_holds (custody : Custody π τ) (source target other : π) :
    (custody.handOver source target).holds other =
      if other = source then none
      else if other = target then custody.holds source else custody.holds other := by
  show Function.update (Function.update custody.holds target (custody.holds source)) source none
    other = _
  rw [Function.update_apply, Function.update_apply]

theorem drop_holds (custody : Custody π τ) (place other : π) :
    (custody.drop place).holds other = if other = place then none else custody.holds other :=
  Function.update_apply _ _ _ _

inductive Step (before : Custody π τ) : Custody π τ → Prop
  | mint (place : π) (token : τ) (fresh : token ∉ before.minted) :
      Step before (before.mint place token)
  | handOver (source target : π) (apart : source ≠ target) :
      Step before (before.handOver source target)
  | drop (place : π) : Step before (before.drop place)
  | spend (place : π) (token : τ) (held : before.holds place = some token) :
      Step before (before.spend place token)

structure Exclusive (custody : Custody π τ) : Prop where
  unique : ∀ place other token, custody.holds place = some token →
    custody.holds other = some token → place = other
  known : ∀ place token, custody.holds place = some token → token ∈ custody.minted
  unspent : ∀ place token, custody.holds place = some token → token ∉ custody.spent
  spentKnown : custody.spent ⊆ custody.minted

variable {before after : Custody π τ}

omit [DecidableEq π] in
theorem Exclusive.shrink (exclusive : before.Exclusive)
    (fewer : ∀ place token, after.holds place = some token → before.holds place = some token)
    (minted : after.minted = before.minted) (spent : after.spent = before.spent) :
    after.Exclusive := by
  constructor
  case unique =>
    intro place other token here there
    exact exclusive.unique place other token (fewer _ _ here) (fewer _ _ there)
  case known =>
    intro place token here
    rw [minted]
    exact exclusive.known place token (fewer _ _ here)
  case unspent =>
    intro place token here
    rw [spent]
    exact exclusive.unspent place token (fewer _ _ here)
  case spentKnown =>
    rw [minted, spent]
    exact exclusive.spentKnown

theorem drop_held {place other : π} {token : τ} (custody : Custody π τ)
    (held : (custody.drop place).holds other = some token) :
    other ≠ place ∧ custody.holds other = some token := by
  rw [drop_holds] at held
  by_cases here : other = place
  · rw [if_pos here] at held
    cases held
  · rw [if_neg here] at held
    exact ⟨here, held⟩

theorem exclusive_mint (exclusive : before.Exclusive) (place : π) {token : τ}
    (fresh : token ∉ before.minted) : (before.mint place token).Exclusive := by
  have held {here : π} {found : τ} (at_here : (before.mint place token).holds here = some found) :
      here = place ∧ found = token ∨ here ≠ place ∧ before.holds here = some found := by
    rw [mint_holds] at at_here
    by_cases same : here = place
    · rw [if_pos same] at at_here
      exact .inl ⟨same, (Option.some.inj at_here).symm⟩
    · rw [if_neg same] at at_here
      exact .inr ⟨same, at_here⟩
  constructor
  case unique =>
    intro here other found first second
    rcases held first with ⟨same, rfl⟩ | ⟨_, old⟩
    · rcases held second with ⟨same', _⟩ | ⟨_, old'⟩
      · rw [same, same']
      · exact absurd (exclusive.known _ _ old') fresh
    · rcases held second with ⟨_, rfl⟩ | ⟨_, old'⟩
      · exact absurd (exclusive.known _ _ old) fresh
      · exact exclusive.unique _ _ _ old old'
  case known =>
    intro here found at_here
    rcases held at_here with ⟨_, rfl⟩ | ⟨_, old⟩
    · exact Set.mem_insert _ _
    · exact Set.mem_insert_of_mem _ (exclusive.known _ _ old)
  case unspent =>
    intro here found at_here
    rcases held at_here with ⟨_, rfl⟩ | ⟨_, old⟩
    · exact fun spent => fresh (exclusive.spentKnown spent)
    · exact exclusive.unspent _ _ old
  case spentKnown => exact exclusive.spentKnown.trans (Set.subset_insert _ _)

theorem exclusive_handOver (exclusive : before.Exclusive) {source target : π}
    (apart : source ≠ target) : (before.handOver source target).Exclusive := by
  have held {here : π} {found : τ} (at_here : (before.handOver source target).holds here = some found) :
      here ≠ source ∧ (here = target ∧ before.holds source = some found ∨
        here ≠ target ∧ before.holds here = some found) := by
    rw [handOver_holds] at at_here
    by_cases left : here = source
    · rw [if_pos left] at at_here
      cases at_here
    · rw [if_neg left] at at_here
      by_cases arrived : here = target
      · rw [if_pos arrived] at at_here
        exact ⟨left, .inl ⟨arrived, at_here⟩⟩
      · rw [if_neg arrived] at at_here
        exact ⟨left, .inr ⟨arrived, at_here⟩⟩
  constructor
  case unique =>
    intro here other found first second
    obtain ⟨gone, old⟩ := held first
    obtain ⟨gone', old'⟩ := held second
    rcases old with ⟨rfl, moved⟩ | ⟨_, kept⟩
    · rcases old' with ⟨rfl, _⟩ | ⟨_, kept'⟩
      · rfl
      · exact absurd (exclusive.unique _ _ _ moved kept').symm gone'
    · rcases old' with ⟨_, moved'⟩ | ⟨_, kept'⟩
      · exact absurd (exclusive.unique _ _ _ kept moved') gone
      · exact exclusive.unique _ _ _ kept kept'
  case known =>
    intro here found at_here
    rcases (held at_here).2 with ⟨_, moved⟩ | ⟨_, kept⟩
    · exact exclusive.known _ _ moved
    · exact exclusive.known _ _ kept
  case unspent =>
    intro here found at_here
    rcases (held at_here).2 with ⟨_, moved⟩ | ⟨_, kept⟩
    · exact exclusive.unspent _ _ moved
    · exact exclusive.unspent _ _ kept
  case spentKnown => exact exclusive.spentKnown

theorem exclusive_drop (exclusive : before.Exclusive) (place : π) :
    (before.drop place).Exclusive :=
  exclusive.shrink (fun _ _ held => (drop_held before held).2) rfl rfl

theorem exclusive_spend (exclusive : before.Exclusive) {place : π} {token : τ}
    (held : before.holds place = some token) : (before.spend place token).Exclusive := by
  have dropped := exclusive_drop exclusive place
  constructor
  case unique => exact dropped.unique
  case known => exact dropped.known
  case unspent =>
    intro here found at_here
    obtain ⟨elsewhere, old⟩ := drop_held before at_here
    rintro (rfl | spent)
    · exact elsewhere (exclusive.unique _ _ _ old held)
    · exact exclusive.unspent _ _ old spent
  case spentKnown =>
    exact Set.insert_subset (exclusive.known _ _ held) exclusive.spentKnown

theorem exclusive_steps (exclusive : before.Exclusive) (steps : Relation.ReflTransGen Step before after) :
    after.Exclusive := by
  induction steps with
  | refl => exact exclusive
  | tail _ last ih =>
      cases last with
      | mint place token fresh => exact exclusive_mint ih place fresh
      | handOver source target apart => exact exclusive_handOver ih apart
      | drop place => exact exclusive_drop ih place
      | spend place token held => exact exclusive_spend ih held

end Custody

end Rush.Library
