import Mathlib

/-! Attempts made in a row until one succeeds, up to a limit. Attempts are
numbered from one. -/

namespace Rush.Library.Attempts

variable {ε α : Type}

/-- The number of the first attempt that succeeds. -/
noncomputable def firstSuccess (attempt : Nat → Except ε α) : ℕ∞ :=
  ⨅ number : { n : Nat // 0 < n ∧ (attempt n).isOk }, (number.1 : ℕ∞)

/-- How many attempts are made: up to the first success, and no more than the limit. -/
noncomputable def made (attempt : Nat → Except ε α) (limit : Nat) : Nat :=
  (min (firstSuccess attempt) limit).toNat

def AllFailed (attempt : Nat → Except ε α) (count : Nat) : Prop :=
  ∀ n, 0 < n → n ≤ count → (attempt n).isOk = false

variable {attempt : Nat → Except ε α} {count limit : Nat}

theorem allFailed_zero : AllFailed attempt 0 := by
  intro n positive bound
  omega

theorem allFailed_succ (failed : AllFailed attempt count)
    (next : (attempt (count + 1)).isOk = false) : AllFailed attempt (count + 1) := by
  intro n positive bound
  rcases Nat.lt_or_eq_of_le bound with before | rfl
  · exact failed n positive (Nat.le_of_lt_succ before)
  · exact next

theorem lt_firstSuccess (failed : AllFailed attempt count) : (count : ℕ∞) < firstSuccess attempt := by
  have next : ((count + 1 : Nat) : ℕ∞) ≤ firstSuccess attempt := by
    apply le_iInf
    rintro ⟨n, positive, succeeded⟩
    rw [Nat.cast_le]
    by_contra early
    have within : n ≤ count := Nat.lt_succ_iff.mp (Nat.lt_of_not_le early)
    rw [failed n positive within] at succeeded
    cases succeeded
  exact lt_of_lt_of_le (Nat.cast_lt.mpr (Nat.lt_succ_self count)) next

theorem firstSuccess_eq (failed : AllFailed attempt count) (succeeded : (attempt (count + 1)).isOk) :
    firstSuccess attempt = (count + 1 : Nat) := by
  apply le_antisymm
  · exact iInf_le (fun number : { n : Nat // 0 < n ∧ (attempt n).isOk } => (number.1 : ℕ∞))
      ⟨count + 1, Nat.succ_pos count, succeeded⟩
  · rw [Nat.cast_succ]
    exact Order.add_one_le_of_lt (lt_firstSuccess failed)

theorem firstSuccess_le (within : count < limit) (failed : AllFailed attempt count)
    (succeeded : (attempt (count + 1)).isOk) : firstSuccess attempt ≤ limit := by
  rw [firstSuccess_eq failed succeeded]
  exact Nat.cast_le.mpr within

theorem made_succeeded (within : count < limit) (failed : AllFailed attempt count)
    (succeeded : (attempt (count + 1)).isOk) : made attempt limit = count + 1 := by
  have bound : ((count + 1 : Nat) : ℕ∞) ≤ limit := Nat.cast_le.mpr within
  rw [made, firstSuccess_eq failed succeeded, min_eq_left bound, ENat.toNat_natCast]

theorem made_le (attempt : Nat → Except ε α) (limit : Nat) : made attempt limit ≤ limit := by
  have bound : min (firstSuccess attempt) (limit : ℕ∞) ≤ limit := min_le_right _ _
  exact ENat.toNat_le_of_le_natCast bound

theorem made_exhausted (failed : AllFailed attempt limit) : made attempt limit = limit := by
  rw [made, min_eq_right (lt_firstSuccess failed).le, ENat.toNat_natCast]

theorem lt_made (within : count < limit) (failed : AllFailed attempt count) :
    count < made attempt limit := by
  have bound : (count : ℕ∞) < limit := Nat.cast_lt.mpr within
  have finite : min (firstSuccess attempt) (limit : ℕ∞) ≠ ⊤ :=
    ne_top_of_le_ne_top (ENat.natCast_ne_top limit) (min_le_right _ _)
  rw [made, ← Nat.cast_lt (α := ℕ∞), ENat.natCast_toNat finite]
  exact lt_min (lt_firstSuccess failed) bound

end Rush.Library.Attempts
