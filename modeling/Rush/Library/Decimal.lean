import Mathlib

/-! Zero-padded decimal text as ASCII bytes: its value, and when the byte order
of two texts is the numeric order of the numbers they spell. -/

namespace Rush.Library.Decimal

/-- The `width` low decimal digits of `n`, most significant first. -/
def fixed : Nat → Nat → List UInt8
  | 0, _ => []
  | width + 1, n => fixed width (n / 10) ++ [UInt8.ofNat (48 + n % 10)]

def digitCount (n : Nat) : Nat := Nat.log 10 n + 1

def padded (width n : Nat) : List UInt8 := fixed (max width (digitCount n)) n

def digitValue (b : UInt8) : Option Nat :=
  if 48 ≤ b.toNat ∧ b.toNat ≤ 57 then some (b.toNat - 48) else none

def pushDigit (value : Option Nat) (b : UInt8) : Option Nat :=
  value.bind fun v => (digitValue b).map (10 * v + ·)

/-- The number a digit text spells, or `none` at the first byte that is no digit. -/
def value (text : List UInt8) : Option Nat := text.foldl pushDigit (some 0)

theorem digit_toNat (d : Nat) (h : d < 10) : (UInt8.ofNat (48 + d)).toNat = 48 + d := by
  rw [UInt8.toNat_ofNat']
  omega

theorem fixed_length (width n : Nat) : (fixed width n).length = width := by
  induction width generalizing n with
  | zero => rfl
  | succ width ih => simp [fixed, ih]

theorem fixed_mem_range (width n : Nat) (b : UInt8) (member : b ∈ fixed width n) :
    48 ≤ b.toNat ∧ b.toNat ≤ 57 := by
  induction width generalizing n with
  | zero => simp [fixed] at member
  | succ width ih =>
      simp only [fixed, List.mem_append, List.mem_singleton] at member
      rcases member with front | rfl
      · exact ih (n / 10) front
      · rw [digit_toNat _ (Nat.mod_lt _ (by decide))]
        omega

theorem digitValue_digit (d : Nat) (h : d < 10) :
    digitValue (UInt8.ofNat (48 + d)) = some d := by
  simp only [digitValue, digit_toNat d h]
  rw [if_pos (by omega)]
  simp

theorem value_fixed (width n : Nat) : value (fixed width n) = some (n % 10 ^ width) := by
  induction width generalizing n with
  | zero => simp [fixed, value, Nat.mod_one]
  | succ width ih =>
      have front : (fixed width (n / 10)).foldl pushDigit (some 0) =
          some (n / 10 % 10 ^ width) := ih (n / 10)
      simp only [fixed, value, List.foldl_append, List.foldl_cons, List.foldl_nil, front,
        pushDigit, Option.bind_some, digitValue_digit _ (Nat.mod_lt n (by decide : 0 < 10)),
        Option.map_some]
      rw [pow_succ, Nat.mul_comm (10 ^ width) 10, Nat.mod_mul, Nat.add_comm]

theorem lt_pow_digitCount (n : Nat) : n < 10 ^ digitCount n :=
  Nat.lt_pow_succ_log_self (by decide) n

theorem lt_pow_width (width n : Nat) : n < 10 ^ max width (digitCount n) :=
  lt_of_lt_of_le (lt_pow_digitCount n) (Nat.pow_le_pow_right (by decide) (le_max_right _ _))

theorem fixed_zero (width : Nat) : fixed width 0 = List.replicate width 48 := by
  induction width with
  | zero => rfl
  | succ width ih =>
      rw [fixed, Nat.zero_div, ih, List.replicate_succ']
      rfl

theorem fixed_append (front width n : Nat) :
    fixed (front + width) n = fixed front (n / 10 ^ width) ++ fixed width n := by
  induction width generalizing n with
  | zero => simp [fixed]
  | succ width ih =>
      rw [← Nat.add_assoc, fixed, fixed, ih, Nat.div_div_eq_div_mul, ← pow_succ', List.append_assoc]

theorem digit_char (d : Nat) (h : d < 10) :
    Char.ofNat (UInt8.ofNat (48 + d)).toNat = d.digitChar := by
  interval_cases d <;> rfl

theorem fixed_digitCount_chars (n : Nat) :
    (fixed (digitCount n) n).map (fun b => Char.ofNat b.toNat) = Nat.toDigits 10 n := by
  induction n using Nat.strongRecOn with
  | ind n ih =>
      by_cases small : n < 10
      · have one : digitCount n = 1 := by
          rw [digitCount, Nat.log_of_lt small]
        rw [one, Nat.toDigits_of_lt_base small, fixed, fixed, List.nil_append, List.map_singleton,
          digit_char _ (Nat.mod_lt _ (by decide)), Nat.mod_eq_of_lt small]
      · have large : 10 ≤ n := Nat.le_of_not_lt small
        have shorter : digitCount n = digitCount (n / 10) + 1 := by
          rw [digitCount, digitCount, Nat.log_of_one_lt_of_le (by decide) large]
        rw [shorter, Nat.toDigits_of_base_le (by decide) large, fixed, List.map_append,
          ih _ (Nat.div_lt_self (by omega) (by decide)), List.map_singleton,
          digit_char _ (Nat.mod_lt _ (by decide))]

theorem padded_chars (width n : Nat) :
    (padded width n).map (fun b => Char.ofNat b.toNat) =
      List.replicate (width - (Nat.toDigits 10 n).length) '0' ++ Nat.toDigits 10 n := by
  have length : (Nat.toDigits 10 n).length = digitCount n := by
    rw [← fixed_digitCount_chars, List.length_map, fixed_length]
  have split : max width (digitCount n) = (width - digitCount n) + digitCount n := by omega
  rw [padded, split, fixed_append, List.map_append, fixed_digitCount_chars, length,
    Nat.div_eq_of_lt (lt_pow_digitCount n), fixed_zero, List.map_replicate]
  rfl

theorem value_padded (width n : Nat) : value (padded width n) = some n := by
  rw [padded, value_fixed, Nat.mod_eq_of_lt (lt_pow_width width n)]

theorem padded_ne_nil (width n : Nat) : padded width n ≠ [] := by
  have count : 0 < digitCount n := Nat.succ_pos _
  intro empty
  have length := congrArg List.length empty
  rw [padded, fixed_length] at length
  simp only [List.length_nil] at length
  omega

theorem padded_mem_range (width n : Nat) (b : UInt8) (member : b ∈ padded width n) :
    48 ≤ b.toNat ∧ b.toNat ≤ 57 :=
  fixed_mem_range _ n b member

theorem digitCount_le {width n : Nat} (wide : 0 < width) (bound : n < 10 ^ width) :
    digitCount n ≤ width := by
  by_cases zero : n = 0
  · subst zero
    rw [digitCount, Nat.log_zero_right]
    exact wide
  · exact Nat.log_lt_of_lt_pow zero bound

theorem compare_append_left {α : Type} [Ord α] [Std.ReflOrd α] (front x y : List α) :
    compare (front ++ x) (front ++ y) = compare x y := by
  induction front with
  | nil => rfl
  | cons head tail ih =>
      rw [List.cons_append, List.cons_append, List.compare_cons_cons, Std.ReflOrd.compare_self, ih]
      rfl

theorem compare_append_singleton {α : Type} [Ord α] (x y : List α) (c d : α)
    (length : x.length = y.length) :
    compare (x ++ [c]) (y ++ [d]) = (compare x y).then (compare c d) := by
  induction x generalizing y with
  | nil =>
      obtain rfl := List.eq_nil_of_length_eq_zero length.symm
      simp only [List.nil_append, List.compare_cons_cons]
      cases compare c d <;> rfl
  | cons head tail ih =>
      cases y with
      | nil => simp at length
      | cons head' tail' =>
          simp only [List.cons_append, List.compare_cons_cons]
          rw [ih tail' (by simpa using length)]
          cases compare head head' <;> rfl

theorem compare_digit (c d : Nat) (hc : c < 10) (hd : d < 10) :
    compare (UInt8.ofNat (48 + c)) (UInt8.ofNat (48 + d)) = compare c d := by
  have left := digit_toNat c hc
  have right := digit_toNat d hd
  rcases Nat.lt_trichotomy c d with less | rfl | more
  · rw [Nat.compare_eq_lt.mpr less, Std.compare_eq_lt, UInt8.lt_iff_toNat_lt]
    omega
  · simp
  · rw [Nat.compare_eq_gt.mpr more, Std.compare_eq_gt, UInt8.lt_iff_toNat_lt]
    omega

theorem compare_fixed (width a b : Nat) (ha : a < 10 ^ width) (hb : b < 10 ^ width) :
    compare (fixed width a) (fixed width b) = compare a b := by
  induction width generalizing a b with
  | zero =>
      obtain rfl : a = 0 := by simpa using ha
      obtain rfl : b = 0 := by simpa using hb
      rfl
  | succ width ih =>
      have below (n : Nat) (hn : n < 10 ^ (width + 1)) : n / 10 < 10 ^ width := by
        rw [Nat.div_lt_iff_lt_mul (by decide)]
        simpa [pow_succ] using hn
      have lengths : (fixed width (a / 10)).length = (fixed width (b / 10)).length := by
        simp only [fixed_length]
      rw [fixed, fixed, compare_append_singleton _ _ _ _ lengths,
        ih _ _ (below a ha) (below b hb),
        compare_digit _ _ (Nat.mod_lt _ (by decide)) (Nat.mod_lt _ (by decide))]
      rcases Nat.lt_trichotomy (a / 10) (b / 10) with less | same | more
      · rw [Nat.compare_eq_lt.mpr less, Nat.compare_eq_lt.mpr (by omega : a < b)]
        rfl
      · rw [Nat.compare_eq_eq.mpr same]
        rcases Nat.lt_trichotomy (a % 10) (b % 10) with low | equal | high
        · rw [Nat.compare_eq_lt.mpr low, Nat.compare_eq_lt.mpr (by omega : a < b)]
          rfl
        · rw [Nat.compare_eq_eq.mpr equal, Nat.compare_eq_eq.mpr (by omega : a = b)]
          rfl
        · rw [Nat.compare_eq_gt.mpr high, Nat.compare_eq_gt.mpr (by omega : b < a)]
          rfl
      · rw [Nat.compare_eq_gt.mpr more, Nat.compare_eq_gt.mpr (by omega : b < a)]
        rfl

theorem fixed_add (front width n : Nat) :
    fixed (front + width) n = fixed front (n / 10 ^ width) ++ fixed width n := by
  induction width generalizing n with
  | zero => simp [fixed]
  | succ width ih =>
      have leading : n / 10 / 10 ^ width = n / 10 ^ (width + 1) := by
        rw [Nat.div_div_eq_div_mul, pow_succ, Nat.mul_comm]
      rw [← Nat.add_assoc, fixed, ih, leading, fixed, List.append_assoc]

theorem compare_append_longer {α : Type} [Ord α] (x y extra : List α)
    (length : x.length = y.length) (more : extra ≠ []) :
    compare x (y ++ extra) = (compare x y).then .lt := by
  induction x generalizing y with
  | nil =>
      obtain rfl := List.eq_nil_of_length_eq_zero length.symm
      cases extra with
      | nil => exact absurd rfl more
      | cons head tail => rfl
  | cons head tail ih =>
      cases y with
      | nil => simp at length
      | cons head' tail' =>
          simp only [List.cons_append, List.compare_cons_cons]
          rw [ih tail' (by simpa using length)]
          cases compare head head' <;> rfl

/-- Of two numbers the smaller has the smaller text exactly when it is at most
the number that the greater text spells within the smaller one's width. -/
theorem compare_padded {width a b : Nat} (less : a < b) :
    compare (padded width a) (padded width b) = .lt ↔
      a ≤ b / 10 ^ (max width (digitCount b) - max width (digitCount a)) := by
  have digits : digitCount a ≤ digitCount b := Nat.succ_le_succ (Nat.log_mono_right less.le)
  obtain ⟨extra, wider⟩ := Nat.exists_eq_add_of_le (max_le_max_left width digits)
  have small := lt_pow_width width a
  have large := lt_pow_width width b
  rw [padded, padded, wider, Nat.add_sub_cancel_left]
  rw [wider] at large
  cases extra with
  | zero =>
      rw [Nat.add_zero, compare_fixed _ _ _ small large, pow_zero, Nat.div_one,
        Nat.compare_eq_lt]
      exact ⟨le_of_lt, fun _ => less⟩
  | succ extra =>
      have front : b / 10 ^ (extra + 1) < 10 ^ max width (digitCount a) := by
        rw [Nat.div_lt_iff_lt_mul (Nat.pow_pos (by decide)), ← pow_add]
        exact large
      have more : fixed (extra + 1) b ≠ [] := by
        intro empty
        have length := congrArg List.length empty
        rw [fixed_length] at length
        cases length
      rw [fixed_add, compare_append_longer _ _ _ (by simp only [fixed_length]) more,
        compare_fixed _ _ _ small front]
      rcases Nat.lt_trichotomy a (b / 10 ^ (extra + 1)) with below | same | above
      · rw [Nat.compare_eq_lt.mpr below]
        exact ⟨fun _ => below.le, fun _ => rfl⟩
      · rw [Nat.compare_eq_eq.mpr same]
        exact ⟨fun _ => same.le, fun _ => rfl⟩
      · rw [Nat.compare_eq_gt.mpr above]
        constructor
        · intro impossible
          cases impossible
        · intro within
          omega

end Rush.Library.Decimal
