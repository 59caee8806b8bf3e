import Rush.Storage.Fjall
import Rush.Storage.JournalModel

/-! The arithmetic on sequence numbers. A journal's counter wraps in 64 bits; beside it
runs a count without bound, of the last key found at the opening and the puts since. -/

namespace Rush.Storage

structure Numbering (σ : Type) where
  journal : BaseJournal σ
  count : Nat

namespace Numbering

variable {σ : Type} [Store σ]

/-- `snapshot` takes the last sequence for a key, from which `init_state` goes on later. -/
inductive Move where
  | put (data : Bytes)
  | insert (sequence : UInt64) (data : Bytes)
  | reopen
  | snapshot
  deriving DecidableEq, Repr

def openingCount (store : σ) : Nat :=
  match Store.last store with
  | some (seq, _) => seq.toNat + 1
  | none => 0

def opened (store : σ) : Numbering σ := { journal := .new store, count := openingCount store }

def step (numbering : Numbering σ) : Move → Numbering σ
  | .put data =>
    let (result, journal) := numbering.journal.put data
    match result with
    | .ok () => { journal, count := numbering.count + 1 }
    | .error _ => { numbering with journal }
  | .insert sequence data =>
    { numbering with journal := (numbering.journal.insert sequence data).2 }
  | .reopen => opened numbering.journal.store
  | .snapshot => numbering

def OpeningFits (store : σ) : Prop :=
  ∀ seq data, Store.last store = some (seq, data) → seq.toNat + 1 < UInt64.size

/-- No addition or subtraction on sequence numbers leaves the range in this step: in a
put that returns `Ok` the counter's increment and the decrement of the answer, in a
reopening the addition in `new`, and the one in `init_state` for the key of a snapshot. -/
def Fits (numbering : Numbering σ) : Move → Prop
  | .put data => ∀ journal, numbering.journal.put data = (.ok (), journal) →
      numbering.journal.nextSequence.toNat + 1 < UInt64.size ∧ 1 ≤ journal.nextSequence.toNat
  | .insert _ _ => True
  | .reopen => OpeningFits numbering.journal.store
  | .snapshot => numbering.journal.latestSequence.toNat + 1 < UInt64.size

def Each (holds : Numbering σ → Move → Prop) : Numbering σ → List Move → Prop
  | _, [] => True
  | numbering, move :: moves => holds numbering move ∧ Each holds (numbering.step move) moves

/-- The arithmetic of an opening and of all moves after it stays in range. -/
def ArithmeticFits (store : σ) (moves : List Move) : Prop :=
  OpeningFits store ∧ Each Fits (opened store) moves

/-- From each opening to the next, the number after the last key found then and the number
of events put since stay together in range. -/
def CountsFit (store : σ) (moves : List Move) : Prop :=
  openingCount store < UInt64.size ∧
    Each (fun numbering move => (numbering.step move).count < UInt64.size) (opened store) moves

def Exact (numbering : Numbering σ) : Prop :=
  numbering.journal.nextSequence.toNat = numbering.count

theorem openingFits_iff (store : σ) : OpeningFits store ↔ openingCount store < UInt64.size := by
  rw [OpeningFits, openingCount]
  cases last : Store.last store with
  | none => exact iff_of_true nofun (by decide)
  | some entry =>
      constructor
      · intro fits
        exact fits entry.1 entry.2 rfl
      · rintro fits seq data same
        obtain rfl := Option.some.inj same
        exact fits

theorem opened_exact {store : σ} (fits : openingCount store < UInt64.size) :
    (opened store).Exact := by
  rw [Exact, opened, openingCount, BaseJournal.new] at *
  cases last : Store.last store with
  | none => rfl
  | some entry =>
      rw [last] at fits
      exact toNat_succ fits

omit [Store σ] in
theorem latestSequence_fits (journal : BaseJournal σ) :
    journal.latestSequence.toNat + 1 < UInt64.size := by
  have bound := journal.nextSequence.toNat_lt_size
  rw [BaseJournal.latestSequence]
  split
  · decide
  · next positive =>
      have nonzero : journal.nextSequence.toNat ≠ 0 := fun zero =>
        positive (UInt64.toNat_inj.mp zero)
      have above : 1 ≤ journal.nextSequence := by
        rw [UInt64.le_iff_toNat_le, UInt64.toNat_one]
        omega
      rw [UInt64.toNat_sub_of_le _ _ above, UInt64.toNat_one]
      omega

theorem put_ok {journal after : BaseJournal σ} {data : Bytes}
    (done : journal.put data = (.ok (), after)) :
    after.nextSequence = journal.nextSequence + 1 := by
  rw [BaseJournal.put] at done
  split at done
  · cases done
  · cases done
    rfl

theorem put_failed {journal after : BaseJournal σ} {data : Bytes} {err : Actor.Error}
    (failed : journal.put data = (.error err, after)) :
    after.nextSequence = journal.nextSequence := by
  rw [BaseJournal.put] at failed
  split at failed
  · cases failed
    rfl
  · cases failed

theorem step_fits_iff {numbering : Numbering σ} (exact : numbering.Exact) (move : Move) :
    Fits numbering move ↔ (numbering.step move).count < UInt64.size := by
  have bound : numbering.count < UInt64.size := exact ▸ numbering.journal.nextSequence.toNat_lt_size
  cases move with
  | put data =>
      rcases putting : numbering.journal.put data with ⟨result, journal⟩
      simp only [Fits, step, putting]
      cases result with
      | error err => exact iff_of_true nofun bound
      | ok done =>
          rw [exact]
          constructor
          · intro fits
            exact (fits journal rfl).1
          · rintro fits after same
            obtain rfl : journal = after := (Prod.mk.inj same).2
            refine ⟨fits, ?_⟩
            rw [put_ok putting, toNat_succ (exact ▸ fits)]
            exact Nat.le_add_left _ _
  | insert sequence data => exact iff_of_true trivial bound
  | reopen => exact openingFits_iff _
  | snapshot => exact iff_of_true (latestSequence_fits _) bound

theorem step_exact {numbering : Numbering σ} (exact : numbering.Exact) {move : Move}
    (fits : (numbering.step move).count < UInt64.size) : (numbering.step move).Exact := by
  cases move with
  | put data =>
      rcases putting : numbering.journal.put data with ⟨result, journal⟩
      simp only [step, putting] at fits ⊢
      cases result with
      | error err => exact (congrArg UInt64.toNat (put_failed putting)).trans exact
      | ok done =>
          have next := toNat_succ (exact.symm ▸ fits)
          rw [Exact, put_ok putting, next, exact]
  | insert sequence data => exact exact
  | reopen => exact opened_exact fits
  | snapshot => exact exact

theorem each_fits_iff {numbering : Numbering σ} (exact : numbering.Exact) (moves : List Move) :
    Each Fits numbering moves ↔
      Each (fun numbering move => (numbering.step move).count < UInt64.size) numbering moves := by
  induction moves generalizing numbering with
  | nil => exact Iff.rfl
  | cons move moves ih =>
      rw [Each, Each, step_fits_iff exact]
      exact and_congr_right fun fits => ih (step_exact exact fits)

/-- Sequence arithmetic stays in range in exactly the runs whose counts do. -/
theorem arithmetic_fits_iff (store : σ) (moves : List Move) :
    ArithmeticFits store moves ↔ CountsFit store moves := by
  rw [ArithmeticFits, CountsFit, openingFits_iff]
  exact and_congr_right fun fits => each_fits_iff (opened_exact fits) moves

def votes : FjallStore := { name := "Tally-Journal", keyPrefix := "votes", keyspace := noEntry }

/-- An event inserted at the greatest number: the journal that is opened next starts again
at 0, and its first put replaces the first event. -/
theorem greatest_number_wraps :
    ¬ ArithmeticFits votes [.put [7], .insert 18446744073709551615 [1], .reopen, .put [9]] ∧
      stored ([Move.put [7], .insert 18446744073709551615 [1], .reopen, .put [9]].foldl step
        (opened votes)).journal.store 0 = some [9] := by
  constructor
  · intro claimed
    have fits := claimed.2.2.2.1
    exact absurd (fits 18446744073709551615 [1] (by decide +kernel)) (by decide)
  · decide +kernel

end Numbering

end Rush.Storage
