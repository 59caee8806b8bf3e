import Mathlib

/-! Broadcast channels, by what a receiver may rely on. It gets the values that are sent after
it was made, in their order, or is told how many it has missed; it comes to the end when no
sender is left, and does not wait there. How much a channel keeps is its own matter. -/

namespace Rush.Library

inductive Receipt (α : Type) where
  | value (item : α)
  | lagged (missed : Nat)
  | closed
  deriving DecidableEq

variable {α : Type}

/-- What a channel may answer to a receiver, by the position that this one has come to among
all that was sent, and the position after it. -/
inductive Receives (sent : List α) (closed : Bool) (next : Nat) : Receipt α → Nat → Prop
  | value {item : α} (present : sent[next]? = some item) :
      Receives sent closed next (.value item) (next + 1)
  | lagged {missed : Nat} (positive : 0 < missed) (within : next + missed ≤ sent.length) :
      Receives sent closed next (.lagged missed) (next + missed)
  | closed (drained : sent.length ≤ next) (last : closed = true) :
      Receives sent closed next .closed next

/-- A channel, by its answers to the receivers that do not have to wait. -/
structure Broadcast (α : Type) where
  recv : (sent : List α) → (closed : Bool) → (next : Nat) → Option (Receipt α × Nat)
  answers : ∀ {sent : List α} {closed : Bool} {next position : Nat} {receipt : Receipt α},
    recv sent closed next = some (receipt, position) → Receives sent closed next receipt position
  ready : ∀ {sent : List α} {closed : Bool} {next : Nat},
    closed = true ∨ next < sent.length → (recv sent closed next).isSome

theorem Receives.closer {sent : List α} {closed : Bool} {next position : Nat} {receipt : Receipt α}
    (receives : Receives sent closed next receipt position) (goesOn : receipt ≠ .closed) :
    sent.length - position < sent.length - next := by
  cases receives with
  | value present =>
      obtain ⟨within, _⟩ := List.getElem?_eq_some_iff.mp present
      omega
  | lagged positive within => omega
  | closed => exact absurd rfl goesOn

theorem Receives.onward {sent : List α} {closed : Bool} {next position : Nat} {receipt : Receipt α}
    (receives : Receives sent closed next receipt position) : next ≤ position := by
  cases receives with
  | value | lagged | closed => omega

def Broadcast.keeping (capacity : Nat) : Broadcast α where
  recv sent closed next :=
    if next < sent.length - capacity then
      some (.lagged (sent.length - capacity - next), sent.length - capacity)
    else
      match sent[next]? with
      | some item => some (.value item, next + 1)
      | none => if closed then some (.closed, next) else none
  answers := by
    intro sent closed next position receipt received
    split at received
    case isTrue behind =>
      cases received
      have oldest : sent.length - capacity = next + (sent.length - capacity - next) := by omega
      have lagged : Receives sent closed next (.lagged (sent.length - capacity - next))
          (next + (sent.length - capacity - next)) := .lagged (by omega) (by omega)
      rw [← oldest] at lagged
      exact lagged
    case isFalse =>
      split at received
      case h_1 item present =>
        cases received
        exact .value present
      case h_2 absent =>
        rw [Option.ite_none_right_eq_some] at received
        obtain ⟨last, received⟩ := received
        cases received
        exact .closed (List.getElem?_eq_none_iff.mp absent) last
  ready := by
    intro sent closed next waits
    split
    case isTrue => rfl
    case isFalse =>
      split
      case h_1 => rfl
      case h_2 absent =>
        have drained := List.getElem?_eq_none_iff.mp absent
        rw [if_pos (waits.resolve_right (by omega))]
        rfl

end Rush.Library
