import Mathlib

/-! Bounded first-in first-out channels. The bound is a field of the channel, so
no value of the type holds more than its capacity. -/

namespace Rush.Library

structure Channel (α : Type) where
  capacity : Nat
  queue : List α
  bounded : queue.length ≤ capacity

namespace Channel

variable {α : Type}

def empty (capacity : Nat) : Channel α := ⟨capacity, [], Nat.zero_le capacity⟩

def send (channel : Channel α) (value : α) : Option (Channel α) :=
  if room : channel.queue.length < channel.capacity then
    some ⟨channel.capacity, channel.queue ++ [value], by
      rw [List.length_append, List.length_singleton]
      exact room⟩
  else none

def receive (channel : Channel α) : Option (α × Channel α) :=
  match channel with
  | ⟨_, [], _⟩ => none
  | ⟨capacity, value :: rest, bounded⟩ =>
      some (value, ⟨capacity, rest, Nat.le_of_succ_le bounded⟩)

theorem send_queue {channel after : Channel α} {value : α}
    (sent : channel.send value = some after) : after.queue = channel.queue ++ [value] := by
  simp only [send, Option.dite_none_right_eq_some, Option.some.injEq] at sent
  obtain ⟨_, rfl⟩ := sent
  rfl

theorem receive_some {channel : Channel α} (filled : 0 < channel.queue.length) :
    ∃ received, channel.receive = some received := by
  match channel, filled with
  | ⟨_, _ :: _, _⟩, _ => exact ⟨_, rfl⟩

theorem receive_queue {channel after : Channel α} {value : α}
    (received : channel.receive = some (value, after)) : channel.queue = value :: after.queue := by
  match channel, received with
  | ⟨_, _ :: _, _⟩, received =>
      simp only [receive, Option.some.injEq, Prod.mk.injEq] at received
      obtain ⟨rfl, rfl⟩ := received
      rfl

end Channel

section FinalOnly

variable {α : Type} {final : α}

def FinalOnly (final : α) (queue : List α) : Prop :=
  ∀ front back, queue = front ++ final :: back → back = []

theorem finalOnly_of_absent {queue : List α} (absent : final ∉ queue) :
    FinalOnly final queue := by
  intro front back split
  exact absurd (split ▸ List.mem_append_right front List.mem_cons_self) absent

theorem finalOnly_send {queue : List α} (absent : final ∉ queue) :
    FinalOnly final (queue ++ [final]) := by
  intro front back split
  rcases List.eq_nil_or_concat back with rfl | ⟨body, last, rfl⟩
  · rfl
  · rw [List.concat_eq_append, ← List.cons_append, ← List.append_assoc] at split
    have before := (List.append_inj' split rfl).1
    exact absurd (before ▸ List.mem_append_right front List.mem_cons_self) absent

theorem finalOnly_receive {value : α} {rest : List α} (only : FinalOnly final (value :: rest)) :
    FinalOnly final rest := by
  intro front back split
  exact only (value :: front) back (by rw [split, List.cons_append])

theorem finalOnly_front {rest : List α} (only : FinalOnly final (final :: rest)) : rest = [] :=
  only [] rest rfl

end FinalOnly

end Rush.Library
