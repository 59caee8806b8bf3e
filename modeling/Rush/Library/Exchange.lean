import Rush.Library.Channel
import Rush.Library.Runs

/-! Letters between tasks. A server has one bounded inbox and takes one letter at a
time; a letter may ask for a reply, which comes over a channel for one value. The
books record what happened and decide nothing but the number of the next letter. -/

namespace Rush.Library

inductive Oneshot (ρ : Type) where
  | pending
  | sent (value : ρ)
  | senderGone
  | receiverGone
  deriving DecidableEq

namespace Oneshot

variable {ρ : Type}

def send (channel : Oneshot ρ) (value : ρ) : Oneshot ρ :=
  match channel with
  | .pending => .sent value
  | other => other

def dropSender : Oneshot ρ → Oneshot ρ
  | .pending => .senderGone
  | other => other

end Oneshot

/-- `reply` says that the sending end of a reply channel is in the letter. -/
structure Letter (μ : Type) where
  number : Nat
  body : μ
  reply : Bool
  deriving DecidableEq

/-- What a task waits for: room in an inbox, or the reply to a letter. -/
inductive Await (κ μ : Type) where
  | send (server : κ) (letter : Letter μ)
  | reply (number : Nat)
  deriving DecidableEq

inductive Ending (ρ : Type) where
  /-- Accepted, and no reply was asked for. -/
  | told
  /-- The server was shut before there was room. -/
  | refused
  /-- The server was shut before it had answered. -/
  | dropped
  | answered (result : ρ)
  /-- The task gave up waiting. -/
  | withdrawn
  deriving DecidableEq

structure Issue (κ τ μ : Type) where
  caller : τ
  server : κ
  letter : Letter μ
  deriving DecidableEq

structure Books (κ τ μ ρ : Type) where
  /-- The letters written, each at its number. -/
  issued : List (Issue κ τ μ) := []
  /-- The letters put in the inbox of a server, in their order. -/
  accepted : κ → List (Letter μ) := fun _ => []
  served : κ → List (Letter μ × ρ) := fun _ => []
  /-- The letters that a server left when it was shut. -/
  lost : κ → List (Letter μ) := fun _ => []
  endings : Nat → Option (Ending ρ) := fun _ => none

structure Exchange (κ τ μ ρ : Type) where
  inbox : κ → Channel (Letter μ)
  serving : κ → Option (Letter μ)
  shut : κ → Bool
  replies : Nat → Oneshot ρ
  awaiting : τ → Option (Await κ μ)
  books : Books κ τ μ ρ

inductive Op (κ τ μ ρ : Type) where
  | issue (caller : τ) (server : κ) (body : μ) (reply : Bool)
  /-- The wait for room ends. -/
  | post (caller : τ)
  | take (server : κ)
  | answer (server : κ) (result : ρ)
  | close (server : κ)
  /-- The wait for a reply ends. -/
  | collect (caller : τ)
  | withdraw (caller : τ)

namespace Exchange

variable {κ τ μ ρ : Type} [DecidableEq κ] [DecidableEq τ]

def new (capacity : Nat) : Exchange κ τ μ ρ where
  inbox := fun _ => .empty capacity
  serving := fun _ => none
  shut := fun _ => false
  replies := fun _ => .pending
  awaiting := fun _ => none
  books := {}

section Moves

variable (exchange : Exchange κ τ μ ρ)

def setAwait (caller : τ) (await : Option (Await κ μ)) : Exchange κ τ μ ρ :=
  { exchange with awaiting := Function.update exchange.awaiting caller await }

def setReply (number : Nat) (reply : Oneshot ρ) : Exchange κ τ μ ρ :=
  { exchange with replies := Function.update exchange.replies number reply }

def finish (caller : τ) (number : Nat) (ending : Ending ρ) : Exchange κ τ μ ρ :=
  { exchange.setAwait caller none with
    books :=
      { exchange.books with
        endings := Function.update exchange.books.endings number (some ending) } }

def nextLetter (body : μ) (reply : Bool) : Letter μ := ⟨exchange.books.issued.length, body, reply⟩

def issue (caller : τ) (server : κ) (body : μ) (reply : Bool) : Exchange κ τ μ ρ :=
  let letter := exchange.nextLetter body reply
  { exchange.setAwait caller (some (.send server letter)) with
    books :=
      { exchange.books with issued := exchange.books.issued ++ [⟨caller, server, letter⟩] } }

def accept (caller : τ) (server : κ) (letter : Letter μ) (inbox : Channel (Letter μ)) :
    Exchange κ τ μ ρ :=
  { exchange with
    inbox := Function.update exchange.inbox server inbox
    awaiting := Function.update exchange.awaiting caller
      (if letter.reply then some (.reply letter.number) else none)
    books :=
      { exchange.books with
        accepted := Function.update exchange.books.accepted server
          (exchange.books.accepted server ++ [letter])
        endings :=
          if letter.reply then exchange.books.endings
          else Function.update exchange.books.endings letter.number (some .told) } }

def take (server : κ) (letter : Letter μ) (inbox : Channel (Letter μ)) : Exchange κ τ μ ρ :=
  { exchange with
    inbox := Function.update exchange.inbox server inbox
    serving := Function.update exchange.serving server (some letter) }

def answer (server : κ) (letter : Letter μ) (result : ρ) : Exchange κ τ μ ρ :=
  { exchange with
    serving := Function.update exchange.serving server none
    replies :=
      if letter.reply then
        Function.update exchange.replies letter.number
          ((exchange.replies letter.number).send result)
      else exchange.replies
    books :=
      { exchange.books with
        served := Function.update exchange.books.served server
          (exchange.books.served server ++ [(letter, result)]) } }

def held (server : κ) : List (Letter μ) :=
  (exchange.serving server).toList ++ (exchange.inbox server).queue

def awaitsFrom (server : κ) (number : Nat) : Bool :=
  (exchange.held server).any fun letter => letter.reply && letter.number = number

def close (server : κ) : Exchange κ τ μ ρ :=
  { exchange with
    inbox := Function.update exchange.inbox server (.empty (exchange.inbox server).capacity)
    serving := Function.update exchange.serving server none
    shut := Function.update exchange.shut server true
    replies := fun number =>
      if exchange.awaitsFrom server number then (exchange.replies number).dropSender
      else exchange.replies number
    books :=
      { exchange.books with
        lost := Function.update exchange.books.lost server (exchange.held server) } }

end Moves

def apply (exchange : Exchange κ τ μ ρ) : Op κ τ μ ρ → Option (Exchange κ τ μ ρ)
  | .issue caller server body reply =>
      match exchange.awaiting caller with
      | none => some (exchange.issue caller server body reply)
      | some _ => none
  | .post caller =>
      match exchange.awaiting caller with
      | some (.send server letter) =>
          if exchange.shut server then some (exchange.finish caller letter.number .refused)
          else ((exchange.inbox server).send letter).map (exchange.accept caller server letter)
      | _ => none
  | .take server =>
      match exchange.serving server with
      | none =>
          (exchange.inbox server).receive.map fun (letter, inbox) =>
            exchange.take server letter inbox
      | some _ => none
  | .answer server result =>
      (exchange.serving server).map fun letter => exchange.answer server letter result
  | .close server => if exchange.shut server then none else some (exchange.close server)
  | .collect caller =>
      match exchange.awaiting caller with
      | some (.reply number) =>
          match exchange.replies number with
          | .sent result => some (exchange.finish caller number (.answered result))
          | .senderGone => some (exchange.finish caller number .dropped)
          | _ => none
      | _ => none
  | .withdraw caller =>
      match exchange.awaiting caller with
      | some (.send _ letter) => some (exchange.finish caller letter.number .withdrawn)
      | some (.reply number) =>
          some ((exchange.setReply number .receiverGone).finish caller number .withdrawn)
      | none => none

inductive Moves (exchange : Exchange κ τ μ ρ) : Op κ τ μ ρ → Exchange κ τ μ ρ → Prop
  | issued {caller : τ} {server : κ} {body : μ} {reply : Bool}
      (idle : exchange.awaiting caller = none) :
      Moves exchange (.issue caller server body reply) (exchange.issue caller server body reply)
  | accepted {caller : τ} {server : κ} {letter : Letter μ} {inbox : Channel (Letter μ)}
      (waits : exchange.awaiting caller = some (.send server letter))
      (runs : exchange.shut server = false)
      (room : (exchange.inbox server).send letter = some inbox) :
      Moves exchange (.post caller) (exchange.accept caller server letter inbox)
  | refused {caller : τ} {server : κ} {letter : Letter μ}
      (waits : exchange.awaiting caller = some (.send server letter))
      (shut : exchange.shut server = true) :
      Moves exchange (.post caller) (exchange.finish caller letter.number .refused)
  | taken {server : κ} {letter : Letter μ} {inbox : Channel (Letter μ)}
      (idle : exchange.serving server = none)
      (front : (exchange.inbox server).receive = some (letter, inbox)) :
      Moves exchange (.take server) (exchange.take server letter inbox)
  | answered {server : κ} {letter : Letter μ} {result : ρ}
      (busy : exchange.serving server = some letter) :
      Moves exchange (.answer server result) (exchange.answer server letter result)
  | closed {server : κ} (runs : exchange.shut server = false) :
      Moves exchange (.close server) (exchange.close server)
  | collected {caller : τ} {number : Nat} {result : ρ}
      (waits : exchange.awaiting caller = some (.reply number))
      (sent : exchange.replies number = .sent result) :
      Moves exchange (.collect caller) (exchange.finish caller number (.answered result))
  | missed {caller : τ} {number : Nat}
      (waits : exchange.awaiting caller = some (.reply number))
      (gone : exchange.replies number = .senderGone) :
      Moves exchange (.collect caller) (exchange.finish caller number .dropped)
  | unsent {caller : τ} {server : κ} {letter : Letter μ}
      (waits : exchange.awaiting caller = some (.send server letter)) :
      Moves exchange (.withdraw caller) (exchange.finish caller letter.number .withdrawn)
  | abandoned {caller : τ} {number : Nat}
      (waits : exchange.awaiting caller = some (.reply number)) :
      Moves exchange (.withdraw caller)
        ((exchange.setReply number .receiverGone).finish caller number .withdrawn)

theorem apply_moves {exchange after : Exchange κ τ μ ρ} {op : Op κ τ μ ρ}
    (applied : exchange.apply op = some after) : exchange.Moves op after := by
  cases op with
  | issue caller server body reply =>
      rw [apply] at applied
      split at applied
      case h_1 idle =>
        cases applied
        exact .issued idle
      case h_2 => cases applied
  | post caller =>
      rw [apply] at applied
      split at applied
      case h_1 server letter waits =>
        split at applied
        case isTrue shut =>
          cases applied
          exact .refused waits shut
        case isFalse runs =>
          obtain ⟨inbox, room, rfl⟩ := Option.map_eq_some_iff.mp applied
          exact .accepted waits (Bool.eq_false_of_not_eq_true runs) room
      case h_2 => cases applied
  | take server =>
      rw [apply] at applied
      split at applied
      case h_1 idle =>
        obtain ⟨⟨letter, inbox⟩, front, rfl⟩ := Option.map_eq_some_iff.mp applied
        exact .taken idle front
      case h_2 => cases applied
  | answer server result =>
      obtain ⟨letter, busy, rfl⟩ := Option.map_eq_some_iff.mp applied
      exact .answered busy
  | close server =>
      rw [apply] at applied
      split at applied
      case isTrue => cases applied
      case isFalse runs =>
        cases applied
        exact .closed (Bool.eq_false_of_not_eq_true runs)
  | collect caller =>
      rw [apply] at applied
      split at applied
      case h_1 number waits =>
        split at applied
        case h_1 result sent =>
          cases applied
          exact .collected waits sent
        case h_2 gone =>
          cases applied
          exact .missed waits gone
        case h_3 => cases applied
      case h_2 => cases applied
  | withdraw caller =>
      rw [apply] at applied
      split at applied
      case h_1 server letter waits =>
        cases applied
        exact .unsent waits
      case h_2 number waits =>
        cases applied
        exact .abandoned waits
      case h_3 => cases applied

end Exchange

end Rush.Library
