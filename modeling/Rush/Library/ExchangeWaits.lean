import Rush.Library.ExchangeReplies

/-! Who waits for whom in an exchange where the servers are tasks too: the order in
which a server accepts the letters of one task, waits for no server in particular,
which end, and circles of waiting servers, which never get out. -/

namespace Rush.Library

open Runs

namespace Channel

variable {α : Type}

theorem send_none {channel : Channel α} {value : α} :
    channel.send value = none ↔ channel.capacity ≤ channel.queue.length := by
  rw [send]
  split
  case isTrue room =>
    constructor
    · intro none
      cases none
    · intro full
      exact absurd room (not_lt.mpr full)
  case isFalse full => exact ⟨fun _ => not_lt.mp full, fun _ => rfl⟩

theorem receive_none {channel : Channel α} (none : channel.receive = none) : channel.queue = [] := by
  match channel, none with
  | ⟨_, [], _⟩, _ => rfl

theorem send_capacity {channel after : Channel α} {value : α}
    (sent : channel.send value = some after) : after.capacity = channel.capacity := by
  rw [send, Option.dite_none_right_eq_some] at sent
  obtain ⟨_, sent⟩ := sent
  cases sent
  rfl

theorem receive_capacity {channel after : Channel α} {value : α}
    (received : channel.receive = some (value, after)) : after.capacity = channel.capacity := by
  match channel, received with
  | ⟨_, _ :: _, _⟩, received =>
      cases received
      rfl

end Channel

def Op.server? {κ τ μ ρ : Type} : Op κ τ μ ρ → Option κ
  | .take server | .answer server _ | .close server => some server
  | _ => none

namespace Exchange

variable {κ τ μ ρ : Type} [DecidableEq κ] [DecidableEq τ]
variable {exchange after : Exchange κ τ μ ρ} {op : Op κ τ μ ρ}

theorem Moves.capacity (moves : exchange.Moves op after) (server : κ) :
    (after.inbox server).capacity = (exchange.inbox server).capacity := by
  have replaced {here : κ} {inbox : Channel (Letter μ)}
      (same : inbox.capacity = (exchange.inbox here).capacity) :
      (Function.update exchange.inbox here inbox server).capacity =
        (exchange.inbox server).capacity := by
    by_cases there : server = here
    · rw [there, Function.update_self, same]
    · rw [Function.update_of_ne there]
  cases moves with
  | accepted _ _ room => exact replaced (Channel.send_capacity room)
  | taken _ front => exact replaced (Channel.receive_capacity front)
  | closed => exact replaced rfl
  | _ => rfl

section Order

structure Ordered (exchange : Exchange κ τ μ ρ) : Prop where
  inOrder : ∀ server caller, (exchange.books.accepted server).Pairwise fun first second =>
    exchange.Issued caller server first → exchange.Issued caller server second →
      first.number < second.number
  latest : ∀ caller server letter, exchange.awaiting caller = some (.send server letter) →
    ∀ there second, exchange.Issued caller there second → second.number ≤ letter.number

omit [DecidableEq κ] in
theorem issue_issued_cases {caller other : τ} {server there : κ} {body : μ} {reply : Bool}
    {letter : Letter μ}
    (issued : (exchange.issue caller server body reply).Issued other there letter) :
    exchange.Issued other there letter ∨
      other = caller ∧ there = server ∧ letter = exchange.nextLetter body reply := by
  have issued : (exchange.books.issued ++ [⟨caller, server, exchange.nextLetter body reply⟩])[
    letter.number]? = some ⟨other, there, letter⟩ := issued
  by_cases within : letter.number < exchange.books.issued.length
  · rw [List.getElem?_append_left within] at issued
    exact .inl issued
  · rw [List.getElem?_append_right (not_lt.mp within), List.getElem?_singleton] at issued
    split at issued
    case isTrue last =>
      cases issued
      exact .inr ⟨rfl, rfl, rfl⟩
    case isFalse => cases issued

omit [DecidableEq κ] [DecidableEq τ] in
theorem ordered_congr (ordered : exchange.Ordered)
    (issued : after.books.issued = exchange.books.issued)
    (accepted : after.books.accepted = exchange.books.accepted)
    (awaiting : ∀ caller server letter, after.awaiting caller = some (.send server letter) →
      exchange.awaiting caller = some (.send server letter)) : after.Ordered := by
  have stays (caller : τ) (server : κ) (letter : Letter μ) :
      after.Issued caller server letter = exchange.Issued caller server letter := by
    rw [Issued, Issued, issued]
  constructor
  case inOrder => simpa only [accepted, stays] using ordered.inOrder
  case latest =>
    intro caller server letter waits there second issuedSecond
    exact ordered.latest caller server letter (awaiting caller server letter waits) there second
      (by rwa [stays] at issuedSecond)

omit [DecidableEq κ] in
theorem update_awaiting {awaiting : τ → Option (Await κ μ)} {caller other : τ} {await : Await κ μ}
    (waits : Function.update awaiting caller none other = some await) :
    other ≠ caller ∧ awaiting other = some await := by
  rwa [Function.update_apply, Option.ite_none_left_eq_some] at waits

theorem Ordered.moves (known : exchange.Known) (ordered : exchange.Ordered)
    (moves : exchange.Moves op after) : after.Ordered := by
  cases moves with
  | taken | answered | closed => exact ordered_congr ordered rfl rfl fun _ _ _ waits => waits
  | refused | collected | missed | unsent | abandoned =>
      exact ordered_congr ordered rfl rfl fun _ _ _ waits => (update_awaiting waits).2
  | @issued caller server body reply idle =>
      constructor
      case inOrder =>
        intro there other
        refine (ordered.inOrder there other).imp_of_mem ?_
        intro first second isIn alsoIn earlier issued again
        have old {letter : Letter μ} (present : letter ∈ exchange.books.accepted there)
            (issued : (exchange.issue caller server body reply).Issued other there letter) :
            exchange.Issued other there letter := by
          rcases issue_issued_cases issued with old | ⟨_, _, new⟩
          · exact old
          · obtain ⟨_, stands⟩ := known.accepted there letter present
            obtain ⟨within, _⟩ := List.getElem?_eq_some_iff.mp stands
            rw [new] at within
            exact absurd within (lt_irrefl _)
        exact earlier (old isIn issued) (old alsoIn again)
      case latest =>
        intro other there letter waits elsewhere second issued
        rw [show (exchange.issue caller server body reply).awaiting other =
          if other = caller then some (.send server (exchange.nextLetter body reply))
          else exchange.awaiting other from Function.update_apply ..] at waits
        split at waits
        case isTrue =>
          cases waits
          show second.number ≤ exchange.books.issued.length
          obtain ⟨within, _⟩ := List.getElem?_eq_some_iff.mp issued
          rw [show (exchange.issue caller server body reply).books.issued.length =
            exchange.books.issued.length + 1 from List.length_append] at within
          omega
        case isFalse different =>
          rcases issue_issued_cases issued with old | ⟨same, _⟩
          · exact ordered.latest other there letter waits elsewhere second old
          · exact absurd same different
  | @accepted caller server letter inbox waits =>
      obtain ⟨issuedHere, absent⟩ := known.sending caller server letter waits
      constructor
      case inOrder =>
        intro there other
        show (Function.update exchange.books.accepted server _ there).Pairwise _
        by_cases here : there = server
        · subst here
          rw [Function.update_self, List.pairwise_append]
          refine ⟨ordered.inOrder there other, List.pairwise_singleton _ _, ?_⟩
          intro first present second last issued again
          obtain rfl := List.mem_singleton.mp last
          obtain ⟨rfl, _⟩ := issued_unique again issuedHere rfl
          have upTo := ordered.latest other there second waits there first issued
          refine lt_of_le_of_ne upTo fun same => absent ?_
          obtain ⟨_, _, rfl⟩ := issued_unique issued issuedHere same
          exact present
        · rw [Function.update_of_ne here]
          exact ordered.inOrder there other
      case latest =>
        intro other there second also
        rw [show (exchange.accept caller server letter inbox).awaiting other =
          if other = caller then (if letter.reply then some (.reply letter.number) else none)
          else exchange.awaiting other from Function.update_apply ..] at also
        split at also
        case isTrue =>
          rw [Option.ite_none_right_eq_some] at also
          cases also.2
        case isFalse => exact ordered.latest other there second also

omit [DecidableEq κ] [DecidableEq τ] in
theorem ordered_new (capacity : Nat) : (new capacity : Exchange κ τ μ ρ).Ordered :=
  ⟨fun _ _ => .nil, fun _ _ _ waits => by cases waits⟩

end Order

inductive WaitsOn (exchange : Exchange κ τ μ ρ) (caller : τ) (server : κ) : Prop
  | room (letter : Letter μ) (waits : exchange.awaiting caller = some (.send server letter))
      (runs : exchange.shut server = false)
      (full : (exchange.inbox server).capacity ≤ (exchange.inbox server).queue.length)
  | reply (letter : Letter μ) (waits : exchange.awaiting caller = some (.reply letter.number))
      (issued : exchange.Issued caller server letter)
      (pending : exchange.replies letter.number = .pending)

omit [DecidableEq κ] [DecidableEq τ] in
theorem WaitsOn.holds (sound : exchange.Sound) {caller : τ} {server : κ}
    (waitsOn : exchange.WaitsOn caller server) (room : 0 < (exchange.inbox server).capacity) :
    exchange.shut server = false ∧ exchange.held server ≠ [] := by
  have running (some : exchange.held server ≠ []) : exchange.shut server = false :=
    Bool.eq_false_of_not_eq_true fun shut => some (sound.balanced.shut server shut)
  have some : exchange.held server ≠ [] := by
    cases waitsOn with
    | room letter waits runs full =>
        intro none
        rw [held, List.append_eq_nil_iff] at none
        rw [none.2, List.length_nil] at full
        omega
    | reply letter waits issued pending =>
        obtain ⟨there, second, same, also, present, asks⟩ :=
          sound.known.waiting caller letter.number waits
        obtain ⟨_, rfl, rfl⟩ := issued_unique issued also same.symm
        exact List.ne_nil_of_mem (sound.paired.pending_held sound.balanced present asks pending)
  exact ⟨running some, some⟩

theorem ready_of_free (sound : exchange.Sound) {caller : τ} {await : Await κ μ}
    (waits : exchange.awaiting caller = some await)
    (free : ∀ server, ¬ exchange.WaitsOn caller server) :
    ∃ op after, (op = .post caller ∨ op = .collect caller) ∧ exchange.apply op = some after := by
  cases await with
  | send server letter =>
      refine ⟨.post caller, ?_⟩
      cases shut : exchange.shut server with
      | true =>
          refine ⟨exchange.finish caller letter.number .refused, .inl rfl, ?_⟩
          simp only [Exchange.apply, waits, shut, if_true]
      | false =>
          cases room : (exchange.inbox server).send letter with
          | none => exact absurd (.room letter waits shut (Channel.send_none.mp room)) (free server)
          | some inbox =>
              refine ⟨exchange.accept caller server letter inbox, .inl rfl, ?_⟩
              simp only [Exchange.apply, waits, shut, room]
              rfl
  | reply number =>
      obtain ⟨server, letter, rfl, issued, _⟩ := sound.known.waiting caller number waits
      refine ⟨.collect caller, ?_⟩
      cases standing : exchange.replies letter.number with
      | pending => exact absurd (.reply letter waits issued standing) (free server)
      | receiverGone => exact absurd standing (sound.paired.waiting caller _ waits)
      | sent result =>
          refine ⟨exchange.finish caller letter.number (.answered result), .inr rfl, ?_⟩
          simp only [Exchange.apply, waits, standing]
      | senderGone =>
          refine ⟨exchange.finish caller letter.number .dropped, .inr rfl, ?_⟩
          simp only [Exchange.apply, waits, standing]

section Servers

variable {self : κ → τ}

def Disciplined (self : κ → τ) (exchange : Exchange κ τ μ ρ) (op : Op κ τ μ ρ) : Prop :=
  ∀ server, op.server? = some server → exchange.awaiting (self server) = none

/-- A set of servers of which each waits for another of the set. -/
def Knot (self : κ → τ) (members : Set κ) (exchange : Exchange κ τ μ ρ) : Prop :=
  ∀ server ∈ members, ∃ other ∈ members, exchange.WaitsOn (self server) other

omit [DecidableEq κ] [DecidableEq τ] in
theorem WaitsOn.waiting {caller : τ} {server : κ} (waitsOn : exchange.WaitsOn caller server) :
    exchange.awaiting caller ≠ none := by
  cases waitsOn with
  | room _ waits | reply _ waits =>
      rw [waits]
      exact Option.some_ne_none _

theorem WaitsOn.still (moves : exchange.Moves op after) {caller : τ} {server : κ}
    (waitsOn : exchange.WaitsOn caller server) (patient : op ≠ .withdraw caller) :
    after.awaiting caller = exchange.awaiting caller := by
  have others {other : τ} {await : Option (Await κ μ)} (apart : caller ≠ other) :
      Function.update exchange.awaiting other await caller = exchange.awaiting caller :=
    Function.update_of_ne apart _ _
  cases moves with
  | taken | answered | closed => rfl
  | issued idle =>
      refine others ?_
      rintro rfl
      exact waitsOn.waiting idle
  | accepted also _ room =>
      refine others ?_
      rintro rfl
      cases waitsOn with
      | room letter waits _ full =>
          cases waits.symm.trans also
          rw [Channel.send_none.mpr full] at room
          cases room
      | reply letter waits => cases waits.symm.trans also
  | refused also shut =>
      refine others ?_
      rintro rfl
      cases waitsOn with
      | room letter waits runs =>
          cases waits.symm.trans also
          exact absurd (runs.symm.trans shut) Bool.false_ne_true
      | reply letter waits => cases waits.symm.trans also
  | collected also sent =>
      refine others ?_
      rintro rfl
      cases waitsOn with
      | room letter waits => cases waits.symm.trans also
      | reply letter waits _ pending =>
          cases waits.symm.trans also
          cases pending.symm.trans sent
  | missed also gone =>
      refine others ?_
      rintro rfl
      cases waitsOn with
      | room letter waits => cases waits.symm.trans also
      | reply letter waits _ pending =>
          cases waits.symm.trans also
          cases pending.symm.trans gone
  | unsent | abandoned =>
      refine others ?_
      rintro rfl
      exact patient rfl

theorem WaitsOn.moves (sound : exchange.Sound) (moves : exchange.Moves op after) {caller : τ}
    {server : κ} (waitsOn : exchange.WaitsOn caller server) (rests : op.server? ≠ some server)
    (patient : op ≠ .withdraw caller) : after.WaitsOn caller server := by
  have still := waitsOn.still moves patient
  have grows := Grows.moves sound.balanced sound.known moves
  cases waitsOn with
  | room letter waits runs full =>
      rw [waits] at still
      have inbox {there : κ} (elsewhere : server ≠ there) (other : Channel (Letter μ)) :
          (Function.update exchange.inbox there other server).capacity ≤
            (Function.update exchange.inbox there other server).queue.length := by
        rw [Function.update_of_ne elsewhere]
        exact full
      cases moves with
      | @accepted _ there second changed _ _ fits =>
          have elsewhere : server ≠ there := by
            rintro rfl
            rw [Channel.send_none.mpr full] at fits
            cases fits
          exact .room letter still runs (inbox elsewhere changed)
      | @taken there second changed =>
          exact .room letter still runs (inbox (fun same => rests (congrArg some same.symm)) changed)
      | @closed there =>
          have elsewhere : server ≠ there := fun same => rests (congrArg some same.symm)
          exact .room letter still ((Function.update_of_ne elsewhere _ _).trans runs)
            (inbox elsewhere _)
      | _ => exact .room letter still runs full
  | reply letter waits issued pending =>
      rw [waits] at still
      have stands := grows.stillIssued issued
      have elsewhere {there : κ} (apart : server ≠ there) {second : Letter μ}
          (present : second ∈ exchange.held there) : letter.number ≠ second.number := by
        intro same
        obtain ⟨_, again⟩ := sound.known.accepted there second
          (sound.balanced.held_accepted present)
        exact apart (issued_unique issued again same).2.1
      cases moves with
      | @answered there second result serves =>
          have apart : server ≠ there := fun same => rests (congrArg some same.symm)
          have present : second ∈ exchange.held there := by
            rw [held, serves]
            exact List.mem_cons_self
          refine .reply letter still stands ?_
          show (if second.reply then Function.update _ _ _ else exchange.replies) letter.number = _
          split
          · rw [Function.update_of_ne (elsewhere apart present), pending]
          · exact pending
      | @closed there =>
          have apart : server ≠ there := fun same => rests (congrArg some same.symm)
          refine .reply letter still stands ((if_neg fun awaits => ?_).trans pending)
          obtain ⟨second, present, _, same⟩ := awaitsFrom_iff.mp awaits
          exact elsewhere apart present same.symm
      | @abandoned other number also =>
          have apart : caller ≠ other := by
            rintro rfl
            exact patient rfl
          have different := sound.known.apart also waits apart
          exact .reply letter still stands ((Function.update_of_ne different _ _).trans pending)
      | _ => exact .reply letter still stands pending

theorem Knot.moves (sound : exchange.Sound) (moves : exchange.Moves op after)
    (disciplined : exchange.Disciplined self op) {members : Set κ}
    (patient : ∀ server ∈ members, op ≠ .withdraw (self server))
    (knot : exchange.Knot self members) : after.Knot self members := by
  intro server member
  obtain ⟨other, otherMember, waitsOn⟩ := knot server member
  refine ⟨other, otherMember, waitsOn.moves sound moves ?_ (patient server member)⟩
  intro steps
  obtain ⟨_, _, waitsToo⟩ := knot other otherMember
  exact waitsToo.waiting (disciplined other steps)

end Servers

end Exchange

end Rush.Library
