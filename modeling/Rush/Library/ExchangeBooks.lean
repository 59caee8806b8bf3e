import Rush.Library.Exchange

/-! What the books of an exchange say, over any run: where every letter is, which
task waits for it, and how its reply channel stands. -/

namespace Rush.Library

open Runs

def Await.number {κ μ : Type} : Await κ μ → Nat
  | .send _ letter => letter.number
  | .reply number => number

namespace Exchange

variable {κ τ μ ρ : Type} [DecidableEq κ] [DecidableEq τ]
variable {exchange after : Exchange κ τ μ ρ} {op : Op κ τ μ ρ}

/-- The accepted letters of a server are the ones it has served, holds and has lost, in
the order in which it accepted them. -/
structure Balanced (exchange : Exchange κ τ μ ρ) : Prop where
  accounted : ∀ server, exchange.books.accepted server =
    (exchange.books.served server).map Prod.fst ++ exchange.held server ++
      exchange.books.lost server
  runs : ∀ server, exchange.shut server = false → exchange.books.lost server = []
  shut : ∀ server, exchange.shut server = true → exchange.held server = []

omit [DecidableEq κ] [DecidableEq τ] in
theorem balanced_congr (balanced : exchange.Balanced) (inbox : after.inbox = exchange.inbox)
    (serving : after.serving = exchange.serving) (shut : after.shut = exchange.shut)
    (accepted : after.books.accepted = exchange.books.accepted)
    (served : after.books.served = exchange.books.served)
    (lost : after.books.lost = exchange.books.lost) : after.Balanced := by
  have held (server : κ) : after.held server = exchange.held server := by
    rw [Exchange.held, Exchange.held, inbox, serving]
  constructor
  case accounted => exact fun server => by rw [accepted, served, lost, held, balanced.accounted]
  case runs => exact fun server => by rw [shut, lost]; exact balanced.runs server
  case shut => exact fun server => by rw [shut, held]; exact balanced.shut server

omit [DecidableEq τ] in
theorem balanced_at (balanced : exchange.Balanced) (here : κ)
    (elsewhere : ∀ server, server ≠ here →
      after.held server = exchange.held server ∧ after.shut server = exchange.shut server ∧
        after.books.accepted server = exchange.books.accepted server ∧
        after.books.served server = exchange.books.served server ∧
        after.books.lost server = exchange.books.lost server)
    (accounted : after.books.accepted here =
      (after.books.served here).map Prod.fst ++ after.held here ++ after.books.lost here)
    (runs : after.shut here = false → after.books.lost here = [])
    (shut : after.shut here = true → after.held here = []) : after.Balanced := by
  constructor
  case accounted =>
    intro server
    by_cases same : server = here
    · rw [same, accounted]
    · obtain ⟨held, _, accepted, served, lost⟩ := elsewhere server same
      rw [held, accepted, served, lost, balanced.accounted]
  case runs =>
    intro server
    by_cases same : server = here
    · rw [same]
      exact runs
    · obtain ⟨_, shut, _, _, lost⟩ := elsewhere server same
      rw [shut, lost]
      exact balanced.runs server
  case shut =>
    intro server
    by_cases same : server = here
    · rw [same]
      exact shut
    · obtain ⟨held, shut, _⟩ := elsewhere server same
      rw [shut, held]
      exact balanced.shut server

theorem held_accept (caller : τ) {server : κ} {letter : Letter μ} {inbox : Channel (Letter μ)}
    (room : (exchange.inbox server).send letter = some inbox) (other : κ) :
    (exchange.accept caller server letter inbox).held other =
      if other = server then exchange.held server ++ [letter] else exchange.held other := by
  show (exchange.serving other).toList ++
    (Function.update exchange.inbox server inbox other).queue = _
  by_cases same : other = server
  · subst same
    rw [if_pos rfl, Function.update_self, Channel.send_queue room, ← List.append_assoc, held]
  · rw [if_neg same, Function.update_of_ne same, held]

omit [DecidableEq τ] in
theorem held_take {server : κ} {letter : Letter μ} {inbox : Channel (Letter μ)}
    (idle : exchange.serving server = none)
    (front : (exchange.inbox server).receive = some (letter, inbox)) (other : κ) :
    (exchange.take server letter inbox).held other = exchange.held other := by
  show (Function.update exchange.serving server (some letter) other).toList ++
    (Function.update exchange.inbox server inbox other).queue = _
  rw [held]
  by_cases same : other = server
  · subst same
    rw [Function.update_self, Function.update_self, idle, Channel.receive_queue front]
    rfl
  · rw [Function.update_of_ne same, Function.update_of_ne same]

omit [DecidableEq τ] in
theorem held_answer {server : κ} {letter : Letter μ} (result : ρ)
    (busy : exchange.serving server = some letter) :
    exchange.held server = letter :: (exchange.answer server letter result).held server ∧
      ∀ other, other ≠ server →
        (exchange.answer server letter result).held other = exchange.held other := by
  constructor
  · show _ = letter :: ((Function.update exchange.serving server none server).toList ++
      (exchange.inbox server).queue)
    rw [held, Function.update_self, busy]
    rfl
  · intro other same
    show (Function.update exchange.serving server none other).toList ++
      (exchange.inbox other).queue = _
    rw [held, Function.update_of_ne same]

omit [DecidableEq τ] in
theorem held_close (server other : κ) :
    (exchange.close server).held other = if other = server then [] else exchange.held other := by
  show (Function.update exchange.serving server none other).toList ++
    (Function.update exchange.inbox server (.empty _) other).queue = _
  by_cases same : other = server
  · subst same
    rw [if_pos rfl, Function.update_self, Function.update_self]
    rfl
  · rw [if_neg same, Function.update_of_ne same, Function.update_of_ne same, held]

theorem Balanced.moves (balanced : exchange.Balanced) (moves : exchange.Moves op after) :
    after.Balanced := by
  cases moves with
  | issued | refused | collected | missed | unsent | abandoned =>
      exact balanced_congr balanced rfl rfl rfl rfl rfl rfl
  | @accepted caller server letter inbox waits runs room =>
      have lost := balanced.runs server runs
      refine balanced_at balanced server ?_ ?_ (fun _ => lost) ?_
      · intro other apart
        rw [held_accept _ room, if_neg apart]
        exact ⟨rfl, rfl, Function.update_of_ne apart _ _, rfl, rfl⟩
      · rw [held_accept _ room, if_pos rfl]
        show Function.update exchange.books.accepted server _ server = _
        rw [Function.update_self, balanced.accounted server]
        show _ = _ ++ _ ++ exchange.books.lost server
        rw [lost, List.append_nil, List.append_nil, List.append_assoc]
        rfl
      · intro shut
        exact absurd (runs.symm.trans shut) Bool.false_ne_true
  | @taken server letter inbox idle front =>
      have held := held_take idle front
      exact balanced_at balanced server (fun other _ => ⟨held other, rfl, rfl, rfl, rfl⟩)
        (by rw [held]; exact balanced.accounted server) (balanced.runs server)
        (by rw [held]; exact balanced.shut server)
  | @answered server letter result busy =>
      obtain ⟨front, others⟩ := held_answer result busy
      refine balanced_at balanced server ?_ ?_ (balanced.runs server) ?_
      · intro other apart
        exact ⟨others other apart, rfl, rfl, Function.update_of_ne apart _ _, rfl⟩
      · show exchange.books.accepted server =
          (Function.update exchange.books.served server _ server).map Prod.fst ++ _ ++
            exchange.books.lost server
        rw [Function.update_self, List.map_append, balanced.accounted server, front]
        simp
      · intro shut
        have none := balanced.shut server shut
        rw [front] at none
        cases none
  | @closed server runs =>
      refine balanced_at balanced server ?_ ?_ ?_ ?_
      · intro other apart
        rw [held_close, if_neg apart]
        exact ⟨rfl, Function.update_of_ne apart _ _, rfl, rfl, Function.update_of_ne apart _ _⟩
      · rw [held_close, if_pos rfl]
        show exchange.books.accepted server = _ ++ _ ++
          Function.update exchange.books.lost server (exchange.held server) server
        rw [Function.update_self, balanced.accounted server, balanced.runs server runs,
          List.append_nil, List.append_nil]
        rfl
      · intro running
        rw [show (exchange.close server).shut server = true from Function.update_self ..] at running
        cases running
      · intro _
        rw [held_close, if_pos rfl]

/-- The letter stands in the books under its number. -/
def Issued (exchange : Exchange κ τ μ ρ) (caller : τ) (server : κ) (letter : Letter μ) : Prop :=
  exchange.books.issued[letter.number]? = some ⟨caller, server, letter⟩

omit [DecidableEq κ] [DecidableEq τ] in
theorem issued_unique {caller other : τ} {server there : κ} {letter second : Letter μ}
    (first : exchange.Issued caller server letter) (again : exchange.Issued other there second)
    (same : letter.number = second.number) :
    caller = other ∧ server = there ∧ letter = second := by
  rw [Issued, same, again] at first
  cases first
  exact ⟨rfl, rfl, rfl⟩

/-- Every letter in the hands of a server was issued to it, and each task that waits waits
for a letter of its own that has not ended. -/
structure Known (exchange : Exchange κ τ μ ρ) : Prop where
  accepted : ∀ server letter, letter ∈ exchange.books.accepted server →
    ∃ caller, exchange.Issued caller server letter
  once : ∀ server, ((exchange.books.accepted server).map Letter.number).Nodup
  sending : ∀ caller server letter, exchange.awaiting caller = some (.send server letter) →
    exchange.Issued caller server letter ∧ letter ∉ exchange.books.accepted server
  waiting : ∀ caller number, exchange.awaiting caller = some (.reply number) →
    ∃ server letter, letter.number = number ∧ exchange.Issued caller server letter ∧
      letter ∈ exchange.books.accepted server ∧ letter.reply = true
  undecided : ∀ caller await, exchange.awaiting caller = some await →
    exchange.books.endings await.number = none
  fresh : ∀ number, exchange.books.issued.length ≤ number →
    exchange.books.endings number = none

omit [DecidableEq κ] [DecidableEq τ] in
theorem Known.owner (known : exchange.Known) {caller : τ} {await : Await κ μ}
    (waits : exchange.awaiting caller = some await) :
    ∃ server letter, letter.number = await.number ∧ exchange.Issued caller server letter := by
  cases await with
  | send server letter => exact ⟨server, letter, rfl, (known.sending caller server letter waits).1⟩
  | reply number =>
      obtain ⟨server, letter, same, issued, _⟩ := known.waiting caller number waits
      exact ⟨server, letter, same, issued⟩

omit [DecidableEq κ] [DecidableEq τ] in
theorem Known.apart (known : exchange.Known) {caller other : τ} {await second : Await κ μ}
    (waits : exchange.awaiting caller = some await)
    (also : exchange.awaiting other = some second) (different : other ≠ caller) :
    second.number ≠ await.number := by
  intro same
  obtain ⟨_, _, number, issued⟩ := known.owner waits
  obtain ⟨_, _, numberAlso, issuedAlso⟩ := known.owner also
  exact different (issued_unique issuedAlso issued (by rw [number, numberAlso, same])).1

omit [DecidableEq κ] [DecidableEq τ] in
theorem known_congr (known : exchange.Known) (issued : after.books.issued = exchange.books.issued)
    (accepted : after.books.accepted = exchange.books.accepted)
    (awaiting : after.awaiting = exchange.awaiting)
    (endings : after.books.endings = exchange.books.endings) : after.Known := by
  have stays (caller : τ) (server : κ) (letter : Letter μ) :
      after.Issued caller server letter = exchange.Issued caller server letter := by
    rw [Issued, Issued, issued]
  constructor
  case accepted => simpa only [accepted, stays] using known.accepted
  case once => simpa only [accepted] using known.once
  case sending => simpa only [accepted, awaiting, stays] using known.sending
  case waiting => simpa only [accepted, awaiting, stays] using known.waiting
  case undecided => simpa only [awaiting, endings] using known.undecided
  case fresh => simpa only [issued, endings] using known.fresh

omit [DecidableEq κ] in
theorem known_finish (known : exchange.Known) {caller : τ} {await : Await κ μ}
    (waits : exchange.awaiting caller = some await) (ending : Ending ρ) :
    (exchange.finish caller await.number ending).Known := by
  have awaits {other : τ} {second : Await κ μ}
      (also : (exchange.finish caller await.number ending).awaiting other = some second) :
      other ≠ caller ∧ exchange.awaiting other = some second := by
    rw [show (exchange.finish caller await.number ending).awaiting other =
      if other = caller then none else exchange.awaiting other from Function.update_apply ..] at also
    split at also
    case isTrue => cases also
    case isFalse different => exact ⟨different, also⟩
  constructor
  case accepted => exact known.accepted
  case once => exact known.once
  case sending => exact fun other server letter also => known.sending other server letter (awaits also).2
  case waiting => exact fun other number also => known.waiting other number (awaits also).2
  case undecided =>
    intro other second also
    obtain ⟨different, also⟩ := awaits also
    show Function.update exchange.books.endings await.number (some ending) second.number = none
    rw [Function.update_of_ne (known.apart waits also different)]
    exact known.undecided other second also
  case fresh =>
    intro number beyond
    obtain ⟨_, letter, same, issued⟩ := known.owner waits
    obtain ⟨within, _⟩ := List.getElem?_eq_some_iff.mp issued
    have apart : number ≠ await.number := by
      have bound : exchange.books.issued.length ≤ number := beyond
      omega
    show Function.update exchange.books.endings await.number (some ending) number = none
    rw [Function.update_of_ne apart]
    exact known.fresh number beyond

omit [DecidableEq κ] in
theorem issue_issued {caller other : τ} {server there : κ} {body : μ} {reply : Bool}
    {letter : Letter μ} (issued : exchange.Issued other there letter) :
    (exchange.issue caller server body reply).Issued other there letter := by
  obtain ⟨within, _⟩ := List.getElem?_eq_some_iff.mp issued
  show (exchange.books.issued ++ [_])[letter.number]? = _
  rw [List.getElem?_append_left within]
  exact issued

omit [DecidableEq κ] in
theorem known_issue (known : exchange.Known) {caller : τ} (server : κ) (body : μ) (reply : Bool) :
    (exchange.issue caller server body reply).Known := by
  have awaits {other : τ} {second : Await κ μ}
      (also : (exchange.issue caller server body reply).awaiting other = some second) :
      (other = caller ∧ second = .send server (exchange.nextLetter body reply)) ∨
        exchange.awaiting other = some second := by
    rw [show (exchange.issue caller server body reply).awaiting other =
      if other = caller then some (.send server (exchange.nextLetter body reply))
      else exchange.awaiting other from Function.update_apply ..] at also
    split at also
    case isTrue here =>
      cases also
      exact .inl ⟨here, rfl⟩
    case isFalse => exact .inr also
  have new : (exchange.issue caller server body reply).Issued caller server
      (exchange.nextLetter body reply) := by
    show (exchange.books.issued ++ [_])[exchange.books.issued.length]? = _
    rw [List.getElem?_append_right le_rfl, Nat.sub_self]
    rfl
  constructor
  case accepted =>
    intro there letter present
    obtain ⟨other, issued⟩ := known.accepted there letter present
    exact ⟨other, issue_issued issued⟩
  case once => exact known.once
  case sending =>
    intro other there letter also
    rcases awaits also with ⟨rfl, same⟩ | also
    · cases same
      refine ⟨new, fun present => ?_⟩
      obtain ⟨_, issued⟩ := known.accepted server _ present
      obtain ⟨within, _⟩ := List.getElem?_eq_some_iff.mp issued
      exact absurd within (lt_irrefl _)
    · obtain ⟨issued, absent⟩ := known.sending other there letter also
      exact ⟨issue_issued issued, absent⟩
  case waiting =>
    intro other number also
    rcases awaits also with ⟨_, same⟩ | also
    · cases same
    · obtain ⟨there, letter, same, issued, rest⟩ := known.waiting other number also
      exact ⟨there, letter, same, issue_issued issued, rest⟩
  case undecided =>
    intro other second also
    rcases awaits also with ⟨_, rfl⟩ | also
    · exact known.fresh _ le_rfl
    · exact known.undecided other second also
  case fresh =>
    intro number beyond
    rw [show (exchange.issue caller server body reply).books.issued.length =
      exchange.books.issued.length + 1 from List.length_append] at beyond
    exact known.fresh number (by omega)

section Accept

variable (exchange) (caller : τ) (server : κ) (letter : Letter μ) (inbox : Channel (Letter μ))

theorem accept_accepted (there : κ) :
    (exchange.accept caller server letter inbox).books.accepted there =
      if there = server then exchange.books.accepted server ++ [letter]
      else exchange.books.accepted there := by
  show Function.update exchange.books.accepted server _ there = _
  by_cases here : there = server
  · rw [here, Function.update_self, if_pos rfl]
  · rw [Function.update_of_ne here, if_neg here]

/-- Who still waits once a letter is accepted: its caller for the reply, if it asks for one,
and the others as before. -/
theorem accept_awaiting {other : τ} {second : Await κ μ}
    (waits : (exchange.accept caller server letter inbox).awaiting other = some second) :
    (other = caller ∧ letter.reply = true ∧ second = .reply letter.number) ∨
      (other ≠ caller ∧ exchange.awaiting other = some second) := by
  rw [show (exchange.accept caller server letter inbox).awaiting other =
    if other = caller then (if letter.reply then some (.reply letter.number) else none)
    else exchange.awaiting other from Function.update_apply ..] at waits
  split at waits
  case isTrue here =>
    rw [Option.ite_none_right_eq_some] at waits
    exact .inl ⟨here, waits.1, (Option.some.inj waits.2).symm⟩
  case isFalse different => exact .inr ⟨different, waits⟩

theorem accept_endings {number : Nat} (apart : number ≠ letter.number) :
    (exchange.accept caller server letter inbox).books.endings number =
      exchange.books.endings number := by
  show (if letter.reply then exchange.books.endings else Function.update _ _ _) number = _
  split
  · rfl
  · exact Function.update_of_ne apart _ _

end Accept

theorem known_accept (known : exchange.Known) {caller : τ} {server : κ} {letter : Letter μ}
    (inbox : Channel (Letter μ)) (waits : exchange.awaiting caller = some (.send server letter)) :
    (exchange.accept caller server letter inbox).Known := by
  obtain ⟨issuedHere, absent⟩ := known.sending caller server letter waits
  have accepts := exchange.accept_accepted caller server letter inbox
  have keeps {number : Nat} := @accept_endings κ τ μ ρ _ _ exchange caller server letter inbox number
  have grows {there : κ} {second : Letter μ} (present : second ∈ exchange.books.accepted there) :
      second ∈ (exchange.accept caller server letter inbox).books.accepted there := by
    rw [accepts]
    split
    case isTrue here => exact List.mem_append_left _ (here ▸ present)
    case isFalse => exact present
  constructor
  case accepted =>
    intro there second present
    rw [accepts] at present
    split at present
    case isTrue here =>
      rcases List.mem_append.mp present with before | new
      · exact known.accepted there second (here ▸ before)
      · obtain rfl := List.mem_singleton.mp new
        exact ⟨caller, here ▸ issuedHere⟩
    case isFalse => exact known.accepted there second present
  case once =>
    intro there
    rw [accepts]
    split
    case isFalse => exact known.once there
    case isTrue here =>
      rw [List.map_append, List.nodup_append]
      refine ⟨known.once server, List.nodup_singleton _, ?_⟩
      intro number before _ last same
      obtain ⟨second, present, rfl⟩ := List.mem_map.mp before
      obtain ⟨other, issued⟩ := known.accepted server second present
      rw [List.map_singleton, List.mem_singleton] at last
      obtain ⟨_, _, rfl⟩ := issued_unique issued issuedHere (same.trans last)
      exact absent present
  case sending =>
    intro other there second also
    rcases accept_awaiting _ _ _ _ _ also with ⟨_, _, same⟩ | ⟨different, also⟩
    · cases same
    · obtain ⟨issued, missing⟩ := known.sending other there second also
      refine ⟨issued, fun present => ?_⟩
      rw [accepts] at present
      split at present
      case isTrue here =>
        rcases List.mem_append.mp present with before | new
        · exact missing (here ▸ before)
        · obtain rfl := List.mem_singleton.mp new
          exact different (issued_unique issued issuedHere rfl).1
      case isFalse => exact missing present
  case waiting =>
    intro other number also
    rcases accept_awaiting _ _ _ _ _ also with ⟨rfl, asks, same⟩ | ⟨_, also⟩
    · cases same
      refine ⟨server, letter, rfl, issuedHere, ?_, asks⟩
      rw [accepts, if_pos rfl]
      exact List.mem_append_right _ List.mem_cons_self
    · obtain ⟨there, second, same, issued, present, asks⟩ := known.waiting other number also
      exact ⟨there, second, same, issued, grows present, asks⟩
  case undecided =>
    intro other second also
    rcases accept_awaiting _ _ _ _ _ also with ⟨_, asks, rfl⟩ | ⟨different, also⟩
    · show (if letter.reply then exchange.books.endings else _) letter.number = none
      rw [if_pos asks]
      exact known.undecided caller _ waits
    · rw [keeps (known.apart waits also different)]
      exact known.undecided other second also
  case fresh =>
    intro number beyond
    obtain ⟨within, _⟩ := List.getElem?_eq_some_iff.mp issuedHere
    have bound : exchange.books.issued.length ≤ number := beyond
    rw [keeps (by omega)]
    exact known.fresh number beyond

theorem Known.moves (known : exchange.Known) (moves : exchange.Moves op after) : after.Known := by
  cases moves with
  | issued => exact known_issue known _ _ _
  | accepted waits => exact known_accept known _ waits
  | refused waits => exact known_finish known waits .refused
  | collected waits => exact known_finish known waits _
  | missed waits => exact known_finish known waits .dropped
  | unsent waits => exact known_finish known waits .withdrawn
  | @abandoned caller number waits =>
      have still : (exchange.setReply number .receiverGone).Known :=
        known_congr known rfl rfl rfl rfl
      exact @known_finish _ _ _ _ _ (exchange.setReply number .receiverGone) still caller
        (.reply number) waits .withdrawn
  | taken | answered | closed => exact known_congr known rfl rfl rfl rfl

end Exchange

end Rush.Library
