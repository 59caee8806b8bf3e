import Rush.Library.ExchangeBooks

/-! The replies of an exchange: how each reply channel stands, by where its letter is,
and what has become of every letter that its task no longer waits for. -/

namespace Rush.Library

open Runs

namespace Exchange

variable {κ τ μ ρ : Type} [DecidableEq κ] [DecidableEq τ]
variable {exchange after : Exchange κ τ μ ρ} {op : Op κ τ μ ρ}

omit [DecidableEq κ] [DecidableEq τ] in
theorem Known.same_letter (known : exchange.Known) {server there : κ} {letter second : Letter μ}
    (present : letter ∈ exchange.books.accepted server)
    (also : second ∈ exchange.books.accepted there) (same : letter.number = second.number) :
    server = there ∧ letter = second := by
  obtain ⟨_, issued⟩ := known.accepted server letter present
  obtain ⟨_, again⟩ := known.accepted there second also
  exact (issued_unique issued again same).2

section Places

variable {server there : κ} {letter second : Letter μ} {result : ρ}

omit [DecidableEq κ] [DecidableEq τ] in
theorem Balanced.served_accepted (balanced : exchange.Balanced)
    (present : (letter, result) ∈ exchange.books.served server) :
    letter ∈ exchange.books.accepted server := by
  rw [balanced.accounted server, List.append_assoc]
  exact List.mem_append_left _ (List.mem_map.mpr ⟨_, present, rfl⟩)

omit [DecidableEq κ] [DecidableEq τ] in
theorem Balanced.held_accepted (balanced : exchange.Balanced)
    (present : letter ∈ exchange.held server) : letter ∈ exchange.books.accepted server := by
  rw [balanced.accounted server]
  exact List.mem_append_left _ (List.mem_append_right _ present)

omit [DecidableEq κ] [DecidableEq τ] in
theorem Balanced.lost_accepted (balanced : exchange.Balanced)
    (present : letter ∈ exchange.books.lost server) : letter ∈ exchange.books.accepted server := by
  rw [balanced.accounted server]
  exact List.mem_append_right _ present

omit [DecidableEq κ] [DecidableEq τ] in
theorem numbers_nodup (balanced : exchange.Balanced) (known : exchange.Known) (server : κ) :
    (((exchange.books.served server).map Prod.fst).map Letter.number ++
      (exchange.held server).map Letter.number ++
        (exchange.books.lost server).map Letter.number).Nodup := by
  have once := known.once server
  rwa [balanced.accounted server, List.map_append, List.map_append] at once

omit [DecidableEq κ] [DecidableEq τ] in
theorem served_apart_held (balanced : exchange.Balanced) (known : exchange.Known)
    (served : (letter, result) ∈ exchange.books.served server)
    (held : second ∈ exchange.held there) : letter.number ≠ second.number := by
  intro same
  obtain ⟨rfl, rfl⟩ := known.same_letter (balanced.served_accepted served)
    (balanced.held_accepted held) same
  have apart := (List.nodup_append.mp (List.nodup_append.mp
    (numbers_nodup balanced known server)).1).2.2
  exact apart letter.number
    (List.mem_map.mpr ⟨letter, List.mem_map.mpr ⟨(letter, result), served, rfl⟩, rfl⟩)
    letter.number (List.mem_map_of_mem held) rfl

omit [DecidableEq κ] [DecidableEq τ] in
theorem served_unique (balanced : exchange.Balanced) (known : exchange.Known) {value : ρ}
    (served : (letter, result) ∈ exchange.books.served server)
    (again : (letter, value) ∈ exchange.books.served server) : value = result := by
  have once := (List.nodup_append.mp (List.nodup_append.mp
    (numbers_nodup balanced known server)).1).1
  rw [List.map_map] at once
  exact congrArg Prod.snd (List.inj_on_of_nodup_map once again served rfl)

omit [DecidableEq κ] [DecidableEq τ] in
theorem lost_apart_held (balanced : exchange.Balanced) (known : exchange.Known)
    (lost : letter ∈ exchange.books.lost server) (held : second ∈ exchange.held there) :
    letter.number ≠ second.number := by
  intro same
  obtain ⟨rfl, rfl⟩ := known.same_letter (balanced.lost_accepted lost)
    (balanced.held_accepted held) same
  have apart := (List.nodup_append.mp (numbers_nodup balanced known server)).2.2
  exact apart letter.number (List.mem_append_right _ (List.mem_map_of_mem held))
    letter.number (List.mem_map_of_mem lost) rfl

omit [DecidableEq κ] [DecidableEq τ] in
theorem sending_apart (known : exchange.Known) {caller : τ}
    (waits : exchange.awaiting caller = some (.send server letter))
    (present : second ∈ exchange.books.accepted there) : letter.number ≠ second.number := by
  intro same
  obtain ⟨issued, absent⟩ := known.sending caller server letter waits
  obtain ⟨_, again⟩ := known.accepted there second present
  obtain ⟨_, rfl, rfl⟩ := issued_unique issued again same
  exact absent present

end Places

structure Paired (exchange : Exchange κ τ μ ρ) : Prop where
  served : ∀ server letter result, (letter, result) ∈ exchange.books.served server →
    letter.reply = true → exchange.replies letter.number = .sent result ∨
      exchange.replies letter.number = .receiverGone
  held : ∀ server letter, letter ∈ exchange.held server →
    exchange.replies letter.number = .pending ∨ exchange.replies letter.number = .receiverGone
  lost : ∀ server letter, letter ∈ exchange.books.lost server → letter.reply = true →
    exchange.replies letter.number = .senderGone ∨ exchange.replies letter.number = .receiverGone
  sending : ∀ caller server letter, exchange.awaiting caller = some (.send server letter) →
    exchange.replies letter.number = .pending
  waiting : ∀ caller number, exchange.awaiting caller = some (.reply number) →
    exchange.replies number ≠ .receiverGone
  fresh : ∀ number, exchange.books.issued.length ≤ number → exchange.replies number = .pending

omit [DecidableEq κ] in
theorem paired_finish (paired : exchange.Paired) (caller : τ) (number : Nat) (ending : Ending ρ) :
    (exchange.finish caller number ending).Paired := by
  have awaits {other : τ} {second : Await κ μ}
      (also : (exchange.finish caller number ending).awaiting other = some second) :
      exchange.awaiting other = some second := by
    rw [show (exchange.finish caller number ending).awaiting other =
      if other = caller then none else exchange.awaiting other from Function.update_apply ..,
      Option.ite_none_left_eq_some] at also
    exact also.2
  exact ⟨paired.served, paired.held, paired.lost,
    fun other server letter also => paired.sending other server letter (awaits also),
    fun other second also => paired.waiting other second (awaits also), paired.fresh⟩

omit [DecidableEq κ] in
theorem paired_abandon (known : exchange.Known) (paired : exchange.Paired) {caller : τ}
    {number : Nat} (waits : exchange.awaiting caller = some (.reply number)) :
    ((exchange.setReply number .receiverGone).finish caller number .withdrawn).Paired := by
  have replies (other : Nat) :
      ((exchange.setReply number .receiverGone).finish caller number .withdrawn).replies other =
        if other = number then .receiverGone else exchange.replies other :=
    Function.update_apply ..
  have awaits {other : τ} {second : Await κ μ}
      (also : ((exchange.setReply number .receiverGone).finish caller number
        .withdrawn).awaiting other = some second) :
      second.number ≠ number ∧ exchange.awaiting other = some second := by
    rw [show ((exchange.setReply number .receiverGone).finish caller number .withdrawn).awaiting
      other = if other = caller then none else exchange.awaiting other
        from Function.update_apply .., Option.ite_none_left_eq_some] at also
    exact ⟨known.apart waits also.2 also.1, also.2⟩
  constructor
  case served =>
    intro server letter result present asks
    rw [replies]
    split
    · exact .inr rfl
    · exact paired.served server letter result present asks
  case held =>
    intro server letter present
    rw [replies]
    split
    · exact .inr rfl
    · exact paired.held server letter present
  case lost =>
    intro server letter present asks
    rw [replies]
    split
    · exact .inr rfl
    · exact paired.lost server letter present asks
  case sending =>
    intro other server letter also
    obtain ⟨apart, also⟩ := awaits also
    rw [replies]
    exact (if_neg apart).trans (paired.sending other server letter also)
  case waiting =>
    intro other second also
    obtain ⟨apart, also⟩ := awaits also
    rw [replies]
    exact (congrArg (· ≠ Oneshot.receiverGone) (if_neg apart)).mpr
      (paired.waiting other second also)
  case fresh =>
    intro other beyond
    obtain ⟨server, letter, same, issued⟩ := known.owner waits
    obtain ⟨within, _⟩ := List.getElem?_eq_some_iff.mp issued
    have bound : exchange.books.issued.length ≤ other := beyond
    have apart : other ≠ number := by
      have number' : letter.number = number := same
      omega
    rw [replies, if_neg apart]
    exact paired.fresh other beyond

omit [DecidableEq κ] in
theorem paired_issue (paired : exchange.Paired) (caller : τ) (server : κ) (body : μ)
    (reply : Bool) : (exchange.issue caller server body reply).Paired := by
  have awaits {other : τ} {second : Await κ μ}
      (also : (exchange.issue caller server body reply).awaiting other = some second) :
      second = .send server (exchange.nextLetter body reply) ∨
        exchange.awaiting other = some second := by
    rw [show (exchange.issue caller server body reply).awaiting other =
      if other = caller then some (.send server (exchange.nextLetter body reply))
      else exchange.awaiting other from Function.update_apply ..] at also
    split at also
    case isTrue => exact .inl (Option.some.inj also).symm
    case isFalse => exact .inr also
  refine ⟨paired.served, paired.held, paired.lost, ?_, ?_, ?_⟩
  · intro other there letter also
    rcases awaits also with same | also
    · cases same
      exact paired.fresh _ le_rfl
    · exact paired.sending other there letter also
  · intro other number also
    rcases awaits also with same | also
    · cases same
    · exact paired.waiting other number also
  · intro number beyond
    rw [show (exchange.issue caller server body reply).books.issued.length =
      exchange.books.issued.length + 1 from List.length_append] at beyond
    exact paired.fresh number (by omega)

theorem paired_accept (paired : exchange.Paired) {caller : τ} {server : κ} {letter : Letter μ}
    {inbox : Channel (Letter μ)} (waits : exchange.awaiting caller = some (.send server letter))
    (room : (exchange.inbox server).send letter = some inbox) :
    (exchange.accept caller server letter inbox).Paired := by
  have pending := paired.sending caller server letter waits
  have awaits {other : τ} {second : Await κ μ}
      (also : (exchange.accept caller server letter inbox).awaiting other = some second) :
      second = .reply letter.number ∨ exchange.awaiting other = some second := by
    rw [show (exchange.accept caller server letter inbox).awaiting other =
      if other = caller then (if letter.reply then some (.reply letter.number) else none)
      else exchange.awaiting other from Function.update_apply ..] at also
    split at also
    case isTrue =>
      rw [Option.ite_none_right_eq_some] at also
      exact .inl (Option.some.inj also.2).symm
    case isFalse => exact .inr also
  refine ⟨paired.served, ?_, paired.lost, ?_, ?_, paired.fresh⟩
  · intro there second present
    rw [held_accept _ room] at present
    split at present
    case isTrue here =>
      rcases List.mem_append.mp present with before | new
      · exact paired.held server second before
      · rw [List.mem_singleton.mp new]
        exact .inl pending
    case isFalse => exact paired.held there second present
  · intro other there second also
    rcases awaits also with same | also
    · cases same
    · exact paired.sending other there second also
  · intro other number also
    rcases awaits also with same | also
    · cases same
      rw [show (exchange.accept caller server letter inbox).replies letter.number = .pending
        from pending]
      intro gone
      cases gone
    · exact paired.waiting other number also

section Answer

variable {server : κ} {letter : Letter μ} (result : ρ)

omit [DecidableEq τ] in
theorem answer_replies_other {number : Nat} (apart : number ≠ letter.number) :
    (exchange.answer server letter result).replies number = exchange.replies number := by
  show (if letter.reply then Function.update _ _ _ else exchange.replies) number = _
  split
  · exact Function.update_of_ne apart _ _
  · rfl

omit [DecidableEq τ] in
theorem answer_replies_self (asks : letter.reply = true) :
    (exchange.answer server letter result).replies letter.number =
      (exchange.replies letter.number).send result := by
  show (if letter.reply then Function.update _ _ _ else exchange.replies) letter.number = _
  rw [if_pos asks, Function.update_self]

omit [DecidableEq τ] in
/-- What is held after an answer was held before it, and is another letter. -/
theorem held_answer_apart (balanced : exchange.Balanced) (known : exchange.Known)
    (busy : exchange.serving server = some letter) {there : κ} {second : Letter μ}
    (present : second ∈ (exchange.answer server letter result).held there) :
    second ∈ exchange.held there ∧ second.number ≠ letter.number := by
  obtain ⟨front, others⟩ := held_answer result busy
  have here : letter ∈ exchange.held server := by
    rw [front]
    exact List.mem_cons_self
  by_cases same : there = server
  · subst same
    have once := (List.nodup_append.mp (List.nodup_append.mp
      (numbers_nodup balanced known there)).1).2.1
    rw [front, List.map_cons, List.nodup_cons] at once
    refine ⟨by rw [front]; exact List.mem_cons_of_mem _ present, fun equal => once.1 ?_⟩
    rw [← equal]
    exact List.mem_map_of_mem present
  · rw [others there same] at present
    refine ⟨present, fun equal => same ?_⟩
    exact (known.same_letter (balanced.held_accepted present) (balanced.held_accepted here) equal).1

end Answer

omit [DecidableEq τ] in
theorem paired_answer (balanced : exchange.Balanced) (known : exchange.Known)
    (paired : exchange.Paired) {server : κ} {letter : Letter μ} (result : ρ)
    (busy : exchange.serving server = some letter) :
    (exchange.answer server letter result).Paired := by
  have here : letter ∈ exchange.held server := by
    rw [(held_answer result busy).1]
    exact List.mem_cons_self
  have elsewhere {number : Nat} :=
    @answer_replies_other κ τ μ ρ _ exchange server letter result number
  have known_held := paired.held server letter here
  constructor
  case served =>
    intro there second value present asks
    rw [show (exchange.answer server letter result).books.served there =
      if there = server then exchange.books.served server ++ [(letter, result)]
      else exchange.books.served there from
        (Function.update_apply ..).trans rfl] at present
    have before (was : (second, value) ∈ exchange.books.served there) :
        (exchange.answer server letter result).replies second.number = .sent value ∨
          (exchange.answer server letter result).replies second.number = .receiverGone := by
      rw [elsewhere (served_apart_held balanced known was here)]
      exact paired.served there second value was asks
    split at present
    case isFalse => exact before present
    case isTrue same =>
      rcases List.mem_append.mp present with was | new
      · exact before (same ▸ was)
      · obtain ⟨rfl, rfl⟩ := Prod.mk.inj (List.mem_singleton.mp new)
        rw [answer_replies_self _ asks]
        rcases known_held with pending | gone
        · exact .inl (by rw [pending]; rfl)
        · exact .inr (by rw [gone]; rfl)
  case held =>
    intro there second present
    have accepted := held_answer_apart result balanced known busy present
    rw [elsewhere accepted.2]
    exact paired.held there second accepted.1
  case lost =>
    intro there second present asks
    rw [elsewhere (lost_apart_held balanced known present here)]
    exact paired.lost there second present asks
  case sending =>
    intro caller there second waits
    rw [elsewhere (sending_apart known waits (balanced.held_accepted here))]
    exact paired.sending caller there second waits
  case waiting =>
    intro caller number waits
    have kept := paired.waiting caller number waits
    by_cases same : number = letter.number
    · subst same
      obtain ⟨there, second, equal, _, present, asks⟩ := known.waiting caller _ waits
      obtain ⟨_, rfl⟩ := known.same_letter present (balanced.held_accepted here) equal
      rw [answer_replies_self _ asks]
      rcases known_held with pending | gone
      · rw [pending]
        intro wrong
        cases wrong
      · exact absurd gone kept
    · rw [elsewhere same]
      exact kept
  case fresh =>
    intro number beyond
    obtain ⟨_, issued⟩ := known.accepted server letter (balanced.held_accepted here)
    obtain ⟨within, _⟩ := List.getElem?_eq_some_iff.mp issued
    have bound : exchange.books.issued.length ≤ number := beyond
    rw [elsewhere (by omega)]
    exact paired.fresh number beyond

omit [DecidableEq κ] [DecidableEq τ] in
theorem awaitsFrom_iff {server : κ} {number : Nat} : exchange.awaitsFrom server number = true ↔
    ∃ letter ∈ exchange.held server, letter.reply = true ∧ letter.number = number := by
  rw [awaitsFrom, List.any_eq_true]
  simp only [Bool.and_eq_true, decide_eq_true_eq]

omit [DecidableEq τ] in
theorem paired_close (balanced : exchange.Balanced) (known : exchange.Known)
    (paired : exchange.Paired) (server : κ) :
    (exchange.close server).Paired := by
  have elsewhere {number : Nat}
      (apart : ∀ letter ∈ exchange.held server, letter.number ≠ number) :
      (exchange.close server).replies number = exchange.replies number := by
    refine if_neg fun awaits => ?_
    obtain ⟨letter, present, _, same⟩ := awaitsFrom_iff.mp awaits
    exact apart letter present same
  have itself {letter : Letter μ} (present : letter ∈ exchange.held server)
      (asks : letter.reply = true) : (exchange.close server).replies letter.number =
        (exchange.replies letter.number).dropSender :=
    if_pos (awaitsFrom_iff.mpr ⟨letter, present, asks, rfl⟩)
  constructor
  case served =>
    intro there letter result present asks
    rw [elsewhere fun second held => (served_apart_held balanced known present held).symm]
    exact paired.served there letter result present asks
  case held =>
    intro there letter present
    rw [held_close] at present
    split at present
    case isTrue => cases present
    case isFalse apart =>
      rw [elsewhere fun second held same => apart
        (known.same_letter (balanced.held_accepted present) (balanced.held_accepted held)
          same.symm).1]
      exact paired.held there letter present
  case lost =>
    intro there letter present asks
    rw [show (exchange.close server).books.lost there =
      if there = server then exchange.held server else exchange.books.lost there from
        (Function.update_apply ..).trans rfl] at present
    split at present
    case isTrue =>
      rw [itself present asks]
      rcases paired.held server letter present with pending | gone
      · exact .inl (by rw [pending]; rfl)
      · exact .inr (by rw [gone]; rfl)
    case isFalse =>
      rw [elsewhere fun second held => (lost_apart_held balanced known present held).symm]
      exact paired.lost there letter present asks
  case sending =>
    intro caller there letter waits
    rw [elsewhere fun second held =>
      (sending_apart known waits (balanced.held_accepted held)).symm]
    exact paired.sending caller there letter waits
  case waiting =>
    intro caller number waits
    have kept := paired.waiting caller number waits
    show (if exchange.awaitsFrom server number then (exchange.replies number).dropSender
      else exchange.replies number) ≠ _
    split
    · intro gone
      cases before : exchange.replies number with
      | receiverGone => exact kept before
      | _ =>
          rw [before] at gone
          cases gone
    · exact kept
  case fresh =>
    intro number beyond
    rw [elsewhere fun letter held same => ?_]
    · exact paired.fresh number beyond
    · obtain ⟨_, issued⟩ := known.accepted server letter (balanced.held_accepted held)
      obtain ⟨within, _⟩ := List.getElem?_eq_some_iff.mp issued
      have bound : exchange.books.issued.length ≤ number := beyond
      omega

theorem Paired.moves (balanced : exchange.Balanced) (known : exchange.Known)
    (paired : exchange.Paired) (moves : exchange.Moves op after) : after.Paired := by
  cases moves with
  | issued => exact paired_issue paired _ _ _ _
  | accepted waits _ room => exact paired_accept paired waits room
  | refused | collected | missed | unsent => exact paired_finish paired _ _ _
  | taken idle front =>
      refine ⟨paired.served, ?_, paired.lost, paired.sending, paired.waiting, paired.fresh⟩
      intro there second present
      rw [held_take idle front] at present
      exact paired.held there second present
  | answered busy => exact paired_answer balanced known paired _ busy
  | closed => exact paired_close balanced known paired _
  | abandoned waits => exact paired_abandon known paired waits

section Standing

variable {server : κ} {letter : Letter μ} {result : ρ}

omit [DecidableEq κ] [DecidableEq τ] in
theorem Balanced.places (balanced : exchange.Balanced)
    (present : letter ∈ exchange.books.accepted server) :
    (∃ value, (letter, value) ∈ exchange.books.served server) ∨
      letter ∈ exchange.held server ∨ letter ∈ exchange.books.lost server := by
  rw [balanced.accounted server] at present
  rcases List.mem_append.mp present with present | lost
  · rcases List.mem_append.mp present with present | held
    · obtain ⟨⟨_, value⟩, served, rfl⟩ := List.mem_map.mp present
      exact .inl ⟨value, served⟩
    · exact .inr (.inl held)
  · exact .inr (.inr lost)

omit [DecidableEq κ] [DecidableEq τ] in
theorem Paired.sent_served (balanced : exchange.Balanced) (paired : exchange.Paired)
    (present : letter ∈ exchange.books.accepted server) (asks : letter.reply = true)
    (sent : exchange.replies letter.number = .sent result) :
    (letter, result) ∈ exchange.books.served server := by
  rcases balanced.places present with ⟨value, served⟩ | held | lost
  · rcases paired.served server letter value served asks with same | gone
    · rw [sent] at same
      cases same
      exact served
    · rw [sent] at gone
      cases gone
  · rcases paired.held server letter held with other | other
    all_goals
      rw [sent] at other
      cases other
  · rcases paired.lost server letter lost asks with other | other
    all_goals
      rw [sent] at other
      cases other

omit [DecidableEq κ] [DecidableEq τ] in
theorem Paired.gone_lost (balanced : exchange.Balanced) (paired : exchange.Paired)
    (present : letter ∈ exchange.books.accepted server) (asks : letter.reply = true)
    (gone : exchange.replies letter.number = .senderGone) :
    letter ∈ exchange.books.lost server := by
  rcases balanced.places present with ⟨value, served⟩ | held | lost
  · rcases paired.served server letter value served asks with other | other
    all_goals
      rw [gone] at other
      cases other
  · rcases paired.held server letter held with other | other
    all_goals
      rw [gone] at other
      cases other
  · exact lost

omit [DecidableEq κ] [DecidableEq τ] in
theorem Paired.pending_held (balanced : exchange.Balanced) (paired : exchange.Paired)
    (present : letter ∈ exchange.books.accepted server) (asks : letter.reply = true)
    (pending : exchange.replies letter.number = .pending) : letter ∈ exchange.held server := by
  rcases balanced.places present with ⟨value, served⟩ | held | lost
  · rcases paired.served server letter value served asks with other | other
    all_goals
      rw [pending] at other
      cases other
  · exact held
  · rcases paired.lost server letter lost asks with other | other
    all_goals
      rw [pending] at other
      cases other

end Standing

structure Grows (exchange after : Exchange κ τ μ ρ) : Prop where
  issued : exchange.books.issued <+: after.books.issued
  accepted : ∀ server, exchange.books.accepted server <+: after.books.accepted server
  served : ∀ server, exchange.books.served server <+: after.books.served server
  lost : ∀ server, exchange.books.lost server <+: after.books.lost server
  shut : ∀ server, exchange.shut server = true → after.shut server = true
  sealed : ∀ server, exchange.shut server = true →
    after.books.accepted server = exchange.books.accepted server
  endings : ∀ number ending, exchange.books.endings number = some ending →
    after.books.endings number = some ending

omit [DecidableEq κ] [DecidableEq τ] in
theorem Grows.refl (exchange : Exchange κ τ μ ρ) : exchange.Grows exchange :=
  ⟨List.prefix_rfl, fun _ => List.prefix_rfl, fun _ => List.prefix_rfl, fun _ => List.prefix_rfl,
    fun _ shut => shut, fun _ _ => rfl, fun _ _ ended => ended⟩

omit [DecidableEq κ] [DecidableEq τ] in
theorem Grows.trans {last : Exchange κ τ μ ρ} (first : exchange.Grows after)
    (second : after.Grows last) : exchange.Grows last where
  issued := first.issued.trans second.issued
  accepted server := (first.accepted server).trans (second.accepted server)
  served server := (first.served server).trans (second.served server)
  lost server := (first.lost server).trans (second.lost server)
  shut server down := second.shut server (first.shut server down)
  sealed server down :=
    (second.sealed server (first.shut server down)).trans (first.sealed server down)
  endings number ending ended := second.endings number ending (first.endings number ending ended)

omit [DecidableEq κ] in
theorem grows_finish (known : exchange.Known) {caller : τ} {await : Await κ μ}
    (waits : exchange.awaiting caller = some await) (ending : Ending ρ) :
    exchange.Grows (exchange.finish caller await.number ending) := by
  refine ⟨List.prefix_rfl, fun _ => List.prefix_rfl, fun _ => List.prefix_rfl,
    fun _ => List.prefix_rfl, fun _ shut => shut, fun _ _ => rfl, ?_⟩
  intro number earlier ended
  have apart : number ≠ await.number := by
    rintro rfl
    rw [known.undecided caller await waits] at ended
    cases ended
  exact (Function.update_of_ne apart _ _).trans ended

theorem prefix_update {α : Type} (lists : κ → List α) (here : κ) (more : List α) (server : κ) :
    lists server <+: Function.update lists here (lists here ++ more) server := by
  by_cases same : server = here
  · subst same
    rw [Function.update_self]
    exact List.prefix_append _ _
  · rw [Function.update_of_ne same]

theorem Grows.moves (balanced : exchange.Balanced) (known : exchange.Known)
    (moves : exchange.Moves op after) : exchange.Grows after := by
  cases moves with
  | issued =>
      exact ⟨List.prefix_append _ _, fun _ => List.prefix_rfl, fun _ => List.prefix_rfl,
        fun _ => List.prefix_rfl, fun _ shut => shut, fun _ _ => rfl, fun _ _ ended => ended⟩
  | @accepted caller server letter inbox waits runs room =>
      refine ⟨List.prefix_rfl, prefix_update _ server _, fun _ => List.prefix_rfl,
        fun _ => List.prefix_rfl, fun _ shut => shut, ?_, ?_⟩
      · intro other shut
        have apart : other ≠ server := by
          rintro rfl
          exact absurd (runs.symm.trans shut) Bool.false_ne_true
        exact Function.update_of_ne apart _ _
      · intro number ending ended
        show (if letter.reply then exchange.books.endings else Function.update _ _ _) number = _
        split
        · exact ended
        · exact (grows_finish known waits .told).endings number ending ended
  | refused waits => exact grows_finish known waits .refused
  | collected waits => exact grows_finish known waits _
  | missed waits => exact grows_finish known waits .dropped
  | unsent waits => exact grows_finish known waits .withdrawn
  | @abandoned caller number waits =>
      have finished := grows_finish known waits .withdrawn
      exact ⟨finished.issued, finished.accepted, finished.served, finished.lost, finished.shut,
        finished.sealed, finished.endings⟩
  | taken =>
      exact ⟨List.prefix_rfl, fun _ => List.prefix_rfl, fun _ => List.prefix_rfl,
        fun _ => List.prefix_rfl, fun _ shut => shut, fun _ _ => rfl, fun _ _ ended => ended⟩
  | answered =>
      exact ⟨List.prefix_rfl, fun _ => List.prefix_rfl, prefix_update _ _ _,
        fun _ => List.prefix_rfl, fun _ shut => shut, fun _ _ => rfl, fun _ _ ended => ended⟩
  | @closed server runs =>
      refine ⟨List.prefix_rfl, fun _ => List.prefix_rfl, fun _ => List.prefix_rfl, ?_, ?_,
        fun _ _ => rfl, fun _ _ ended => ended⟩
      · intro other
        show _ <+: Function.update exchange.books.lost server (exchange.held server) other
        by_cases same : other = server
        · rw [same, balanced.runs server runs]
          exact List.nil_prefix
        · rw [Function.update_of_ne same]
      · intro other shut
        show Function.update exchange.shut server true other = true
        rw [Function.update_apply, shut, ite_self]

/-- What an ending says about the letter and its server. -/
def Outcome (exchange : Exchange κ τ μ ρ) (server : κ) (letter : Letter μ) : Ending ρ → Prop
  | .told => letter ∈ exchange.books.accepted server ∧ letter.reply = false
  | .refused => letter ∉ exchange.books.accepted server ∧ exchange.shut server = true
  | .dropped => letter ∈ exchange.books.lost server ∧ letter.reply = true
  | .answered result => (letter, result) ∈ exchange.books.served server ∧ letter.reply = true
  | .withdrawn => True

omit [DecidableEq κ] [DecidableEq τ] in
theorem Grows.outcome (grows : exchange.Grows after) {server : κ} {letter : Letter μ}
    {ending : Ending ρ} (outcome : exchange.Outcome server letter ending) :
    after.Outcome server letter ending := by
  cases ending with
  | told => exact ⟨(grows.accepted server).subset outcome.1, outcome.2⟩
  | refused =>
      refine ⟨?_, grows.shut server outcome.2⟩
      rw [grows.sealed server outcome.2]
      exact outcome.1
  | dropped => exact ⟨(grows.lost server).subset outcome.1, outcome.2⟩
  | answered => exact ⟨(grows.served server).subset outcome.1, outcome.2⟩
  | withdrawn => trivial

omit [DecidableEq κ] [DecidableEq τ] in
theorem Grows.stillIssued (grows : exchange.Grows after) {caller : τ} {server : κ}
    {letter : Letter μ} (issued : exchange.Issued caller server letter) :
    after.Issued caller server letter := by
  obtain ⟨within, _⟩ := List.getElem?_eq_some_iff.mp issued
  obtain ⟨more, grown⟩ := grows.issued
  rw [Issued, ← grown, List.getElem?_append_left within]
  exact issued

def Truthful (exchange : Exchange κ τ μ ρ) : Prop :=
  ∀ number ending, exchange.books.endings number = some ending →
    ∃ caller server letter, letter.number = number ∧ exchange.Issued caller server letter ∧
      exchange.Outcome server letter ending

omit [DecidableEq κ] in
theorem truthful_finish (known : exchange.Known) (truthful : exchange.Truthful) {caller : τ}
    {await : Await κ μ} (waits : exchange.awaiting caller = some await) {ending : Ending ρ}
    (outcome : ∀ server letter, letter.number = await.number →
      exchange.Issued caller server letter → exchange.Outcome server letter ending) :
    (exchange.finish caller await.number ending).Truthful := by
  intro number recorded ended
  have grows := grows_finish known waits ending
  rw [show (exchange.finish caller await.number ending).books.endings number =
    if number = await.number then some ending else exchange.books.endings number
      from Function.update_apply ..] at ended
  split at ended
  case isTrue here =>
    obtain rfl := Option.some.inj ended
    obtain ⟨server, letter, same, issued⟩ := known.owner waits
    exact ⟨caller, server, letter, same.trans here.symm, issued,
      grows.outcome (outcome server letter same issued)⟩
  case isFalse =>
    obtain ⟨other, server, letter, same, issued, told⟩ := truthful number recorded ended
    exact ⟨other, server, letter, same, grows.stillIssued issued, grows.outcome told⟩

omit [DecidableEq κ] [DecidableEq τ] in
theorem truthful_grows (truthful : exchange.Truthful) (grows : exchange.Grows after)
    (endings : ∀ number ending, after.books.endings number = some ending →
      exchange.books.endings number = some ending) : after.Truthful := by
  intro number ending ended
  obtain ⟨caller, server, letter, same, issued, outcome⟩ :=
    truthful number ending (endings number ending ended)
  exact ⟨caller, server, letter, same, grows.stillIssued issued, grows.outcome outcome⟩

theorem Truthful.moves (balanced : exchange.Balanced) (known : exchange.Known)
    (paired : exchange.Paired) (truthful : exchange.Truthful)
    (moves : exchange.Moves op after) : after.Truthful := by
  have grows := Grows.moves balanced known moves
  cases moves with
  | issued | taken | answered | closed => exact truthful_grows truthful grows fun _ _ ended => ended
  | @accepted caller server letter inbox waits =>
      obtain ⟨issued, _⟩ := known.sending caller server letter waits
      intro number ending ended
      by_cases here : number = letter.number ∧ letter.reply = false
      · obtain ⟨rfl, silent⟩ := here
        have told : (exchange.accept caller server letter inbox).books.endings letter.number =
            some .told := by
          show (if letter.reply then _ else Function.update _ _ _) letter.number = _
          rw [if_neg (by rw [silent]; decide), Function.update_self]
        obtain rfl := Option.some.inj (told.symm.trans ended)
        refine ⟨caller, server, letter, rfl, issued, ?_, silent⟩
        show letter ∈ Function.update exchange.books.accepted server _ server
        rw [Function.update_self]
        exact List.mem_append_right _ List.mem_cons_self
      · have before : exchange.books.endings number = some ending := by
          rw [← ended]
          show _ = (if letter.reply then exchange.books.endings else Function.update _ _ _) number
          split
          · rfl
          · next silent =>
              exact (Function.update_of_ne (fun same => here
                ⟨same, Bool.eq_false_of_not_eq_true silent⟩) _ _).symm
        obtain ⟨other, there, second, same, known', outcome⟩ := truthful number ending before
        exact ⟨other, there, second, same, grows.stillIssued known', grows.outcome outcome⟩
  | @refused caller server letter waits shut =>
      refine truthful_finish known truthful waits ?_
      intro there second same issued
      obtain ⟨here, absent⟩ := known.sending caller server letter waits
      obtain ⟨_, rfl, rfl⟩ := issued_unique issued here same
      exact ⟨absent, shut⟩
  | @collected caller number result waits sent =>
      refine @truthful_finish _ _ _ _ _ exchange known truthful caller (.reply number) waits _ ?_
      intro there second same issued
      obtain ⟨server, letter, number', here, present, asks⟩ := known.waiting caller number waits
      obtain ⟨_, rfl, rfl⟩ := issued_unique issued here (same.trans number'.symm)
      exact ⟨paired.sent_served balanced present asks (by rw [number']; exact sent), asks⟩
  | @missed caller number waits gone =>
      refine @truthful_finish _ _ _ _ _ exchange known truthful caller (.reply number) waits _ ?_
      intro there second same issued
      obtain ⟨server, letter, number', here, present, asks⟩ := known.waiting caller number waits
      obtain ⟨_, rfl, rfl⟩ := issued_unique issued here (same.trans number'.symm)
      exact ⟨paired.gone_lost balanced present asks (by rw [number']; exact gone), asks⟩
  | unsent waits => exact truthful_finish known truthful waits fun _ _ _ _ => trivial
  | @abandoned caller number waits =>
      intro other ending ended
      obtain ⟨owner, server, letter, same, issued, outcome⟩ :=
        @truthful_finish _ _ _ _ _ exchange known truthful caller (.reply number) waits .withdrawn
          (fun _ _ _ _ => trivial) other ending ended
      refine ⟨owner, server, letter, same, issued, ?_⟩
      cases ending <;> exact outcome

def Awaited (exchange : Exchange κ τ μ ρ) : Prop :=
  ∀ number, number < exchange.books.issued.length → exchange.books.endings number = none →
    ∃ caller await, exchange.awaiting caller = some await ∧ await.number = number

omit [DecidableEq κ] in
theorem awaited_finish (awaited : exchange.Awaited) {caller : τ} {await : Await κ μ}
    (waits : exchange.awaiting caller = some await) (ending : Ending ρ) :
    (exchange.finish caller await.number ending).Awaited := by
  intro number within none
  rw [show (exchange.finish caller await.number ending).books.endings number =
    if number = await.number then some ending else exchange.books.endings number
      from Function.update_apply .., ite_eq_iff'] at none
  by_cases here : number = await.number
  · cases none.1 here
  · obtain ⟨other, second, also, same⟩ := awaited number within (none.2 here)
    refine ⟨other, second, ?_, same⟩
    refine (Function.update_of_ne ?_ _ _).trans also
    rintro rfl
    obtain rfl := Option.some.inj (also.symm.trans waits)
    exact here same.symm

theorem Awaited.moves (awaited : exchange.Awaited) (moves : exchange.Moves op after) :
    after.Awaited := by
  cases moves with
  | taken | answered | closed => exact awaited
  | @issued caller server body reply idle =>
      intro number within none
      rw [show (exchange.issue caller server body reply).books.issued.length =
        exchange.books.issued.length + 1 from List.length_append] at within
      by_cases last : number = exchange.books.issued.length
      · refine ⟨caller, _, Function.update_self .., last.symm⟩
      · obtain ⟨other, second, also, same⟩ := awaited number (by omega) none
        refine ⟨other, second, ?_, same⟩
        refine (Function.update_of_ne ?_ _ _).trans also
        rintro rfl
        rw [idle] at also
        cases also
  | @accepted caller server letter inbox waits =>
      intro number within undecided
      have undecided : (if letter.reply then exchange.books.endings
          else Function.update exchange.books.endings letter.number (some .told)) number = none :=
        undecided
      by_cases here : number = letter.number
      · subst here
        cases asks : letter.reply with
        | false =>
            rw [asks, if_neg Bool.false_ne_true, Function.update_self] at undecided
            cases undecided
        | true =>
            refine ⟨caller, .reply letter.number, ?_, rfl⟩
            show Function.update exchange.awaiting caller _ caller = _
            rw [Function.update_self, if_pos asks]
      · have before : exchange.books.endings number = none := by
          rw [← undecided]
          split
          · rfl
          · exact (Function.update_of_ne here _ _).symm
        obtain ⟨other, second, also, same⟩ := awaited number within before
        refine ⟨other, second, ?_, same⟩
        refine (Function.update_of_ne ?_ _ _).trans also
        rintro rfl
        obtain rfl := Option.some.inj (also.symm.trans waits)
        exact here same.symm
  | refused waits => exact awaited_finish awaited waits .refused
  | collected waits => exact awaited_finish awaited waits _
  | missed waits => exact awaited_finish awaited waits .dropped
  | unsent waits => exact awaited_finish awaited waits .withdrawn
  | abandoned waits => exact awaited_finish awaited waits .withdrawn

structure Sound (exchange : Exchange κ τ μ ρ) : Prop where
  balanced : exchange.Balanced
  known : exchange.Known
  paired : exchange.Paired
  truthful : exchange.Truthful
  awaited : exchange.Awaited

omit [DecidableEq κ] [DecidableEq τ] in
theorem sound_new (capacity : Nat) : (new capacity : Exchange κ τ μ ρ).Sound := by
  constructor
  case balanced => exact ⟨fun _ => rfl, fun _ _ => rfl, fun _ _ => rfl⟩
  case known =>
    constructor
    case accepted => intro _ _ present; cases present
    case once => exact fun _ => List.nodup_nil
    case sending => intro _ _ _ waits; cases waits
    case waiting => intro _ _ waits; cases waits
    case undecided => intro _ _ waits; cases waits
    case fresh => exact fun _ _ => rfl
  case paired =>
    constructor
    case served => intro _ _ _ present; cases present
    case held => intro _ _ present; cases present
    case lost => intro _ _ present; cases present
    case sending => intro _ _ _ waits; cases waits
    case waiting => intro _ _ waits; cases waits
    case fresh => exact fun _ _ => rfl
  case truthful => intro _ _ ended; cases ended
  case awaited => intro _ within; cases within

theorem Sound.apply (sound : exchange.Sound) (applied : exchange.apply op = some after) :
    after.Sound := by
  have moves := apply_moves applied
  exact ⟨sound.balanced.moves moves, sound.known.moves moves,
    sound.paired.moves sound.balanced sound.known moves,
    sound.truthful.moves sound.balanced sound.known sound.paired moves, sound.awaited.moves moves⟩

theorem Sound.grows (sound : exchange.Sound) (applied : exchange.apply op = some after) :
    exchange.Grows after :=
  .moves sound.balanced sound.known (apply_moves applied)

end Exchange

end Rush.Library
