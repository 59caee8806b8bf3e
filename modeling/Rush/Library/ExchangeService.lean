import Rush.Library.ExchangeWaits

/-! Servers that answer from a state which every letter changes, and the letters of the
only task that writes to a server. -/

namespace Rush.Library

namespace Exchange

variable {κ τ μ ρ σ : Type} [DecidableEq κ] [DecidableEq τ]
variable {exchange after : Exchange κ τ μ ρ} {op : Op κ τ μ ρ}

theorem Moves.served (moves : exchange.Moves op after) (server : κ) :
    after.books.served server = exchange.books.served server ∨
      ∃ letter result, op = .answer server result ∧ exchange.serving server = some letter ∧
        after.books.served server = exchange.books.served server ++ [(letter, result)] := by
  cases moves with
  | @answered there letter result busy =>
      by_cases here : server = there
      · subst here
        exact .inr ⟨letter, result, rfl, busy, Function.update_self ..⟩
      · exact .inl (Function.update_of_ne here ..)
  | _ => exact .inl rfl

section Answers

variable (serve : σ → μ → ρ × σ)

def stateAfter (start : σ) (served : List (Letter μ × ρ)) : σ :=
  served.foldl (fun state pair => (serve state pair.1.body).2) start

def Follows : σ → List (Letter μ × ρ) → Prop
  | _, [] => True
  | state, (letter, result) :: rest =>
      result = (serve state letter.body).1 ∧ Follows (serve state letter.body).2 rest

def Answering (start : σ) (server : κ) (exchange : Exchange κ τ μ ρ) (op : Op κ τ μ ρ) : Prop :=
  ∀ result letter, op = .answer server result → exchange.serving server = some letter →
    result = (serve (stateAfter serve start (exchange.books.served server)) letter.body).1

variable {serve} {start : σ}

theorem follows_concat {served : List (Letter μ × ρ)} {letter : Letter μ} {result : ρ}
    (follows : Follows serve start served)
    (answer : result = (serve (stateAfter serve start served) letter.body).1) :
    Follows serve start (served ++ [(letter, result)]) := by
  induction served generalizing start with
  | nil => exact ⟨answer, trivial⟩
  | cons pair served ih => exact ⟨follows.1, ih follows.2 answer⟩

theorem Follows.at_letter {front back : List (Letter μ × ρ)} {letter : Letter μ} {result : ρ}
    (follows : Follows serve start (front ++ (letter, result) :: back)) :
    result = (serve (stateAfter serve start front) letter.body).1 := by
  induction front generalizing start with
  | nil => exact follows.1
  | cons pair front ih => exact ih follows.2

theorem Follows.moves {server : κ} (follows : Follows serve start (exchange.books.served server))
    (answering : Answering serve start server exchange op) (moves : exchange.Moves op after) :
    Follows serve start (after.books.served server) := by
  rcases moves.served server with same | ⟨letter, result, answers, busy, served⟩
  · rw [same]
    exact follows
  · rw [served]
    exact follows_concat follows (answering result letter answers busy)

end Answers

omit [DecidableEq κ] [DecidableEq τ] in
theorem Grows.precedes (grows : exchange.Grows after) (balanced : exchange.Balanced)
    (known : exchange.Known) {server : κ} {first second : Letter μ} {result value : ρ}
    (served : (first, result) ∈ exchange.books.served server)
    (later : exchange.books.issued.length ≤ second.number)
    (also : (second, value) ∈ after.books.served server) :
    ∃ front middle back, after.books.served server =
      front ++ (first, result) :: middle ++ (second, value) :: back := by
  obtain ⟨rest, grown⟩ := grows.served server
  obtain ⟨front, middle, before⟩ := List.append_of_mem served
  rw [← grown, List.mem_append] at also
  rcases also with old | new
  · obtain ⟨_, issued⟩ := known.accepted server second (balanced.served_accepted old)
    obtain ⟨within, _⟩ := List.getElem?_eq_some_iff.mp issued
    exact absurd within (not_lt.mpr later)
  · obtain ⟨between, back, rfl⟩ := List.append_of_mem new
    refine ⟨front, middle ++ between, back, ?_⟩
    rw [← grown, before]
    simp only [List.append_assoc, List.cons_append]

section Owner

variable {caller : τ} {server : κ}

def Owned (caller : τ) (server : κ) (op : Op κ τ μ ρ) : Prop :=
  (∀ other body reply, op = .issue other server body reply → other = caller) ∧
    op ≠ .withdraw caller

structure Private (caller : τ) (server : κ) (exchange : Exchange κ τ μ ρ) : Prop where
  issued : ∀ other letter, exchange.Issued other server letter → other = caller
  waits : ∀ letter ∈ exchange.held server, letter.reply = true →
    exchange.awaiting caller = some (.reply letter.number)
  last : ∀ front letter back, exchange.held server = front ++ letter :: back →
    letter.reply = true → back = []

omit [DecidableEq κ] [DecidableEq τ] in
theorem private_new (capacity : Nat) :
    (new capacity : Exchange κ τ μ ρ).Private caller server := by
  constructor
  case issued =>
    intro other letter stands
    cases stands
  case waits =>
    intro letter present
    cases present
  case last =>
    intro front letter back split
    cases (List.append_eq_nil_iff.mp split.symm).2

omit [DecidableEq κ] [DecidableEq τ] in
theorem Private.told (owner : exchange.Private caller server)
    (free : ∀ number, exchange.awaiting caller ≠ some (.reply number)) (letter : Letter μ)
    (present : letter ∈ exchange.held server) : letter.reply = false :=
  Bool.eq_false_of_not_eq_true fun asks => free _ (owner.waits letter present asks)

omit [DecidableEq κ] [DecidableEq τ] in
theorem private_congr (owner : exchange.Private caller server)
    (issued : after.books.issued = exchange.books.issued)
    (held : after.held server = exchange.held server)
    (awaiting : ∀ letter ∈ exchange.held server, letter.reply = true →
      after.awaiting caller = exchange.awaiting caller) : after.Private caller server := by
  constructor
  case issued =>
    intro other letter stands
    rw [Issued, issued] at stands
    exact owner.issued other letter stands
  case waits =>
    intro letter present asks
    rw [held] at present
    rw [awaiting letter present asks]
    exact owner.waits letter present asks
  case last =>
    rw [held]
    exact owner.last

omit [DecidableEq κ] in
theorem private_finish (owner : exchange.Private caller server) {other : τ} {number : Nat}
    {ending : Ending ρ}
    (apart : ∀ letter ∈ exchange.held server, letter.reply = true → caller ≠ other) :
    (exchange.finish other number ending).Private caller server :=
  private_congr owner rfl rfl fun letter present asks =>
    Function.update_of_ne (apart letter present asks) _ _

omit [DecidableEq κ] in
theorem private_issue (owner : exchange.Private caller server) {other : τ} {there : κ} {body : μ}
    {reply : Bool} (own : there = server → other = caller) (idle : exchange.awaiting other = none) :
    (exchange.issue other there body reply).Private caller server := by
  constructor
  case issued =>
    intro writer letter stands
    rcases issue_issued_cases stands with old | ⟨rfl, rfl, _⟩
    · exact owner.issued writer letter old
    · exact own rfl
  case waits =>
    intro letter present asks
    have apart : caller ≠ other := by
      rintro rfl
      cases idle.symm.trans (owner.waits letter present asks)
    exact (Function.update_of_ne apart _ _).trans (owner.waits letter present asks)
  case last => exact owner.last

theorem private_accept (sound : exchange.Sound) (owner : exchange.Private caller server) {other : τ}
    {there : κ} {letter : Letter μ} {inbox : Channel (Letter μ)}
    (waits : exchange.awaiting other = some (.send there letter))
    (room : (exchange.inbox there).send letter = some inbox) :
    (exchange.accept other there letter inbox).Private caller server := by
  -- the caller waits for room, so the server holds no question of its
  by_cases here : server = there
  · subst here
    obtain rfl := owner.issued other letter (sound.known.sending other server letter waits).1
    have told := owner.told (fun number also => by cases waits.symm.trans also)
    have held := (held_accept other room server).trans (if_pos rfl)
    constructor
    case issued => exact owner.issued
    case waits =>
      intro second present asks
      rw [held] at present
      rcases List.mem_append.mp present with old | new
      · cases asks.symm.trans (told second old)
      · obtain rfl := List.mem_singleton.mp new
        exact (Function.update_self ..).trans (if_pos asks)
    case last =>
      intro front second back split asks
      rw [held] at split
      rcases List.eq_nil_or_concat back with rfl | ⟨between, final, rfl⟩
      · rfl
      · rw [List.concat_eq_append, ← List.cons_append, ← List.append_assoc] at split
        have before := (List.append_inj' split rfl).1
        have present : second ∈ exchange.held server := by
          rw [before]
          exact List.mem_append_right _ List.mem_cons_self
        cases asks.symm.trans (told second present)
  · have held := (held_accept other room server).trans (if_neg here)
    refine private_congr owner rfl held fun second present asks => ?_
    refine Function.update_of_ne ?_ _ _
    rintro rfl
    cases waits.symm.trans (owner.waits second present asks)

omit [DecidableEq τ] in
theorem private_answer (owner : exchange.Private caller server) {there : κ} {letter : Letter μ}
    (result : ρ) (busy : exchange.serving there = some letter) :
    (exchange.answer there letter result).Private caller server := by
  obtain ⟨front, others⟩ := held_answer result busy
  by_cases here : server = there
  · subst here
    constructor
    case issued => exact owner.issued
    case waits =>
      intro second present asks
      refine owner.waits second ?_ asks
      rw [front]
      exact List.mem_cons_of_mem _ present
    case last =>
      intro before second back split asks
      refine owner.last (letter :: before) second back ?_ asks
      rw [front, split, List.cons_append]
  · exact private_congr owner rfl (others server here) fun _ _ _ => rfl

omit [DecidableEq τ] in
theorem private_close (owner : exchange.Private caller server) (there : κ) :
    (exchange.close there).Private caller server := by
  have held := exchange.held_close there server
  by_cases here : server = there
  · rw [if_pos here] at held
    constructor
    case issued => exact owner.issued
    case waits =>
      intro letter present
      rw [held] at present
      cases present
    case last =>
      intro front letter back split
      rw [held] at split
      cases (List.append_eq_nil_iff.mp split.symm).2
  · exact private_congr owner rfl (held.trans (if_neg here)) fun _ _ _ => rfl

theorem Private.moves (sound : exchange.Sound) (owner : exchange.Private caller server)
    (owned : Owned caller server op) (moves : exchange.Moves op after) :
    after.Private caller server := by
  cases moves with
  | @issued other there body reply idle =>
      refine private_issue owner ?_ idle
      rintro rfl
      exact owned.1 _ body reply rfl
  | accepted waits runs room => exact private_accept sound owner waits room
  | refused waits =>
      refine private_finish owner fun letter present asks => ?_
      rintro rfl
      cases waits.symm.trans (owner.waits letter present asks)
  | taken idle front =>
      exact private_congr owner rfl (held_take idle front server) fun _ _ _ => rfl
  | answered busy => exact private_answer owner _ busy
  | closed => exact private_close owner _
  | collected waits sent =>
      refine private_finish owner fun letter present asks => ?_
      rintro rfl
      cases waits.symm.trans (owner.waits letter present asks)
      rcases sound.paired.held server letter present with other | other <;> cases sent.symm.trans other
  | missed waits gone =>
      refine private_finish owner fun letter present asks => ?_
      rintro rfl
      cases waits.symm.trans (owner.waits letter present asks)
      rcases sound.paired.held server letter present with other | other <;> cases gone.symm.trans other
  | @unsent other =>
      refine private_finish owner fun _ _ _ => ?_
      rintro rfl
      exact owned.2 rfl
  | @abandoned other =>
      refine private_congr owner rfl rfl fun _ _ _ => Function.update_of_ne ?_ _ _
      rintro rfl
      exact owned.2 rfl

end Owner

end Exchange

end Rush.Library
