import Mathlib.Algebra.Order.Group.Multiset
import Mathlib.Tactic.Abel
import DeviceLab.Proofs.Session.Account
import DeviceLab.Proofs.Session.Working

/-!
# The books of a session at work

`books` reads the books of a session off its state and its turns. `Kept.working`, the main result,
says that a session at work keeps its books in order, whatever move it makes: they are blank before
the requests are submitted and sound from then on (`Kept`).

It rests on three things, of which none knows of the others.

* `Wired.working_of_step` says which moves there are; the books are looked at case by case of
  `Working`.
* `flow_of_working` finds the entry of each move. One lemma for each kind of move (`flow_draw`,
  `flow_bring`, `flow_settle` and so on) says which token goes where; `flow_of_carry` is the one for
  moves that hand an intention on, and `flow_answer` goes by what a worker does with the intention
  that it holds (`Worker.Resumed.held`).
* `Books.Sound.flow` keeps books sound under any entry, and `Books.Blank.submit` opens them.

Only `flow_draw` uses that identifiers of intentions are distinct. `gather_eq_append` is for the
caller, who would otherwise replace a report that it has: in sound books no request has two.
-/

namespace DeviceLab

namespace Session

open Books (Flow Sound Blank)

variable {h : List Turn} {s s' : Session} {m : Move} {ns : List Notice}

/-! ### Books -/

/-- The requests that are not settled. -/
def pending (s : Session) : List Pending :=
  match s.scheduler with
  | .collecting ps => ps
  | _ => []

/-- The reports of requests that are settled, whether the caller has taken them (`collected`) or
not. -/
def settled (s : Session) : List Report :=
  s.collected ++ s.reports.items

/-- The books of a session after some turns. -/
def books (h : List Turn) (s : Session) : Books where
  drawn := drawn h
  received := received h
  reported := reported h
  tokens := s.tokens + dropped h
  inFlight := s.client.inFlight
  pending := s.pending
  settled := s.settled

/-! ### Tokens with workers -/

/-- The tokens of one worker may change, and those of the others stay. -/
theorem takenBy_modify {n : Nat} {xs : List Hired} {x : Hired} (hx : xs[n]? = some x) (k : Nat) :
    ∃ rest : Multiset Token,
      takenBy k xs = each (.taken (k + n)) x.worker.holding?.toList + rest ∧
      ∀ w : Worker, takenBy k (xs.modify n fun y ↦ { y with worker := w }) =
        each (.taken (k + n)) w.holding?.toList + rest := by
  induction xs generalizing n k with
  | nil => cases hx
  | cons a xs ih =>
    cases n with
    | zero =>
      obtain rfl : a = x := Option.some.inj hx
      exact ⟨takenBy (k + 1) xs, rfl, fun w ↦ rfl⟩
    | succ n =>
      obtain ⟨rest, hrest, hrest'⟩ := ih (n := n) hx (k + 1)
      rw [Nat.add_right_comm, Nat.add_assoc] at hrest
      refine ⟨each (.taken k) a.worker.holding?.toList + rest, ?_, ?_⟩
      · rw [takenBy, hrest, add_left_comm]
      · intro w
        have hw := hrest' w
        rw [Nat.add_right_comm, Nat.add_assoc] at hw
        rw [List.modify_succ_cons, takenBy, hw, add_left_comm]

/-- A worker that was just hired has no token. -/
theorem takenBy_hire (k : Nat) (xs : List Hired) (d : DeviceData) :
    takenBy k (xs ++ [⟨.new d, false⟩]) = takenBy k xs := by
  induction xs generalizing k with
  | nil => rfl
  | cons a xs ih => rw [List.cons_append, takenBy, takenBy, ih]

/-! ### Moves as entries -/

/-- The books after a turn in which nothing is drawn, received, reported or lost. -/
theorem books_append {t : Turn} (hdrawn : t.drawn = []) (hreceived : t.received = [])
    (hreported : t.reported = []) (hdropped : t.dropped = []) (s : Session) :
    books (h ++ [t]) s = books h s := by
  simp only [books, drawn_append_singleton, received_append_singleton, reported_append_singleton,
    dropped_append_singleton, hdrawn, hreceived, hreported, hdropped, List.append_nil]

/-- An entry (`Flow`) without anything drawn, received, reported or lost. -/
theorem flow_append {t : Turn} (hdrawn : t.drawn = []) (hreceived : t.received = [])
    (hreported : t.reported = []) (hdropped : t.dropped = [])
    (hf : Flow (books h s) (books h s')) : Flow (books h s) (books (h ++ [t]) s') := by
  rw [books_append hdrawn hreceived hreported hdropped]
  exact hf

/-- The books with a token set apart. -/
theorem books_tokens_of_cons {x : Token} {left : Multiset Token} (hb : s.tokens = x ::ₘ left) :
    (books h s).tokens = x ::ₘ (left + dropped h) := by
  rw [books, hb, Multiset.cons_add]

/-- An intention moves on from one place to another one. -/
theorem flow_of_carry (x y : Token) (left : Multiset Token) {i : Intention}
    (hx : x.carried? = some i) (hy : y.carried? = some i) (hb : s.tokens = x ::ₘ left)
    (ha : s'.tokens = y ::ₘ left)
    (hsame : { books h s with tokens := s'.tokens + dropped h } = books h s') :
    Flow (books h s) (books h s') := by
  have hflow : Flow (books h s) _ := .carry hx hy (books_tokens_of_cons hb)
  rwa [← Multiset.cons_add, ← ha, hsame] at hflow

theorem flow_handOn {i : Intention} (hi : s.client.stage = .holding i) :
    Flow (books h s) (books h { s with
      client := s.client.handed
      intentions := { s.intentions with items := s.intentions.items ++ [i] } }) := by
  refine flow_of_carry (.held i) (.offered i) { s with client := s.client.handed }.tokens rfl rfl
    ?_ ?_ rfl
  · simp [tokens, heldBy, hi, Client.handed, -Multiset.cons_zero]
  · simp [tokens]

theorem flow_pass {i : Intention} {rest : List Intention} (hi : s.intentions.items = i :: rest) :
    Flow (books h s) (books h { s with
      intentions := s.intentions.rest
      router := { s.router with queue := s.router.queue ++ [i] }.wakeTakes
      forwarder := .reading }) := by
  refine flow_of_carry (.offered i) (.queued i)
    { s with intentions := s.intentions.rest, forwarder := .reading }.tokens rfl rfl ?_ ?_ rfl
  · simp [tokens, hi]
  · simp [tokens]

theorem flow_block {i : Intention} {rest : List Intention} (hi : s.intentions.items = i :: rest)
    (hsends : s.router.sends = []) :
    Flow (books h s) (books h { s with
      intentions := s.intentions.rest
      router := { s.router with sends := [⟨forwarderId, i, .asleep⟩], permit := false }
      forwarder := .parked }) := by
  refine flow_of_carry (.offered i) (.parked i)
    { s with intentions := s.intentions.rest, forwarder := .parked }.tokens rfl rfl ?_ ?_ rfl
  · simp [tokens, hi]
  · simp [tokens, hsends, -Multiset.cons_zero]

theorem flow_resume {p : ParkedSend} (hp : s.router.sends = [p]) :
    Flow (books h s) (books h { s with
      router := { s.router with
        sends := [], queue := s.router.queue ++ [p.intention] }.wakeTakes
      forwarder := .reading }) := by
  refine flow_of_carry (.parked p.intention) (.queued p.intention)
    { s with router := { s.router with sends := [] }, forwarder := .reading }.tokens rfl rfl
    ?_ ?_ rfl
  · simp [tokens, hp, -Multiset.cons_zero]
  · simp [tokens]

theorem books_reblock {p : ParkedSend} (hp : s.router.sends = [p]) :
    books h { s with
      router := { s.router with
        sends := [⟨forwarderId, p.intention, .asleep⟩], permit := false }
      forwarder := .parked } = books h s := by
  have htokens : each (fun p : ParkedSend ↦ Token.parked p.intention)
      [⟨forwarderId, p.intention, .asleep⟩] = each (Token.parked ·.intention) s.router.sends := by
    rw [hp]
    rfl
  simp only [books, tokens, htokens]
  rfl

/-! ### Scheduler and client -/

theorem flow_draw {id : Uuid} {a : Attempt} {rest : List Attempt} {ns : List Notice}
    (hnew : id ∉ (drawn h).map (·.1)) (hstage : s.client.stage = .reading)
    (ha : s.attempts.items = a :: rest) :
    Flow (books h s) (books (h ++ [⟨s, .takeAttempt id, ns⟩])
      { s with attempts := s.attempts.rest, client := s.client.take id a }) := by
  have hb : s.tokens = .submitted a ::ₘ { s with attempts := s.attempts.rest }.tokens := by
    simp [tokens, ha]
  have hflow : Flow (books h s) _ := .draw hnew (books_tokens_of_cons hb)
  have hafter : { s with attempts := s.attempts.rest, client := s.client.take id a }.tokens =
      .held (.ofRequest id a.request a.execution) ::ₘ
        { s with attempts := s.attempts.rest }.tokens := by
    simp [tokens, heldBy, hstage, Client.take, -Multiset.cons_zero]
  have hbooks (t : Session) : books (h ++ [⟨s, .takeAttempt id, ns⟩]) t =
      { books h t with drawn := drawn h ++ [(id, a)] } := by
    simp [books, Turn.drawn, Turn.received, Turn.reported, Turn.dropped, Move.worker?, ha]
  rw [← Multiset.cons_add, ← hafter] at hflow
  rw [hbooks]
  exact hflow

theorem flow_bring {r : IntentionResult} {rest : List IntentionResult} {q : Uuid}
    (hr : s.results.items = r :: rest) (hq : s.client.inFlight.lookup r.intention.id = some q)
    (ho : s.outcomes.receiving = true) :
    Flow (books h s) (books h { s with
      client := { s.client with inFlight := s.client.inFlight.filter (·.1 ≠ r.intention.id) }
      results := s.results.rest
      outcomes := s.outcomes.push ⟨q, r.run⟩ }) := by
  have hb : s.tokens = .answered r ::ₘ { s with results := s.results.rest }.tokens := by
    simp [tokens, hr]
  have hflow : Flow (books h s) _ := .bring hq (books_tokens_of_cons hb)
  have hafter : { s with
      client := { s.client with inFlight := s.client.inFlight.filter (·.1 ≠ r.intention.id) }
      results := s.results.rest
      outcomes := s.outcomes.push ⟨q, r.run⟩ }.tokens =
        .returned ⟨q, r.run⟩ ::ₘ { s with results := s.results.rest }.tokens := by
    simp [tokens, heldBy, Channel.push_of_receiving ho]
  rw [← Multiset.cons_add, ← hafter] at hflow
  exact hflow

theorem flow_misplace {r : IntentionResult} {rest : List IntentionResult}
    (hr : s.results.items = r :: rest) (hq : s.client.inFlight.lookup r.intention.id = none) :
    Flow (books h s) (books h { s with results := s.results.rest }) := by
  have hb : s.tokens = .answered r ::ₘ { s with results := s.results.rest }.tokens := by
    simp [tokens, hr]
  exact .misplace hq (books_tokens_of_cons hb)

section Scheduler

variable {ps : List Pending} {o : AttemptOutcome} {rest : List AttemptOutcome} {p : Pending}

/-- The scheduler takes an outcome. -/
theorem tokens_outcome (ho : s.outcomes.items = o :: rest) :
    s.tokens = .returned o ::ₘ { s with outcomes := s.outcomes.rest }.tokens := by
  simp [tokens, ho]

/-- A report that is sent is the last of those that are settled. -/
theorem settled_concat (q : Report) :
    (books h s).settled ++ [q] = s.collected ++ (s.reports.items ++ [q]) :=
  List.append_assoc ..

theorem pending_of_collecting (hs : s.scheduler = .collecting ps) : s.pending = ps := by
  rw [pending, hs]

theorem flow_ignore (hs : s.scheduler = .collecting ps) (ho : s.outcomes.items = o :: rest)
    (hp : Scheduler.find? o.request ps = none) :
    Flow (books h s)
      (books h { s with outcomes := s.outcomes.rest, scheduler := .collecting ps }) := by
  rw [← pending_of_collecting hs] at hp
  have hflow : Flow (books h s) _ := .ignore hp (books_tokens_of_cons (tokens_outcome ho))
  rw [← hs]
  exact hflow

theorem flow_retry {k : UInt32} (hs : s.scheduler = .collecting ps)
    (ho : s.outcomes.items = o :: rest) (hp : Scheduler.find? o.request ps = some p)
    (hk : nextAttempt p.request.maxAttempts (p.runs ++ [o.run]) = some k) :
    Flow (books h s) (books h { s with
      outcomes := s.outcomes.rest
      scheduler := .collecting (Scheduler.put ⟨p.request, p.runs ++ [o.run]⟩ ps)
      attempts := { s.attempts with items := s.attempts.items ++ [⟨p.request, k⟩] } }) := by
  rw [← pending_of_collecting hs] at hp ⊢
  have hflow : Flow (books h s) _ := .retry hp hk (books_tokens_of_cons (tokens_outcome ho))
  have hafter (σ : Scheduler) : { s with
      outcomes := s.outcomes.rest
      scheduler := σ
      attempts := { s.attempts with
        items := s.attempts.items ++ [(⟨p.request, k⟩ : Attempt)] } }.tokens =
        .submitted ⟨p.request, k⟩ ::ₘ { s with outcomes := s.outcomes.rest }.tokens := by
    simp [tokens]
  rw [← Multiset.cons_add,
    ← hafter (.collecting (Scheduler.put ⟨p.request, p.runs ++ [o.run]⟩ s.pending))] at hflow
  exact hflow

theorem flow_settle (hs : s.scheduler = .collecting ps) (ho : s.outcomes.items = o :: rest)
    (hp : Scheduler.find? o.request ps = some p)
    (hk : nextAttempt p.request.maxAttempts (p.runs ++ [o.run]) = none) :
    Flow (books h s) (books h { s with
      outcomes := s.outcomes.rest
      scheduler := .collecting (Scheduler.erase o.request ps)
      reports := { s.reports with
        items := s.reports.items ++ [⟨p.request, p.runs ++ [o.run]⟩] } }) := by
  rw [← pending_of_collecting hs] at hp ⊢
  have hflow : Flow (books h s) _ := .settle hp hk (books_tokens_of_cons (tokens_outcome ho))
  rw [settled_concat] at hflow
  exact hflow

/-- A scheduler that leaves drops the outcomes that wait for it, but there are none. -/
theorem flow_finish {rs : List Request} (hbooks : Sound rs (books h s))
    (hs : s.scheduler = .collecting ps) (ho : s.outcomes.items = o :: rest)
    (hp : Scheduler.find? o.request ps = some p)
    (hk : nextAttempt p.request.maxAttempts (p.runs ++ [o.run]) = none)
    (hl : Scheduler.erase o.request ps = []) :
    Flow (books h s) (books h { s with
      outcomes := s.outcomes.endReceiving
      scheduler := .off
      attempts := s.attempts.endSending
      reports := { s.reports with
        items := s.reports.items ++ [⟨p.request, p.runs ++ [o.run]⟩], sending := false } }) := by
  have hb : (books h s).tokens =
      .returned o ::ₘ ({ s with outcomes := s.outcomes.rest }.tokens +
        (dropped h : Multiset Token)) :=
    books_tokens_of_cons (tokens_outcome ho)
  rw [← pending_of_collecting hs] at hp hl
  -- The outcomes that are dropped are tokens, and the one that was taken is the only token.
  have hzero := hbooks.left_eq_zero hb hl
  have hempty := hzero
  have hflow : Flow (books h s) _ := .settle hp hk hb
  have hrest : { s with outcomes := s.outcomes.endReceiving }.tokens + each .returned rest =
      { s with outcomes := s.outcomes.rest }.tokens := by
    simp [tokens, ho]
  have hnone : { s with outcomes := s.outcomes.endReceiving }.tokens +
      (dropped h : Multiset Token) = 0 := by
    rw [← hrest, ← Multiset.card_eq_zero, Multiset.card_add, Multiset.card_add] at hempty
    rw [← Multiset.card_eq_zero, Multiset.card_add]
    omega
  have hpending : Scheduler.erase o.request (books h s).pending = [] := hl
  rw [settled_concat, hzero, hpending, ← hnone] at hflow
  exact hflow

end Scheduler

/-! ### Workers -/

/-- Waking a sender changes nothing about the intentions that senders hold. -/
theorem each_parked_wakeSend (r : Router) :
    each (Token.parked ·.intention) r.wakeSend.sends = each (Token.parked ·.intention) r.sends := by
  have hmap := congrArg (each Token.parked) (Router.map_intention_wakeSend r)
  rw [each, each, List.map_map, List.map_map] at hmap
  exact hmap

theorem flow_deliver {n : Nat} {x : Hired} {state : DeviceState} {i : Intention}
    {queue : List Intention} (hx : s.workers[n]? = some x) (hseeking : x.worker.isSeeking = true)
    (hq : Router.takeMatching state s.router.queue = some (i, queue)) :
    Flow (books h s) (books (h ++ [⟨s, .seek n, (x.worker.receive (some i)).2⟩]) { s with
      router := { s.router with
        takes := s.router.takes.filter (·.id ≠ n), queue := queue }.wakeSend
      workers := s.workers.modify n fun x' ↦
        { x' with worker := (x.worker.receive (some i)).1 } }) := by
  obtain ⟨others, hbefore, hafter⟩ := takenBy_modify hx 0
  rw [Worker.holding?_of_isSeeking hseeking, Option.toList_none, each_nil,
    Multiset.zero_add] at hbefore
  have hperm := each_perm Token.queued (Router.perm_of_takeMatching hq)
  have hb : s.tokens =
      .queued i ::ₘ { s with router := { s.router with queue := queue } }.tokens := by
    simp [tokens, hperm]
  have hflow : Flow (books h s) _ := .take (n := n) (books_tokens_of_cons hb)
  have hdone : { s with
      router := { s.router with
        takes := s.router.takes.filter (·.id ≠ n), queue := queue }.wakeSend
      workers := s.workers.modify n fun x' ↦
        { x' with worker := (x.worker.receive (some i)).1 } }.tokens =
      .taken n i ::ₘ { s with router := { s.router with queue := queue } }.tokens := by
    simp only [tokens, each_parked_wakeSend, Router.wakeSend_queue, hafter, hbefore]
    simp [Worker.receive, Worker.holding?, -Multiset.cons_zero]
  have hbooks (t : Session) :
      books (h ++ [⟨s, .seek n, (x.worker.receive (some i)).2⟩]) t =
        { books h t with received := received h ++ [(n, i)] } := by
    simp [books, Turn.drawn, Turn.received, Turn.reported, Turn.dropped, Move.worker?,
      Worker.receive, Worker.say, Notice.received?]
  rw [← Multiset.cons_add, ← hdone] at hflow
  rw [hbooks]
  exact hflow

/-- What is lost in a turn in which a device answers. -/
theorem dropped_answer {n : Nat} {x : Hired} (time : UInt64) (reply : Reply) (ns : List Notice)
    (hx : s.workers[n]? = some x) :
    (∃ m, reply = .status (.panicked m) ∧ Turn.dropped ⟨s, .answer n time reply, ns⟩ =
      (x.worker.holding?.map (Token.dropped n)).toList) ∨
    ((∀ m, reply ≠ .status (.panicked m)) ∧ Turn.dropped ⟨s, .answer n time reply, ns⟩ = []) := by
  rcases reply with (health | e | m) | a | a | a
  case status.panicked =>
    refine .inl ⟨m, rfl, ?_⟩
    rw [Turn.dropped]
    simp only [hx, Option.bind_some]
  all_goals exact .inr ⟨fun _ hm ↦ (by cases hm), rfl⟩

section Answer

variable {n : Nat} {time : UInt64} {reply : Reply} {x : Hired} {w : Worker}
variable {signals : Channel Coordinate} {i : Intention}

/-- A session in which a worker has changed. -/
def withWorker (s : Session) (n : Nat) (w : Worker) : Session :=
  { s with workers := s.workers.modify n fun x ↦ { x with worker := w } }

/-- A session in which a worker has changed and has reported results. -/
def withAnswer (s : Session) (n : Nat) (w : Worker) (results : List IntentionResult)
    (signals : Channel Coordinate) : Session :=
  { s.withWorker n w with
    results := { s.results with items := s.results.items ++ results }, signals := signals }

/-- A worker that holds what it held keeps its token. -/
theorem tokens_withWorker (hx : s.workers[n]? = some x) (hh : w.holding? = x.worker.holding?) :
    (s.withWorker n w).tokens = s.tokens := by
  obtain ⟨others, hbefore, hafter⟩ := takenBy_modify hx 0
  have hsame : takenBy 0 (s.withWorker n w).workers = takenBy 0 s.workers := by
    rw [withWorker, hafter, hbefore, hh]
  simp only [tokens, hsame]
  rfl

/-- A worker that lets go of its intention leaves its `Token` behind. -/
theorem tokens_letGo (hx : s.workers[n]? = some x) (hh : x.worker.holding? = some i)
    (hh' : w.holding? = none) : s.tokens = .taken n i ::ₘ (s.withWorker n w).tokens := by
  obtain ⟨others, hbefore, hafter⟩ := takenBy_modify hx 0
  rw [hh, Option.toList_some, each_cons, each_nil, Nat.zero_add] at hbefore
  have hothers : takenBy 0 (s.withWorker n w).workers = others := by
    rw [withWorker, hafter, hh', Option.toList_none, each_nil, Multiset.zero_add]
  simp only [tokens, hbefore, hothers]
  simp [withWorker, -Multiset.cons_zero]

/-- Results that a worker reports are more tokens. -/
theorem tokens_withAnswer (results : List IntentionResult) :
    (s.withAnswer n w results signals).tokens =
      each .answered results + (s.withWorker n w).tokens := by
  simp only [tokens, withAnswer, withWorker, each_append]
  abel

/-- The worker goes on with what it has in hand. -/
theorem flow_kept (hx : s.workers[n]? = some x) (hh : w.holding? = x.worker.holding?)
    (hn : Notice.Idle time ns) (hlost : Turn.dropped ⟨s, .answer n time reply, ns⟩ = []) :
    Flow (books h s) (books (h ++ [⟨s, .answer n time reply, ns⟩])
      (s.withAnswer n w (ns.filterMap (Notice.result? time)) signals)) := by
  rw [books_append rfl (by simp [Turn.received, Move.worker?, hn.1])
    (by simp [Turn.reported, hn.2]) hlost]
  have hbooks : books h (s.withAnswer n w (ns.filterMap (Notice.result? time)) signals) =
      books h s := by
    have htokens : (s.withAnswer n w [] signals).tokens = s.tokens := by
      rw [tokens_withAnswer, each_nil, Multiset.zero_add, tokens_withWorker hx hh]
    rw [hn.2, books, htokens]
    rfl
  rw [hbooks]
  exact .still

/-- The worker reports the intention that it had in hand. -/
theorem flow_reported {r : IntentionResult} (hx : s.workers[n]? = some x)
    (hh : x.worker.holding? = some r.intention) (hh' : w.holding? = none)
    (hn : ns.filterMap Notice.received? = []) (hr : ns.filterMap (Notice.result? time) = [r])
    (hlost : Turn.dropped ⟨s, .answer n time reply, ns⟩ = []) :
    Flow (books h s) (books (h ++ [⟨s, .answer n time reply, ns⟩])
      (s.withAnswer n w (ns.filterMap (Notice.result? time)) signals)) := by
  have hflow : Flow (books h s) _ := .answer (books_tokens_of_cons (tokens_letGo hx hh hh'))
  have hdone : (s.withAnswer n w [r] signals).tokens =
      .answered r ::ₘ (s.withWorker n w).tokens := by
    rw [tokens_withAnswer, each_cons, each_nil, Multiset.cons_add, Multiset.zero_add]
  have hbooks (t : Session) : books (h ++ [⟨s, .answer n time reply, ns⟩]) t =
      { books h t with reported := reported h ++ [(n, r)] } := by
    simp [books, Turn.drawn, Turn.received, Turn.reported, Move.worker?, hn, hr, hlost]
  rw [← Multiset.cons_add, ← hdone] at hflow
  rw [hbooks, hr]
  exact hflow

/-- The worker ends by a panic, and what it had in hand is lost (`Turn.dropped`). -/
theorem flow_lost (hx : s.workers[n]? = some x) (hh : x.worker.holding? = some i)
    (hh' : w.holding? = none)
    (hlost : Turn.dropped ⟨s, .answer n time reply, []⟩ = [.dropped n i]) :
    Flow (books h s) (books (h ++ [⟨s, .answer n time reply, []⟩])
      (s.withAnswer n w [] signals)) := by
  have hflow : Flow (books h s) _ := .drop (books_tokens_of_cons (tokens_letGo hx hh hh'))
  have hdone : (s.withAnswer n w [] signals).tokens = (s.withWorker n w).tokens := by
    rw [tokens_withAnswer, each_nil, Multiset.zero_add]
  have hbooks (t : Session) : books (h ++ [⟨s, .answer n time reply, []⟩]) t =
      { books h t with tokens := .dropped n i ::ₘ (t.tokens + dropped h) } := by
    have hmore : ((dropped h ++ [.dropped n i] : List Token) : Multiset Token) =
        .dropped n i ::ₘ (dropped h : Multiset Token) := by
      rw [← Multiset.coe_add, Multiset.add_comm]
      rfl
    simp only [books, drawn_append_singleton, received_append_singleton,
      reported_append_singleton, dropped_append_singleton, hlost, hmore, Multiset.add_cons]
    simp [Turn.drawn, Turn.received, Turn.reported, Move.worker?]
  rw [← hdone] at hflow
  rw [hbooks]
  exact hflow

theorem flow_answer (hx : s.workers[n]? = some x)
    (hr : x.worker.resume time reply = some (w, ns)) :
    Flow (books h s) (books (h ++ [⟨s, .answer n time reply, ns⟩])
      (s.withAnswer n w (ns.filterMap (Notice.result? time)) signals)) := by
  have hdropped := dropped_answer time reply ns hx
  cases (Worker.resumed_of_resume hr).held with
  | kept hh hn hp =>
    refine flow_kept hx hh hn ?_
    rcases hdropped with ⟨m, hm, hlost⟩ | ⟨-, hlost⟩
    · rw [hlost, hp m hm]
      rfl
    · exact hlost
  | reported r hh hh' hn hres hp =>
    refine flow_reported hx hh hh' hn hres ?_
    rcases hdropped with ⟨m, hm, -⟩ | ⟨-, hlost⟩
    · exact (hp m hm).elim
    · exact hlost
  | lost m i hp hh hh' hn =>
    subst hn
    refine flow_lost hx hh hh' ?_
    rcases hdropped with ⟨m, -, hlost⟩ | ⟨hnot, -⟩
    · rw [hlost, hh]
      rfl
    · exact (hnot m hp).elim

end Answer

/-! ### The caller -/

/-- The caller has not collected a report of the request whose report it takes. -/
theorem gather_eq_append {rs : List Request} {r : Report} {rest : List Report}
    (hs : Sound rs (books h s)) (hr : s.reports.items = r :: rest) :
    gather r s.collected = s.collected ++ [r] := by
  have hsettled : (books h s).settled = s.collected ++ r :: rest := by
    rw [← hr]
    rfl
  rw [gather, if_neg]
  intro hany
  obtain ⟨q, hq, hid⟩ := List.any_eq_true.1 hany
  have hid : q.request.id = r.request.id := of_decide_eq_true hid
  obtain ⟨r', hr', hid'⟩ := hs.settled r (by rw [hsettled]; simp)
  -- Two reports of one request would be settled, but there is one at most.
  have hlength : 2 ≤ ((books h s).settledOf r'.id).length := by
    have hmem : q ∈ s.collected.filter (·.request.id = r'.id) :=
      List.mem_filter.2 ⟨hq, decide_eq_true (hid.trans hid')⟩
    have hpos := List.length_pos_of_mem hmem
    rw [Books.settledOf, hsettled, List.filter_append, List.filter_cons,
      if_pos (decide_eq_true hid'), List.length_append, List.length_cons]
    omega
  cases hs.stands r' hr' with
  | underway x runs hu =>
    rw [hu.settled] at hlength
    exact absurd hlength (by decide)
  | resolved runs hres =>
    rw [hres.settled] at hlength
    exact absurd hlength (by simp)

theorem books_gather {rs : List Request} {r : Report} {rest : List Report}
    (hs : Sound rs (books h s)) (hr : s.reports.items = r :: rest) :
    books h { s with reports := s.reports.rest, collected := gather r s.collected } =
      books h s := by
  have hsettled :
    gather r s.collected ++ s.reports.rest.items = s.collected ++ s.reports.items := by
    rw [gather_eq_append hs hr, Channel.rest_items, hr, List.tail_cons, List.append_assoc]
    rfl
  simp only [books, settled, hsettled]
  rfl

/-! ### Keeping the books -/

/-- The books of a session are `Blank` before it submits its requests, and `Sound` afterwards. -/
inductive Kept (h : List Turn) (s : Session) : Prop
  | blank (hs : s.scheduler = .submitting s.requests) (hb : (books h s).Blank)
  | sound (hs : ∀ rs, s.scheduler ≠ .submitting rs) (hb : Sound s.requests (books h s))

/-- Once the requests are submitted the books are `Sound`. -/
theorem Kept.sound_of (hk : Kept h s) (hs : ∀ rs, s.scheduler ≠ .submitting rs) :
    Sound s.requests (books h s) := by
  cases hk with
  | blank hs' => exact (hs _ hs').elim
  | sound _ hb => exact hb

/-- As long as an attempt is somewhere, the scheduler collects. -/
theorem Kept.collecting_of_mem (hk : Kept h s) {x : Token} (hx : x ∈ (books h s).tokens) :
    ∃ ps, s.scheduler = .collecting ps := by
  cases hk with
  | blank _ hb =>
    rw [hb.tokens] at hx
    exact (Multiset.notMem_zero x hx).elim
  | sound hs hb =>
    obtain ⟨r, -, runs, -, hu⟩ := hb.underway_of_mem hx
    have hpending : Scheduler.find? r.id s.pending = some ⟨r, runs⟩ := hu.pending
    cases hsched : s.scheduler with
    | off =>
      rw [pending, hsched] at hpending
      cases hpending
    | submitting rs => exact (hs rs hsched).elim
    | collecting ps => exact ⟨ps, rfl⟩

/-- **Every move is an entry in the books** (`Flow`), apart from the submission of the requests. -/
theorem flow_of_working (hk : Kept h s) (hw : s.Wired)
    (hd : ((drawn (h ++ [⟨s, m, ns⟩])).map (·.1)).Nodup) (hwk : Working s m s' ns)
    (hm : ∀ rs, s.scheduler = .submitting rs → m ≠ .schedule) :
    Flow (books h s) (books (h ++ [⟨s, m, ns⟩]) s') := by
  have hon {ps : List Pending} (hs : s.scheduler = .collecting ps) :
      ∀ rs, s.scheduler ≠ .submitting rs := by
    rw [hs]
    exact fun _ ↦ Scheduler.noConfusion
  cases hwk with
  | submit hs => exact (hm _ hs rfl).elim
  | ignore hs ho hp => exact flow_append rfl rfl rfl rfl (flow_ignore hs ho hp)
  | retry hs ho hp hk => exact flow_append rfl rfl rfl rfl (flow_retry hs ho hp hk)
  | settle hs ho hp hk => exact flow_append rfl rfl rfl rfl (flow_settle hs ho hp hk)
  | finish hs ho hp hk' hl =>
    exact flow_append rfl rfl rfl rfl (flow_finish (hk.sound_of (hon hs)) hs ho hp hk' hl)
  | draw hs ha =>
    refine flow_draw ?_ hs ha
    rw [drawn_append_singleton, Turn.drawn, ha, List.map_append, List.nodup_append] at hd
    exact fun hid ↦ hd.2.2 _ hid _ (List.mem_singleton_self _) rfl
  | exhaust hs ha => exact flow_append (by simp [Turn.drawn, ha]) rfl rfl rfl .still
  | @bring r rest q hs hr hq =>
    -- The scheduler is there to take the outcome, since the result is an attempt that is alive.
    have hmem : Token.answered r ∈ (books h s).tokens := by
      simp [books, tokens, hr]
    obtain ⟨ps, hps⟩ := hk.collecting_of_mem hmem
    have hreceiving := hw.outcomes_receiving (by rw [hps]; exact Scheduler.noConfusion)
    exact flow_append rfl rfl rfl rfl (flow_bring hr hq hreceiving)
  | misplace hs hr hq => exact flow_append rfl rfl rfl rfl (flow_misplace hr hq)
  | handOn hs => exact flow_append rfl rfl rfl rfl (flow_handOn hs)
  | pass hf hi => exact flow_append rfl rfl rfl rfl (flow_pass hi)
  | block hf hi =>
    exact flow_append rfl rfl rfl rfl (flow_block hi (hw.sends_of_reading hf))
  | resume hf hp => exact flow_append rfl rfl rfl rfl (flow_resume hp)
  | reblock hf hp => rw [books_append rfl rfl rfl rfl, books_reblock hp]; exact .still
  | errand hm =>
    cases m <;> first
      | exact flow_append rfl rfl rfl rfl .still
      | cases hm
  | @hire d =>
    have hbooks : books h ({ s with devices := s.devices.rest }.hire d) = books h s := by
      simp only [books, tokens, hire, takenBy_hire]
      rfl
    rw [books_append rfl rfl rfl rfl, hbooks]
    exact .still
  | await => exact flow_append rfl rfl rfl rfl .still
  | deliver hx hs hstate hq => exact flow_deliver hx hs hq
  | answer hx hr => exact flow_answer hx hr
  | gather hr hl =>
    refine flow_append rfl rfl rfl rfl ?_
    cases hk with
    | blank _ hb =>
      -- There is no report before the requests are submitted.
      have hnone := (List.append_eq_nil_iff.1 (show s.collected ++ s.reports.items = [] from
        hb.settled)).2
      rw [hr] at hnone
      cases hnone
    | sound _ hb =>
      rw [books_gather hb hr]
      exact .still

/-- Submitting the requests opens the books. -/
theorem books_submit (hb : (books h s).Blank) :
    books h { s with
      scheduler := .collecting (s.requests.map fun r ↦ ⟨r, []⟩)
      attempts := { s.attempts with
        items := s.attempts.items ++ s.requests.map fun r ↦ ⟨r, 1⟩ } } =
    { books h s with
      tokens := ((s.requests.map fun r ↦ Token.submitted ⟨r, 1⟩ : List Token) : Multiset Token)
      pending := s.requests.map fun r ↦ ⟨r, []⟩ } := by
  have htokens : { s with
      attempts := { s.attempts with
        items := s.attempts.items ++ s.requests.map fun r ↦ (⟨r, 1⟩ : Attempt) } }.tokens =
      s.tokens + each .submitted (s.requests.map fun r ↦ ⟨r, 1⟩) := by
    simp only [tokens, each_append]
    abel
  have hzero : s.tokens + (dropped h : Multiset Token) = 0 := hb.tokens
  have hopened : { s with
      scheduler := .collecting (s.requests.map fun r ↦ ⟨r, []⟩)
      attempts := { s.attempts with
        items := s.attempts.items ++ s.requests.map fun r ↦ (⟨r, 1⟩ : Attempt) } }.tokens +
        (dropped h : Multiset Token) =
      ((s.requests.map fun r ↦ Token.submitted ⟨r, 1⟩ : List Token) : Multiset Token) := by
    refine (congrArg (· + (dropped h : Multiset Token)) htokens).trans ?_
    show s.tokens + _ + (dropped h : Multiset Token) = _
    rw [add_right_comm, hzero, Multiset.zero_add, each, List.map_map]
    rfl
  rw [books, hopened]
  rfl

/-- **The books of a session at work stay `Kept`**, whatever move it makes. -/
theorem Kept.working (hk : Kept h s) (hw : s.Wired)
    (hd : ((drawn (h ++ [⟨s, m, ns⟩])).map (·.1)).Nodup) (hwk : Working s m s' ns) :
    Kept (h ++ [⟨s, m, ns⟩]) s' := by
  cases hk with
  | sound hs hb =>
    refine .sound (hwk.not_submitting hs) ?_
    rw [hwk.requests_eq]
    exact hb.flow (flow_of_working (.sound hs hb) hw hd hwk fun rs hrs ↦ (hs rs hrs).elim)
  | blank hs hb =>
    by_cases hm : m = .schedule
    · subst hm
      cases hwk with
      | submit hs' =>
        obtain rfl := hw.submitting _ hs'
        refine .sound (fun _ ↦ Scheduler.noConfusion) ?_
        rw [books_append rfl rfl rfl rfl, books_submit hb]
        exact hb.submit hw.requests_distinct
      | ignore hs' | retry hs' | settle hs' | finish hs' =>
        rw [hs] at hs'
        cases hs'
      | errand hm => cases hm
    · -- Nothing but the submission of the requests fills the books.
      refine .blank ?_ (hb.flow (flow_of_working (.blank hs hb) hw hd hwk fun _ _ ↦ hm))
      rw [hwk.scheduler_eq hm, hwk.requests_eq, hs]

end Session

end DeviceLab
