import DeviceLab.Proofs.Distinct
import DeviceLab.Proofs.Session.TokenReplaced

/-!
# Sound books stay sound

`Sound.flow`: whatever happens to sound books, they stay sound. There is one lemma for each kind of
entry, and all of them go through `TokenReplaced.sound`, so each has to show that the request of its
token still stands somewhere and that the client remembers the intentions whose tokens are there.

* `Sound.pass` is for intentions that are only handed on. It rests on `Sound.flights_replaced`: a
  token may stand for another one of the same intention.
* `Sound.draw` is the only one that needs the identifier of an intention to be new. It rests on
  `Sound.not_mem_keys`: the client remembers no identifier that was never drawn.
* `Sound.take` and `Sound.answer` make what is told of a request longer (`Told.length_received`).
* `Sound.bring` rests on `Sound.lookup_inFlight`: the client knows the intention of every token that
  is there, so no result is ever one of an unknown intention.
* `Sound.retry` and `Sound.settle` part at `nextAttempt`; that the runs of a settled request are
  `Final` is `Underway.final`.

`Blank.submit` turns blank books into sound ones. It is the only place that uses that the
identifiers of requests are distinct; afterwards `Sound.distinct` keeps it.
-/

namespace DeviceLab

open Session (requestOf receivedFor reportedFor)

namespace Books

variable {rs : List Request} {b b' : Books} {r : Request} {x : Token} {q : Uuid}
variable {left : Multiset Token} {runs : List DeviceRun}

/-! ### Tokens that are passed on -/

section Entries

variable {y : Token} {i : Intention}

/-- What the client remembers (`inFlight`), with one token set apart. -/
theorem Sound.flights_cons (hs : Sound rs b) (hb : b.tokens = x ::ₘ left) :
    (b.inFlight : Multiset (Uuid × Uuid)) =
      ({x} : Multiset Token).filterMap (Token.flight? b.drawn) +
        left.filterMap (Token.flight? b.drawn) := by
  rw [hs.flights, hb, ← Multiset.singleton_add, Multiset.filterMap_add]

theorem filterMap_singleton (f : Token → Option (Uuid × Uuid)) (x : Token) :
    ({x} : Multiset Token).filterMap f = ((f x).map singleton).getD 0 := by
  rw [← Multiset.cons_zero, Multiset.filterMap_cons, Multiset.filterMap_zero, Multiset.add_zero]

/-- A token may stand for another one of the same intention. -/
theorem Sound.flights_replaced (hs : Sound rs b) (hb : b.tokens = x ::ₘ left)
    (h : y.flight? b.drawn = x.flight? b.drawn) :
    (b.inFlight : Multiset (Uuid × Uuid)) =
      ({y} : Multiset Token).filterMap (Token.flight? b.drawn) +
        left.filterMap (Token.flight? b.drawn) := by
  rw [hs.flights_cons hb, filterMap_singleton, filterMap_singleton, h]

/-- The client remembers an intention for the request that it was drawn for. -/
theorem Sound.requestOf_of_mem (hs : Sound rs b) {id : Uuid} (h : (id, q) ∈ b.inFlight) :
    requestOf b.drawn id = some q := by
  rw [← Multiset.mem_coe, hs.flights, Multiset.mem_filterMap] at h
  obtain ⟨z, -, hz⟩ := h
  cases hi : z.intention? with
  | none =>
    rw [Token.flight?_of_none hi] at hz
    cases hz
  | some i =>
    rw [Token.flight?_of_intention? hi, Option.map_eq_some_iff] at hz
    obtain ⟨q', hq', heq⟩ := hz
    obtain ⟨rfl, rfl⟩ := Prod.mk.inj heq
    exact hq'

/-- A token is replaced by another one of its request, and what the client remembers changes
(`TokenReplaced`). -/
theorem tokenReplaced_of_tokens (inFlight : List (Uuid × Uuid)) (hb : b.tokens = x ::ₘ left)
    (hy : y.request? b.drawn = some r.id) :
    TokenReplaced b { b with tokens := y ::ₘ left, inFlight := inFlight } r x {y} left where
  before := hb
  after := (Multiset.singleton_add ..).symm
  drawn := ⟨[], (List.append_nil _).symm⟩
  fresh z hz := by rw [Multiset.mem_singleton.1 hz]; exact hy
  received := ⟨[], (List.append_nil _).symm, List.forall_mem_nil _⟩
  reported := ⟨[], (List.append_nil _).symm, List.forall_mem_nil _⟩
  settled := ⟨[], (List.append_nil _).symm, List.forall_mem_nil _⟩
  pending _ _ := rfl

/-- A token with an intention `Carries` the attempt of the intention. -/
theorem Carries.of_intention? {drawn : List (Uuid × Attempt)} {k : UInt32}
    (h : Carries drawn r k x) (hx : x.intention? = some i) (hy : y.intention? = some i) :
    Carries drawn r k y where
  attempt a ha := by
    rw [ha] at hy
    cases hy
  intention j hj := h.intention j (by rw [hx, ← hy, hj])

/-- Passing an intention on keeps books sound. -/
theorem Sound.pass (hs : Sound rs b) (hb : b.tokens = x ::ₘ left) (hx : x.intention? = some i)
    (hy : y.intention? = some i) (hopening : y.opening = x.opening) (hrun : y.run = x.run) :
    Sound rs { b with tokens := y ::ₘ left } := by
  obtain ⟨r, hr, runs, hreq, hu, hleft⟩ := hs.underway_of_cons hb
  have hreq' : y.request? b.drawn = some r.id := by
    rw [Token.request?_of_intention? hy, ← Token.request?_of_intention? hx, hreq]
  have ht := tokenReplaced_of_tokens b.inFlight hb hreq'
  obtain ⟨k, hk, hc⟩ := hu.carries
  refine ht.sound hs hr hreq (.underway y runs ?_) ?_ hs.keys
  · exact { tokens := ht.tokensOf_self hs hleft
            pending := hu.pending
            settled := hu.settled
            carries := ⟨k, hk, hc.of_intention? hx hy⟩
            broken := hu.broken
            left := hu.left
            told := by
              rw [hopening, hrun]
              exact ⟨hu.told.received, hu.told.runs, hu.told.numbers⟩ }
  · refine hs.flights_replaced hb ?_
    rw [Token.flight?_of_intention? hx, Token.flight?_of_intention? hy]

/-! ### Drawing intentions -/

theorem lookup_eq_none_of_not_mem {drawn : List (Uuid × Attempt)} {id : Uuid}
    (h : id ∉ drawn.map (·.1)) : drawn.lookup id = none := by
  rw [List.lookup_eq_none_iff]
  intro p hp
  rw [bne_iff_ne]
  exact fun hid ↦ h (List.mem_map.2 ⟨p, hp, hid.symm⟩)

/-- The client does not remember an identifier that was never drawn. -/
theorem Sound.not_mem_keys {id : Uuid} (hs : Sound rs b) (hnew : id ∉ b.drawn.map (·.1)) :
    id ∉ b.inFlight.map (·.1) := by
  intro hid
  obtain ⟨⟨_, q⟩, hmem, rfl⟩ := List.mem_map.1 hid
  have hq := hs.requestOf_of_mem hmem
  rw [requestOf, lookup_eq_none_of_not_mem hnew] at hq
  cases hq

/-- Drawing an intention under a new identifier keeps books `Sound`. -/
theorem Sound.draw {id : Uuid} {a : Attempt} (hs : Sound rs b) (hnew : id ∉ b.drawn.map (·.1))
    (hb : b.tokens = .submitted a ::ₘ left) :
    Sound rs { b with
      drawn := b.drawn ++ [(id, a)]
      tokens := .held (.ofRequest id a.request a.execution) ::ₘ left
      inFlight := b.inFlight ++ [(id, a.request.id)] } := by
  obtain ⟨r, hr, runs, hreq, hu, hleft⟩ := hs.underway_of_cons hb
  obtain ⟨k, hk, hc⟩ := hu.carries
  obtain rfl := hc.attempt a rfl
  -- The new identifier is looked up among the drawn ones, where nothing was found before.
  have hlookup : (b.drawn ++ [(id, (⟨r, k⟩ : Attempt))]).lookup id = some ⟨r, k⟩ := by
    rw [List.lookup_append, lookup_eq_none_of_not_mem hnew, Option.none_or,
      List.lookup_cons_self]
  have hrequest : requestOf (b.drawn ++ [(id, (⟨r, k⟩ : Attempt))]) id = some r.id := by
    rw [requestOf, hlookup, Option.map_some]
  have ht : TokenReplaced b { b with
      drawn := b.drawn ++ [(id, ⟨r, k⟩)]
      tokens := .held (.ofRequest id r k) ::ₘ left
      inFlight := b.inFlight ++ [(id, r.id)] } r (.submitted ⟨r, k⟩)
      {.held (.ofRequest id r k)} left :=
    { before := hb
      after := (Multiset.singleton_add ..).symm
      drawn := ⟨_, rfl⟩
      fresh := fun z hz ↦ by rw [Multiset.mem_singleton.1 hz]; exact hrequest
      received := ⟨[], (List.append_nil _).symm, List.forall_mem_nil _⟩
      reported := ⟨[], (List.append_nil _).symm, List.forall_mem_nil _⟩
      settled := ⟨[], (List.append_nil _).symm, List.forall_mem_nil _⟩
      pending := fun _ _ ↦ rfl }
  refine ht.sound hs hr hreq (.underway (.held (.ofRequest id r k)) runs ?_) ?_ ?_
  · exact { tokens := ht.tokensOf_self hs hleft
            pending := hu.pending
            settled := hu.settled
            carries := ⟨k, hk, { attempt := fun a ha ↦ by cases ha
                                 intention := fun i hi ↦ by cases hi; exact ⟨hlookup, rfl⟩ }⟩
            broken := hu.broken
            left := hu.left
            told := ht.told hs rfl rfl hu.told }
  · have hold : ({.submitted ⟨r, k⟩} : Multiset Token).filterMap (Token.flight? b.drawn) = 0 :=
      filterMap_singleton _ _
    have hdrawn : (Token.held (.ofRequest id r k)).flight? (b.drawn ++ [(id, ⟨r, k⟩)]) =
        some (id, r.id) := by
      rw [Token.flight?_of_intention? rfl]
      exact congrArg (Option.map (id, ·)) hrequest
    rw [filterMap_singleton, hdrawn, ← Multiset.coe_add, hs.flights_cons hb, hold,
      Multiset.zero_add, Multiset.add_comm]
    rfl
  · rw [List.map_append, List.nodup_append]
    refine ⟨hs.keys, List.nodup_singleton _, ?_⟩
    rintro _ hid _ hid' rfl
    rw [List.mem_singleton.1 hid'] at hid
    exact hs.not_mem_keys hnew hid

/-! ### Taking and reporting -/

/-- As many intentions were received (`receivedFor`) for a request as runs were reported, and those
that are open. -/
theorem Told.length_received {opening : List (Nat × Intention)} (h : b.Told q opening runs) :
    (receivedFor b.drawn b.received q).length = runs.length + opening.length := by
  rw [h.received, List.length_append, List.length_map, ← h.runs, List.length_map]

/-- A worker that takes an intention keeps books sound. -/
theorem Sound.take {n : Nat} (hs : Sound rs b) (hb : b.tokens = .queued i ::ₘ left) :
    Sound rs { b with tokens := .taken n i ::ₘ left, received := b.received ++ [(n, i)] } := by
  obtain ⟨r, hr, runs, hreq, hu, hleft⟩ := hs.underway_of_cons hb
  obtain ⟨k, hk, hc⟩ := hu.carries
  have ht :
    TokenReplaced b { b with tokens := .taken n i ::ₘ left, received := b.received ++ [(n, i)] }
      r (.queued i) {.taken n i} left :=
    { tokenReplaced_of_tokens (y := .taken n i) b.inFlight hb hreq with
      received := ⟨[(n, i)], rfl, fun p hp ↦ by rw [List.mem_singleton.1 hp]; exact hreq⟩ }
  have hreceived : receivedFor b.drawn (b.received ++ [(n, i)]) r.id =
      receivedFor b.drawn b.received r.id ++ [(n, i)] := by
    rw [receivedFor, List.filter_append, receivedFor]
    congr 1
    exact List.filter_eq_self.2 fun p hp ↦ by
      rw [List.mem_singleton.1 hp]
      exact decide_eq_true hreq
  have hnumber : i.action.execution.toNat = runs.length + 1 := by
    rw [(hc.intention i rfl).2]
    exact hk
  have hlength : (receivedFor b.drawn b.received r.id).length = runs.length := by
    rw [hu.told.length_received]
    exact congrArg List.length (List.append_nil runs)
  refine ht.sound hs hr hreq (.underway (.taken n i) runs ?_)
    (hs.flights_replaced hb rfl) hs.keys
  exact { tokens := ht.tokensOf_self hs hleft
          pending := hu.pending
          settled := hu.settled
          carries := ⟨k, hk, hc.of_intention? rfl rfl⟩
          broken := hu.broken
          left := hu.left
          told :=
            { received := by
                show receivedFor b.drawn (b.received ++ [(n, i)]) r.id = _
                rw [hreceived, hu.told.received]
                exact congrArg (· ++ [(n, i)]) (List.append_nil _)
              runs := hu.told.runs
              numbers := by
                show (receivedFor b.drawn (b.received ++ [(n, i)]) r.id).map _ = List.range' 1
                  (receivedFor b.drawn (b.received ++ [(n, i)]) r.id).length
                rw [hreceived, List.map_append, hu.told.numbers, List.length_append,
                  List.length_singleton, List.range'_1_concat, hlength, List.map_singleton, hnumber,
                  Nat.add_comm 1] } }

/-- A worker that reports an intention keeps books sound. -/
theorem Sound.answer {n : Nat} {a : IntentionResult} (hs : Sound rs b)
    (hb : b.tokens = .taken n a.intention ::ₘ left) :
    Sound rs { b with tokens := .answered a ::ₘ left, reported := b.reported ++ [(n, a)] } := by
  obtain ⟨r, hr, runs, hreq, hu, hleft⟩ := hs.underway_of_cons hb
  obtain ⟨k, hk, hc⟩ := hu.carries
  have ht :
    TokenReplaced b { b with tokens := .answered a ::ₘ left, reported := b.reported ++ [(n, a)] }
      r (.taken n a.intention) {.answered a} left :=
    { tokenReplaced_of_tokens (y := .answered a) b.inFlight hb hreq with
      reported := ⟨[(n, a)], rfl, fun p hp ↦ by rw [List.mem_singleton.1 hp]; exact hreq⟩ }
  have hreported : reportedFor b.drawn (b.reported ++ [(n, a)]) r.id =
      reportedFor b.drawn b.reported r.id ++ [(n, a)] := by
    rw [reportedFor, List.filter_append, reportedFor]
    congr 1
    exact List.filter_eq_self.2 fun p hp ↦ by
      rw [List.mem_singleton.1 hp]
      exact decide_eq_true hreq
  refine ht.sound hs hr hreq (.underway (.answered a) runs ?_) (hs.flights_replaced hb rfl) hs.keys
  exact { tokens := ht.tokensOf_self hs hleft
          pending := hu.pending
          settled := hu.settled
          carries := ⟨k, hk, hc.of_intention? rfl rfl⟩
          broken := hu.broken
          left := hu.left
          told :=
            { received := by
                show receivedFor b.drawn b.received r.id =
                  (reportedFor b.drawn (b.reported ++ [(n, a)]) r.id).map _ ++ []
                rw [hreported, hu.told.received, List.map_append, List.append_nil]
                rfl
              runs := by
                show (reportedFor b.drawn (b.reported ++ [(n, a)]) r.id).map _ = runs ++ [a.run]
                rw [hreported, List.map_append, hu.told.runs]
                exact congrArg (· ++ [a.run]) (List.append_nil _)
              numbers := hu.told.numbers } }

/-! ### Bringing results back -/

theorem lookup_of_mem {l : List (Uuid × Uuid)} {id : Uuid} (hl : (l.map (·.1)).Nodup)
    (h : (id, q) ∈ l) : l.lookup id = some q := by
  induction l with
  | nil => cases h
  | cons p l ih =>
    rw [List.map_cons, List.nodup_cons] at hl
    rcases List.mem_cons.1 h with rfl | h
    · exact List.lookup_cons_self
    · have hne : id ≠ p.1 := fun hid ↦ hl.1 (List.mem_map.2 ⟨_, h, hid⟩)
      rw [List.lookup_cons, beq_false_of_ne hne]
      exact ih hl.2 h

/-- The client knows the intention of every token, and its request. -/
theorem Sound.lookup_inFlight (hs : Sound rs b) (hx : x ∈ b.tokens) (hi : x.intention? = some i) :
    b.inFlight.lookup i.id = x.request? b.drawn := by
  obtain ⟨r, -, hr⟩ := hs.owned x hx
  have hflight : x.flight? b.drawn = some (i.id, r.id) := by
    rw [Token.flight?_of_intention? hi, ← Token.request?_of_intention? hi, hr, Option.map_some]
  have hmem : (i.id, r.id) ∈ (b.inFlight : Multiset (Uuid × Uuid)) := by
    rw [hs.flights, Multiset.mem_filterMap]
    exact ⟨x, hx, hflight⟩
  rw [hr]
  exact lookup_of_mem hs.keys (Multiset.mem_coe.1 hmem)

/-- What a client remembers after it forgot the intention of a token: the others. -/
theorem Sound.inFlight_filter {id : Uuid} (hs : Sound rs b) (hb : b.tokens = x ::ₘ left)
    (hx : x.flight? b.drawn = some (id, q)) :
    ((b.inFlight.filter (·.1 ≠ id) : List (Uuid × Uuid)) : Multiset (Uuid × Uuid)) =
      left.filterMap (Token.flight? b.drawn) := by
  have hall : (b.inFlight : Multiset (Uuid × Uuid)) =
      (id, q) ::ₘ left.filterMap (Token.flight? b.drawn) := by
    rw [hs.flights_cons hb, filterMap_singleton, hx]
    exact Multiset.singleton_add ..
  -- The identifier is in the keys once, for the token that is set apart.
  have hkeys := hs.keys
  rw [← Multiset.coe_nodup, ← Multiset.map_coe, hall, Multiset.map_cons,
    Multiset.nodup_cons] at hkeys
  have hnot : ∀ p ∈ left.filterMap (Token.flight? b.drawn), p.1 ≠ id :=
    fun p hp hid ↦ hkeys.1 (Multiset.mem_map.2 ⟨p, hp, hid⟩)
  rw [← Multiset.filter_coe, hall, Multiset.filter_cons_of_neg, Multiset.filter_eq_self.2 hnot]
  exact not_not_intro rfl

/-- A client that finds the request of a result keeps books sound. -/
theorem Sound.bring {a : IntentionResult} (hs : Sound rs b)
    (hq : b.inFlight.lookup a.intention.id = some q) (hb : b.tokens = .answered a ::ₘ left) :
    Sound rs { b with
      tokens := .returned ⟨q, a.run⟩ ::ₘ left
      inFlight := b.inFlight.filter (·.1 ≠ a.intention.id) } := by
  obtain ⟨r, hr, runs, hreq, hu, hleft⟩ := hs.underway_of_cons hb
  obtain ⟨k, hk, hc⟩ := hu.carries
  have hmem : Token.answered a ∈ b.tokens := by
    rw [hb]
    exact Multiset.mem_cons_self ..
  rw [hs.lookup_inFlight hmem rfl, hreq] at hq
  obtain rfl := Option.some.inj hq
  have ht := tokenReplaced_of_tokens (y := .returned ⟨r.id, a.run⟩)
    (b.inFlight.filter (·.1 ≠ a.intention.id)) hb rfl
  refine ht.sound hs hr hreq (.underway (.returned ⟨r.id, a.run⟩) runs ?_) ?_ ?_
  · exact { tokens := ht.tokensOf_self hs hleft
            pending := hu.pending
            settled := hu.settled
            carries := ⟨k, hk, { attempt := fun a ha ↦ by cases ha
                                 intention := fun i hi ↦ by cases hi }⟩
            broken := hu.broken
            left := hu.left
            told := ⟨hu.told.received, hu.told.runs, hu.told.numbers⟩ }
  · have hflight : (Token.answered a).flight? b.drawn = some (a.intention.id, r.id) := by
      rw [Token.flight?_of_intention? rfl]
      exact congrArg (Option.map (a.intention.id, ·)) hreq
    rw [filterMap_singleton]
    exact (hs.inFlight_filter hb hflight).trans (Multiset.zero_add _).symm
  · exact hs.keys.sublist (List.filter_sublist.map _)

/-! ### Settling requests -/

/-- A request whose outcome has come has the runs that are `pending` and this one. -/
theorem Sound.retry {o : AttemptOutcome} {p : Pending} {k : UInt32} (hs : Sound rs b)
    (hp : Scheduler.find? o.request b.pending = some p)
    (hk : nextAttempt p.request.maxAttempts (p.runs ++ [o.run]) = some k)
    (hb : b.tokens = .returned o ::ₘ left) :
    Sound rs { b with
      tokens := .submitted ⟨p.request, k⟩ ::ₘ left
      pending := Scheduler.put ⟨p.request, p.runs ++ [o.run]⟩ b.pending } := by
  obtain ⟨r, hr, runs, hreq, hu, hleft⟩ := hs.underway_of_cons hb
  have hid : o.request = r.id := Option.some.inj hreq
  rw [hid, hu.pending] at hp
  obtain rfl := Option.some.inj hp
  obtain ⟨hbroken, hless, hnext⟩ := nextAttempt_eq_some hk
  have hfound : (Scheduler.find? r.id b.pending).isSome := by
    rw [hu.pending, Option.isSome_some]
  have ht : TokenReplaced b { b with
      tokens := .submitted ⟨r, k⟩ ::ₘ left
      pending := Scheduler.put ⟨r, runs ++ [o.run]⟩ b.pending } r (.returned o)
      {.submitted ⟨r, k⟩} left :=
    { tokenReplaced_of_tokens (y := .submitted ⟨r, k⟩) b.inFlight hb rfl with
      pending := fun q hq ↦ Scheduler.find?_put_of_ne hfound hq }
  refine ht.sound hs hr hreq (.underway (.submitted ⟨r, k⟩) (runs ++ [o.run]) ?_)
    (hs.flights_replaced hb rfl) hs.keys
  exact { tokens := ht.tokensOf_self hs hleft
          pending := Scheduler.find?_put_self (p := ⟨r, runs ++ [o.run]⟩) hfound
          settled := hu.settled
          carries := ⟨k, by rw [hnext, List.length_append, List.length_singleton],
            { attempt := fun a ha ↦ by cases ha; rfl
              intention := fun i hi ↦ by cases hi }⟩
          broken := by
            intro run hrun
            rcases List.mem_append.1 hrun with hrun | hrun
            · exact hu.broken run hrun
            · rw [List.mem_singleton.1 hrun]
              exact hbroken
          left := by
            rw [List.length_append, List.length_singleton]
            exact Nat.lt_of_lt_of_le hless (Nat.le_max_right ..)
          told :=
            { received := hu.told.received
              runs := hu.told.runs.trans (List.append_nil _).symm
              numbers := hu.told.numbers } }

/-- A run after which no other attempt is made settles a request (`Final`). -/
theorem Underway.final {run : DeviceRun} (hu : b.Underway r x runs)
    (hk : nextAttempt r.maxAttempts (runs ++ [run]) = none) : Final r (runs ++ [run]) where
  nonempty := List.append_ne_nil_of_right_ne_nil _ (List.cons_ne_nil _ _)
  bounded := by
    have hless := hu.left
    rw [List.length_append, List.length_singleton]
    omega
  broken := by
    rw [List.dropLast_concat]
    exact hu.broken
  last := by
    intro last hlast hbroken
    rw [List.getLast?_concat, Option.mem_some_iff] at hlast
    subst hlast
    rw [List.length_append, List.length_singleton]
    exact nextAttempt_eq_none hk hu.left hbroken

/-- A scheduler that settles a request keeps books sound. -/
theorem Sound.settle {o : AttemptOutcome} {p : Pending} (hs : Sound rs b)
    (hp : Scheduler.find? o.request b.pending = some p)
    (hk : nextAttempt p.request.maxAttempts (p.runs ++ [o.run]) = none)
    (hb : b.tokens = .returned o ::ₘ left) :
    Sound rs { b with
      tokens := left
      pending := Scheduler.erase o.request b.pending
      settled := b.settled ++ [⟨p.request, p.runs ++ [o.run]⟩] } := by
  obtain ⟨r, hr, runs, hreq, hu, hleft⟩ := hs.underway_of_cons hb
  have hid : o.request = r.id := Option.some.inj hreq
  rw [hid, hu.pending] at hp
  obtain rfl := Option.some.inj hp
  have ht : TokenReplaced b { b with
      tokens := left
      pending := Scheduler.erase o.request b.pending
      settled := b.settled ++ [⟨r, runs ++ [o.run]⟩] } r (.returned o) 0 left :=
    { before := hb
      after := (Multiset.zero_add _).symm
      drawn := ⟨[], (List.append_nil _).symm⟩
      fresh := fun y hy ↦ (Multiset.notMem_zero y hy).elim
      received := ⟨[], (List.append_nil _).symm, List.forall_mem_nil _⟩
      reported := ⟨[], (List.append_nil _).symm, List.forall_mem_nil _⟩
      settled := ⟨_, rfl, fun p hp ↦ by rw [List.mem_singleton.1 hp]⟩
      pending := fun q hq ↦ Scheduler.find?_erase_of_ne (hid ▸ hq) _ }
  have hflights : (b.inFlight : Multiset (Uuid × Uuid)) =
      (0 : Multiset Token).filterMap (Token.flight? b.drawn) +
        left.filterMap (Token.flight? b.drawn) := by
    rw [hs.flights_cons hb, filterMap_singleton, Multiset.filterMap_zero]
    rfl
  refine ht.sound hs hr hreq (.resolved (runs ++ [o.run]) ?_) hflights hs.keys
  exact { tokens := ht.tokensOf_self hs hleft
          pending := hid ▸ Scheduler.find?_erase_self _ _
          settled := by
            rw [settledOf, List.filter_append]
            have hnone := hu.settled
            rw [settledOf] at hnone
            rw [hnone, List.nil_append, List.filter_eq_self]
            intro p hp
            rw [List.mem_singleton.1 hp]
            exact decide_eq_true rfl
          final := hu.final hk
          told := ⟨hu.told.received.trans rfl, hu.told.runs, hu.told.numbers⟩ }

/-! ### All entries -/

/-- **Books that are `Sound` stay sound**, whatever happens to them (`Flow`). -/
theorem Sound.flow (hs : Sound rs b) (hf : Flow b b') : Sound rs b' := by
  cases hf with
  | still => exact hs
  | draw hnew hb => exact hs.draw hnew hb
  | carry hx hy hb =>
    refine hs.pass hb (Token.intention?_of_carried? hx) (Token.intention?_of_carried? hy) ?_ ?_
    · rw [Token.opening_of_carried? hx, Token.opening_of_carried? hy]
    · rw [Token.run_of_carried? hx, Token.run_of_carried? hy]
  | take hb => exact hs.take hb
  | drop hb => exact hs.pass hb rfl rfl rfl rfl
  | answer hb => exact hs.answer hb
  | bring hq hb => exact hs.bring hq hb
  | @misplace a left hq hb =>
    -- The client knows the intention of every token.
    have hmem : Token.answered a ∈ b.tokens := by
      rw [hb]
      exact Multiset.mem_cons_self ..
    obtain ⟨r, -, hr⟩ := hs.owned _ hmem
    rw [hs.lookup_inFlight hmem rfl, hr] at hq
    cases hq
  | ignore hp hb =>
    -- A request with a token is pending.
    obtain ⟨r, -, runs, hreq, hu, -⟩ := hs.underway_of_cons hb
    rw [Option.some.inj hreq, hu.pending] at hp
    cases hp
  | retry hp hk hb => exact hs.retry hp hk hb
  | settle hp hk hb => exact hs.settle hp hk hb

end Entries

/-! ### Opening books -/

/-- Nothing happens to blank books. -/
theorem Blank.flow (hb : b.Blank) (hf : Flow b b') : b'.Blank := by
  have hnone {x : Token} {left : Multiset Token} : b.tokens ≠ x ::ₘ left := by
    rw [hb.tokens]
    exact Multiset.zero_ne_cons
  cases hf with
  | still => exact hb
  | draw _ h => exact (hnone h).elim
  | carry _ _ h => exact (hnone h).elim
  | take h => exact (hnone h).elim
  | drop h => exact (hnone h).elim
  | answer h => exact (hnone h).elim
  | bring _ h => exact (hnone h).elim
  | misplace _ h => exact (hnone h).elim
  | ignore _ h => exact (hnone h).elim
  | retry _ _ h => exact (hnone h).elim
  | settle _ _ h => exact (hnone h).elim

/-- Submitting requests with distinct identifiers turns `Blank` books into `Sound` ones. -/
theorem Blank.submit (hb : b.Blank) (hd : (rs.map (·.id)).Nodup) :
    Sound rs { b with
      tokens := ((rs.map fun r ↦ Token.submitted ⟨r, 1⟩ : List Token) : Multiset Token)
      pending := rs.map fun r ↦ ⟨r, []⟩ } where
  distinct := hd
  stands r hr := by
    have hone := filter_key_eq_singleton hd hr
    have hreceived : receivedFor b.drawn b.received r.id = [] := by
      rw [hb.received, receivedFor, List.filter_nil]
    have hreported : reportedFor b.drawn b.reported r.id = [] := by
      rw [hb.reported, reportedFor, List.filter_nil]
    refine .underway (.submitted ⟨r, 1⟩) [] ?_
    exact { tokens := by
              have hfilter : (rs.map fun r ↦ Token.submitted ⟨r, 1⟩).filter
                  (fun x ↦ x.request? b.drawn = some r.id) = [.submitted ⟨r, 1⟩] := by
                rw [List.filter_map, List.filter_congr (q := (·.id = r.id)), hone,
                  List.map_singleton]
                intro r' _
                exact decide_eq_decide.2 ⟨Option.some.inj, congrArg some⟩
              rw [tokensOf, Multiset.filter_coe, hfilter]
              rfl
            pending := by
              rw [Scheduler.find?, List.find?_map]
              have hfound : rs.find? (·.id = r.id) = some r := by
                rw [← List.head?_filter, hone, List.head?_cons]
              exact congrArg (Option.map _) hfound
            settled := by rw [settledOf, hb.settled, List.filter_nil]
            carries := ⟨1, rfl, { attempt := fun a ha ↦ by cases ha; rfl
                                  intention := fun i hi ↦ by cases hi }⟩
            broken := List.forall_mem_nil _
            left := Nat.lt_of_lt_of_le Nat.zero_lt_one (Nat.le_max_left ..)
            told :=
              { received := by rw [hreceived, hreported]; rfl
                runs := by rw [hreported]; rfl
                numbers := by rw [hreceived]; rfl } }
  owned x hx := by
    obtain ⟨r, hr, rfl⟩ := List.mem_map.1 (Multiset.mem_coe.1 hx)
    exact ⟨r, hr, rfl⟩
  received p hp := by
    rw [show b.received = [] from hb.received] at hp
    cases hp
  reported p hp := by
    rw [show b.reported = [] from hb.reported] at hp
    cases hp
  settled p hp := by
    rw [show b.settled = [] from hb.settled] at hp
    cases hp
  flights := by
    have hnone :
        (rs.map fun r ↦ Token.submitted ⟨r, 1⟩).filterMap (Token.flight? b.drawn) = [] := by
      rw [List.filterMap_eq_nil_iff]
      intro x hx
      obtain ⟨r, -, rfl⟩ := List.mem_map.1 hx
      rfl
    rw [hb.inFlight]
    exact (congrArg _ hnone).symm
  keys := by
    rw [hb.inFlight]
    exact List.nodup_nil

end Books

end DeviceLab
