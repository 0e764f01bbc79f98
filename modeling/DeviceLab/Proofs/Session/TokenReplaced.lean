import DeviceLab.Proofs.Scheduler
import DeviceLab.Proofs.Session.Books

/-!
# What entries have in common

Whatever happens to books concerns one request, the one whose token is taken away. `TokenReplaced`
says what all entries have in common: for that request something is added, and for every other
request the books say what they said before (`TokenReplaced.agree`).

`TokenReplaced.sound` is what this is for. An entry keeps books sound as soon as two things are
shown of it: the one request still stands somewhere afterwards, and the client remembers the right
intentions. That the other requests stand where they stood rests on `Stands.agree`, and that the
token taken away was the only one of its request rests on `Sound.underway_of_cons`.
-/

namespace DeviceLab

open Session (requestOf receivedFor reportedFor)

namespace Books

variable {rs : List Request} {b b' : Books} {r : Request} {x : Token} {q : Uuid}
variable {fresh left : Multiset Token} {runs : List DeviceRun}

/-! ### Other requests -/

/-- Two books say the same of a request. -/
structure Agree (b b' : Books) (q : Uuid) : Prop where
  drawn : ∀ id a, b.drawn.lookup id = some a → b'.drawn.lookup id = some a
  tokens : b'.tokensOf q = b.tokensOf q
  received : receivedFor b'.drawn b'.received q = receivedFor b.drawn b.received q
  reported : reportedFor b'.drawn b'.reported q = reportedFor b.drawn b.reported q
  settled : b'.settledOf q = b.settledOf q
  pending : Scheduler.find? q b'.pending = Scheduler.find? q b.pending

theorem Told.agree {opening : List (Nat × Intention)} (h : b.Told q opening runs)
    (ha : Agree b b' q) : b'.Told q opening runs where
  received := by rw [ha.received, ha.reported]; exact h.received
  runs := by rw [ha.reported]; exact h.runs
  numbers := by rw [ha.received]; exact h.numbers

theorem Stands.agree (h : b.Stands r) (ha : Agree b b' r.id) : b'.Stands r := by
  cases h with
  | underway x runs h =>
    obtain ⟨k, hk, hc⟩ := h.carries
    refine .underway x runs
      { tokens := ha.tokens.trans h.tokens
        pending := ha.pending.trans h.pending
        settled := ha.settled.trans h.settled
        carries := ⟨k, hk, hc.attempt, fun i hi ↦ ?_⟩
        broken := h.broken
        left := h.left
        told := h.told.agree ha }
    obtain ⟨hlookup, hmade⟩ := hc.intention i hi
    exact ⟨ha.drawn _ _ hlookup, hmade⟩
  | resolved runs h =>
    exact .resolved runs
      { tokens := ha.tokens.trans h.tokens
        pending := ha.pending.trans h.pending
        settled := ha.settled.trans h.settled
        final := h.final
        told := h.told.agree ha }

/-! ### The request of a token -/

/-- A token that is there is the only one of a request, which is `Underway`. -/
theorem Sound.underway_of_cons (hs : Sound rs b) (hb : b.tokens = x ::ₘ left) :
    ∃ r ∈ rs, ∃ runs, x.request? b.drawn = some r.id ∧ b.Underway r x runs ∧
      ∀ y ∈ left, y.request? b.drawn ≠ some r.id := by
  obtain ⟨r, hr, hx⟩ := hs.owned x (by rw [hb]; exact Multiset.mem_cons_self ..)
  have htokens : b.tokensOf r.id = x ::ₘ left.filter fun y ↦ y.request? b.drawn = some r.id := by
    rw [tokensOf, hb]
    exact Multiset.filter_cons_of_pos left hx
  cases hs.stands r hr with
  | resolved _ h =>
    rw [h.tokens] at htokens
    exact (Multiset.cons_ne_zero htokens.symm).elim
  | underway y runs h =>
    -- The only token of the request is the one set apart, so none of those left is of the request.
    rw [h.tokens, ← Multiset.cons_zero] at htokens
    have hxy : y = x ∧ 0 = left.filter fun y ↦ y.request? b.drawn = some r.id := by
      have hcard := congrArg Multiset.card htokens
      rw [Multiset.card_cons, Multiset.card_cons, Nat.add_right_cancel_iff, Multiset.card_zero]
        at hcard
      have hzero := Multiset.card_eq_zero.1 hcard.symm
      rw [hzero] at htokens
      exact ⟨Multiset.singleton_inj.1 htokens, hzero.symm⟩
    obtain ⟨rfl, hnone⟩ := hxy
    refine ⟨r, hr, runs, hx, h, ?_⟩
    rw [eq_comm, Multiset.filter_eq_nil] at hnone
    exact hnone

theorem Sound.underway_of_mem (hs : Sound rs b) (hx : x ∈ b.tokens) :
    ∃ r ∈ rs, ∃ runs, x.request? b.drawn = some r.id ∧ b.Underway r x runs := by
  obtain ⟨left, hb⟩ := Multiset.exists_cons_of_mem hx
  obtain ⟨r, hr, runs, hreq, hu, -⟩ := hs.underway_of_cons hb
  exact ⟨r, hr, runs, hreq, hu⟩

/-- When the request of an outcome is the last one that is pending, there is no other token. -/
theorem Sound.left_eq_zero {o : AttemptOutcome} (hs : Sound rs b)
    (hb : b.tokens = .returned o ::ₘ left) (he : Scheduler.erase o.request b.pending = []) :
    left = 0 := by
  obtain ⟨r, -, -, hreq, -, hleft⟩ := hs.underway_of_cons hb
  have hid : o.request = r.id := Option.some.inj hreq
  rw [Multiset.eq_zero_iff_forall_notMem]
  intro y hy
  obtain ⟨r', -, runs', hreq', hu'⟩ := hs.underway_of_mem (x := y)
    (by rw [hb]; exact Multiset.mem_cons_of_mem hy)
  have hne : r'.id ≠ o.request := by
    intro heq
    rw [hid] at heq
    exact hleft y hy (heq ▸ hreq')
  have hfound := Scheduler.find?_erase_of_ne hne b.pending
  rw [he, hu'.pending] at hfound
  cases hfound

/-! ### One entry -/

/-- What every entry (`Flow`) has in common: the token of one request is replaced, and whatever else
is added belongs to that request. -/
structure TokenReplaced (b b' : Books) (r : Request) (x : Token) (fresh left : Multiset Token) :
    Prop where
  before : b.tokens = x ::ₘ left
  after : b'.tokens = fresh + left
  drawn : ∃ more, b'.drawn = b.drawn ++ more
  fresh : ∀ y ∈ fresh, y.request? b'.drawn = some r.id
  received : ∃ more, b'.received = b.received ++ more ∧
    ∀ p ∈ more, requestOf b'.drawn p.2.id = some r.id
  reported : ∃ more, b'.reported = b.reported ++ more ∧
    ∀ p ∈ more, requestOf b'.drawn p.2.intention.id = some r.id
  settled : ∃ more, b'.settled = b.settled ++ more ∧ ∀ p ∈ more, p.request.id = r.id
  pending : ∀ q, q ≠ r.id → Scheduler.find? q b'.pending = Scheduler.find? q b.pending

namespace TokenReplaced

/-- What was received before an entry belongs to the same requests after it. -/
theorem receivedFor_old (ht : TokenReplaced b b' r x fresh left) (hs : Sound rs b) (q : Uuid) :
    receivedFor b'.drawn b.received q = receivedFor b.drawn b.received q := by
  obtain ⟨more, hmore⟩ := ht.drawn
  refine List.filter_congr fun p hp ↦ ?_
  obtain ⟨q', hq'⟩ := Option.isSome_iff_exists.1 (hs.received p hp)
  rw [hmore, Session.requestOf_append_of_some hq', hq']

theorem reportedFor_old (ht : TokenReplaced b b' r x fresh left) (hs : Sound rs b) (q : Uuid) :
    reportedFor b'.drawn b.reported q = reportedFor b.drawn b.reported q := by
  obtain ⟨more, hmore⟩ := ht.drawn
  refine List.filter_congr fun p hp ↦ ?_
  obtain ⟨q', hq'⟩ := Option.isSome_iff_exists.1 (hs.reported p hp)
  rw [hmore, Session.requestOf_append_of_some hq', hq']

/-- The tokens that are left keep their requests. -/
theorem request?_left (ht : TokenReplaced b b' r x fresh left) (hs : Sound rs b) {y : Token}
    (hy : y ∈ left) : y.request? b'.drawn = y.request? b.drawn := by
  obtain ⟨more, hmore⟩ := ht.drawn
  obtain ⟨r', -, hr'⟩ := hs.owned y (by rw [ht.before]; exact Multiset.mem_cons_of_mem hy)
  rw [hmore, Token.request?_append hr', hr']

theorem filter_left (ht : TokenReplaced b b' r x fresh left) (hs : Sound rs b) (q : Uuid) :
    left.filter (fun y ↦ y.request? b'.drawn = some q) =
      left.filter (fun y ↦ y.request? b.drawn = some q) :=
  Multiset.filter_congr fun y hy ↦ by rw [ht.request?_left hs hy]

/-- The client goes on remembering the same of the tokens that are left. -/
theorem flights_left (ht : TokenReplaced b b' r x fresh left) (hs : Sound rs b) :
    left.filterMap (Token.flight? b'.drawn) = left.filterMap (Token.flight? b.drawn) := by
  have hsame : ∀ y ∈ left, y.flight? b'.drawn = y.flight? b.drawn := by
    intro y hy
    obtain ⟨more, hmore⟩ := ht.drawn
    obtain ⟨r', -, hr'⟩ := hs.owned y (by rw [ht.before]; exact Multiset.mem_cons_of_mem hy)
    rw [hmore, Token.flight?_append hr']
  clear ht
  induction left using Quotient.inductionOn with
  | h ys => exact congrArg _ (List.filterMap_congr hsame)

/-- The books say of every other request what they said before (`Agree`). -/
theorem agree (ht : TokenReplaced b b' r x fresh left) (hs : Sound rs b)
    (hx : x.request? b.drawn = some r.id) (hq : q ≠ r.id) : Agree b b' q := by
  have hne : some r.id ≠ some q := fun h ↦ hq (Option.some.inj h).symm
  obtain ⟨drawn, hdrawn⟩ := ht.drawn
  obtain ⟨received, hreceived, hreceived'⟩ := ht.received
  obtain ⟨reported, hreported, hreported'⟩ := ht.reported
  obtain ⟨settled, hsettled, hsettled'⟩ := ht.settled
  -- Whatever is added belongs to another request, so the filters of this one drop it.
  refine ⟨fun id a ha ↦ ?_, ?_, ?_, ?_, ?_, ht.pending q hq⟩
  · rw [hdrawn, List.lookup_append, ha, Option.some_or]
  · have hfresh : fresh.filter (fun y ↦ y.request? b'.drawn = some q) = 0 := by
      rw [Multiset.filter_eq_nil]
      intro y hy
      rw [ht.fresh y hy]
      exact hne
    rw [tokensOf, tokensOf, ht.after, ht.before, Multiset.filter_add, hfresh, Multiset.zero_add,
      ht.filter_left hs, Multiset.filter_cons_of_neg]
    rw [hx]
    exact hne
  · have hnone : received.filter (fun p ↦ requestOf b'.drawn p.2.id = some q) = [] := by
      rw [List.filter_eq_nil_iff]
      intro p hp
      rw [hreceived' p hp]
      exact fun h ↦ hne (of_decide_eq_true h)
    rw [← ht.receivedFor_old hs, receivedFor, hreceived, List.filter_append, hnone,
      List.append_nil, receivedFor]
  · have hnone : reported.filter (fun p ↦ requestOf b'.drawn p.2.intention.id = some q) = [] := by
      rw [List.filter_eq_nil_iff]
      intro p hp
      rw [hreported' p hp]
      exact fun h ↦ hne (of_decide_eq_true h)
    rw [← ht.reportedFor_old hs, reportedFor, hreported, List.filter_append, hnone,
      List.append_nil, reportedFor]
  · have hnone : settled.filter (fun p ↦ p.request.id = q) = [] := by
      rw [List.filter_eq_nil_iff]
      intro p hp
      rw [hsettled' p hp]
      exact fun h ↦ hq (of_decide_eq_true h).symm
    rw [settledOf, hsettled, List.filter_append, hnone, List.append_nil, settledOf]

/-- What is known of a request (`Told`) stays known if nothing was received or reported. -/
theorem told {opening : List (Nat × Intention)} {runs : List DeviceRun}
    (ht : TokenReplaced b b' r x fresh left) (hs : Sound rs b)
    (hreceived : b'.received = b.received) (hreported : b'.reported = b.reported)
    (h : b.Told q opening runs) :
    b'.Told q opening runs := by
  refine ⟨?_, ?_, ?_⟩
  · rw [hreceived, hreported, ht.receivedFor_old hs, ht.reportedFor_old hs]
    exact h.received
  · rw [hreported, ht.reportedFor_old hs]
    exact h.runs
  · rw [hreceived, ht.receivedFor_old hs]
    exact h.numbers

/-- The tokens of the one request are replaced. -/
theorem tokensOf_self (ht : TokenReplaced b b' r x fresh left) (hs : Sound rs b)
    (hleft : ∀ y ∈ left, y.request? b.drawn ≠ some r.id) : b'.tokensOf r.id = fresh := by
  have hnone : left.filter (fun y ↦ y.request? b.drawn = some r.id) = 0 :=
    Multiset.filter_eq_nil.2 hleft
  have hall : fresh.filter (fun y ↦ y.request? b'.drawn = some r.id) = fresh :=
    Multiset.filter_eq_self.2 ht.fresh
  rw [tokensOf, ht.after, Multiset.filter_add, ht.filter_left hs, hnone, Multiset.add_zero, hall]

/-- **An entry keeps books `Sound`** if its request still stands somewhere and the client remembers
the right intentions. -/
theorem sound (ht : TokenReplaced b b' r x fresh left) (hs : Sound rs b) (hr : r ∈ rs)
    (hx : x.request? b.drawn = some r.id) (hstands : b'.Stands r)
    (hflights : (b'.inFlight : Multiset (Uuid × Uuid)) =
      fresh.filterMap (Token.flight? b'.drawn) + left.filterMap (Token.flight? b.drawn))
    (hkeys : (b'.inFlight.map (·.1)).Nodup) : Sound rs b' where
  distinct := hs.distinct
  stands r' hr' := by
    by_cases hid : r'.id = r.id
    · rwa [List.inj_on_of_nodup_map hs.distinct hr' hr hid]
    · exact (hs.stands r' hr').agree (ht.agree hs hx hid)
  owned y hy := by
    rw [ht.after, Multiset.mem_add] at hy
    rcases hy with hy | hy
    · exact ⟨r, hr, ht.fresh y hy⟩
    · rw [ht.request?_left hs hy]
      exact hs.owned y (by rw [ht.before]; exact Multiset.mem_cons_of_mem hy)
  received p hp := by
    obtain ⟨drawn, hdrawn⟩ := ht.drawn
    obtain ⟨more, hmore, hmine⟩ := ht.received
    rw [hmore, List.mem_append] at hp
    rcases hp with hp | hp
    · obtain ⟨q, hq⟩ := Option.isSome_iff_exists.1 (hs.received p hp)
      rw [hdrawn, Session.requestOf_append_of_some hq, Option.isSome_some]
    · rw [hmine p hp, Option.isSome_some]
  reported p hp := by
    obtain ⟨drawn, hdrawn⟩ := ht.drawn
    obtain ⟨more, hmore, hmine⟩ := ht.reported
    rw [hmore, List.mem_append] at hp
    rcases hp with hp | hp
    · obtain ⟨q, hq⟩ := Option.isSome_iff_exists.1 (hs.reported p hp)
      rw [hdrawn, Session.requestOf_append_of_some hq, Option.isSome_some]
    · rw [hmine p hp, Option.isSome_some]
  settled p hp := by
    obtain ⟨more, hmore, hmine⟩ := ht.settled
    rw [hmore, List.mem_append] at hp
    rcases hp with hp | hp
    · exact hs.settled p hp
    · exact ⟨r, hr, hmine p hp⟩
  flights := by rw [hflights, ht.after, Multiset.filterMap_add, ht.flights_left hs]
  keys := hkeys

end TokenReplaced

end Books

end DeviceLab
