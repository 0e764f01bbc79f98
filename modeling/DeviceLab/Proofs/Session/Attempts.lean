import DeviceLab.Proofs.Session.Stages

/-!
# No attempt is lost or made twice

`Course.one_attempt_alive`: while a session collects, every request that was submitted (`submitted`)
and is not resolved (`IsResolved`) has exactly one attempt alive, in exactly one place
(`attemptsOf`); a resolved request has none; and the client remembers exactly the attempts between
its own hands and the results of the service.

All of this is what sound books say (`Books.Sound`), so the theorem rests on `Course.atWork` and on
a translation: `books_tokens_of_not_panicked` says that, as long as no worker ended by a panic and
took its intention along, the tokens of the books are the ones that are alive, and `isResolved_iff`
that the books have a report exactly of what is resolved.
-/

namespace DeviceLab

namespace Session

open Books (Sound)

variable {capacity : Nat} {requests : List Request} {h : List Turn} {s : Session}

/-- The requests whose first attempts were submitted. -/
def submitted (s : Session) : List Request :=
  match s.scheduler with
  | .submitting _ => []
  | _ => s.requests

/-- A request is resolved once there is a report for it (`settled`). -/
def IsResolved (s : Session) (q : Uuid) : Prop :=
  ∃ p ∈ s.settled, p.request.id = q

/-- The attempts of a request that are alive. -/
def attemptsOf (drawn : List (Uuid × Attempt)) (s : Session) (q : Uuid) : Multiset Token :=
  s.tokens.filter fun x ↦ x.request? drawn = some q

/-- As long as asking a device for its health has not panicked, the books list what is alive
(`tokens`). -/
theorem books_tokens_of_not_panicked (hp : panicked h = false) : (books h s).tokens = s.tokens := by
  rw [books, dropped_of_not_panicked hp, Multiset.coe_nil, Multiset.add_zero]

/-- A request is resolved exactly if the books have a report for it (`settledOf`). -/
theorem isResolved_iff {q : Uuid} : s.IsResolved q ↔ (books h s).settledOf q ≠ [] := by
  rw [Books.settledOf, Ne, List.filter_eq_nil_iff]
  constructor
  · rintro ⟨p, hp, hid⟩ hnone
    exact hnone p hp (decide_eq_true hid)
  · intro hsome
    by_contra hnone
    exact hsome fun p hp hid ↦ hnone ⟨p, hp, of_decide_eq_true hid⟩

/-- **No attempt is lost or made twice.** While a session collects, and as long as asking a device
for its health has not panicked, a request that was submitted has one attempt alive (`attemptsOf`),
at one place, until it is resolved (`IsResolved`), and none from then on; no other attempt is alive;
and what the client remembers (`inFlight`) are the attempts that are alive as intentions or as
results of the service. -/
theorem Course.one_attempt_alive (hc : Course (call capacity requests).1 h s)
    (hd : ((drawn h).map (·.1)).Nodup) (hs : s.stage = .collecting) (hp : panicked h = false) :
    s.requests = requests ∧
      (∀ r ∈ s.submitted,
        (¬ s.IsResolved r.id → ∃ x, s.attemptsOf (drawn h) r.id = {x}) ∧
        (s.IsResolved r.id → s.attemptsOf (drawn h) r.id = 0)) ∧
      (∀ x ∈ s.tokens, ∃ r ∈ s.submitted, x.request? (drawn h) = some r.id) ∧
      (s.client.inFlight : Multiset (Uuid × Uuid)) =
        s.tokens.filterMap (Token.flight? (drawn h)) := by
  obtain ⟨hreq, -, hk⟩ := hc.atWork hd hs
  have htokens : (books h s).tokens = s.tokens := books_tokens_of_not_panicked hp
  cases hk with
  | blank hsched hb =>
    -- Nothing is submitted yet, and nothing is alive.
    have hnone : s.submitted = [] := by rw [submitted, hsched]
    have hzero : s.tokens = 0 := by rw [← htokens, hb.tokens]
    have hflight : s.client.inFlight = [] := hb.inFlight
    rw [hnone, hzero, hflight]
    exact ⟨hreq, List.forall_mem_nil _, fun x hx ↦ (Multiset.notMem_zero x hx).elim, rfl⟩
  | sound hsched hb =>
    have hall : s.submitted = s.requests := by
      rw [submitted]
      split
      · next rs hrs => exact (hsched rs hrs).elim
      · rfl
    have hattempts (q : Uuid) : s.attemptsOf (drawn h) q = (books h s).tokensOf q := by
      rw [attemptsOf, Books.tokensOf, htokens]
      rfl
    rw [hall]
    refine ⟨hreq, fun r hr ↦ ?_, ?_, ?_⟩
    · rw [hattempts, isResolved_iff (h := h)]
      cases hb.stands r hr with
      | underway x runs hu =>
        exact ⟨fun _ ↦ ⟨x, hu.tokens⟩, fun hsome ↦ (hsome hu.settled).elim⟩
      | resolved runs hres =>
        refine ⟨fun hnone ↦ (hnone ?_).elim, fun _ ↦ hres.tokens⟩
        rw [hres.settled]
        exact List.cons_ne_nil _ _
    · rw [← htokens]
      exact hb.owned
    · rw [← htokens]
      exact hb.flights

/-- One request, whose intention a worker has just taken. -/
theorem one_attempt_alive_of_taken :
    ∃ (r : Request) (h : List Turn) (s : Session), Course (call 1 [r]).1 h s ∧
      s.stage = .collecting ∧ panicked h = false ∧ s.submitted = [r] ∧
      ∃ x, s.attemptsOf (drawn h) r.id = {x} := by
  have htaken := (course_sample 2).follow sampleMoves rfl
  have hone := htaken.one_attempt_alive (by decide) rfl rfl
  refine ⟨_, _, _, htaken, rfl, rfl, rfl, (hone.2.1 _ (List.mem_singleton_self _)).1 ?_⟩
  rintro ⟨p, hp, -⟩
  cases hp

end Session

end DeviceLab
