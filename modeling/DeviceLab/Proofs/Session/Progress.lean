import DeviceLab.Proofs.Session.Waiting

/-!
# No deadlock

The client does not read while it waits to hand an intention on, the forwarder does not while the
router is full, and both channels between them are bounded, but they never hold each other up. That
is `Course.resolved_of_stalled`: if attempts do not go on and no device is busy (`Stalled`), and
every request that is not resolved has a worker for it (`Served`), then every request is resolved.

The proof goes around the session once, and each step rests on the one before it.

1. A worker would take what is in the queue (`Stalled.takeMatching_eq_none`, from
   `Course.wakeInvariant`), so with a worker for each request the queue is empty
   (`Stalled.queue_eq_nil`).
2. So the forwarder is not blocked, and has taken every intention (`Stalled.intentions_eq_nil`).
3. So the client is not blocked either, and has taken every attempt and every result
   (`Stalled.attempts_eq_nil`, `Stalled.results_eq_nil`).
4. The scheduler has taken every outcome (`Stalled.outcomes_eq_nil`), and workers whose devices are
   not busy hold nothing (`Stalled.takenBy_eq_zero`).

So no attempt is alive (`Stalled.tokens_eq_zero`), and in sound books every request that was
submitted is resolved. The bounds of the channels play no part in any of it.
-/

namespace DeviceLab

namespace Session

variable {h : List Turn} {s : Session}

/-! ### Stalled sessions -/

/-- The moves by which attempts go on from part to part. -/
def Move.isTransit : Move → Bool
  | .schedule | .takeAttempt _ | .takeResult | .handOn | .forward | .seek _ => true
  | _ => false

/-- Attempts do not go on: no part can pass one on (`Move.isTransit`), and no device is busy
(`Worker.command?`). What the watcher, the intake and the caller could do does not matter. -/
structure Stalled (s : Session) : Prop where
  stuck : ∀ m : Move, m.isTransit = true → s.step m = none
  idle : ∀ x ∈ s.workers, x.worker.command? = none

/-- A worker that is not over has a device of the kind that a request targets (`api`, `model`). -/
def Served (s : Session) (r : Request) : Prop :=
  ∃ x ∈ s.workers, x.worker.isOver = false ∧ x.worker.device.api = r.target.api ∧
    x.worker.device.model = r.target.model

namespace Stalled

/-- A scheduler that collects has taken every outcome, if the session is `Stalled`. -/
theorem outcomes_eq_nil (hs : s.Stalled) {ps : List Pending}
    (hps : s.scheduler = .collecting ps) : s.outcomes.items = [] := by
  have hstuck : s.schedule = none := hs.stuck .schedule rfl
  cases hitems : s.outcomes.items with
  | nil => rfl
  | cons o rest => simp [schedule, hps, hitems] at hstuck

/-- A worker that waits was told that the queue holds nothing for it, by `WakeInvariant`. -/
theorem takeMatching_eq_none (hs : s.Stalled) (hwake : s.WakeInvariant) {n : Nat} {x : Hired}
    (hx : s.workers[n]? = some x) (hseeking : x.worker.isSeeking = true) :
    Router.takeMatching x.worker.state s.router.queue = none := by
  have hstuck : s.seek n = none := hs.stuck (.seek n) rfl
  cases hparked : s.router.parkedTake? n with
  | none =>
    rcases hask : s.router.ask n x.worker.state with ⟨_ | _ | _, r⟩
    all_goals simp [seek, hx, hseeking, hparked, hask] at hstuck
  | some t =>
    have ht : t ∈ s.router.takes := List.mem_of_find?_eq_some hparked
    have hid : t.id = n := by simpa using List.find?_some hparked
    obtain ⟨y, hy⟩ := hwake.takes t ht
    have hxy : x = y := by
      have hworker := hy.worker
      rw [hid, hx] at hworker
      exact Option.some.inj hworker
    rw [hxy, ← hy.state]
    refine hy.nothing ?_
    -- A taker that was woken could try again.
    by_contra hwoken
    rcases hask : (s.router.dropTake n).ask n t.state with ⟨_ | _ | _, r⟩
    all_goals simp [seek, hx, hseeking, hparked, Router.retryTake, hwoken, hask] at hstuck

/-- The router is empty: a worker would have taken what is in its queue. -/
theorem queue_eq_nil (hs : s.Stalled) (hk : Kept h s) (hwake : s.WakeInvariant)
    (hserved : ∀ r ∈ s.requests, ¬ s.IsResolved r.id → s.Served r) : s.router.queue = [] := by
  rw [List.eq_nil_iff_forall_not_mem]
  intro i hi
  obtain ⟨r, hr, hres, hstate⟩ := hk.request_of_queued hi
  obtain ⟨x, hmem, hover, hdevice⟩ := hserved r hr hres
  obtain ⟨n, hx⟩ := List.getElem?_of_mem hmem
  have hseeking := Worker.isSeeking_of_command?_eq_none (hs.idle x hmem) hover
  -- The worker that serves the request waits and would have found the intention.
  have hnone := hs.takeMatching_eq_none hwake hx hseeking
  have hunreached := Router.takeMatching_eq_none.1 hnone i hi
  have hreached := (hwake.fitted x hmem).state.canReach_iff.2 hdevice
  rw [hstate, hreached] at hunreached
  cases hunreached

/-- With an empty router the forwarder is not blocked. -/
theorem forwarder_eq_reading (hs : s.Stalled) (hw : s.Wired) (hwake : s.WakeInvariant)
    (hqueue : s.router.queue = []) : s.forwarder = .reading ∧ s.router.sends = [] := by
  rcases hw.forwarder with hreading | ⟨hparked, p, hid, hsends⟩
  · exact hreading
  · exfalso
    have hstuck : s.forward = none := hs.stuck .forward rfl
    have hfound : s.router.parkedSend? forwarderId = some p := by
      rw [Router.parkedSend?, hsends, List.find?_cons_of_pos]
      exact decide_eq_true hid
    have hasleep : p.wake = .asleep := by
      by_contra hwoken
      simp [forward, hparked, Router.retrySend, hfound, hwoken] at hstuck
    have hmem : p ∈ s.router.sends := by
      rw [hsends]
      exact List.mem_singleton_self p
    -- It sleeps because the router was full, which an empty one is not.
    have hfull := hwake.sends p hmem hasleep
    have hpos := hwake.capacity
    rw [hqueue, hw.router_capacity, List.length_nil] at hfull
    omega

/-- A forwarder that reads has taken every intention. -/
theorem intentions_eq_nil (hs : s.Stalled) (hreading : s.forwarder = .reading) :
    s.intentions.items = [] := by
  have hstuck : s.forward = none := hs.stuck .forward rfl
  cases hitems : s.intentions.items with
  | nil => rfl
  | cons i rest => simp [forward, hreading, hitems] at hstuck

/-- With an empty channel to the forwarder the client is not blocked. -/
theorem client_eq_reading (hs : s.Stalled) (hw : s.Wired) (hwake : s.WakeInvariant)
    (hitems : s.intentions.items = []) : s.client.stage = .reading := by
  cases hstage : s.client.stage with
  | off => exact (hw.client hstage).elim
  | reading => rfl
  | holding i =>
    exfalso
    have hstuck : s.handOn = none := hs.stuck .handOn rfl
    have hroom : s.intentions.hasRoom = true := by
      rw [Channel.hasRoom, hw.intentions_capacity, hitems]
      exact decide_eq_true hwake.capacity
    simp [handOn, hstage, hw.intentions_receiving, hroom] at hstuck

/-- A client that reads has taken every attempt, as long as attempts may come. -/
theorem attempts_eq_nil (hs : s.Stalled) (hreading : s.client.stage = .reading)
    (hopen : s.client.attemptsOpen = true) : s.attempts.items = [] := by
  have hstuck : s.takeAttempt (.numbered 0 0) = none := hs.stuck (.takeAttempt _) rfl
  cases hitems : s.attempts.items with
  | nil => rfl
  | cons a rest => simp [takeAttempt, hreading, hopen, hitems] at hstuck

/-- A client that reads has taken every result. -/
theorem results_eq_nil (hs : s.Stalled) (hreading : s.client.stage = .reading) :
    s.results.items = [] := by
  have hstuck : s.takeResult = none := hs.stuck .takeResult rfl
  cases hitems : s.results.items with
  | nil => rfl
  | cons r rest => simp [takeResult, hreading, hitems] at hstuck

/-- Workers whose devices are not busy hold nothing. -/
theorem takenBy_eq_zero {workers : List Hired} (hidle : ∀ x ∈ workers, x.worker.command? = none)
    (n : Nat) : takenBy n workers = 0 := by
  induction workers generalizing n with
  | nil => rfl
  | cons x workers ih =>
    obtain ⟨hx, hrest⟩ := List.forall_mem_cons.1 hidle
    rw [takenBy, Worker.holding?_of_command?_eq_none hx, ih hrest]
    rfl

/-- **In a `Stalled` session no attempt is alive** (`tokens`), if there is a worker for every
request that is not resolved. -/
theorem tokens_eq_zero (hs : s.Stalled) (hw : s.Wired) (hk : Kept h s) (hwake : s.WakeInvariant)
    (hserved : ∀ r ∈ s.requests, ¬ s.IsResolved r.id → s.Served r) {ps : List Pending}
    (hps : s.scheduler = .collecting ps) : s.tokens = 0 := by
  have hqueue := hs.queue_eq_nil hk hwake hserved
  obtain ⟨hforwarder, hsends⟩ := hs.forwarder_eq_reading hw hwake hqueue
  have hintentions := hs.intentions_eq_nil hforwarder
  have hclient := hs.client_eq_reading hw hwake hintentions
  have hopen : s.client.attemptsOpen = true := by
    by_contra hclosed
    have hoff := hw.attempts_open (Bool.eq_false_iff.2 hclosed)
    rw [hps] at hoff
    cases hoff
  have hattempts := hs.attempts_eq_nil hclient hopen
  have hresults := hs.results_eq_nil hclient
  have houtcomes := hs.outcomes_eq_nil hps
  have hheld : heldBy s.client = [] := by rw [heldBy, hclient]
  rw [tokens, hattempts, hheld, hintentions, hsends, hqueue, takenBy_eq_zero hs.idle, hresults,
    houtcomes]
  rfl

end Stalled

/-! ### Resolution -/

/-- **No deadlock.** When attempts do not go on (`Stalled`) in a session that was not wound up, no
device is busy and asking for the health of a device has not panicked, then every request is
resolved (`IsResolved`), if there is a worker for each that is not (`Served`). -/
theorem Course.resolved_of_stalled {capacity : Nat} {requests : List Request}
    (hc : Course (call capacity requests).1 h s) (hd : ((drawn h).map (·.1)).Nodup)
    (hs : s.stage = .claiming ∨ s.stage = .collecting) (hp : panicked h = false)
    (hstalled : s.Stalled) (hserved : ∀ r ∈ requests, ¬ s.IsResolved r.id → s.Served r) :
    ∀ r ∈ requests, s.IsResolved r.id := by
  rcases hs with hs | hs
  · -- Before the claim is granted there are no workers at all.
    obtain ⟨-, -, -, -, c, rfl⟩ := hc.claiming hs
    intro r hr
    by_contra hres
    obtain ⟨x, hx, -⟩ := hserved r hr hres
    cases hx
  · obtain ⟨rfl, hw, hk⟩ := hc.atWork hd hs
    have hwake := hc.wakeInvariant hd hs
    intro r hr
    by_contra hres
    have hstuck : s.schedule = none := hstalled.stuck .schedule rfl
    have hsound := hk.sound_of fun rs hrs ↦ by simp [schedule, hrs] at hstuck
    cases hsound.stands r hr with
    | resolved runs hresolved =>
      refine hres ((isResolved_iff (h := h)).2 ?_)
      rw [hresolved.settled]
      exact List.cons_ne_nil _ _
    | underway x runs hu =>
      have hx : x ∈ (books h s).tokens := by
        have hmem : x ∈ (books h s).tokensOf r.id := by
          rw [hu.tokens]
          exact Multiset.mem_singleton_self x
        exact (Multiset.mem_filter.1 hmem).1
      obtain ⟨ps, hps⟩ := hk.collecting_of_mem hx
      rw [books_tokens_of_not_panicked hp, hstalled.tokens_eq_zero hw hk hwake hserved hps] at hx
      exact Multiset.notMem_zero x hx

/-- One request with one attempt, whose device breaks; the report has not been collected yet. -/
theorem resolved_of_stalled_broken :
    ∃ (r : Request) (h : List Turn) (s : Session), Course (call 1 [r]).1 h s ∧
      s.stage = .collecting ∧ s.Stalled ∧ s.IsResolved r.id := by
  have hexhausted := (course_sample 1).follow (sampleBreak ++ [.takeAttempt (.numbered 1 2)]) rfl
  obtain ⟨h, s, hc, hdistinct, hs, hp, hstalled, hreported⟩ : ∃ (h : List Turn) (s : Session),
      Course (call 1 [sampleRequest 1]).1 h s ∧ ((drawn h).map (·.1)).Nodup ∧
        s.stage = .collecting ∧ panicked h = false ∧ s.Stalled ∧
        s.IsResolved (sampleRequest 1).id := by
    refine ⟨_, _, hexhausted, by decide, rfl, rfl, ⟨?_, ?_⟩, _, List.mem_singleton_self _, rfl⟩
    · intro m hm
      cases m with
      | seek n => cases n <;> rfl
      | schedule | takeAttempt | takeResult | handOn | forward => rfl
      | _ => cases hm
    · intro x hx
      rw [List.mem_singleton.1 hx]
      rfl
  have hserved : ∀ r ∈ [sampleRequest 1], ¬ s.IsResolved r.id → s.Served r := by
    intro r hr hres
    rw [List.mem_singleton.1 hr] at hres
    exact (hres hreported).elim
  have hresolved := hc.resolved_of_stalled hdistinct (.inr hs) hp hstalled hserved
  exact ⟨_, h, s, hc, hs, hstalled, hresolved _ (List.mem_singleton_self _)⟩

end Session

end DeviceLab
