import DeviceLab.Proofs.Session.Attempts
import DeviceLab.Proofs.Worker.Fitting

/-!
# Who waits for what

Nobody in a session sleeps without a reason (`WakeInvariant`): a worker that is parked at the router
was told that the queue holds nothing for the state of its device, and a forwarder that is parked
there that the queue is full. Both stay true until somebody wakes them.

`Course.wakeInvariant` says so of every session that collects, by `WakeInvariant.working`, which
goes through the moves in the cases of `Working`. For the takers it rests on `WaitsFor`, which is
about the list of workers and the queue alone: the queue may become shorter (`WaitsFor.shorter`),
other workers may change (`WaitsFor.modify`), and whoever may find something after all was woken
(`waitsFor_woken`).

A parked worker asks again with the state that it was parked with, so the states of all workers have
to stay as they are meanwhile and have to fit their devices (`Worker.Fitted`, from
`DeviceLab.Proofs.Worker.Fitting`). `Kept.request_of_queued` provides that of the intentions which
workers take: they are attempts of requests, so their states declare what the request targets.
-/

namespace DeviceLab

namespace Session

open Books (Sound)

variable {h : List Turn} {s s' : Session} {m : Move} {ns : List Notice}

/-! ### Intentions of a session -/

/-- An intention that is alive is an attempt of a request that is `Underway`. -/
theorem Kept.request_of_mem (hk : Kept h s) {x : Token} (hx : x ∈ s.tokens) :
    ∃ r ∈ s.requests, ¬ s.IsResolved r.id ∧
      ∀ i, x.intention? = some i → ∃ k, i = .ofRequest i.id r k := by
  have hbooks : x ∈ (books h s).tokens := Multiset.mem_add.2 (.inl hx)
  obtain ⟨ps, hps⟩ := hk.collecting_of_mem hbooks
  have hb : Sound s.requests (books h s) := hk.sound_of fun rs hrs ↦ by
    rw [hps] at hrs
    cases hrs
  obtain ⟨r, hr, runs, -, hu⟩ := hb.underway_of_mem hbooks
  obtain ⟨k, -, hcarries⟩ := hu.carries
  refine ⟨r, hr, fun hres ↦ ?_, fun i hi ↦ ⟨k, (hcarries.intention i hi).2⟩⟩
  exact (isResolved_iff (h := h)).1 hres hu.settled

/-- An intention in the queue is an attempt of a request that is not resolved. -/
theorem Kept.request_of_queued (hk : Kept h s) {i : Intention} (hi : i ∈ s.router.queue) :
    ∃ r ∈ s.requests, ¬ s.IsResolved r.id ∧ i.state = r.targetState := by
  have hx : Token.queued i ∈ s.tokens := by simp [tokens, each, hi]
  obtain ⟨r, hr, hres, hintention⟩ := hk.request_of_mem hx
  obtain ⟨k, hk⟩ := hintention i rfl
  refine ⟨r, hr, hres, ?_⟩
  rw [hk]
  rfl

/-! ### Takers -/

/-- A parked taker is a worker that still waits for an intention, with its present state, and if it
sleeps then there is none that it can reach (`canReach`). -/
structure WaitsFor (workers : List Hired) (queue : List Intention) (t : ParkedTake) (x : Hired) :
    Prop where
  worker : workers[t.id]? = some x
  seeking : x.worker.isSeeking = true
  state : t.state = x.worker.state
  nothing : t.woken = false → Router.takeMatching t.state queue = none

section Takers

variable {workers : List Hired} {queue rest : List Intention} {takes : List ParkedTake}
variable {t : ParkedTake} {x : Hired} {i : Intention} {n : Nat}

/-- Takers that were woken may find something. -/
theorem waitsFor_woken (ht : ∀ t ∈ takes, ∃ x, WaitsFor workers queue t x)
    (queue' : List Intention) :
    ∀ t ∈ takes.map fun t ↦ { t with woken := true }, ∃ x, WaitsFor workers queue' t x := by
  intro t hmem
  obtain ⟨u, hu, rfl⟩ := List.mem_map.1 hmem
  obtain ⟨x, hx⟩ := ht u hu
  exact ⟨x, hx.worker, hx.seeking, hx.state, fun hwoken ↦ by cases hwoken⟩

/-- A sleeper has nothing to take from a shorter queue either. -/
theorem WaitsFor.shorter {state : DeviceState} (hx : WaitsFor workers queue t x)
    (hq : Router.takeMatching state queue = some (i, rest)) : WaitsFor workers rest t x := by
  refine { hx with nothing := fun hwoken ↦ ?_ }
  have hnone := hx.nothing hwoken
  rw [Router.takeMatching_eq_none] at hnone ⊢
  intro j hj
  exact hnone j ((Router.perm_of_takeMatching hq).mem_iff.2 (List.mem_cons_of_mem i hj))

/-- A change of another worker does not concern a taker. -/
theorem WaitsFor.modify (hx : WaitsFor workers queue t x) (hn : t.id ≠ n) (f : Hired → Hired) :
    WaitsFor (workers.modify n f) queue t x := by
  refine { hx with worker := ?_ }
  rw [List.getElem?_modify, hx.worker]
  simp [hn.symm]

/-- Neither does a worker that joins. -/
theorem WaitsFor.append (hx : WaitsFor workers queue t x) (more : List Hired) :
    WaitsFor (workers ++ more) queue t x := by
  refine { hx with worker := ?_ }
  obtain ⟨hlt, heq⟩ := List.getElem?_eq_some_iff.1 hx.worker
  rw [List.getElem?_append_left hlt, List.getElem?_eq_getElem hlt, heq]

section All

variable (ht : ∀ t ∈ takes, ∃ x, WaitsFor workers queue t x)

include ht

/-- A worker asks with the state that it has, also if it was parked. -/
theorem state_eq_of_waitsFor {state : DeviceState} (hx : workers[n]? = some x)
    (hstate : state = x.worker.state ∨ ∃ t ∈ takes, t.id = n ∧ t.state = state) :
    state = x.worker.state := by
  rcases hstate with heq | ⟨t, ht', rfl, rfl⟩
  · exact heq
  · obtain ⟨y, hy⟩ := ht t ht'
    have hxy : x = y := Option.some.inj (hx.symm.trans hy.worker)
    rw [hxy]
    exact hy.state

theorem waitsFor_hired (more : List Hired) :
    ∀ t ∈ takes, ∃ x, WaitsFor (workers ++ more) queue t x := by
  intro t hmem
  obtain ⟨x, hx⟩ := ht t hmem
  exact ⟨x, hx.append more⟩

/-- A worker that finds nothing is parked. -/
theorem waitsFor_parked (hx : workers[n]? = some x) (hseeking : x.worker.isSeeking = true)
    (hnone : Router.takeMatching x.worker.state queue = none) :
    ∀ t ∈ takes.filter (·.id ≠ n) ++ [⟨n, x.worker.state, false⟩],
      ∃ x, WaitsFor workers queue t x := by
  intro t hmem
  rcases List.mem_append.1 hmem with hmem | hmem
  · exact ht t (List.mem_filter.1 hmem).1
  · obtain rfl := List.mem_singleton.1 hmem
    exact ⟨x, hx, hseeking, rfl, fun _ ↦ hnone⟩

/-- A worker that is parked no more may change. -/
theorem waitsFor_left (n : Nat) (f : Hired → Hired) :
    ∀ t ∈ takes.filter (·.id ≠ n), ∃ x, WaitsFor (workers.modify n f) queue t x := by
  intro t hmem
  obtain ⟨hmem, hid⟩ := List.mem_filter.1 hmem
  obtain ⟨x, hx⟩ := ht t hmem
  exact ⟨x, hx.modify (of_decide_eq_true hid) f⟩

/-- An intention that is taken is missed by nobody who sleeps. -/
theorem waitsFor_shorter {state : DeviceState}
    (hq : Router.takeMatching state queue = some (i, rest)) :
    ∀ t ∈ takes, ∃ x, WaitsFor workers rest t x := by
  intro t hmem
  obtain ⟨x, hx⟩ := ht t hmem
  exact ⟨x, hx.shorter hq⟩

/-- A worker that does not wait for the router may change. -/
theorem waitsFor_modify (hx : workers[n]? = some x) (hseeking : x.worker.isSeeking = false)
    (f : Hired → Hired) : ∀ t ∈ takes, ∃ y, WaitsFor (workers.modify n f) queue t y := by
  intro t hmem
  obtain ⟨y, hy⟩ := ht t hmem
  have hn : t.id ≠ n := by
    rintro rfl
    obtain rfl : x = y := Option.some.inj (hx.symm.trans hy.worker)
    rw [hy.seeking] at hseeking
    cases hseeking
  exact ⟨y, hy.modify hn f⟩

end All

/-- A worker that changes is `Fitted`, and the others stay so. -/
theorem fitted_modify (hfitted : ∀ x ∈ workers, x.worker.Fitted) (n : Nat) {w : Worker}
    (hw : w.Fitted) : ∀ x ∈ workers.modify n fun y ↦ { y with worker := w }, x.worker.Fitted := by
  intro x hx
  obtain ⟨k, hk, rfl⟩ := List.mem_iff_getElem.1 hx
  rw [List.getElem_modify]
  split
  · exact hw
  · exact hfitted _ (List.getElem_mem _)

end Takers

/-! ### Nobody sleeps without a reason -/

/-- Nobody sleeps without a reason: a parked taker waits for an intention (`WaitsFor`), and the
forwarder sleeps only at a full queue. -/
structure WakeInvariant (s : Session) : Prop where
  capacity : 0 < s.capacity
  fitted : ∀ x ∈ s.workers, x.worker.Fitted
  takes : ∀ t ∈ s.router.takes, ∃ x, WaitsFor s.workers s.router.queue t x
  sends : ∀ p ∈ s.router.sends, p.wake = .asleep → s.router.capacity ≤ s.router.queue.length

/-- Waking a sender leaves none asleep, since there is one at most. -/
theorem not_asleep_of_wakeSend (hw : s.Wired) (takes : List ParkedTake) (queue : List Intention) :
    ∀ p ∈ { s.router with takes := takes, queue := queue }.wakeSend.sends, p.wake ≠ .asleep := by
  rcases hw.forwarder with ⟨-, hsends⟩ | ⟨-, p, -, hsends⟩
  · simp [Router.wakeSend, hsends]
  · by_cases hwake : p.wake = .asleep
    · simp [Router.wakeSend, Router.wakeFirst, hsends, hwake]
    · simp [Router.wakeSend, hsends, hwake]

/-- A worker asks with the state that it has, also if it was parked. -/
theorem WakeInvariant.state_eq (hs : s.WakeInvariant) {n : Nat} {x : Hired} {state : DeviceState}
    (hx : s.workers[n]? = some x)
    (hstate : state = x.worker.state ∨ ∃ t ∈ s.router.takes, t.id = n ∧ t.state = state) :
    state = x.worker.state :=
  state_eq_of_waitsFor hs.takes hx hstate

/-- What a worker takes fits its device. -/
theorem WakeInvariant.fits_of_takeMatching (hs : s.WakeInvariant) (hk : Kept h s) {n : Nat}
    {x : Hired} {i : Intention} {rest : List Intention} (hx : s.workers[n]? = some x)
    (hq : Router.takeMatching x.worker.state s.router.queue = some (i, rest)) :
    i.state.Fits x.worker.device := by
  have hi : i ∈ s.router.queue :=
    (Router.perm_of_takeMatching hq).mem_iff.2 (List.mem_cons_self ..)
  obtain ⟨r, -, -, hr⟩ := hk.request_of_queued hi
  have hreach := Router.canReach_of_takeMatching hq
  rw [hr] at hreach ⊢
  exact (hs.fitted x (List.mem_of_getElem? hx)).state.targetState hreach

/-- **Nobody falls asleep without a reason** (`WakeInvariant`), whatever move a session at work
makes. -/
theorem WakeInvariant.working (hs : s.WakeInvariant) (hw : s.Wired) (hk : Kept h s)
    (hwk : Working s m s' ns) : s'.WakeInvariant := by
  cases hwk with
  | submit | ignore | retry | settle | finish | draw | exhaust | bring | misplace | handOn | errand
    | gather => exact { hs with }
  | pass hf =>
    -- A new intention wakes everybody who waits for one.
    refine { hs with takes := waitsFor_woken hs.takes _, sends := fun p hp ↦ ?_ }
    have hp : p ∈ s.router.sends := hp
    rw [hw.sends_of_reading hf] at hp
    cases hp
  | block _ _ hfull => exact { hs with sends := fun _ _ _ ↦ hfull }
  | resume => exact { hs with takes := waitsFor_woken hs.takes _, sends := fun p hp ↦ by cases hp }
  | reblock _ _ _ hfull => exact { hs with sends := fun _ _ _ ↦ hfull }
  | @hire d =>
    refine { hs with fitted := fun x hx ↦ ?_, takes := waitsFor_hired hs.takes _ }
    rcases List.mem_append.1 hx with hx | hx
    · exact hs.fitted x hx
    · rw [List.mem_singleton.1 hx]
      exact Worker.fitted_new d
  | @await n x state hx hseeking hstate hq =>
    obtain rfl := hs.state_eq hx hstate
    exact { hs with takes := waitsFor_parked hs.takes hx hseeking hq }
  | @deliver n x state i queue hx hseeking hstate hq =>
    obtain rfl := hs.state_eq hx hstate
    have hfitted := hs.fitted x (List.mem_of_getElem? hx)
    have hfits := hs.fits_of_takeMatching hk hx hq
    refine ⟨hs.capacity, fitted_modify hs.fitted n (hfitted.receive hfits), ?_, ?_⟩
    · show ∀ t ∈ (Router.wakeSend _).takes, ∃ x, WaitsFor _ (Router.wakeSend _).queue t x
      rw [Router.wakeSend_takes, Router.wakeSend_queue]
      exact waitsFor_left (waitsFor_shorter hs.takes hq) n _
    · -- There is room now, and the forwarder was woken for it.
      intro p hp hasleep
      exact (not_asleep_of_wakeSend hw _ _ p hp hasleep).elim
  | @answer n time reply x w ns signals hx hr hg =>
    have hfitted := hs.fitted x (List.mem_of_getElem? hx)
    have hw' := (Worker.resumed_of_resume hr).fitted hfitted
    exact { hs with
      fitted := fitted_modify hs.fitted n hw'
      takes := waitsFor_modify hs.takes hx (Worker.isSeeking_eq_false_of_resume hr) _ }

/-! ### Along a course -/

/-- **Nobody sleeps without a reason in a session that collects**, by `WakeInvariant.working`. -/
theorem Course.wakeInvariant {capacity : Nat} {requests : List Request}
    (hc : Course (call capacity requests).1 h s) (hd : ((drawn h).map (·.1)).Nodup)
    (hs : s.stage = .collecting) : s.WakeInvariant := by
  induction hc with
  | start =>
    rcases call_cases capacity requests with ⟨-, h⟩ | ⟨e, h⟩ | h | ⟨-, -, -, h⟩
    all_goals rw [h] at hs; cases hs
  | @turn h s s' ns m hc hstep ih =>
    have hd' := nodup_of_append hd
    rcases (stageChange_of_step hstep).before_collecting hs with hbefore | ⟨hbefore, rfl⟩
    · obtain ⟨-, hw, hk⟩ := hc.atWork hd' hbefore
      exact (ih hd' hbefore).working hw hk (hw.working_of_step hstep hs)
    · obtain ⟨-, -, -, hpos, c, rfl⟩ := hc.claiming hbefore
      obtain ⟨rfl, rfl⟩ := Prod.mk.inj (Option.some.inj hstep).symm
      exact ⟨hpos, List.forall_mem_nil _, List.forall_mem_nil _, List.forall_mem_nil _⟩
  | feed c hc ih => exact { ih hd hs with }

end Session

end DeviceLab
