import DeviceLab.Proofs.Session.Stages

/-!
# Winding down

When a session winds down with nothing under way, nothing comes into its hands any more: no
intention is drawn, no worker takes or reports one, and the caller collects nothing. Such a session
is `Quiet`.

* `quiet_windDown` is how the quiet begins: the parts that could draw or pass on end at once, and
  without a token there is nothing at the router or in the hands of workers.
* `Quiet.of_step` is why it lasts. It rests on `Quiet.calm_of_step`: whatever a move does to a quiet
  session, nothing comes up that was missing (`Calm`).
* `Quiet.turn_eq_nil` is what it is for. What the turns tell about attempts is complete from then
  on.
-/

namespace DeviceLab

namespace Session

variable {h : List Turn} {s s' : Session} {m : Move} {ns : List Notice}

/-! ### Quiet sessions -/

/-- Nobody draws intentions or passes them on, the router holds none, and neither do the workers
(`Worker.holding?`). -/
structure Quiet (s : Session) : Prop where
  claimed : s.stage ≠ .claiming
  collected : s.stage ≠ .collecting
  client : s.client.stage = .off
  forwarder : s.forwarder = .off
  queue : s.router.queue = []
  idle : ∀ x ∈ s.workers, x.worker.holding? = none

/-- Nothing that is missing in one session comes up in another one, and the caller collects
nothing. -/
structure Calm (s s' : Session) : Prop where
  client : s.client.stage = .off → s'.client.stage = .off
  forwarder : s.forwarder = .off → s'.forwarder = .off
  queue : s.router.queue = [] → s'.router.queue = []
  idle : (∀ x ∈ s.workers, x.worker.holding? = none) → ∀ x ∈ s'.workers, x.worker.holding? = none
  collected : s'.collected = s.collected

theorem Calm.trans {t : Session} (h : Calm s t) (h' : Calm t s') : Calm s s' where
  client := h'.client ∘ h.client
  forwarder := h'.forwarder ∘ h.forwarder
  queue := h'.queue ∘ h.queue
  idle := h'.idle ∘ h.idle
  collected := h'.collected.trans h.collected

theorem calm_hush (s : Session) : Calm s s.hush := by
  rw [hush]
  split <;> exact ⟨id, id, id, id, rfl⟩

theorem calm_endIntake (s : Session) : Calm s s.endIntake :=
  .trans (t := { s with intake := false, devices := s.devices.endReceiving }) ⟨id, id, id, id, rfl⟩
    (calm_hush _)

theorem calm_finishDrain (s : Session) : Calm s s.finishDrain.1 := by
  rw [finishDrain]
  split <;> exact ⟨id, id, id, id, rfl⟩

theorem calm_letOut (s : Session) (r : Scheduler × Scheduler.Output) : Calm s (s.letOut r).1 := by
  rw [letOut]
  cases r.1 <;> exact ⟨id, id, id, id, rfl⟩

theorem calm_publish (time : UInt64) (s : Session) (ns : List Notice) :
    Calm s (ns.foldl (publish time) s) := by
  induction ns generalizing s with
  | nil => exact ⟨id, id, id, id, rfl⟩
  | cons n ns ih =>
    refine .trans (t := publish time s n) ?_ (ih _)
    unfold publish
    split <;> exact ⟨id, id, id, id, rfl⟩

/-- A worker that holds nothing takes the place of another one. -/
theorem calm_setWorker (s : Session) (n : Nat) {w : Worker} (hw : w.holding? = none) :
    Calm s (s.setWorker n w) := by
  refine .trans (t := { s with workers := s.workers.modify n fun h ↦ { h with worker := w } }) ?_
    (calm_hush _)
  exact ⟨id, id, id, fun hidle ↦ forall_mem_modify hidle fun _ _ ↦ hw, rfl⟩

theorem calm_abortWorkers (s : Session) : Calm s s.abortWorkers := by
  refine .trans (t := { s with
    router := { s.router with takes := [] }, workers := s.workers.map Hired.abort }) ?_
      (calm_hush _)
  refine ⟨id, id, id, fun _ x hx ↦ ?_, rfl⟩
  obtain ⟨y, -, rfl⟩ := List.mem_map.1 hx
  exact y.worker.holding?_abort

/-! ### Moves of a quiet session -/

namespace Quiet

theorem calm_of_seek (hq : s.Quiet) {n : Nat} (hs : s.seek n = some (s', ns)) :
    Calm s s' ∧ ns.filterMap Notice.received? = [] := by
  obtain ⟨x, state, -, -, -, hs⟩ := Wired.seek_cases hs
  have hnone : Router.takeMatching state (s.router.dropTake n).queue = none := by
    rw [Router.dropTake, hq.queue]
    rfl
  cases hclosed : (s.router.dropTake n).closed with
  | true =>
    rw [Router.ask_of_closed hclosed hnone] at hs
    obtain ⟨rfl, rfl⟩ := Prod.mk.inj (Option.some.inj hs)
    refine ⟨.trans (t := { s with router := s.router.dropTake n }) ⟨id, id, id, id, rfl⟩ ?_, rfl⟩
    exact calm_setWorker _ n rfl
  | false =>
    rw [Router.ask_of_none hclosed hnone] at hs
    obtain ⟨rfl, rfl⟩ := Prod.mk.inj (Option.some.inj hs)
    exact ⟨⟨id, id, id, id, rfl⟩, rfl⟩

theorem calm_of_answer (hq : s.Quiet) {n : Nat} {time : UInt64} {reply : Reply}
    (hs : s.answer n time reply = some (s', ns)) :
    Calm s s' ∧ ns.filterMap Notice.received? = [] ∧ ns.filterMap (Notice.result? time) = [] := by
  simp only [answer, Option.bind_eq_bind, Option.bind_eq_some_iff] at hs
  obtain ⟨x, hx, ⟨w, more⟩, hr, hs⟩ := hs
  obtain ⟨rfl, rfl⟩ := Prod.mk.inj (Option.some.inj hs)
  have hnone := hq.idle x (List.mem_of_getElem? hx)
  have hcalm (hw : w.holding? = none) :
      Calm s ((more.foldl (publish time) s).setWorker n w) :=
    (calm_publish time s more).trans (calm_setWorker _ n hw)
  cases (Worker.resumed_of_resume hr).held with
  | kept hh hn => exact ⟨hcalm (hh.trans hnone), hn⟩
  | reported r hh => rw [hnone] at hh; cases hh
  | lost m i hp hh => rw [hnone] at hh; cases hh

theorem calm_of_join {n : Nat} (hs : s.join n = some (s', ns)) : Calm s s' := by
  simp only [join, Option.bind_eq_bind, Option.bind_eq_some_iff] at hs
  obtain ⟨-, -, x, -, -, -, hs⟩ := hs
  obtain ⟨rfl, rfl⟩ := Prod.mk.inj (Option.some.inj hs)
  refine .trans (t := { s with workers := s.workers.modify n fun h ↦ { h with joined := true } }) ?_
    (calm_finishDrain _)
  exact ⟨id, id, id, fun hidle ↦ forall_mem_modify hidle fun y hy ↦
    hidle y (List.mem_of_getElem? hy), rfl⟩

theorem calm_of_enlist {found : Except LabError DeviceData}
    (hs : s.enlist found = some (s', ns)) : Calm s s' := by
  rw [enlist] at hs
  split at hs
  · cases hs
  split at hs
  · cases hs
  cases found with
  | ok d =>
    obtain ⟨rfl, rfl⟩ := Prod.mk.inj (Option.some.inj hs)
    refine ⟨id, id, id, fun hidle x hx ↦ ?_, rfl⟩
    rcases List.mem_append.1 hx with hx | hx
    · exact hidle x hx
    · rw [List.mem_singleton.1 hx]
      rfl
  | error e =>
    obtain ⟨rfl, rfl⟩ := Prod.mk.inj (Option.some.inj hs)
    exact ⟨id, id, id, id, rfl⟩

theorem calm_of_some {x : Session × List Notice} (hx : Calm s x.1) (hs : some x = some (s', ns)) :
    Calm s s' := by
  rw [Option.some.inj hs] at hx
  exact hx

/-- **Every move of a quiet session is `Calm`.** -/
theorem calm_of_step (hq : s.Quiet) (hs : s.step m = some (s', ns)) : Calm s s' := by
  cases m with
  | takeAttempt => simp [step, takeAttempt, hq.client] at hs
  | takeResult => simp [step, takeResult, hq.client] at hs
  | handOn => simp [step, handOn, hq.client] at hs
  | forward => simp [step, forward, hq.forwarder] at hs
  | claimed reply => rw [step_claimed_eq_none hq.claimed] at hs; cases hs
  | collect => rw [step_collect_eq_none hq.collected] at hs; cases hs
  | expire => rw [step_expire_eq_none hq.collected] at hs; cases hs
  | seek => exact (hq.calm_of_seek hs).1
  | answer => exact (hq.calm_of_answer hs).1
  | join => exact calm_of_join hs
  | enlist => exact calm_of_enlist hs
  | overrun =>
    rw [step, overrun] at hs
    split at hs
    · refine calm_of_some (x := (s.abortWorkers.finishDrain.1, _)) ?_ hs
      exact (calm_abortWorkers s).trans (calm_finishDrain _)
    · cases hs
  | schedule =>
    rw [step, schedule] at hs
    split at hs
    · cases hs
    · exact calm_of_some (calm_letOut ..) hs
    · split at hs
      · refine calm_of_some (.trans (t := { s with outcomes := s.outcomes.rest }) ?_
          (calm_letOut ..)) hs
        exact ⟨id, id, id, id, rfl⟩
      · split at hs
        · cases hs
        · exact calm_of_some (calm_letOut ..) hs
  | closeIntake =>
    rw [step, closeIntake] at hs
    split at hs
    · exact calm_of_some (calm_endIntake s) hs
    · cases hs
  | takeCoordinate | deliver | heed | removed | drained | released =>
    -- The watcher and the caller touch nothing that attempts pass through.
    simp only [step, takeCoordinate, deliver, heed, removed, drained, released] at hs
    repeat' split at hs
    all_goals first
      | cases hs; done
      | exact calm_of_some ⟨id, id, id, id, rfl⟩ hs

/-- **A quiet session stays `Quiet`.** -/
theorem of_step (hq : s.Quiet) (hs : s.step m = some (s', ns)) : s'.Quiet := by
  have hcalm := hq.calm_of_step hs
  have hr := stageChange_of_step hs
  exact { claimed := fun h ↦ hq.claimed (hr.before_claiming h)
          collected := fun h ↦ by
            rcases hr.before_collecting h with h | ⟨h, -⟩
            · exact hq.collected h
            · exact hq.claimed h
          client := hcalm.client hq.client
          forwarder := hcalm.forwarder hq.forwarder
          queue := hcalm.queue hq.queue
          idle := hcalm.idle hq.idle }

/-- Nothing is drawn, taken or reported in the turns of a `Quiet` session. -/
theorem turn_eq_nil (hq : s.Quiet) (hs : s.step m = some (s', ns)) :
    Turn.drawn ⟨s, m, ns⟩ = [] ∧ Turn.received ⟨s, m, ns⟩ = [] ∧
      Turn.reported ⟨s, m, ns⟩ = [] := by
  cases m with
  | takeAttempt => simp [step, takeAttempt, hq.client] at hs
  | seek n =>
    obtain ⟨-, hreceived⟩ := hq.calm_of_seek hs
    exact ⟨rfl, by simp [Turn.received, Move.worker?, hreceived], rfl⟩
  | answer n time reply =>
    obtain ⟨-, hreceived, hreported⟩ := hq.calm_of_answer hs
    exact ⟨rfl, by simp [Turn.received, Move.worker?, hreceived],
      by simp [Turn.reported, hreported]⟩
  | _ => exact ⟨rfl, rfl, rfl⟩

end Quiet

/-! ### How quiet begins -/

theorem mem_takenBy {n : Nat} {xs : List Hired} {x : Hired} {i : Intention}
    (hx : xs[n]? = some x) (hi : x.worker.holding? = some i) : Token.taken n i ∈ takenBy 0 xs := by
  obtain ⟨rest, hrest, -⟩ := takenBy_modify hx 0
  rw [hrest, hi, Option.toList_some, each_cons, Nat.zero_add, Multiset.mem_add]
  exact .inl (Multiset.mem_cons_self ..)

/-- A session that winds down, its parts ended one after the other. -/
theorem windDown_eq (hservice : s.service = .running) (why : Ending) :
    (s.windDown why).1 =
      { { s.endScheduler.endClient.closeRouter.1.endForwarder.endIntake with
          service := .draining }.finishDrain.1 with stage := .draining why } := by
  rw [windDown, stopService,
    if_pos (show s.endScheduler.endClient.service = .running from hservice)]

theorem windDown_collected (hservice : s.service = .running) (why : Ending) :
    (s.windDown why).1.collected = s.collected := by
  rw [windDown_eq hservice]
  exact (calm_finishDrain _).collected.trans (calm_endIntake _).collected

/-- Winding down with no attempt alive leads to a `Quiet` session. -/
theorem quiet_windDown (hservice : s.service = .running) (hnone : s.tokens = 0) (why : Ending) :
    (s.windDown why).1.Quiet := by
  have habsent (x : Token) : x ∉ s.tokens := by
    rw [hnone]
    exact Multiset.notMem_zero x
  have hqueue : s.router.queue = [] := by
    rw [List.eq_nil_iff_forall_not_mem]
    intro i hi
    refine habsent (.queued i) ?_
    simp [tokens, each, hi]
  have hidle : ∀ x ∈ s.workers, x.worker.holding? = none := by
    intro x hx
    obtain ⟨n, hn⟩ := List.getElem?_of_mem hx
    cases hi : x.worker.holding? with
    | none => rfl
    | some i =>
      refine (habsent (.taken n i) ?_).elim
      simp [tokens, mem_takenBy hn hi]
  -- Every part that could bring something into the session is ended on the way.
  rw [windDown_eq hservice]
  generalize hu : { s.endScheduler.endClient.closeRouter.1.endForwarder.endIntake with
    service := .draining } = u
  have hcalm := calm_finishDrain u
  subst hu
  have hend := calm_endIntake s.endScheduler.endClient.closeRouter.1.endForwarder
  exact { claimed := Stage.noConfusion
          collected := Stage.noConfusion
          client := hcalm.client (hend.client rfl)
          forwarder := hcalm.forwarder (hend.forwarder rfl)
          queue := hcalm.queue (hend.queue ((Router.abandonSend_queue ..).trans hqueue))
          idle := hcalm.idle (hend.idle hidle) }

end Session

end DeviceLab
