import DeviceLab.Proofs.Session.Quiet
import DeviceLab.Proofs.Worker.Containment

/-!
# Sessions that are wound down

Whatever winds a session up ends its scheduler, its client, its forwarder and its intake at once,
and leaves the workers to end by themselves or to be stopped when their time is up. That is how a
session is `WindingDown`, and no move brings any of these parts back or hires a worker.

* `WindingDown.windDownStep_of_step` says once what a move can still do (`WindDownStep`): one lemma
  for each move of a worker, of the service and of the caller, and one case for the errands of the
  watcher.
* `WindingDown.of_windDownStep` says that a session which winds down goes on doing so.
* `windingDown_of_windDown` and `windDown_of_step` are how this begins for a session at work. They
  rest on `Course.unjoined`: as long as the service runs, no end of a worker is taken note of.

Nothing of this depends on how the session came to its end, so it is used alike after a result,
after a timeout and after a claim that was refused.
-/

namespace DeviceLab

namespace Session

variable {h : List Turn} {s s' : Session} {m : Move} {ns : List Notice} {capacity : Nat}
  {requests : List Request}

/-! ### Sessions that wind down -/

/-- Nobody is left but workers and the watcher. A worker whose end was taken note of is over, and
all of them are if the service has stopped. -/
structure WindingDown (s : Session) : Prop where
  scheduler : s.scheduler = .off
  client : s.client.stage = .off
  forwarder : s.forwarder = .off
  intake : s.intake = false
  service : s.service ≠ .running
  joined : ∀ x ∈ s.workers, x.joined = true → x.worker.isOver = true
  stopped : s.service = .stopped → ∀ x ∈ s.workers, x.worker.isOver = true

/-- What a move makes of a session that winds down (`windDownStep_of_step`). -/
inductive WindDownStep (s : Session) : Move → Session → List Notice → Prop
  /-- A worker finds nothing in the router and waits. -/
  | waited {n : Nat} {x : Hired} {router : Router} (hx : s.workers[n]? = some x)
      (hover : x.worker.isOver = false) : WindDownStep s (.seek n) { s with router := router } []
  /-- A worker that is not over goes on. -/
  | attended {m : Move} {n : Nat} {x : Hired} {w : Worker} {ns : List Notice} {router : Router}
      {results : Channel IntentionResult} {signals : Channel Coordinate}
      (hx : s.workers[n]? = some x) (hover : x.worker.isOver = false) (hm : m.worker? = some n) :
      WindDownStep s m
        { s with
          router := router
          results := results
          signals := signals
          workers := s.workers.modify n fun x' ↦ { x' with worker := w } } ns
  /-- The watcher goes on an errand. -/
  | errand {m : Move} {ns : List Notice} {devices signals stream : Channel Coordinate}
      {watcher : Watcher} (hm : m.isErrand = true) (hw : s.watcher ≠ .off) :
      WindDownStep s m
        { s with devices := devices, signals := signals, stream := stream, watcher := watcher } ns
  /-- The end of a worker is taken note of. -/
  | joined {n : Nat} {x : Hired} {ns : List Notice} (hs : s.service = .draining)
      (hx : s.workers[n]? = some x) (hover : x.worker.isOver = true) :
      WindDownStep s (.join n)
        { s with
          workers := s.workers.modify n fun x' ↦ { x' with joined := true } }.finishDrain.1 ns
  /-- Time is up for the workers, and they are stopped. -/
  | overran {ns : List Notice} {router : Router} {results : Channel IntentionResult}
      {signals : Channel Coordinate} (hs : s.service = .draining) :
      WindDownStep s .overrun
        { s with
          router := router
          results := results
          signals := signals
          workers := s.workers.map Hired.abort
          service := .stopped } ns
  /-- The service has stopped, and there is no reservation to release. -/
  | denied {e : LabError} (hstage : s.stage = .draining (.refused e)) (hs : s.service = .stopped) :
      WindDownStep s .drained { s with stage := .returned (.error e) } []
  /-- The service has stopped, and the reservation is to be released. -/
  | drained {why : Ending} (hstage : s.stage = .draining why) (hwhy : ∀ e, why ≠ .refused e)
      (hs : s.service = .stopped) :
      WindDownStep s .drained { s.endWatcher with stage := .releasing why } []
  /-- The reservation was released. -/
  | released {why : Ending} {reply : Except LabError Unit} (hstage : s.stage = .releasing why) :
      WindDownStep s (.released reply) { s with stage := .returned (s.result why reply).1 }
        (s.result why reply).2

/-! ### What a move can still do -/

/-- Nobody is left to report results and signals, or nothing happens (`hush`). -/
theorem hush_eq (s : Session) : ∃ (results : Channel IntentionResult)
    (signals : Channel Coordinate), s.hush = { s with results := results, signals := signals } := by
  rw [hush]
  split
  · exact ⟨_, _, rfl⟩
  · exact ⟨s.results, s.signals, rfl⟩

/-- The service makes `results` and `signals` of what workers report, and nothing else. -/
theorem foldl_publish_eq (time : UInt64) (s : Session) (ns : List Notice) :
    ∃ (results : Channel IntentionResult) (signals : Channel Coordinate),
      ns.foldl (publish time) s = { s with results := results, signals := signals } := by
  induction ns generalizing s with
  | nil => exact ⟨s.results, s.signals, rfl⟩
  | cons n ns ih =>
    obtain ⟨results, signals, hns⟩ := ih (publish time s n)
    refine ⟨results, signals, ?_⟩
    rw [List.foldl_cons, hns]
    unfold publish
    split <;> rfl

/-- A worker is put in its place, and maybe nobody is left to report anything. -/
theorem setWorker_eq (s : Session) (n : Nat) (w : Worker) :
    ∃ (results : Channel IntentionResult) (signals : Channel Coordinate), s.setWorker n w =
      { s with results := results, signals := signals,
               workers := s.workers.modify n fun x ↦ { x with worker := w } } :=
  hush_eq _

/-- The device of a worker answers, and what the worker makes of it is reported. -/
theorem answer_cases {n : Nat} {time : UInt64} {reply : Reply}
    (hs : s.answer n time reply = some (s', ns)) :
    ∃ (x : Hired) (w : Worker) (results : Channel IntentionResult) (signals : Channel Coordinate),
      s.workers[n]? = some x ∧ x.worker.resume time reply = some (w, ns) ∧
        s' = { s with results := results, signals := signals,
                      workers := s.workers.modify n fun x' ↦ { x' with worker := w } } := by
  simp only [answer, Option.bind_eq_bind, Option.bind_eq_some_iff] at hs
  obtain ⟨x, hx, ⟨w, more⟩, hr, hs⟩ := hs
  obtain ⟨rfl, rfl⟩ := Prod.mk.inj (Option.some.inj hs)
  obtain ⟨results, signals, hfold⟩ := foldl_publish_eq time s more
  obtain ⟨results', signals', hset⟩ := setWorker_eq { s with results, signals } n w
  exact ⟨x, w, results', signals', hx, hr, by rw [hfold, hset]⟩

/-- When time is up every worker is stopped, nobody is parked any more, and the service has
stopped. -/
theorem overrun_cases (hs : s.overrun = some (s', ns)) :
    s.service = .draining ∧
      ∃ (results : Channel IntentionResult) (signals : Channel Coordinate),
        s' = { s with router := { s.router with takes := [] }, results := results,
                      signals := signals, workers := s.workers.map Hired.abort,
                      service := .stopped } := by
  rw [overrun] at hs
  split at hs
  case isFalse => cases hs
  case isTrue hservice =>
  obtain ⟨results, signals, hhush⟩ := hush_eq
    { s with router := { s.router with takes := [] }, workers := s.workers.map Hired.abort }
  have hall : (s.workers.map Hired.abort).all (·.joined) = true := by
    rw [List.all_map, List.all_eq_true]
    exact fun _ _ ↦ rfl
  rw [abortWorkers, hhush, finishDrain, if_pos ⟨hservice, hall⟩] at hs
  obtain ⟨rfl, rfl⟩ := Prod.mk.inj (Option.some.inj hs)
  exact ⟨hservice, results, signals, rfl⟩

namespace WindingDown

theorem windDownStep_of_seek {n : Nat} (hs : s.seek n = some (s', ns)) :
    WindDownStep s (.seek n) s' ns := by
  obtain ⟨x, state, hx, hseeking, -, hs⟩ := Wired.seek_cases hs
  have hover : x.worker.isOver = false := by
    rw [Worker.isOver, Worker.stage_of_isSeeking hseeking]
  have hset (router : Router) (w : Worker) (more : List Notice) :
      WindDownStep s (.seek n) ({ s with router := router }.setWorker n w) more := by
    obtain ⟨results, signals, heq⟩ := setWorker_eq { s with router := router } n w
    rw [heq]
    exact .attended hx hover rfl
  rcases hask : (s.router.dropTake n).ask n state with ⟨i | _ | _, r⟩
  all_goals
    rw [hask] at hs
    obtain ⟨rfl, rfl⟩ := Prod.mk.inj (Option.some.inj hs)
  · exact hset r _ _
  · exact hset r _ _
  · exact .waited hx hover

theorem windDownStep_of_answer {n : Nat} {time : UInt64} {reply : Reply}
    (hs : s.answer n time reply = some (s', ns)) : WindDownStep s (.answer n time reply) s' ns := by
  obtain ⟨x, w, results, signals, hx, hr, rfl⟩ := answer_cases hs
  exact .attended hx (Worker.isOver_eq_false_of_resume hr) rfl

theorem windDownStep_of_overrun (hs : s.overrun = some (s', ns)) :
    WindDownStep s .overrun s' ns := by
  obtain ⟨hservice, results, signals, rfl⟩ := overrun_cases hs
  exact .overran hservice

theorem windDownStep_of_join {n : Nat} (hs : s.join n = some (s', ns)) :
    WindDownStep s (.join n) s' ns := by
  simp only [join, Option.bind_eq_bind, Option.bind_eq_some_iff, Option.guard_eq_some'] at hs
  obtain ⟨-, hservice, x, hx, -, hover, hs⟩ := hs
  obtain ⟨rfl, rfl⟩ := Prod.mk.inj (Option.some.inj hs)
  rw [Bool.and_eq_true] at hover
  exact .joined hservice hx hover.1

theorem windDownStep_of_drained (hs : s.drained = some (s', ns)) :
    WindDownStep s .drained s' ns := by
  rw [Session.drained] at hs
  split at hs
  · next hstage hservice =>
    obtain ⟨rfl, rfl⟩ := Prod.mk.inj (Option.some.inj hs)
    exact .denied hstage hservice
  · next hnot hstage hservice =>
    obtain ⟨rfl, rfl⟩ := Prod.mk.inj (Option.some.inj hs)
    exact .drained hstage (fun e he ↦ hnot e he) hservice
  · cases hs

/-- **What a move can still do**: every move of a session that winds down is a `WindDownStep`. -/
theorem windDownStep_of_step (he : s.WindingDown) (hclaiming : s.stage ≠ .claiming)
    (hcollecting : s.stage ≠ .collecting) (hs : s.step m = some (s', ns)) :
    WindDownStep s m s' ns := by
  cases m with
  | schedule => simp [step, schedule, he.scheduler] at hs
  | takeAttempt => simp [step, takeAttempt, he.client] at hs
  | takeResult => simp [step, takeResult, he.client] at hs
  | handOn => simp [step, handOn, he.client] at hs
  | forward => simp [step, forward, he.forwarder] at hs
  | enlist => simp [step, enlist, he.intake] at hs
  | closeIntake => simp [step, closeIntake, he.intake] at hs
  | seek => exact windDownStep_of_seek hs
  | answer => exact windDownStep_of_answer hs
  | join => exact windDownStep_of_join hs
  | overrun => exact windDownStep_of_overrun hs
  | drained => exact windDownStep_of_drained hs
  | claimed reply => rw [step_claimed_eq_none hclaiming] at hs; cases hs
  | collect => rw [step_collect_eq_none hcollecting] at hs; cases hs
  | expire => rw [step_expire_eq_none hcollecting] at hs; cases hs
  | released reply =>
    rw [step, Session.released] at hs
    split at hs
    · next hstage =>
      obtain ⟨rfl, rfl⟩ := Prod.mk.inj (Option.some.inj hs)
      exact .released hstage
    · cases hs
  | takeCoordinate | deliver | heed | removed =>
    -- A watcher that is off makes none of these moves.
    have hw : s.watcher ≠ .off := by
      intro hoff
      simp [step, takeCoordinate, deliver, heed, removed, hoff] at hs
    simp only [step, takeCoordinate, deliver, heed, removed] at hs
    repeat' split at hs
    all_goals first
      | cases hs; done
      | obtain ⟨rfl, rfl⟩ := Prod.mk.inj (Option.some.inj hs)
        exact .errand rfl hw

/-- **A session that winds down goes on winding down** (`WindingDown`). -/
theorem of_windDownStep (he : s.WindingDown) (h : WindDownStep s m s' ns) : s'.WindingDown := by
  cases h with
  | waited => exact { he with }
  | @attended _ n x w _ _ _ _ hx hover =>
    refine { he with
      joined := forall_mem_modify he.joined fun x' hx' hjoined ↦ ?_, stopped := fun hs ↦ ?_ }
    · rw [hx] at hx'
      obtain rfl := Option.some.inj hx'
      have hend := he.joined x (List.mem_of_getElem? hx) hjoined
      rw [hover] at hend
      cases hend
    · have hend := he.stopped hs x (List.mem_of_getElem? hx)
      rw [hover] at hend
      cases hend
  | errand => exact { he with }
  | @joined n x _ hs hx hover =>
    have hjoined : ∀ y ∈ s.workers.modify n (fun x' ↦ { x' with joined := true }),
        y.joined = true → y.worker.isOver = true := by
      refine forall_mem_modify he.joined fun x' hx' _ ↦ ?_
      rw [hx] at hx'
      obtain rfl := Option.some.inj hx'
      exact hover
    rw [finishDrain]
    split
    · next hall =>
      refine
        { he with
          service := Service.noConfusion, joined := hjoined, stopped := fun _ y hy ↦ ?_ }
      exact hjoined y hy (List.all_eq_true.1 hall.2 y hy)
    · refine { he with joined := hjoined, stopped := fun hstopped ↦ ?_ }
      rw [show s.service = .stopped from hstopped] at hs
      cases hs
  | overran =>
    have hover : ∀ y ∈ s.workers.map Hired.abort, y.worker.isOver = true := by
      intro y hy
      obtain ⟨x, -, rfl⟩ := List.mem_map.1 hy
      exact x.worker.isOver_abort
    exact { he with service := Service.noConfusion, joined := fun y hy _ ↦ hover y hy,
                    stopped := fun _ ↦ hover }
  | denied => exact { he with }
  | drained => exact { he with }
  | released => exact { he with }

end WindingDown

/-- What the caller has, and what it was asked for, stay as they are while a session winds down. -/
theorem WindDownStep.kept (h : WindDownStep s m s' ns) :
    s'.collected = s.collected ∧ s'.requests = s.requests ∧ m ≠ .collect := by
  cases h with
  | attended _ _ hm =>
    refine ⟨rfl, rfl, ?_⟩
    rintro rfl
    cases hm
  | errand hm =>
    refine ⟨rfl, rfl, ?_⟩
    rintro rfl
    cases hm
  | joined =>
    rw [finishDrain]
    split <;> exact ⟨rfl, rfl, Move.noConfusion⟩
  | _ => exact ⟨rfl, rfl, Move.noConfusion⟩

/-! ### How winding down begins -/

/-- As long as the service runs, no end of a worker is taken note of (`joined`). -/
theorem Course.unjoined (hc : Course (call capacity requests).1 h s) (hs : s.stage = .collecting) :
    ∀ x ∈ s.workers, x.joined = false := by
  induction hc with
  | start =>
    rcases call_cases capacity requests with ⟨-, h⟩ | ⟨e, h⟩ | h | ⟨-, -, -, h⟩
    all_goals rw [h] at hs; cases hs
  | @turn h s s' ns m hc hstep ih =>
    rcases (stageChange_of_step hstep).before_collecting hs with hbefore | ⟨hbefore, rfl⟩
    · have hj := ih hbefore
      cases (hc.wired hbefore).2.working_of_step hstep hs with
      | hire => exact List.forall_mem_append.2 ⟨hj, List.forall_mem_singleton.2 rfl⟩
      | deliver | answer => exact forall_mem_modify hj fun x hx ↦ hj x (List.mem_of_getElem? hx)
      | _ => exact hj
    · obtain ⟨rfl, -, -, -, c, rfl⟩ := hc.claiming hbefore
      obtain ⟨rfl, rfl⟩ := Prod.mk.inj (Option.some.inj hstep).symm
      exact List.forall_mem_nil _
  | feed c hc ih => exact ih hs

/-- A session that begins to wind down is `WindingDown`, and nothing that the caller has is lost. -/
theorem windingDown_of_windDown {why : Ending} (hservice : s.service = .running)
    (hj : ∀ x ∈ s.workers, x.joined = false) (heq : (s', ns) = s.windDown why) :
    s'.stage = .draining why ∧ s'.WindingDown ∧ s'.collected = s.collected ∧
      s'.requests = s.requests := by
  obtain rfl : s' = (s.windDown why).1 := (Prod.mk.inj heq).1
  rw [windDown_eq hservice, endIntake]
  obtain ⟨results, signals, hhush⟩ := hush_eq
    { s.endScheduler.endClient.closeRouter.1.endForwarder with
      intake := false
      devices := s.endScheduler.endClient.closeRouter.1.endForwarder.devices.endReceiving }
  rw [hhush, finishDrain]
  split
  · next hall =>
    refine ⟨rfl, ?_, rfl, rfl⟩
    -- Nobody was hired.
    have hnone (x : Hired) (hx : x ∈ s.workers) : False := by
      have hjoined := List.all_eq_true.1 hall.2 x hx
      rw [hj x hx] at hjoined
      cases hjoined
    exact { scheduler := rfl, client := rfl, forwarder := rfl, intake := rfl,
            service := Service.noConfusion, joined := fun x hx _ ↦ (hnone x hx).elim,
            stopped := fun _ x hx ↦ (hnone x hx).elim }
  · refine ⟨rfl, ?_, rfl, rfl⟩
    exact { scheduler := rfl, client := rfl, forwarder := rfl, intake := rfl,
            service := Service.noConfusion, stopped := Service.noConfusion,
            joined := fun x hx hjoined ↦ by
              rw [hj x hx] at hjoined
              cases hjoined }

/-- A session at work that leaves its work is wound up by `windDown`: time is up, or the caller has
taken its last report or found that there will be none. -/
theorem windDown_of_step (hw : s.Wired) (hstep : s.step m = some (s', ns))
    (hs : s'.stage ≠ .collecting) :
    (m = .expire ∧ (s', ns) = s.windDown .timedOut) ∨
      (m = .collect ∧ ∃ (t : Session) (why : Ending), (why = .resolved ∨ why = .starved) ∧
        t.service = .running ∧ t.workers = s.workers ∧ (s', ns) = t.windDown why) := by
  have hstage := hw.stage
  have hr := stageChange_of_step hstep
  generalize hst : s'.stage = st at hr hs
  cases hr with
  | same => exact absurd hstage hs
  | resolved | starved =>
    refine .inr ⟨rfl, ?_⟩
    rcases Wired.collect_cases hstage hstep with ⟨r, rest, -, ⟨-, heq⟩ | ⟨-, heq⟩⟩ | ⟨-, -, heq⟩
    · rw [(Prod.mk.inj heq).1, show _ = Stage.collecting from hstage] at hst
      cases hst
    · refine ⟨_, _, .inl rfl, ?_, ?_, heq⟩
      · exact hw.service
      · rfl
    · exact ⟨s, _, .inr rfl, hw.service, rfl, heq⟩
  | expired =>
    have heq : s.step .expire = some (s.windDown .timedOut) := by
      simp [step, expire, hstage]
    rw [heq] at hstep
    exact .inl ⟨rfl, (Option.some.inj hstep).symm⟩
  | claimed hbefore | refused hbefore | denied hbefore | drained hbefore | released hbefore =>
    rw [hstage] at hbefore
    cases hbefore

end Session

end DeviceLab
