import DeviceLab.Proofs.Scheduler
import DeviceLab.Proofs.Session.Working

/-!
# The moves of a session at work

`Wired.working_of_step`: every move of a session at work that leaves it at work is one of `Working`.
Only this module opens the moves themselves. There is one lemma for each move (`working_of_schedule`
and so on), and `working_of_step` does nothing but put them together.

What the lemmas rest on differs from part to part. The scheduler needs `Scheduler.foldl_put`, which
says what it has pending once all requests are submitted, and `letOut_collecting` or `letOut_off`
for the channels that it writes to. The workers need `seek_cases` and `foldl_publish`, which says
that the notices of a worker reach two channels and nothing else. The rest unfold to a single case
each, in which `Wired` rules out that an end is missing. `hush_of_intake` is behind all of them: as
long as the intake is there, nobody is hushed.
-/

namespace DeviceLab

namespace Session

/-! ### Pieces of moves -/

/-- As long as the intake is there, somebody is left to report results and signals. -/
theorem hush_of_intake {s : Session} (h : s.intake = true) : s.hush = s := by
  rw [hush, h, Bool.not_true, Bool.false_and]
  exact if_neg Bool.false_ne_true

/-- What the service makes of the notices of a worker (`publish`): the results among them join the
results, and of the rest of the session only the signals change. -/
theorem foldl_publish {s : Session} (h : s.results.receiving = true) (time : UInt64)
    (ns : List Notice) :
    ∃ signals : Channel Coordinate, signals.sending = s.signals.sending ∧
      ns.foldl (publish time) s =
        { s with
          results := { s.results with
            items := s.results.items ++ ns.filterMap (Notice.result? time) }
          signals := signals } := by
  induction ns generalizing s with
  | nil => exact ⟨s.signals, rfl, by simp⟩
  | cons x ns ih =>
    -- A notice is a result, a signal, or nothing to the service.
    have hstep : ∃ g : Channel Coordinate, g.sending = s.signals.sending ∧
        publish time s x =
          { s with
            results := { s.results with
              items := s.results.items ++ (Notice.result? time x).toList }
            signals := g } := by
      unfold publish
      split
      · exact ⟨s.signals, rfl, by rw [Channel.push_of_receiving h]; rfl⟩
      · exact ⟨s.signals, rfl, by rw [Channel.push_of_receiving h]; rfl⟩
      · next d _ _ =>
        exact ⟨s.signals.push d.coordinate, Channel.push_sending _ _, by simp [Notice.result?]⟩
      · next h₁ h₂ h₃ =>
        have hnone : Notice.result? time x = none := by
          unfold Notice.result?
          split
          · exact (h₁ _ _ _ rfl).elim
          · exact (h₂ _ _ _ rfl).elim
          · rfl
        exact ⟨s.signals, rfl, by simp [hnone]⟩
    obtain ⟨g, hg, hx⟩ := hstep
    obtain ⟨g', hg', hns⟩ := ih (s := publish time s x) (by rw [hx]; exact h)
    refine ⟨g', by rw [hg', hx, ← hg], ?_⟩
    rw [List.foldl_cons, hns, hx]
    cases hr : Notice.result? time x <;> simp [hr]

/-- What the scheduler lets out joins the channels that it writes to. -/
theorem letOut_collecting {s : Session} (ps : List Pending) (out : Scheduler.Output)
    (ha : s.attempts.receiving = true) (hr : s.reports.receiving = true) :
    s.letOut (.collecting ps, out) =
      ({ s with
          scheduler := .collecting ps
          attempts := { s.attempts with items := s.attempts.items ++ out.attempts }
          reports := { s.reports with items := s.reports.items ++ out.reports } },
        out.notices) := by
  rw [letOut, Channel.foldl_push_of_receiving ha, Channel.foldl_push_of_receiving hr]

/-- A scheduler that leaves takes its ends of the channels along. -/
theorem letOut_off {s : Session} (out : Scheduler.Output)
    (ha : s.attempts.receiving = true) (hr : s.reports.receiving = true) :
    s.letOut (.off, out) =
      ({ s with
          outcomes := s.outcomes.endReceiving
          scheduler := .off
          attempts := { s.attempts with
            items := s.attempts.items ++ out.attempts, sending := false }
          reports := { s.reports with
            items := s.reports.items ++ out.reports, sending := false } },
        out.notices) := by
  rw [letOut, Channel.foldl_push_of_receiving ha, Channel.foldl_push_of_receiving hr]
  rfl

/-! ### Scheduler and client -/

namespace Wired

variable {s s' : Session} {ns : List Notice}

theorem working_of_schedule (hw : s.Wired) (h : s.schedule = some (s', ns)) :
    Working s .schedule s' ns := by
  have ha := hw.attempts_receiving
  have hr := hw.reports_receiving
  cases hsched : s.scheduler with
  | off => simp only [schedule, hsched, reduceCtorEq] at h
  | submitting rs =>
    obtain rfl := hw.submitting rs hsched
    -- Without a request the scheduler would leave at once.
    have hne : s.requests ≠ [] := by
      intro hnil
      have := hw.requests_left
      rw [hnil] at this
      exact Nat.not_lt_zero _ this
    have hput := Scheduler.foldl_put [] (by simpa using hw.requests_distinct)
    have hsubmit : Scheduler.submit s.requests true =
        (.collecting (s.requests.map fun r ↦ ⟨r, []⟩),
          { attempts := s.requests.map fun r ↦ ⟨r, 1⟩ }) := by
      simp [Scheduler.submit, Scheduler.collect, hput, hne]
    have hstep : s.schedule = some (s.letOut (Scheduler.submit s.requests true)) := by
      simp only [schedule, hsched, ha]
    rw [hstep, hsubmit, Option.some.injEq, letOut_collecting _ _ ha hr, Prod.mk.injEq] at h
    obtain ⟨rfl, rfl⟩ := h
    simpa using Working.submit hsched
  | collecting ps =>
    cases hitems : s.outcomes.items with
    | nil =>
      simp only [schedule, hsched, hitems, hw.outcomes_sending, if_true, reduceCtorEq] at h
    | cons o rest =>
      -- The session without the outcome is given a name, so that `letOut` is not opened in place.
      obtain ⟨t, ht⟩ : ∃ t, t = { s with outcomes := s.outcomes.rest } := ⟨_, rfl⟩
      have hstep : s.schedule = some (t.letOut (Scheduler.receive ps o true)) := by
        simp only [schedule, hsched, hitems, ha, ht]
      rw [← show t.attempts.receiving = s.attempts.receiving by rw [ht]] at ha
      rw [← show t.reports.receiving = s.reports.receiving by rw [ht]] at hr
      rw [hstep, Option.some.injEq] at h
      cases hfind : Scheduler.find? o.request ps with
      | none =>
        simp only [Scheduler.receive, hfind, letOut_collecting _ _ ha hr, Prod.mk.injEq] at h
        obtain ⟨rfl, rfl⟩ := h
        subst ht
        simpa using Working.ignore hsched hitems hfind
      | some p =>
        cases hnext : nextAttempt p.request.maxAttempts (p.runs ++ [o.run]) with
        | some k =>
          simp only [Scheduler.receive, hfind, hnext, if_true, letOut_collecting _ _ ha hr,
            Prod.mk.injEq] at h
          obtain ⟨rfl, rfl⟩ := h
          subst ht
          simpa using Working.retry hsched hitems hfind hnext
        | none =>
          simp only [Scheduler.receive, hfind, hnext, Scheduler.collect] at h
          by_cases hleft : Scheduler.erase o.request ps = []
          · rw [if_pos (List.isEmpty_iff.2 hleft), letOut_off _ ha hr, Prod.mk.injEq] at h
            obtain ⟨rfl, rfl⟩ := h
            subst ht
            simpa [Channel.endReceiving, Channel.endSending, Channel.rest] using
              Working.finish hsched hitems hfind hnext hleft
          · rw [if_neg (by simpa using hleft), letOut_collecting _ _ ha hr, Prod.mk.injEq] at h
            obtain ⟨rfl, rfl⟩ := h
            subst ht
            simpa using Working.settle hsched hitems hfind hnext hleft

theorem working_of_takeAttempt {id : Uuid}
    (h : s.takeAttempt id = some (s', ns)) : Working s (.takeAttempt id) s' ns := by
  rw [takeAttempt] at h
  split at h
  case h_2 => cases h
  case h_1 hstage =>
  split at h
  · cases h
  · split at h
    · next a rest hitems =>
      obtain ⟨rfl, rfl⟩ := Prod.mk.inj (Option.some.inj h)
      exact .draw hstage hitems
    · next hitems =>
      split at h
      · cases h
      · next hsending =>
        obtain ⟨rfl, rfl⟩ := Prod.mk.inj (Option.some.inj h)
        exact .exhaust hstage hitems (by simpa using hsending)

theorem working_of_takeResult (hw : s.Wired) (h : s.takeResult = some (s', ns)) :
    Working s .takeResult s' ns := by
  rw [takeResult] at h
  split at h
  case h_2 => cases h
  case h_1 hstage =>
  split at h
  · next r rest hitems =>
    cases hfound : s.client.inFlight.lookup r.intention.id with
    | some q =>
      simp only [Client.resolve, hfound, Option.some.injEq, Prod.mk.injEq] at h
      obtain ⟨rfl, rfl⟩ := h
      exact .bring hstage hitems hfound
    | none =>
      simp only [Client.resolve, hfound, Option.some.injEq, Prod.mk.injEq] at h
      obtain ⟨rfl, rfl⟩ := h
      exact .misplace hstage hitems hfound
  · rw [if_pos hw.results_sending] at h
    cases h

theorem working_of_handOn (hw : s.Wired) (h : s.handOn = some (s', ns)) :
    Working s .handOn s' ns := by
  rw [handOn] at h
  split at h
  case h_2 => cases h
  case h_1 i hstage =>
  rw [hw.intentions_receiving, Bool.not_true, if_neg Bool.false_ne_true] at h
  split at h
  · next hroom =>
    obtain ⟨rfl, rfl⟩ := Prod.mk.inj (Option.some.inj h)
    rw [Channel.push_of_receiving hw.intentions_receiving]
    exact .handOn hstage hroom
  · cases h

/-! ### Forwarder and intake -/

theorem working_of_forward (hw : s.Wired) (h : s.forward = some (s', ns)) :
    Working s .forward s' ns := by
  rcases hw.forwarder with ⟨hf, hsends⟩ | ⟨hf, p, hid, hsends⟩
  · cases hitems : s.intentions.items with
    | nil => simp only [forward, hf, hitems, hw.intentions_sending, if_true, reduceCtorEq] at h
    | cons i rest =>
      have hstep : s.forward = some ({ s with intentions := s.intentions.rest }.forwarded
          (s.router.offer forwarderId i)) := by
        simp only [forward, hf, hitems]
      rw [hstep, Option.some.injEq] at h
      rcases Nat.lt_or_ge s.router.queue.length s.router.capacity with hroom | hfull
      · rw [Router.offer_of_room hw.router_open hroom] at h
        obtain ⟨rfl, rfl⟩ := Prod.mk.inj h
        exact .pass hf hitems hroom
      · rw [Router.offer_of_full hw.router_open hfull, hsends] at h
        obtain ⟨rfl, rfl⟩ := Prod.mk.inj h
        exact .block hf hitems hfull
  · have hparked : s.router.parkedSend? forwarderId = some p := by
      simp [Router.parkedSend?, hsends, hid]
    have hdrop : s.router.dropSend forwarderId = { s.router with sends := [] } := by
      simp [Router.dropSend, hsends, hid]
    have hstep : s.forward = (s.router.retrySend forwarderId).map s.forwarded := by
      simp only [forward, hf]
    simp only [hstep, Router.retrySend, hparked, hdrop] at h
    split at h
    · cases h
    · next hwake =>
      rw [Option.map_some, Option.some.injEq] at h
      rcases Nat.lt_or_ge s.router.queue.length s.router.capacity with hroom | hfull
      · rw [Router.offer_of_room (r := { s.router with sends := [] }) hw.router_open hroom] at h
        obtain ⟨rfl, rfl⟩ := Prod.mk.inj h
        exact .resume hf hsends hwake hroom
      · rw [Router.offer_of_full (r := { s.router with sends := [] }) hw.router_open hfull] at h
        obtain ⟨rfl, rfl⟩ := Prod.mk.inj h
        exact .reblock hf hsends hwake hfull

/-- The intake takes a coordinate and hires a worker for the device that the bridge found, or sends
the coordinate back as a signal. -/
theorem enlist_cases {found : Except LabError DeviceData} (hw : s.Wired)
    (h : s.enlist found = some (s', ns)) :
    ∃ c rest, s.devices.items = c :: rest ∧
      ((∃ d, found = .ok d ∧ s' = { s with devices := s.devices.rest }.hire d ∧
          ns = [.info ("Starting worker for device " ++ c.text)]) ∨
        ∃ e, found = .error e ∧
          s' = { s with devices := s.devices.rest, signals := s.signals.push c } ∧
          ns = [.warn ("Can't use device " ++ c.text ++ ": " ++ e.message)]) := by
  rw [enlist, if_neg (by simp [hw.intake])] at h
  split at h
  · cases h
  · next c rest hitems =>
    refine ⟨c, rest, hitems, ?_⟩
    cases found with
    | ok d =>
      obtain ⟨rfl, rfl⟩ := Prod.mk.inj (Option.some.inj h)
      exact .inl ⟨d, rfl, rfl, rfl⟩
    | error e =>
      obtain ⟨rfl, rfl⟩ := Prod.mk.inj (Option.some.inj h)
      exact .inr ⟨e, rfl, rfl, rfl⟩

theorem working_of_enlist {found : Except LabError DeviceData} (hw : s.Wired)
    (h : s.enlist found = some (s', ns)) : Working s (.enlist found) s' ns := by
  obtain ⟨c, rest, -, ⟨d, rfl, rfl, rfl⟩ | ⟨e, rfl, rfl, rfl⟩⟩ := hw.enlist_cases h
  · exact .hire
  · refine .errand (m := .enlist (.error e)) rfl ?_ (Channel.push_sending s.signals c) hw.watcher
    exact Channel.rest_sending s.devices

theorem closeIntake_eq_none (hw : s.Wired) : s.closeIntake = none := by
  rw [closeIntake, Channel.drained, hw.devices_sending]
  simp

/-! ### Workers -/

/-- A worker asks with the state that it has, or with the state that it was parked with
(`ParkedTake`). -/
theorem seek_cases {n : Nat} (h : s.seek n = some (s', ns)) :
    ∃ (x : Hired) (state : DeviceState), s.workers[n]? = some x ∧ x.worker.isSeeking = true ∧
      (state = x.worker.state ∨ ∃ t ∈ s.router.takes, t.id = n ∧ t.state = state) ∧
      some (s', ns) =
        match (s.router.dropTake n).ask n state with
        | (.parked, r) => some ({ s with router := r }, [])
        | (.delivered i, r) =>
          some ({ s with router := r }.setWorker n (x.worker.receive (some i)).1,
            (x.worker.receive (some i)).2)
        | (.exhausted, r) =>
          some ({ s with router := r }.setWorker n (x.worker.receive none).1,
            (x.worker.receive none).2) := by
  simp only [seek, Option.bind_eq_bind, Option.bind_eq_some_iff, Option.guard_eq_some'] at h
  obtain ⟨x, hx, -, hseeking, h⟩ := h
  cases hparked : s.router.parkedTake? n with
  | none =>
    -- A worker that was not parked has nobody to drop.
    simp only [hparked, Option.isSome_none, Bool.false_eq_true, if_false, Option.bind_some] at h
    refine ⟨x, x.worker.state, hx, hseeking, .inl rfl, ?_⟩
    rw [Router.dropTake_of_none hparked, ← h]
    rcases s.router.ask n x.worker.state with ⟨- | - | -, r⟩ <;> rfl
  | some t =>
    simp only [hparked, Option.isSome_some, if_true, Router.retryTake] at h
    split at h
    case isFalse => cases h
    have ht : t ∈ s.router.takes := List.mem_of_find?_eq_some hparked
    have hid : t.id = n := by simpa using List.find?_some hparked
    refine ⟨x, t.state, hx, hseeking, .inr ⟨t, ht, hid, rfl⟩, ?_⟩
    rw [Option.bind_some] at h
    rw [← h]
    rcases (s.router.dropTake n).ask n t.state with ⟨- | - | -, r⟩ <;> rfl

theorem working_of_seek {n : Nat} (hw : s.Wired) (h : s.seek n = some (s', ns)) :
    Working s (.seek n) s' ns := by
  obtain ⟨x, state, hx, hseeking, hstate, h⟩ := seek_cases h
  cases hq : Router.takeMatching state s.router.queue with
  | none =>
    have hopen : (s.router.dropTake n).closed = false := hw.router_open
    rw [Router.ask_of_none hopen hq] at h
    obtain ⟨rfl, rfl⟩ := Prod.mk.inj (Option.some.inj h)
    exact .await hx hseeking hstate hq
  | some taken =>
    obtain ⟨i, queue⟩ := taken
    rw [Router.ask_of_some (r := s.router.dropTake n) hq] at h
    obtain ⟨rfl, rfl⟩ := Prod.mk.inj (Option.some.inj h)
    rw [setWorker, hush_of_intake]
    · exact .deliver hx hseeking hstate hq
    · exact hw.intake

theorem working_of_answer {n : Nat} {time : UInt64} {reply : Reply} (hw : s.Wired)
    (h : s.answer n time reply = some (s', ns)) : Working s (.answer n time reply) s' ns := by
  simp only [answer, Option.bind_eq_bind, Option.bind_eq_some_iff] at h
  obtain ⟨x, hx, ⟨w, more⟩, hr, h⟩ := h
  obtain ⟨rfl, rfl⟩ := Prod.mk.inj (Option.some.inj h)
  obtain ⟨signals, hg, hfold⟩ := foldl_publish hw.results_receiving time more
  rw [hfold, setWorker, hush_of_intake]
  · exact .answer hx hr hg
  · exact hw.intake

/-! ### Watcher and caller -/

theorem working_of_takeCoordinate (hw : s.Wired) (h : s.takeCoordinate = some (s', ns)) :
    Working s .takeCoordinate s' ns := by
  rw [takeCoordinate] at h
  split at h
  case isFalse => cases h
  split at h
  · next c rest hitems =>
    obtain ⟨rfl, rfl⟩ := Prod.mk.inj (Option.some.inj h)
    exact .errand (m := .takeCoordinate) rfl rfl rfl Watcher.noConfusion
  · split at h
    · cases h
    · obtain ⟨rfl, rfl⟩ := Prod.mk.inj (Option.some.inj h)
      exact .errand (m := .takeCoordinate) rfl rfl rfl hw.watcher

theorem working_of_deliver (h : s.deliver = some (s', ns)) : Working s .deliver s' ns := by
  rw [Session.deliver] at h
  split at h
  case h_2 => cases h
  case h_1 c hwatcher =>
  split at h
  · obtain ⟨rfl, rfl⟩ := Prod.mk.inj (Option.some.inj h)
    exact .errand (m := .deliver) rfl rfl rfl Watcher.noConfusion
  · split at h
    · obtain ⟨rfl, rfl⟩ := Prod.mk.inj (Option.some.inj h)
      exact .errand (m := .deliver) rfl (Channel.push_sending s.devices c) rfl Watcher.noConfusion
    · cases h

theorem working_of_heed (hw : s.Wired) (h : s.heed = some (s', ns)) :
    Working s .heed s' ns := by
  rw [heed] at h
  split at h
  case isFalse => cases h
  split at h
  · next c rest hitems =>
    simp only at h
    split at h
    · obtain ⟨rfl, rfl⟩ := Prod.mk.inj (Option.some.inj h)
      exact .errand (m := .heed) rfl rfl (Channel.rest_sending s.signals) Watcher.noConfusion
    · obtain ⟨rfl, rfl⟩ := Prod.mk.inj (Option.some.inj h)
      exact .errand (m := .heed) rfl rfl (Channel.rest_sending s.signals) hw.watcher
  · rw [if_pos hw.signals_sending] at h
    cases h

theorem working_of_removed (h : s.removed = some (s', ns)) : Working s .removed s' ns := by
  rw [removed] at h
  split at h
  case h_2 => cases h
  obtain ⟨rfl, rfl⟩ := Prod.mk.inj (Option.some.inj h)
  exact .errand (m := .removed) rfl rfl rfl Watcher.noConfusion

/-- The caller takes a report and goes on or is done, or it finds that no report will come. -/
theorem collect_cases (hs : s.stage = .collecting) (h : s.collect = some (s', ns)) :
    (∃ r rest, s.reports.items = r :: rest ∧
      let t : Session := { s with reports := s.reports.rest, collected := gather r s.collected }
      (t.collected.length < t.requests.length ∧ (s', ns) = (t, [])) ∨
        (t.requests.length ≤ t.collected.length ∧ (s', ns) = t.windDown .resolved)) ∨
    (s.reports.items = [] ∧ s.reports.sending = false ∧ (s', ns) = s.windDown .starved) := by
  cases hitems : s.reports.items with
  | nil =>
    cases hsending : s.reports.sending with
    | true => simp [collect, hs, hitems, hsending] at h
    | false =>
      have hstep : s.collect = some (s.windDown .starved) := by
        simp [collect, hs, hitems, hsending]
      rw [hstep] at h
      exact .inr ⟨rfl, rfl, (Option.some.inj h).symm⟩
  | cons r rest =>
    obtain ⟨t, ht⟩ : ∃ t : Session,
        t = { s with reports := s.reports.rest, collected := gather r s.collected } := ⟨_, rfl⟩
    have hstep : s.collect = some (if t.collected.length < t.requests.length then (t, [])
        else t.windDown .resolved) := by
      simp [collect, hs, hitems, ht]
    rw [hstep, Option.some.injEq] at h
    refine .inl ⟨r, rest, rfl, ?_⟩
    rw [← ht]
    rcases Nat.lt_or_ge t.collected.length t.requests.length with hl | hl
    · rw [if_pos hl] at h
      exact .inl ⟨hl, h.symm⟩
    · rw [if_neg (Nat.not_lt.2 hl)] at h
      exact .inr ⟨hl, h.symm⟩

theorem working_of_collect (hw : s.Wired) (h : s.collect = some (s', ns))
    (hs : s'.stage = .collecting) : Working s .collect s' ns := by
  rcases collect_cases hw.stage h with ⟨r, rest, hitems, ⟨hl, heq⟩ | ⟨-, heq⟩⟩ | ⟨-, -, heq⟩
  · obtain ⟨rfl, rfl⟩ := Prod.mk.inj heq
    exact .gather hitems hl
  · rw [(Prod.mk.inj heq).1] at hs
    cases hs
  · rw [(Prod.mk.inj heq).1] at hs
    cases hs

/-- **What a move can do**: every move of a session at work that leaves it at work is one of
`Working`. -/
theorem working_of_step (hw : s.Wired) {m : Move} (h : s.step m = some (s', ns))
    (hs : s'.stage = .collecting) : Working s m s' ns := by
  cases m with
  | schedule => exact hw.working_of_schedule h
  | takeAttempt id => exact working_of_takeAttempt h
  | takeResult => exact hw.working_of_takeResult h
  | handOn => exact hw.working_of_handOn h
  | forward => exact hw.working_of_forward h
  | enlist found => exact hw.working_of_enlist h
  | closeIntake => rw [step, hw.closeIntake_eq_none] at h; cases h
  | seek n => exact hw.working_of_seek h
  | answer n time reply => exact hw.working_of_answer h
  | takeCoordinate => exact hw.working_of_takeCoordinate h
  | deliver => exact working_of_deliver h
  | heed => exact hw.working_of_heed h
  | removed => exact working_of_removed h
  | claimed reply => simp [step, claimed, hw.stage] at h
  | collect => exact hw.working_of_collect h hs
  | expire =>
    -- All that is left are moves that end the work, and moves of stages that come later.
    have hstep : s.step .expire = some (s.windDown .timedOut) := by
      simp [step, expire, hw.stage]
    rw [hstep] at h
    rw [(Prod.mk.inj (Option.some.inj h).symm).1] at hs
    cases hs
  | join n =>
    simp only [step, join, Option.bind_eq_bind, Option.bind_eq_some_iff,
      Option.guard_eq_some'] at h
    obtain ⟨-, hservice, -⟩ := h
    rw [hw.service] at hservice
    cases hservice
  | overrun => simp [step, overrun, hw.service] at h
  | drained => simp [step, drained, hw.stage] at h
  | released reply => simp [step, released, hw.stage] at h

end Wired

end Session

end DeviceLab
