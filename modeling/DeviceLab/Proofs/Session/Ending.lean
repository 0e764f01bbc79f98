import DeviceLab.Proofs.Session.Quiet

/-!
# How a session ends

A session that returns reports has resolved every request, and its reports are true to what happened
(`Complete`): they are of all requests, once each, and every one of them is `Faithful` to what the
workers took and reported for its request.

`Course.complete_of_returned` is the main result. It is read off `Course.stageInvariant`, which says
in every stage what is known of the reports (`StageInvariant`), and off nothing else. What the
stages rest on:

* The caller winds the session up as resolved when it has taken as many reports as there are
  requests. In sound books (`Course.atWork`) no two reports are of one request (`nodup_settled`), so
  these are the reports of all requests, and no attempt is alive (`complete_of_length_le`).
* From then on the session is quiet, and `Complete.append` carries the reports over to later turns.
* The caller never finds the reports ended before that: a scheduler that has left has settled every
  request (`length_le_of_off`). So the only error about a channel is one with which the reservation
  itself answered (`Answered`); `DeviceLab.Proofs.Session.ClientSession` rules that out for the
  clients there are.

That no two intentions share an identifier is a hypothesis throughout, and is used in the books
only.
-/

namespace DeviceLab

namespace Session

open Books (Sound)

variable {capacity : Nat} {requests : List Request} {h : List Turn} {s s' : Session} {m : Move}
variable {ns : List Notice}

/-! ### Complete reports -/

/-- A report tells what happened to its request over all workers: its runs settle the request
(`Books.Final`); the intentions that were received for it (`receivedFor`) carry the numbers from one
to the number of runs, in order; the results that were reported for it (`reportedFor`) are those of
the intentions that were received, each from the worker that received it; and the runs are the runs
of these results. -/
structure Faithful (h : List Turn) (p : Report) : Prop where
  final : Books.Final p.request p.runs
  numbers : (receivedFor (drawn h) (received h) p.request.id).map
    (·.2.action.execution.toNat) = List.range' 1 p.runs.length
  answered : (reportedFor (drawn h) (reported h) p.request.id).map
    (fun x ↦ (x.1, x.2.intention)) = receivedFor (drawn h) (received h) p.request.id
  runs : (reportedFor (drawn h) (reported h) p.request.id).map (·.2.run) = p.runs

/-- Reports tell of every request, once. -/
def Complete (requests : List Request) (h : List Turn) (rs : List Report) : Prop :=
  (rs.map (·.request)).Perm requests ∧ ∀ p ∈ rs, Faithful h p

/-- No two reports in sound books are of one request. -/
theorem nodup_settled {b : Books} {rs : List Request} (hb : Sound rs b) :
    (b.settled.map (·.request.id)).Nodup := by
  rw [List.nodup_iff_count_le_one]
  intro q
  have hcount : (b.settled.map (·.request.id)).count q = (b.settledOf q).length := by
    rw [List.count, List.countP_map, List.countP_eq_length_filter, Books.settledOf]
    congr 1
  rw [hcount]
  cases hq : b.settledOf q with
  | nil => exact Nat.zero_le _
  | cons p rest =>
    have hp : p ∈ b.settledOf q := by
      rw [hq]
      exact List.mem_cons_self ..
    obtain ⟨hmem, hid⟩ := List.mem_filter.1 hp
    obtain ⟨r, hr, hrid⟩ := hb.settled p hmem
    obtain rfl : p.request.id = q := of_decide_eq_true hid
    rw [← hq, hrid]
    cases hb.stands r hr with
    | underway x runs hu =>
      rw [hu.settled]
      exact Nat.zero_le _
    | resolved runs hres =>
      rw [hres.settled]
      exact Nat.le_refl _

/-- The report of a resolved request is faithful. -/
theorem faithful_of_resolved {r : Request} {runs : List DeviceRun}
    (hr : (books h s).Resolved r runs) : Faithful h ⟨r, runs⟩ where
  final := hr.final
  numbers := by
    have hlength := hr.told.length_received
    rw [List.length_nil, Nat.add_zero] at hlength
    rw [← hlength]
    exact hr.told.numbers
  answered := (hr.told.received.trans (List.append_nil _)).symm
  runs := hr.told.runs

section Reports

variable {taken : List Report}

/-- In `Sound` books a report is the one of the request that it is for, which is `Resolved`. -/
theorem resolved_of_mem (hb : Sound requests (books h s)) {p : Report} (hp : p ∈ s.settled) :
    p.request ∈ requests ∧ (books h s).Resolved p.request p.runs := by
  obtain ⟨r, hr, hid⟩ := hb.settled p hp
  have hmem : p ∈ (books h s).settledOf r.id := List.mem_filter.2 ⟨hp, decide_eq_true hid⟩
  cases hb.stands r hr with
  | underway x runs hu =>
    rw [hu.settled] at hmem
    cases hmem
  | resolved runs hres =>
    rw [hres.settled] at hmem
    obtain rfl := List.mem_singleton.1 hmem
    exact ⟨hr, hres⟩

/-- As many reports as there are requests are `Complete`, and then no attempt is alive. -/
theorem complete_of_length_le (hb : Sound requests (books h s)) (hsub : taken.Sublist s.settled)
    (hlength : requests.length ≤ taken.length) :
    Complete requests h taken ∧ (books h s).tokens = 0 := by
  have hids : (taken.map (·.request.id)).Nodup := (nodup_settled hb).sublist (hsub.map _)
  have hnodup : (taken.map (·.request)).Nodup := by
    refine List.Nodup.of_map (·.id) ?_
    rw [List.map_map]
    exact hids
  have hsubset : taken.map (·.request) ⊆ requests := by
    intro r hr
    obtain ⟨p, hp, rfl⟩ := List.mem_map.1 hr
    exact (resolved_of_mem hb (hsub.subset hp)).1
  -- Distinct requests of the session, and as many as there are, are all of them.
  have hperm : (taken.map (·.request)).Perm requests := by
    refine (List.subperm_of_subset hnodup hsubset).perm_of_length_le ?_
    rwa [List.length_map]
  refine ⟨⟨hperm, fun p hp ↦ ?_⟩, ?_⟩
  · exact faithful_of_resolved (resolved_of_mem hb (hsub.subset hp)).2
  · rw [Multiset.eq_zero_iff_forall_notMem]
    intro x hx
    -- A token is of a request that is not resolved, but every request has a report.
    obtain ⟨r, hr, runs, -, hu⟩ := hb.underway_of_mem hx
    obtain ⟨p, hp, rfl⟩ := List.mem_map.1 (hperm.mem_iff.2 hr)
    have hres := (resolved_of_mem hb (hsub.subset hp)).2
    have hnone := hu.settled
    rw [hres.settled] at hnone
    cases hnone

end Reports

/-- A scheduler that has left has settled every request. -/
theorem length_le_of_off (hb : Sound requests (books h s)) (hoff : s.scheduler = .off) :
    requests.length ≤ s.settled.length := by
  have hsubset : requests ⊆ s.settled.map (·.request) := by
    intro r hr
    cases hb.stands r hr with
    | underway x runs hu =>
      have hpending : (books h s).pending = [] := by
        rw [books, pending, hoff]
      have hfound := hu.pending
      rw [hpending] at hfound
      cases hfound
    | resolved runs hres =>
      have hmem : (⟨r, runs⟩ : Report) ∈ (books h s).settledOf r.id := by
        rw [hres.settled]
        exact List.mem_singleton_self _
      exact List.mem_map.2 ⟨_, (List.mem_filter.1 hmem).1, rfl⟩
  have hnodup : requests.Nodup := hb.distinct.of_map _
  have hle := (List.subperm_of_subset hnodup hsubset).length_le
  rwa [List.length_map] at hle

/-! ### What holds in each stage -/

/-- A turn in which nothing is drawn, received or reported leaves reports `Complete`. -/
theorem Complete.append {rs : List Report} {t : Turn} (hrs : Complete requests h rs)
    (ht : t.drawn = [] ∧ t.received = [] ∧ t.reported = []) : Complete requests (h ++ [t]) rs := by
  obtain ⟨hdrawn, hreceived, hreported⟩ := ht
  refine ⟨hrs.1, fun p hp ↦ ?_⟩
  obtain ⟨hfinal, hnumbers, hanswered, hruns⟩ := hrs.2 p hp
  refine ⟨hfinal, ?_, ?_, ?_⟩
  all_goals
    simpa only [drawn_append_singleton, received_append_singleton, reported_append_singleton,
      hdrawn, hreceived, hreported, List.append_nil]

/-- The reservation answered with an error, to the claim or to the release. -/
def Answered (h : List Turn) (e : LabError) : Prop :=
  ∃ t ∈ h, t.move = .claimed (.error e) ∨ t.move = .released (.error e)

theorem Answered.append {e : LabError} (he : Answered h e) (t : Turn) : Answered (h ++ [t]) e := by
  obtain ⟨u, hu, hmove⟩ := he
  exact ⟨u, List.mem_append_left _ hu, hmove⟩

/-- What holds while a session is wound up for a reason (`Ending`). A session is never starved. -/
def EndingInvariant (requests : List Request) (h : List Turn) (s : Session) : Ending → Prop
  | .refused e => Answered h e
  | .resolved => s.Quiet ∧ Complete requests h s.collected
  | .timedOut => True
  | .starved => False

/-- What holds in a stage of a session that was called. -/
def StageInvariant (requests : List Request) (h : List Turn) (s : Session) : Stage → Prop
  | .draining why => EndingInvariant requests h s why
  | .releasing why => EndingInvariant requests h s why
  | .returned (.ok rs) => s.Quiet ∧ Complete requests h rs
  | .returned (.error e) => ∀ c, e = .channelClosed c → Answered h e
  | _ => True

theorem EndingInvariant.step {why : Ending} (hg : EndingInvariant requests h s why)
    (hs : s.step m = some (s', ns)) : EndingInvariant requests (h ++ [⟨s, m, ns⟩]) s' why := by
  cases why with
  | refused e => exact Answered.append hg _
  | timedOut => trivial
  | starved => exact hg
  | resolved =>
    obtain ⟨hq, hrs⟩ := hg
    refine ⟨hq.of_step hs, ?_⟩
    rw [(hq.calm_of_step hs).collected]
    exact hrs.append (hq.turn_eq_nil hs)

/-- What holds in a stage stays true as long as the stage does. -/
theorem StageInvariant.step {st : Stage} (ho : StageInvariant requests h s st)
    (hs : s.step m = some (s', ns)) :
    StageInvariant requests (h ++ [⟨s, m, ns⟩]) s' st := by
  cases st with
  | draining why => exact EndingInvariant.step ho hs
  | releasing why => exact EndingInvariant.step ho hs
  | returned r =>
    cases r with
    | ok rs =>
      obtain ⟨hq, hrs⟩ := ho
      exact ⟨hq.of_step hs, hrs.append (hq.turn_eq_nil hs)⟩
    | error e => exact fun c hc ↦ (ho c hc).append _
  | _ => trivial

theorem EndingInvariant.feed {why : Ending} (hg : EndingInvariant requests h s why)
    (c : Channel Coordinate) :
    EndingInvariant requests h { s with stream := c } why := by
  cases why with
  | resolved => exact ⟨{ hg.1 with }, hg.2⟩
  | _ => exact hg

/-- None of it depends on the `stream` of the reservation. -/
theorem StageInvariant.feed {st : Stage} (ho : StageInvariant requests h s st)
    (c : Channel Coordinate) :
    StageInvariant requests h { s with stream := c } st := by
  cases st with
  | draining why => exact EndingInvariant.feed ho c
  | releasing why => exact EndingInvariant.feed ho c
  | returned r =>
    cases r with
    | ok rs => exact ⟨{ ho.1 with }, ho.2⟩
    | error e => exact ho
  | _ => trivial

/-- When the caller has taken its last report, everything is settled; and it always gets it. -/
theorem stageInvariant_of_collect (hw : s.Wired) (hk : Kept h s) (hs : s.collect = some (s', ns)) :
    StageInvariant s.requests (h ++ [⟨s, .collect, ns⟩]) s' s'.stage := by
  rcases Wired.collect_cases hw.stage hs with ⟨r, rest, hitems, hdone⟩ | ⟨hitems, hsending, heq⟩
  · have hb : Sound s.requests (books h s) := by
      cases hk with
      | sound _ hb => exact hb
      | blank _ hb =>
        have hnone : s.collected ++ s.reports.items = [] := hb.settled
        rw [hitems] at hnone
        exact absurd hnone (by simp)
    have hgather := gather_eq_append hb hitems
    obtain ⟨t, ht⟩ : ∃ t : Session,
        t = { s with reports := s.reports.rest, collected := gather r s.collected } := ⟨_, rfl⟩
    rw [← ht] at hdone
    obtain ⟨-, heq⟩ | ⟨hlength, heq⟩ := hdone
    · rw [(Prod.mk.inj heq).1, show t.stage = .collecting by rw [ht]; exact hw.stage]
      trivial
    have hsub : t.collected.Sublist s.settled := by
      rw [ht, settled, hitems]
      show (gather r s.collected).Sublist _
      rw [hgather]
      exact List.Sublist.append_left (List.Sublist.cons_cons _ (List.nil_sublist rest)) _
    have hrequests : t.requests = s.requests := by rw [ht]
    rw [hrequests] at hlength
    obtain ⟨hrs, htokens⟩ := complete_of_length_le hb hsub hlength
    have hnone : t.tokens = 0 := by
      have hsum : s.tokens + dropped h = 0 := htokens
      rw [ht]
      exact Multiset.le_zero.1 (hsum ▸ Multiset.le_add_right ..)
    have hservice : t.service = .running := by
      rw [ht]
      exact hw.service
    have hground : EndingInvariant s.requests (h ++ [⟨s, .collect, ns⟩]) (t.windDown .resolved).1
        .resolved := by
      refine ⟨quiet_windDown hservice hnone _, ?_⟩
      rw [windDown_collected hservice]
      exact hrs.append ⟨rfl, rfl, rfl⟩
    rw [(Prod.mk.inj heq).1]
    exact hground
  · -- The scheduler has left, so it has settled every request, and its last report was taken: this
    -- would have wound the session down before.
    have hoff := hw.reports_sending hsending
    have hb := hk.sound_of fun rs hrs ↦ by
      rw [hoff] at hrs
      cases hrs
    have hle := length_le_of_off hb hoff
    rw [settled, hitems, List.append_nil] at hle
    exact absurd hw.requests_left (Nat.not_lt.2 hle)

/-- A session that is told to return its result. -/
theorem stageInvariant_result {why : Ending} (hg : EndingInvariant requests h s why)
    {reply : Except LabError Unit} (hs : s.step (.released reply) = some (s', ns)) :
    StageInvariant requests (h ++ [⟨s, .released reply, ns⟩]) s'
      (.returned (s.result why reply).1) := by
  cases why with
  | refused e => exact fun c _ ↦ Answered.append hg _
  | timedOut => exact fun c hc ↦ by cases hc
  | starved => exact hg.elim
  | resolved =>
    cases reply with
    | ok u =>
      obtain ⟨hq, hrs⟩ := hg
      exact ⟨hq.of_step hs, hrs.append (hq.turn_eq_nil hs)⟩
    | error e => exact fun c _ ↦ ⟨_, List.mem_append_right _ (List.mem_singleton_self _), .inr rfl⟩

/-- **What holds in every stage of a session that was called** (`StageInvariant`). -/
theorem Course.stageInvariant (hc : Course (call capacity requests).1 h s)
    (hd : ((drawn h).map (·.1)).Nodup) : StageInvariant requests h s s.stage := by
  induction hc with
  | start =>
    rcases call_cases capacity requests with ⟨rfl, -⟩ | ⟨e, h⟩ | h | ⟨-, -, -, h⟩
    · refine ⟨⟨Stage.noConfusion, Stage.noConfusion, rfl, rfl, rfl, List.forall_mem_nil _⟩, ?_⟩
      exact ⟨.refl _, List.forall_mem_nil _⟩
    · rw [h]
      exact fun c hc ↦ by cases hc
    · rw [h]
      trivial
    · rw [h]
      trivial
  | @turn h s s' ns m hc hstep ih =>
    have hd' := nodup_of_append hd
    have ho := ih hd'
    have hr := stageChange_of_step hstep
    -- The caller takes its last report in a turn of a session that is at work until then.
    have hcollect (hs : s.stage = .collecting) (hm : m = .collect) :
        StageInvariant requests (h ++ [⟨s, m, ns⟩]) s' s'.stage := by
      obtain ⟨rfl, hw, hk⟩ := hc.atWork hd' hs
      subst hm
      exact stageInvariant_of_collect hw hk hstep
    generalize hst : s'.stage = st at hr hcollect
    cases hr with
    | same => exact ho.step hstep
    | claimed => trivial
    | refused hs => exact ⟨_, List.mem_append_right _ (List.mem_singleton_self _), .inl rfl⟩
    | resolved hs => exact hcollect hs rfl
    | starved hs => exact hcollect hs rfl
    | expired hs => trivial
    | denied hs =>
      rw [hs] at ho
      exact fun c _ ↦ Answered.append ho _
    | drained hs =>
      rw [hs] at ho
      exact EndingInvariant.step ho hstep
    | released hs =>
      rw [hs] at ho
      exact stageInvariant_result ho hstep
  | feed c hc ih => exact (ih hd).feed c

/-- **A session that returns reports has resolved every request**, and its reports tell what
happened to them (`Complete`). It never returns that a channel closed, unless the reservation itself
answered so (`Answered`). -/
theorem Course.complete_of_returned (hc : Course (call capacity requests).1 h s)
    (hd : ((drawn h).map (·.1)).Nodup) {r : Except LabError (List Report)}
    (hs : s.stage = .returned r) :
    (∀ rs, r = .ok rs → Complete requests h rs) ∧
      ∀ c, r = .error (.channelClosed c) → Answered h (.channelClosed c) := by
  have ho := hc.stageInvariant hd
  rw [hs] at ho
  constructor
  · rintro rs rfl
    exact ho.2
  · rintro c rfl
    exact ho c rfl

/-! ### A sample -/

/-- A second device for which `sampleRequest` is made. -/
def spareDevice : DeviceData :=
  ⟨.attached "emulator-5556", "pixel", 29⟩

/-- A request like `sampleRequest` that allows one attempt. -/
def spareRequest : Request :=
  { sampleRequest 1 with id := .numbered 0 2 }

/-- Two requests, of which the first allows two attempts. -/
def pair : List Request :=
  [sampleRequest 2, spareRequest]

/-- The call for `pair`; the reservation hands out two devices. -/
def pairSession : Session :=
  { (call 2 pair).1 with
    stream :=
      { items := [sampleDevice.coordinate, spareDevice.coordinate], sending := true,
        receiving := true } }

theorem course_pairSession : Course (call 2 pair).1 [] pairSession :=
  Course.start.feed _

/-- Each device takes an intention; the first one breaks, and its request is retried. -/
def breakingMoves : List Move :=
  [.claimed (.ok ()), .schedule, .takeAttempt (.numbered 1 1), .handOn, .forward,
    .takeAttempt (.numbered 1 2), .handOn, .forward, .takeCoordinate, .deliver,
    .enlist (.ok sampleDevice), .takeCoordinate, .deliver, .enlist (.ok spareDevice),
    .answer 0 0 (.status (.returned .alive)), .answer 1 0 (.status (.returned .alive)), .seek 0,
    .seek 1, .answer 0 1 (.status (.returned (.frozen "offline"))), .takeResult, .schedule,
    .takeAttempt (.numbered 1 3), .handOn, .forward]

/-- The intention that `spareDevice` takes first. -/
def spareIntention : Intention :=
  .ofRequest (.numbered 1 2) spareRequest 1

/-- The worker of `spareDevice` after `breakingMoves`. -/
def spareWorker : Worker :=
  { Worker.new spareDevice with stage := .checking spareIntention, phase := .idle }

/-- The device is new, so the application has to be installed. -/
theorem resume_spareWorker :
    spareWorker.resume 2 (.status (.returned .alive)) =
      some ({ spareWorker with
          stage := .installing spareIntention "test.apk" [] [], phase := .preparing },
        [.phase spareDevice .preparing]) := by
  have hne : spareWorker.state.digest ≠ spareIntention.state.digest := by decide +kernel
  show some (spareWorker.prepare spareIntention) = _
  rw [Worker.prepare, if_neg hne]
  rfl

/-- The run by which `spareRequest` passes. -/
def spareRun : DeviceRun :=
  ⟨⟨spareRequest.testCase, .passed, 3, 5⟩, spareDevice⟩

/-- The second device lets its test pass, takes the retried attempt and breaks as well; then the
session is wound up. -/
def endingMoves : List Move :=
  [.answer 1 3 (.installed (.returned ⟨"test.apk", 2, 3⟩)), .answer 1 5 (.ran (.returned spareRun)),
    .takeResult, .schedule, .collect, .answer 1 6 (.status (.returned .alive)), .seek 1,
    .answer 1 7 (.status (.returned (.frozen "unplugged"))), .takeResult, .schedule, .collect,
    .join 0, .join 1, .drained, .released (.ok ())]

/-- Of the two requests one passes and the other one is retried on the second device and breaks
again. The attempts of each carry its own numbers, and each run is of the worker that took it. -/
theorem complete_of_returned_retried :
    ∃ (h : List Turn) (s : Session) (rs : List Report),
      Course (call 2 pair).1 h s ∧ s.stage = .returned (.ok rs) ∧ Complete pair h rs ∧
        rs = [⟨spareRequest, [spareRun]⟩,
          ⟨sampleRequest 2, [.broken (sampleRequest 2).testCase sampleDevice "offline" 1,
            .broken (sampleRequest 2).testCase spareDevice "unplugged" 7]⟩] ∧
        (receivedFor (drawn h) (received h) (.numbered 0 1)).map
          (fun x ↦ (x.1, x.2.action.execution.toNat)) = [(0, 1), (1, 2)] ∧
        (receivedFor (drawn h) (received h) (.numbered 0 2)).map
          (fun x ↦ (x.1, x.2.action.execution.toNat)) = [(1, 1)] := by
  have hretried := course_pairSession.follow breakingMoves rfl
  -- The digests are compared by `resume_spareWorker`, so that no step has to compute them.
  have hprepared := hretried.turn (.answer 1 2 (.status (.returned .alive)))
    (congrArg (fun r : Option (Worker × List Notice) ↦ r.bind fun r ↦ some
      ((r.2.foldl (publish 2) _).setWorker 1 r.1, r.2)) resume_spareWorker)
  have hreturned := hprepared.follow endingMoves rfl
  refine ⟨_, _, _, hreturned, rfl, ?_, rfl, rfl, rfl⟩
  exact (hreturned.complete_of_returned (by decide) rfl).1 _ rfl

end Session

end DeviceLab
