import DeviceLab.Proofs.Session.Collected
import DeviceLab.Proofs.Session.WindingDown
import DeviceLab.Proofs.Session.Ending

/-!
# How a session is torn down

The caller asks the reservation for a release only when the service has stopped, and then every
worker is over; all that is left to happen is the answer to it, and after that nothing. What the
caller and the reservation told each other is read off the turns (`exchanges`), and in every stage
of a session there is one thing that it can be (`TeardownInvariant`).

`Course.tears_down` is assembled from four results.

* `Course.teardownInvariant` is the invariant along a course. In the stages before the end it rests
  on `Course.wired` and `WindingDown.windDownStep_of_step`, and after the release on
  `Still.step_eq_none`.
* `Course.isOver_of_release` is read off the turn in which the caller asks for the release.
* `Course.exists_follow_of_draining` says that nothing keeps a session that is wound up from
  returning.
* `timedOut_of_concluded` counts the reports of a session that has run out of time. It rests on
  `Course.collected`.

None of them needs the identifiers of intentions to be distinct.
-/

namespace DeviceLab

namespace Session

variable {h : List Turn} {s s' : Session} {m : Move} {ns : List Notice} {capacity : Nat}
  {requests : List Request}

/-! ### What the caller and the reservation tell each other -/

/-- What passes between the caller and the reservation (`exchanges`). -/
inductive Exchange
  /-- The claim is granted. -/
  | granted
  /-- The claim is refused. -/
  | refused (e : LabError)
  /-- The caller asks for a release. -/
  | release
  /-- The reservation answers to the release. -/
  | answered (reply : Except LabError Unit)

/-- What passes between the caller and the reservation in a turn. -/
def Turn.exchanges (t : Turn) : List Exchange :=
  match t.move, t.before.stage with
  | .claimed (.ok _), _ => [.granted]
  | .claimed (.error e), _ => [.refused e]
  | .drained, .draining (.refused _) => []
  | .drained, _ => [.release]
  | .released reply, _ => [.answered reply]
  | _, _ => []

/-- What passed between the caller and the reservation, in order. -/
def exchanges (h : List Turn) : List Exchange :=
  h.flatMap Turn.exchanges

theorem exchanges_append_singleton (h : List Turn) (t : Turn) :
    exchanges (h ++ [t]) = exchanges h ++ t.exchanges := by
  rw [exchanges, List.flatMap_append, List.flatMap_singleton, exchanges]

/-- Nobody but the caller has to do with the reservation. -/
theorem Turn.exchanges_eq_nil (hm : m.isCaller = false) : Turn.exchanges ⟨s, m, ns⟩ = [] := by
  cases m <;> first | rfl | cases hm

/-- An error of the reservation is an answer of it. -/
theorem answered_of_mem {e : LabError}
    (he : .refused e ∈ exchanges h ∨ .answered (.error e) ∈ exchanges h) : Answered h e := by
  rcases he with he | he
  all_goals
    obtain ⟨t, ht, hmem⟩ := List.mem_flatMap.1 he
    refine ⟨t, ht, ?_⟩
    unfold Turn.exchanges at hmem
    split at hmem <;> simp at hmem
  · next e' hmove =>
    rw [hmem]
    exact .inl hmove
  · next reply hmove =>
    rw [← hmem] at hmove
    exact .inr hmove

/-! ### What is left in every stage -/

/-- The service has stopped, and the watcher has left. -/
structure Still (s : Session) : Prop extends s.WindingDown where
  rest : s.service = .stopped
  watcher : s.watcher = .off

/-- In a still session the caller alone can move. -/
theorem Still.cases (hs : s.Still) (h : WindDownStep s m s' ns) :
    (m = .drained ∧ ∃ why, s.stage = .draining why) ∨
      ∃ reply why, m = .released reply ∧ s.stage = .releasing why := by
  have hall := hs.stopped hs.rest
  cases h with
  | waited hx hover =>
    rw [hall _ (List.mem_of_getElem? hx)] at hover
    cases hover
  | attended hx hover =>
    rw [hall _ (List.mem_of_getElem? hx)] at hover
    cases hover
  | errand _ hw => exact absurd hs.watcher hw
  | joined hservice =>
    rw [hs.rest] at hservice
    cases hservice
  | overran hservice =>
    rw [hs.rest] at hservice
    cases hservice
  | denied hstage => exact .inl ⟨rfl, _, hstage⟩
  | drained hstage => exact .inl ⟨rfl, _, hstage⟩
  | released hstage => exact .inr ⟨_, _, rfl, hstage⟩

/-- A session that is `Still` and in which the caller has nothing to do does nothing. -/
theorem Still.step_eq_none (hs : s.Still) (hclaiming : s.stage ≠ .claiming)
    (hcollecting : s.stage ≠ .collecting) (hdraining : ∀ why, s.stage ≠ .draining why)
    (hreleasing : ∀ why, s.stage ≠ .releasing why) (m : Move) : s.step m = none := by
  by_contra hne
  obtain ⟨⟨s', ns⟩, hstep⟩ := Option.ne_none_iff_exists'.1 hne
  rcases hs.cases (hs.windDownStep_of_step hclaiming hcollecting hstep) with
    ⟨-, why, hstage⟩ | ⟨reply, why, -, hstage⟩
  · exact hdraining why hstage
  · exact hreleasing why hstage

/-- A session in which nothing was started is still. -/
theorem still_blank (rs : List Request) (c : Channel Coordinate) (st : Stage) :
    Still { requests := rs, stream := c, stage := st } :=
  { scheduler := rfl, client := rfl, forwarder := rfl, intake := rfl,
    service := Service.noConfusion, joined := List.forall_mem_nil _,
    stopped := fun _ ↦ List.forall_mem_nil _, rest := rfl, watcher := rfl }

/-- A session whose `call` was answered at once stays as it is. -/
theorem Course.eq_nil_of_answered {rs : List Request} {r : Except LabError (List Report)}
    (hc : Course { requests := rs, stage := .returned r } h s) :
    h = [] ∧ ∃ c, s = { requests := rs, stream := c, stage := .returned r } := by
  induction hc with
  | start => exact ⟨rfl, _, rfl⟩
  | turn m hc hstep ih =>
    obtain ⟨rfl, c, rfl⟩ := ih
    have hnone := (still_blank rs c (.returned r)).step_eq_none (by simp) (by simp) (by simp)
      (by simp) m
    rw [hnone] at hstep
    cases hstep
  | feed c hc ih =>
    obtain ⟨rfl, -, rfl⟩ := ih
    exact ⟨rfl, c, rfl⟩

/-- Why a reservation that was granted is given back: the claim was not refused; and if time was up,
requests are left of which no report was collected (`collectedIn`). -/
def ReleaseReason (requests : List Request) (h : List Turn) (s : Session) : Ending → Prop
  | .refused _ => False
  | .timedOut => s.requests = requests ∧ (requests.map (·.id)).Nodup ∧
      Collected requests h s ∧ s.collected.length < requests.length
  | _ => True

theorem ReleaseReason.windDownStep {why : Ending} (hd : ReleaseReason requests h s why)
    (hw : WindDownStep s m s' ns) :
    ReleaseReason requests (h ++ [⟨s, m, ns⟩]) s' why := by
  obtain ⟨hcollected, hrequests, hm⟩ := hw.kept
  cases why with
  | refused e => exact hd
  | timedOut =>
    obtain ⟨hreq, hnodup, htaken, hleft⟩ := hd
    refine ⟨hrequests.trans hreq, hnodup, htaken.turn hm hcollected, ?_⟩
    rw [hcollected]
    exact hleft
  | _ => trivial

/-- How a call has come to its result. -/
inductive Concluded (requests : List Request) (h : List Turn) (s : Session) :
    Except LabError (List Report) → Prop
  /-- Without requests there is nothing to do. -/
  | idle (hh : h = []) (hr : requests = []) (hw : s.workers = []) : Concluded requests h s (.ok [])
  /-- Requests share an identifier. -/
  | invalid {r : Request} (hh : h = []) (hr : r ∈ requests) (hw : s.workers = []) :
      Concluded requests h s
        (.error (.invalidRequest ("duplicate request id " ++ r.id.text)))
  /-- The claim was refused. -/
  | refused {e : LabError} (hd : exchanges h = [.refused e]) (hw : s.workers = []) :
      Concluded requests h s (.error e)
  /-- The reservation was released. -/
  | released {why : Ending} {reply : Except LabError Unit}
      (hd : exchanges h = [.granted, .release, .answered reply])
      (hreason : ReleaseReason requests h s why) :
      Concluded requests h s (s.result why reply).1

/-- What a session and its reservation have come to in a stage. -/
def TeardownInvariant (requests : List Request) (h : List Turn) (s : Session) : Stage → Prop
  | .claiming => h = []
  | .collecting => exchanges h = [.granted]
  | .draining (.refused e) => s.Still ∧ s.workers = [] ∧ exchanges h = [.refused e]
  | .draining why => s.WindingDown ∧ ReleaseReason requests h s why ∧ exchanges h = [.granted]
  | .releasing why => s.Still ∧ ReleaseReason requests h s why ∧ exchanges h = [.granted, .release]
  | .returned r => s.Still ∧ Concluded requests h s r
  | .panicked => s.Still ∧ h = []
  | .off => False
  | .aborted => False

/-- The reservation answers to the claim. -/
theorem teardownInvariant_of_claimed {c : Channel Coordinate} {reply : Except LabError Unit}
    (hs : step { opened capacity requests with stream := c } (.claimed reply) = some (s', ns)) :
    TeardownInvariant requests
      [⟨{ opened capacity requests with stream := c }, .claimed reply, ns⟩] s'
      s'.stage := by
  cases reply with
  | ok =>
    rw [(Prod.mk.inj (Option.some.inj hs).symm).1]
    rfl
  | error e =>
    rw [(Prod.mk.inj (Option.some.inj hs).symm).1]
    refine ⟨?_, rfl, rfl⟩
    exact { scheduler := rfl, client := rfl, forwarder := rfl, intake := rfl,
            service := Service.noConfusion, joined := List.forall_mem_nil _,
            stopped := fun _ ↦ List.forall_mem_nil _, rest := rfl, watcher := rfl }

/-- The caller goes on collecting, or winds the session up (`windDown`). -/
theorem teardownInvariant_of_collecting (hc : Course (call capacity requests).1 h s)
    (hs : s.stage = .collecting) (hd : exchanges h = [.granted])
    (hstep : s.step m = some (s', ns)) :
    TeardownInvariant requests (h ++ [⟨s, m, ns⟩]) s' s'.stage := by
  obtain ⟨rfl, hw⟩ := hc.wired hs
  have hj := hc.unjoined hs
  have hexchanges (hnone : Turn.exchanges ⟨s, m, ns⟩ = []) :
      exchanges (h ++ [⟨s, m, ns⟩]) = [.granted] := by
    rw [exchanges_append_singleton, hnone, List.append_nil, hd]
  by_cases hst : s'.stage = .collecting
  · rw [hst]
    refine hexchanges ?_
    cases hw.working_of_step hstep hst with
    | errand hm => cases m <;> first | rfl | cases hm
    | _ => rfl
  · rcases windDown_of_step hw hstep hst with ⟨rfl, heq⟩ | ⟨rfl, t, why, hwhy, hservice, hsame, heq⟩
    · obtain ⟨hstage, he, hcollected, hrequests⟩ := windingDown_of_windDown hw.service hj heq
      rw [hstage]
      refine ⟨he, ⟨hrequests, hw.requests_distinct, ?_, ?_⟩, hexchanges rfl⟩
      · exact (hc.collected hs).2.turn Move.noConfusion hcollected
      · rw [hcollected]
        exact hw.requests_left
    · obtain ⟨hstage, he, -, -⟩ := windingDown_of_windDown hservice (by rw [hsame]; exact hj) heq
      rw [hstage]
      rcases hwhy with rfl | rfl
      · exact ⟨he, trivial, hexchanges rfl⟩
      · exact ⟨he, trivial, hexchanges rfl⟩

section WindDownStep

variable (hw : WindDownStep s m s' ns)

include hw

/-- Without a reservation to release, the session returns as soon as the service has stopped
(`drained`). -/
theorem teardownInvariant_of_refused {e : LabError} (hstage : s.stage = .draining (.refused e))
    (hs : s.Still) (hnone : s.workers = []) (hd : exchanges h = [.refused e]) :
    TeardownInvariant requests (h ++ [⟨s, m, ns⟩]) s' s'.stage := by
  rcases hs.cases hw with ⟨rfl, -⟩ | ⟨reply, why, -, hreleasing⟩
  · have hturn : Turn.exchanges ⟨s, .drained, ns⟩ = [] := by
      simp [Turn.exchanges, hstage]
    cases hw with
    | errand hm => cases hm
    | attended _ _ hm => cases hm
    | denied hstage' =>
      rw [hstage] at hstage'
      obtain rfl := Ending.refused.inj (Stage.draining.inj hstage')
      refine ⟨{ hs with }, .refused ?_ hnone⟩
      rw [exchanges_append_singleton, hturn, List.append_nil, hd]
    | drained hstage' hwhy =>
      rw [hstage] at hstage'
      exact absurd (Stage.draining.inj hstage').symm (hwhy e)
  · rw [hstage] at hreleasing
    cases hreleasing

/-- While the service drains, the session waits for it and then asks for the release. -/
theorem teardownInvariant_of_draining {why : Ending} (hstage : s.stage = .draining why)
    (hwhy : ∀ e, why ≠ .refused e) (hstep : s.step m = some (s', ns)) (he : s.WindingDown)
    (hreason : ReleaseReason requests h s why) (hd : exchanges h = [.granted]) :
    TeardownInvariant requests (h ++ [⟨s, m, ns⟩]) s' s'.stage := by
  have hreason' := hreason.windDownStep hw
  have he' := he.of_windDownStep hw
  have hopen {t : Session} (ht : t.WindingDown) {h' : List Turn}
      (hreason : ReleaseReason requests h' t why) (hd : exchanges h' = [.granted]) :
      TeardownInvariant requests h' t (.draining why) := by
    cases why with
    | refused e => exact absurd rfl (hwhy e)
    | _ => exact ⟨ht, hreason, hd⟩
  by_cases hm : m.isCaller = false
  · rw [stage_of_step hm hstep, hstage]
    refine hopen he' hreason' ?_
    rw [exchanges_append_singleton, Turn.exchanges_eq_nil hm, List.append_nil, hd]
  cases hw with
  | denied hstage' =>
    rw [hstage] at hstage'
    exact absurd (Stage.draining.inj hstage') (hwhy _)
  | drained hstage' _ hrest =>
    have hturn : Turn.exchanges ⟨s, .drained, []⟩ = [.release] := by
      cases why with
      | refused e => exact absurd rfl (hwhy e)
      | _ => simp [Turn.exchanges, hstage]
    rw [hstage] at hstage'
    obtain rfl := Stage.draining.inj hstage'
    refine ⟨{ he' with rest := hrest, watcher := rfl }, hreason', ?_⟩
    rw [exchanges_append_singleton, hturn, hd]
    rfl
  | released hstage' =>
    rw [hstage] at hstage'
    cases hstage'
  | errand hm' => cases m <;> first | exact absurd rfl hm | cases hm'
  | attended _ _ hm' => cases m <;> first | exact absurd rfl hm | cases hm'
  | _ => exact absurd rfl hm

/-- After the release the session returns. -/
theorem teardownInvariant_of_releasing {why : Ending} (hstage : s.stage = .releasing why)
    (hs : s.Still) (hreason : ReleaseReason requests h s why)
    (hd : exchanges h = [.granted, .release]) :
    TeardownInvariant requests (h ++ [⟨s, m, ns⟩]) s' s'.stage := by
  have hreason' := hreason.windDownStep hw
  rcases hs.cases hw with ⟨-, why', hdraining⟩ | ⟨reply, why', rfl, -⟩
  · rw [hstage] at hdraining
    cases hdraining
  · cases hw with
    | errand hm => cases hm
    | attended _ _ hm => cases hm
    | released hstage' =>
      rw [hstage] at hstage'
      obtain rfl := Stage.releasing.inj hstage'
      have hexchanges : exchanges (h ++ [⟨s, .released reply, (s.result why reply).2⟩]) =
          [.granted, .release, .answered reply] := by
        rw [exchanges_append_singleton, hd]
        rfl
      exact ⟨{ hs with }, .released hexchanges hreason'⟩

end WindDownStep

theorem ReleaseReason.feed {why : Ending} (hd : ReleaseReason requests h s why)
    (c : Channel Coordinate) :
    ReleaseReason requests h { s with stream := c } why := by
  cases why with
  | refused e => exact hd
  | timedOut => exact ⟨hd.1, hd.2.1, { hd.2.2.1 with }, hd.2.2.2⟩
  | _ => trivial

/-- None of this depends on the `stream` of the reservation. -/
theorem TeardownInvariant.feed {st : Stage} (hr : TeardownInvariant requests h s st)
    (c : Channel Coordinate) :
    TeardownInvariant requests h { s with stream := c } st := by
  cases st with
  | draining why =>
    cases why with
    | refused e => exact ⟨{ hr.1 with }, hr.2⟩
    | _ => exact ⟨{ hr.1 with }, hr.2.1.feed c, hr.2.2⟩
  | releasing why => exact ⟨{ hr.1 with }, hr.2.1.feed c, hr.2.2⟩
  | returned r =>
    obtain ⟨hs, hr⟩ := hr
    refine ⟨{ hs with }, ?_⟩
    cases hr with
    | idle hh hr hw => exact .idle hh hr hw
    | invalid hh hr hw => exact .invalid hh hr hw
    | refused hd hw => exact .refused hd hw
    | @released why reply hd hreason =>
      exact .released hd (hreason.feed c)
  | panicked => exact ⟨{ hr.1 with }, hr.2⟩
  | _ => exact hr

/-- **In every stage there is one thing that a session and its reservation have come to**
(`TeardownInvariant`). -/
theorem Course.teardownInvariant (hc : Course (call capacity requests).1 h s) :
    TeardownInvariant requests h s s.stage := by
  induction hc with
  | start =>
    rcases call_eq capacity requests with ⟨rfl, heq⟩ | ⟨-, r, hr, heq⟩ | ⟨-, -, heq⟩ |
      ⟨-, -, -, heq⟩
    · rw [heq]
      exact ⟨still_blank _ _ _, .idle rfl rfl rfl⟩
    · rw [heq]
      exact ⟨still_blank _ _ _, .invalid rfl hr rfl⟩
    · rw [heq]
      exact ⟨still_blank _ _ _, rfl⟩
    · rw [heq]
      rfl
  | @turn h s s' ns m hc hstep ih =>
    have hstill (hs : s.Still) (hst : (∃ r, s.stage = .returned r) ∨ s.stage = .panicked) :
        TeardownInvariant requests (h ++ [⟨s, m, ns⟩]) s' s'.stage := by
      have hnone := hs.step_eq_none (m := m)
      rcases hst with ⟨r, hst⟩ | hst
      all_goals simp [hst, hstep] at hnone
    cases hst : s.stage with
    | off | aborted =>
      rw [hst] at ih
      exact ih.elim
    | claiming =>
      obtain ⟨rfl, -, -, -, c, rfl⟩ := hc.claiming hst
      obtain ⟨reply, rfl⟩ := claimed_of_step_opened hstep
      exact teardownInvariant_of_claimed hstep
    | collecting =>
      rw [hst] at ih
      exact teardownInvariant_of_collecting hc hst ih hstep
    | draining why =>
      rw [hst] at ih
      cases why with
      | refused e =>
        obtain ⟨hs, hnone, hd⟩ := ih
        have hw := hs.windDownStep_of_step (by simp [hst]) (by simp [hst]) hstep
        exact teardownInvariant_of_refused hw hst hs hnone hd
      | _ =>
        obtain ⟨he, hreason, hd⟩ := ih
        have hw := he.windDownStep_of_step (by simp [hst]) (by simp [hst]) hstep
        exact teardownInvariant_of_draining hw hst (by simp) hstep he hreason hd
    | releasing why =>
      rw [hst] at ih
      obtain ⟨hs, hreason, hd⟩ := ih
      have hw := hs.windDownStep_of_step (by simp [hst]) (by simp [hst]) hstep
      exact teardownInvariant_of_releasing hw hst hs hreason hd
    | returned r =>
      rw [hst] at ih
      exact hstill ih.1 (.inl ⟨r, hst⟩)
    | panicked =>
      rw [hst] at ih
      exact hstill ih.1 (.inr hst)
  | feed c hc ih => exact ih.feed c

/-! ### The end of a session -/

/-- A turn in which the caller asks for the release finds the service stopped. -/
theorem stopped_of_release (hs : s.step m = some (s', ns))
    (hr : .release ∈ Turn.exchanges ⟨s, m, ns⟩) :
    s.service = .stopped ∧ ∃ why, s.stage = .draining why ∧ ∀ e, why ≠ .refused e := by
  cases m with
  | drained =>
    cases WindingDown.windDownStep_of_drained hs with
    | denied hstage => simp [Turn.exchanges, hstage] at hr
    | drained hstage hwhy hrest => exact ⟨hrest, _, hstage, hwhy⟩
    | errand hm => cases hm
    | attended _ _ hm => cases hm
  | claimed reply => cases reply <;> simp [Turn.exchanges] at hr
  | _ => simp [Turn.exchanges] at hr

/-- **The caller asks for the release only when every worker is over.** -/
theorem Course.isOver_of_release (hc : Course (call capacity requests).1 h s) :
    ∀ t ∈ h, .release ∈ t.exchanges → ∀ x ∈ t.before.workers, x.worker.isOver = true := by
  induction hc with
  | start => exact List.forall_mem_nil _
  | turn m hc hstep ih =>
    intro t ht hr
    rcases List.mem_append.1 ht with ht | ht
    · exact ih t ht hr
    · obtain rfl := List.mem_singleton.1 ht
      obtain ⟨hrest, why, hstage, hwhy⟩ := stopped_of_release hstep hr
      have hinvariant := hc.teardownInvariant
      rw [hstage] at hinvariant
      cases why with
      | refused e => exact absurd rfl (hwhy e)
      | _ => exact hinvariant.1.stopped hrest
  | feed c hc ih => exact ih

/-- A session whose service has stopped returns, after the answer to its release if it has anything
to release. -/
theorem exists_follow_of_stopped {why : Ending} (hs : s.stage = .draining why)
    (hservice : s.service = .stopped) (reply : Except LabError Unit) :
    ∃ ms : List Move, ms.Sublist [.drained, .released reply] ∧
      ∃ more s' r, s.follow ms = some (more, s') ∧ s'.stage = .returned r := by
  cases why with
  | refused e =>
    refine ⟨[.drained], (List.nil_sublist _).cons_cons _, [⟨s, .drained, []⟩],
      { s with stage := .returned (.error e) }, .error e, ?_, rfl⟩
    simp [Session.follow, step, Session.drained, hs, hservice]
  | _ =>
    refine ⟨[.drained, .released reply], List.Sublist.refl _, ?_⟩
    simp [Session.follow, step, Session.drained, Session.released, hs, hservice]

/-- **Nothing keeps a session from being torn down** once it is wound up: the service has stopped,
or stops when the time of its workers is up (`overrun`), and the session returns as soon as the
reservation has answered. -/
theorem Course.exists_follow_of_draining (hc : Course (call capacity requests).1 h s)
    {why : Ending} (hs : s.stage = .draining why ∨ s.stage = .releasing why)
    (reply : Except LabError Unit) :
    ∃ ms : List Move, ms.Sublist [.overrun, .drained, .released reply] ∧
      ∃ more s' r, s.follow ms = some (more, s') ∧ s'.stage = .returned r := by
  rcases hs with hs | hs
  · have he : s.WindingDown := by
      have hinvariant := hc.teardownInvariant
      rw [hs] at hinvariant
      cases why with
      | refused e => exact hinvariant.1.toWindingDown
      | _ => exact hinvariant.1
    cases hservice : s.service with
    | running => exact absurd hservice he.service
    | stopped =>
      obtain ⟨ms, hms, hfollow⟩ := exists_follow_of_stopped hs hservice reply
      exact ⟨ms, hms.cons _, hfollow⟩
    | draining =>
      obtain ⟨⟨t, ns⟩, hover⟩ : ∃ x, s.overrun = some x := by
        rw [overrun, if_pos hservice]
        exact ⟨_, rfl⟩
      have hrest : t.service = .stopped ∧ t.stage = s.stage := by
        cases WindingDown.windDownStep_of_overrun hover with
        | overran => exact ⟨rfl, rfl⟩
        | errand hm => cases hm
        | attended _ _ hm => cases hm
      obtain ⟨ms, hms, more, s', r, hfollow, hreturned⟩ :=
        exists_follow_of_stopped (hrest.2.trans hs) hrest.1 reply
      have hfirst : s.step .overrun = some (t, ns) := hover
      refine ⟨.overrun :: ms, hms.cons_cons _, ⟨s, .overrun, ns⟩ :: more, s', r, ?_, hreturned⟩
      simp [Session.follow, hfirst, hfollow]
  · refine ⟨[.released reply], ((List.Sublist.refl _).cons _).cons _, ?_⟩
    simp [Session.follow, step, Session.released, hs]

/-- A session that returns that time was up has fewer reports than requests, one for each request of
which it took any; or the reservation `Answered` with such an error. -/
theorem timedOut_of_concluded {r : Except LabError (List Report)} {completed expected : Nat}
    (hc : Concluded requests h s r)
    (hr : r = .error (LabError.sessionTimeout completed expected)) :
    Answered h (.sessionTimeout completed expected) ∨
      completed < expected ∧ expected = requests.length ∧
        completed =
          (requests.filter fun q ↦ (collectedIn h).any (·.request.id = q.id)).length := by
  cases hc with
  | idle | invalid => cases hr
  | refused hd =>
    obtain rfl := Except.error.inj hr
    exact .inl (answered_of_mem (.inl (by rw [hd]; exact List.mem_cons_self)))
  | @released why reply hd hreason =>
    cases why with
    | refused e => exact hreason.elim
    | starved => cases hr
    | timedOut =>
      obtain ⟨rfl, hnodup, hcollected, hleft⟩ := hreason
      obtain ⟨rfl, rfl⟩ := LabError.sessionTimeout.inj (Except.error.inj hr)
      exact .inr ⟨hleft, rfl, hcollected.length_eq hnodup⟩
    | resolved =>
      cases reply with
      | ok => cases hr
      | error e =>
        obtain rfl := Except.error.inj hr
        refine .inl (answered_of_mem (.inr ?_))
        rw [hd]
        simp

/-- The `exchanges` of a session with its reservation keep to one of two scripts, and the first is
that of a session that hired nobody and returns why the claim was refused. -/
theorem TeardownInvariant.script {st : Stage} (hr : TeardownInvariant requests h s st) :
    (∃ e, exchanges h = [.refused e] ∧ s.workers = [] ∧
      (st = .draining (.refused e) ∨ st = .returned (.error e))) ∨
    ∃ reply, exchanges h <+: [.granted, .release, .answered reply] := by
  have hnil : h = [] → ∃ reply, exchanges h <+: [.granted, .release, .answered reply] := by
    rintro rfl
    exact ⟨.ok (), List.nil_prefix⟩
  cases st with
  | off | aborted => exact hr.elim
  | claiming => exact .inr (hnil hr)
  | collecting =>
    have hd : exchanges h = [.granted] := hr
    exact .inr ⟨.ok (), [.release, .answered (.ok ())], by rw [hd]; rfl⟩
  | draining why =>
    cases why with
    | refused e => exact .inl ⟨e, hr.2.2, hr.2.1, .inl rfl⟩
    | _ => exact .inr ⟨.ok (), [.release, .answered (.ok ())], by rw [hr.2.2]; rfl⟩
  | releasing why => exact .inr ⟨.ok (), [.answered (.ok ())], by rw [hr.2.2]; rfl⟩
  | returned r =>
    cases hr.2 with
    | idle hh => exact .inr (hnil hh)
    | invalid hh => exact .inr (hnil hh)
    | refused hd hw => exact .inl ⟨_, hd, hw, .inr rfl⟩
    | released hd => exact .inr ⟨_, [], by rw [hd]; rfl⟩
  | panicked => exact .inr (hnil hr.2)

/-- **A session is torn down in order, however it ends.** Without requests it returns at once, and
so it does, with an error, if requests share an identifier: it claims nothing and no move is ever
made. What passes between the session and its reservation are its `exchanges`. If the claim is
refused, it hires nobody, never asks for a release, and returns why. If the claim is granted, it
asks for the release once, when every worker is over.

Once a session is wound up it can come to its end, whatever the reservation answers. When it has
returned, no move is possible any more, and a reservation that was granted has answered to the
release. A session that returns that time was up has collected reports of fewer requests than it
has, and tells of how many; unless it was the reservation that `Answered` so. -/
theorem Course.tears_down (hc : Course (call capacity requests).1 h s) :
    (requests = [] → h = [] ∧ (call capacity requests).2 = [] ∧ s.workers = [] ∧
      s.stage = .returned (.ok [])) ∧
    (¬(requests.map (·.id)).Nodup → h = [] ∧ (call capacity requests).2 = [] ∧ s.workers = [] ∧
      ∃ r ∈ requests, s.stage =
        .returned (.error (.invalidRequest ("duplicate request id " ++ r.id.text)))) ∧
    (∀ e, .refused e ∈ exchanges h → exchanges h = [.refused e] ∧ s.workers = [] ∧
      (s.stage = .draining (.refused e) ∨ s.stage = .returned (.error e))) ∧
    (.granted ∈ exchanges h → ∃ reply, exchanges h <+: [.granted, .release, .answered reply]) ∧
    (∀ t ∈ h, .release ∈ t.exchanges → ∀ x ∈ t.before.workers, x.worker.isOver = true) ∧
    (∀ why, s.stage = .draining why ∨ s.stage = .releasing why → ∀ reply, ∃ ms : List Move,
      ms.Sublist [.overrun, .drained, .released reply] ∧
        ∃ more s' r, s.follow ms = some (more, s') ∧ s'.stage = .returned r) ∧
    ∀ r, s.stage = .returned r →
      (∀ m, s.step m = none) ∧ (∀ x ∈ s.workers, x.worker.isOver = true) ∧
      (.granted ∈ exchanges h → ∃ why reply,
        exchanges h = [.granted, .release, .answered reply] ∧ r = (s.result why reply).1) ∧
      ∀ completed expected, r = .error (LabError.sessionTimeout completed expected) →
        Answered h (.sessionTimeout completed expected) ∨
          completed < expected ∧ expected = requests.length ∧
            completed =
              (requests.filter fun q ↦ (collectedIn h).any (·.request.id = q.id)).length := by
  have hinvariant := hc.teardownInvariant
  refine ⟨?_, ?_, ?_, ?_, hc.isOver_of_release, ?_, ?_⟩
  · rintro rfl
    obtain ⟨rfl, c, rfl⟩ := Course.eq_nil_of_answered hc
    exact ⟨rfl, rfl, rfl, rfl⟩
  · intro hshared
    rcases call_eq capacity requests with ⟨rfl, -⟩ | ⟨-, r, hr, heq⟩ | ⟨-, hd, -⟩ | ⟨-, hd, -⟩
    · exact absurd List.nodup_nil hshared
    · rw [heq] at hc ⊢
      obtain ⟨rfl, c, rfl⟩ := Course.eq_nil_of_answered hc
      exact ⟨rfl, rfl, rfl, r, hr, rfl⟩
    · exact absurd hd hshared
    · exact absurd hd hshared
  · intro e he
    rcases hinvariant.script with ⟨e', hd, hnone, hstage⟩ | ⟨reply, hprefix⟩
    · rw [hd, List.mem_singleton] at he
      obtain rfl := Exchange.refused.inj he
      exact ⟨hd, hnone, hstage⟩
    · simpa using hprefix.subset he
  · intro hg
    rcases hinvariant.script with ⟨e, hd, -⟩ | hscript
    · simp [hd] at hg
    · exact hscript
  · intro why hs reply
    exact hc.exists_follow_of_draining hs reply
  · intro r hs
    rw [hs] at hinvariant
    obtain ⟨hstill, hconcluded⟩ := hinvariant
    refine ⟨?_, hstill.stopped hstill.rest, fun hg ↦ ?_, fun completed expected hr ↦ ?_⟩
    · exact hstill.step_eq_none (by simp [hs]) (by simp [hs]) (by simp [hs]) (by simp [hs])
    · cases hconcluded with
      | idle hh => simp [hh, exchanges] at hg
      | invalid hh => simp [hh, exchanges] at hg
      | refused hd => simp [hd] at hg
      | released hd => exact ⟨_, _, hd, rfl⟩
    · exact timedOut_of_concluded hconcluded hr

/-- Time is up while a device runs its test: its worker is stopped before the release, the session
returns that none of its one request is resolved, and nothing can happen any more. -/
theorem tears_down_timed_out :
    ∃ (h : List Turn) (s : Session) (reply : Except LabError Unit),
      Course (call 1 [sampleRequest 1]).1 h s ∧
        s.stage = .returned (.error (.sessionTimeout 0 1)) ∧
        exchanges h = [.granted, .release, .answered reply] ∧ s.workers.length = 1 ∧
        (∀ x ∈ s.workers, x.worker.isOver = true) ∧ (∀ m, s.step m = none) ∧
        ([sampleRequest 1].filter fun q ↦ (collectedIn h).any (·.request.id = q.id)).length =
          0 := by
  obtain ⟨h, s, hfollow⟩ : ∃ h s, (sample 1).follow
      (sampleMoves ++ [.expire, .overrun, .drained, .released (.ok ())]) = some (h, s) :=
    ⟨_, _, rfl⟩
  have hc : Course _ h s := (course_sample 1).follow _ hfollow
  have hstage : s.stage = .returned (.error (.sessionTimeout 0 1)) := by
    cases hfollow
    rfl
  have hcrew : s.workers.length = 1 := by
    cases hfollow
    rfl
  have hgranted : .granted ∈ exchanges h := by
    cases hfollow
    exact List.mem_cons_self
  have hanswered : ¬Answered h (.sessionTimeout 0 1) := by
    cases hfollow
    simp [Answered]
  obtain ⟨-, -, -, -, -, -, hreturned⟩ := hc.tears_down
  obtain ⟨hstuck, hover, hreleased, htimeout⟩ := hreturned _ hstage
  obtain ⟨-, reply, hd, -⟩ := hreleased hgranted
  obtain hans | ⟨-, -, hcount⟩ := htimeout 0 1 rfl
  · exact absurd hans hanswered
  · exact ⟨h, s, reply, hc, hstage, hd, hcrew, hover, hstuck, hcount.symm⟩

end Session

end DeviceLab
