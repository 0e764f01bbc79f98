import DeviceLab.Proofs.Session.Moves
import DeviceLab.Proofs.Session.Tally

/-!
# From stage to stage

Only moves of the caller change the stage of a session (`stage_of_step`), and `StageChange` lists
how. With it a course from a call is followed up to the winding down.

* `Course.claiming`: a session that claims its reservation is as it was called, apart from the
  stream.
* `Course.wired`: a session that collects is at work. This rests on `Wired.of_working`, and on
  nothing that is known of attempts.
* `Course.atWork`: it keeps its books as well. This rests on `Kept.working`, and so on distinct
  identifiers of intentions.

`call_eq` says what comes of a call before any move is made; `nodup_of_duplicate?` is where distinct
identifiers of requests come from.
-/

namespace DeviceLab

namespace Session

variable {h : List Turn} {s s' : Session} {m : Move} {ns : List Notice}

/-! ### What leaves the stage alone -/

@[simp] theorem hush_stage (s : Session) : s.hush.stage = s.stage := by
  rw [hush]
  split <;> rfl

@[simp] theorem setWorker_stage (s : Session) (n : Nat) (w : Worker) :
    (s.setWorker n w).stage = s.stage :=
  hush_stage _

@[simp] theorem finishDrain_stage (s : Session) : s.finishDrain.1.stage = s.stage := by
  rw [finishDrain]
  split <;> rfl

@[simp] theorem letOut_stage (s : Session) (r : Scheduler × Scheduler.Output) :
    (s.letOut r).1.stage = s.stage := by
  rw [letOut]
  cases r.1 <;> rfl

@[simp] theorem publish_stage (time : UInt64) (s : Session) (n : Notice) :
    (publish time s n).stage = s.stage := by
  unfold publish
  split <;> rfl

@[simp] theorem foldl_publish_stage (time : UInt64) (s : Session) (ns : List Notice) :
    (ns.foldl (publish time) s).stage = s.stage := by
  induction ns generalizing s with
  | nil => rfl
  | cons n ns ih => rw [List.foldl_cons, ih, publish_stage]

/-- A move of the caller: it may change the stage. -/
def Move.isCaller : Move → Bool
  | .claimed _ | .collect | .expire | .drained | .released _ => true
  | _ => false

theorem stage_of_some {x : Session × List Notice} (hx : x.1.stage = s.stage)
    (hs : some x = some (s', ns)) : s'.stage = s.stage := by
  rw [Option.some.inj hs] at hx
  exact hx

theorem forwarded_stage (s : Session) (x : SendResult × Router) :
    (s.forwarded x).1.stage = s.stage := by
  obtain ⟨- | - | -, r⟩ := x <;> rfl

theorem seek_stage {n : Nat} (hs : s.seek n = some (s', ns)) : s'.stage = s.stage := by
  obtain ⟨x, state, -, -, -, hs⟩ := Wired.seek_cases hs
  rcases hask : (s.router.dropTake n).ask n state with ⟨i | _ | _, r⟩
  all_goals rw [hask] at hs
  · exact stage_of_some (setWorker_stage ..) hs.symm
  · exact stage_of_some (setWorker_stage ..) hs.symm
  · exact stage_of_some rfl hs.symm

theorem answer_stage {n : Nat} {time : UInt64} {reply : Reply}
    (hs : s.answer n time reply = some (s', ns)) : s'.stage = s.stage := by
  simp only [answer, Option.bind_eq_bind, Option.bind_eq_some_iff] at hs
  obtain ⟨x, -, w, -, hs⟩ := hs
  refine stage_of_some ?_ hs
  rw [setWorker_stage, foldl_publish_stage]

theorem join_stage {n : Nat} (hs : s.join n = some (s', ns)) : s'.stage = s.stage := by
  simp only [join, Option.bind_eq_bind, Option.bind_eq_some_iff] at hs
  obtain ⟨-, -, x, -, -, -, hs⟩ := hs
  refine stage_of_some ?_ hs
  exact finishDrain_stage _

theorem overrun_stage (hs : s.overrun = some (s', ns)) : s'.stage = s.stage := by
  rw [overrun] at hs
  split at hs
  · refine stage_of_some (x := (s.abortWorkers.finishDrain.1, _)) ?_ hs
    exact (finishDrain_stage _).trans (hush_stage _)
  · cases hs

/-- The moves of all others leave the stage alone. -/
theorem stage_of_step (hm : m.isCaller = false) (hs : s.step m = some (s', ns)) :
    s'.stage = s.stage := by
  cases m with
  | claimed | collect | expire | drained | released => cases hm
  | seek => exact seek_stage hs
  | answer => exact answer_stage hs
  | join => exact join_stage hs
  | overrun => exact overrun_stage hs
  | forward =>
    rw [step, forward] at hs
    split at hs
    · cases hs
    · split at hs
      · exact stage_of_some (by rw [forwarded_stage]) hs
      · split at hs
        · cases hs
        · exact stage_of_some rfl hs
    · obtain ⟨x, -, hx⟩ := Option.map_eq_some_iff.1 hs
      exact stage_of_some (forwarded_stage ..) (congrArg some hx)
  | schedule | takeAttempt | takeResult | handOn | enlist | closeIntake | takeCoordinate | deliver
    | heed | removed =>
    -- Each of these branches on what it finds, and every branch leaves the stage alone.
    simp only [step, schedule, takeAttempt, takeResult, handOn, enlist, closeIntake, takeCoordinate,
      deliver, heed, removed] at hs
    repeat' split at hs
    all_goals first
      | cases hs; done
      | exact stage_of_some rfl hs
      | exact stage_of_some (by rw [letOut_stage]) hs
      | exact stage_of_some (hush_stage _) hs

/-! ### What the caller does -/

/-- Only a session that claims its reservation is answered to its claim. -/
theorem step_claimed_eq_none {reply : Except LabError Unit} (hs : s.stage ≠ .claiming) :
    s.step (.claimed reply) = none := by
  rw [step, Session.claimed.eq_def]
  split
  · next hstage => exact absurd hstage hs
  · rfl

/-- Only a session that collects takes reports. -/
theorem step_collect_eq_none (hs : s.stage ≠ .collecting) : s.step .collect = none := by
  rw [step, collect]
  split
  · next hstage => exact absurd hstage hs
  · rfl

/-- Only a session that collects runs out of time. -/
theorem step_expire_eq_none (hs : s.stage ≠ .collecting) : s.step .expire = none := by
  rw [step, expire]
  split
  · next hstage => exact absurd hstage hs
  · rfl

/-- What becomes of the stage of a session in a move (`stageChange_of_step`). -/
inductive StageChange (s : Session) : Move → Session.Stage → Prop
  | same {m : Move} : StageChange s m s.stage
  | claimed (hs : s.stage = .claiming) : StageChange s (.claimed (.ok ())) .collecting
  | refused {e : LabError} (hs : s.stage = .claiming) :
      StageChange s (.claimed (.error e)) (.draining (.refused e))
  | resolved (hs : s.stage = .collecting) : StageChange s .collect (.draining .resolved)
  | starved (hs : s.stage = .collecting) : StageChange s .collect (.draining .starved)
  | expired (hs : s.stage = .collecting) : StageChange s .expire (.draining .timedOut)
  | denied {e : LabError} (hs : s.stage = .draining (.refused e)) :
      StageChange s .drained (.returned (.error e))
  | drained {why : Ending} (hs : s.stage = .draining why) : StageChange s .drained (.releasing why)
  | released {why : Ending} {reply : Except LabError Unit} (hs : s.stage = .releasing why) :
      StageChange s (.released reply) (.returned (s.result why reply).1)

theorem stageChange_of_step (hs : s.step m = some (s', ns)) : StageChange s m s'.stage := by
  by_cases hm : m.isCaller = false
  · rw [stage_of_step hm hs]
    exact .same
  cases m with
  | claimed reply =>
    rw [step, Session.claimed.eq_def] at hs
    split at hs
    case h_2 => cases hs
    case h_1 hstage =>
    cases reply with
    | ok u =>
      rw [(Prod.mk.inj (Option.some.inj hs).symm).1]
      exact .claimed hstage
    | error e =>
      rw [(Prod.mk.inj (Option.some.inj hs).symm).1]
      exact .refused hstage
  | collect =>
    have hstage : s.stage = .collecting := by
      rw [step, Session.collect] at hs
      split at hs
      · assumption
      · cases hs
    rcases Wired.collect_cases hstage hs with ⟨r, rest, -, ⟨-, heq⟩ | ⟨-, heq⟩⟩ | ⟨-, -, heq⟩
    · rw [(Prod.mk.inj heq).1]
      exact .same
    · rw [(Prod.mk.inj heq).1]
      exact .resolved hstage
    · rw [(Prod.mk.inj heq).1]
      exact .starved hstage
  | expire =>
    rw [step, Session.expire] at hs
    split at hs
    · next hstage =>
      rw [(Prod.mk.inj (Option.some.inj hs).symm).1]
      exact .expired hstage
    · cases hs
  | drained =>
    rw [step, Session.drained] at hs
    split at hs
    · next hstage _ =>
      rw [(Prod.mk.inj (Option.some.inj hs).symm).1]
      exact .denied hstage
    · next hstage _ =>
      rw [(Prod.mk.inj (Option.some.inj hs).symm).1]
      exact .drained hstage
    · cases hs
  | released reply =>
    rw [step, Session.released] at hs
    split at hs
    · next hstage =>
      rw [(Prod.mk.inj (Option.some.inj hs).symm).1]
      exact .released hstage
    · cases hs
  | _ => exact (hm rfl).elim

theorem StageChange.before_claiming {st : Stage} (h : StageChange s m st) (hst : st = .claiming) :
    s.stage = .claiming := by
  cases h with
  | same => exact hst
  | _ => cases hst

theorem StageChange.before_collecting {st : Stage} (h : StageChange s m st)
    (hst : st = .collecting) :
    s.stage = .collecting ∨ (s.stage = .claiming ∧ m = .claimed (.ok ())) := by
  cases h with
  | same => exact .inl hst
  | claimed hs => exact .inr ⟨hs, rfl⟩
  | _ => cases hst

/-! ### From the call to the claim -/

variable {capacity : Nat} {requests : List Request}

/-- A session whose service was started for a call. -/
def opened (capacity : Nat) (requests : List Request) : Session :=
  (startService { requests, capacity, stage := .claiming }).1

/-- Without a duplicate the identifiers of requests are distinct. -/
theorem nodup_of_duplicate? (h : duplicate? requests = none) : (requests.map (·.id)).Nodup := by
  suffices hgo : ∀ (rs : List Request) (seen : List Uuid), duplicate?.go seen rs = none →
      (∀ r ∈ rs, r.id ∉ seen) ∧ (rs.map (·.id)).Nodup from (hgo requests [] h).2
  intro rs
  induction rs with
  | nil => exact fun _ _ ↦ ⟨List.forall_mem_nil _, List.nodup_nil⟩
  | cons r rs ih =>
    intro seen hnone
    rw [duplicate?.go] at hnone
    split at hnone
    · cases hnone
    · next hr =>
      obtain ⟨hnot, hd⟩ := ih _ hnone
      refine ⟨?_, ?_⟩
      · intro r' hr'
        rcases List.mem_cons.1 hr' with rfl | hr'
        · exact hr
        · exact fun hseen ↦ hnot r' hr' (List.mem_cons_of_mem _ hseen)
      · rw [List.map_cons, List.nodup_cons]
        refine ⟨fun hmem ↦ ?_, hd⟩
        obtain ⟨r', hr', hid⟩ := List.mem_map.1 hmem
        exact hnot r' hr' (hid ▸ List.mem_cons_self ..)

/-- A request that has the identifier of an earlier one is one of the requests. -/
theorem not_nodup_of_duplicate? {r : Request} (h : duplicate? requests = some r) :
    r ∈ requests ∧ ¬(requests.map (·.id)).Nodup := by
  suffices hgo : ∀ (rs : List Request) (seen : List Uuid), duplicate?.go seen rs = some r →
      r ∈ rs ∧ ((rs.map (·.id)).Nodup → r.id ∈ seen) by
    obtain ⟨hr, hd⟩ := hgo requests [] h
    exact ⟨hr, fun hnodup ↦ List.not_mem_nil (hd hnodup)⟩
  intro rs
  induction rs with
  | nil => exact fun _ h ↦ by cases h
  | cons q rs ih =>
    intro seen hsome
    rw [duplicate?.go] at hsome
    split at hsome
    · next hq =>
      obtain rfl := Option.some.inj hsome
      exact ⟨List.mem_cons_self, fun _ ↦ hq⟩
    · obtain ⟨hr, hd⟩ := ih _ hsome
      refine ⟨List.mem_cons_of_mem q hr, fun hnodup ↦ ?_⟩
      rw [List.map_cons, List.nodup_cons] at hnodup
      rcases List.mem_cons.1 (hd hnodup.2) with heq | hseen
      · exact absurd (List.mem_map.2 ⟨r, hr, heq⟩) hnodup.1
      · exact hseen

/-- What comes of a call. -/
theorem call_eq (capacity : Nat) (requests : List Request) :
    (requests = [] ∧ call capacity requests = ({ stage := .returned (.ok []) }, [])) ∨
    (¬(requests.map (·.id)).Nodup ∧ ∃ r ∈ requests, call capacity requests =
      ({ requests, stage :=
          .returned (.error (.invalidRequest ("duplicate request id " ++ r.id.text))) }, [])) ∨
    (requests ≠ [] ∧ (requests.map (·.id)).Nodup ∧
      (call capacity requests).1 = { requests, stage := .panicked }) ∨
    (requests ≠ [] ∧ (requests.map (·.id)).Nodup ∧ 0 < capacity ∧
      (call capacity requests).1 = opened capacity requests) := by
  by_cases hnil : requests = []
  · subst hnil
    exact .inl ⟨rfl, rfl⟩
  have hne : requests.isEmpty = false := List.isEmpty_eq_false_iff.2 hnil
  refine .inr ?_
  cases hdup : duplicate? requests with
  | some r =>
    obtain ⟨hr, hd⟩ := not_nodup_of_duplicate? hdup
    exact .inl ⟨hd, r, hr, by simp [call, hne, hdup]⟩
  | none =>
    have hd := nodup_of_duplicate? hdup
    by_cases hhold : Channel.canHold capacity = true
    · refine .inr (.inr ⟨hnil, hd, ?_, by simp [call, hne, hdup, hhold, opened]⟩)
      rw [Channel.canHold, Bool.and_eq_true] at hhold
      exact of_decide_eq_true hhold.1
    · exact .inr (.inl ⟨hnil, hd, by simp [call, hne, hdup, hhold]⟩)

/-- A call is answered at once or claims a reservation (`opened`). -/
theorem call_cases (capacity : Nat) (requests : List Request) :
    (requests = [] ∧ (call capacity requests).1.stage = .returned (.ok [])) ∨
    (∃ m, (call capacity requests).1.stage = .returned (.error (.invalidRequest m))) ∨
    (call capacity requests).1.stage = .panicked ∨
    (requests ≠ [] ∧ (requests.map (·.id)).Nodup ∧ 0 < capacity ∧
      (call capacity requests).1 = opened capacity requests) := by
  rcases call_eq capacity requests with ⟨hnil, heq⟩ | ⟨-, r, -, heq⟩ | ⟨-, -, heq⟩ | hopened
  · exact .inl ⟨hnil, by rw [heq]⟩
  · exact .inr (.inl ⟨_, by rw [heq]⟩)
  · exact .inr (.inr (.inl (by rw [heq])))
  · exact .inr (.inr (.inr hopened))

/-- A session that was just `opened` waits for the answer of the reservation. -/
theorem claimed_of_step_opened {c : Channel Coordinate}
    (hs : step { opened capacity requests with stream := c } m = some (s', ns)) :
    ∃ reply, m = .claimed reply := by
  cases m with
  | claimed reply => exact ⟨reply, rfl⟩
  | _ =>
    simp [step, schedule, takeAttempt, takeResult, handOn, forward, enlist, closeIntake, seek,
      answer, takeCoordinate, deliver, heed, removed, collect, expire, join, overrun, drained,
      released, opened, startService, Channel.bounded, Channel.drained] at hs

/-- **A session that claims is as it was called** (`opened`), whatever the stream. -/
theorem Course.claiming (hc : Course (call capacity requests).1 h s) (hs : s.stage = .claiming) :
    h = [] ∧ requests ≠ [] ∧ (requests.map (·.id)).Nodup ∧ 0 < capacity ∧
      ∃ c, s = { opened capacity requests with stream := c } := by
  -- Any move of a session that claims is the answer of the reservation, which ends the claiming.
  induction hc with
  | start =>
    rcases call_cases capacity requests with ⟨-, h⟩ | ⟨e, h⟩ | h | ⟨hnil, hd, hpos, h⟩
    · rw [h] at hs; cases hs
    · rw [h] at hs; cases hs
    · rw [h] at hs; cases hs
    · exact ⟨rfl, hnil, hd, hpos, _, h⟩
  | @turn h s s' ns m hc hstep ih =>
    exfalso
    obtain ⟨-, -, -, -, c, rfl⟩ := ih ((stageChange_of_step hstep).before_claiming hs)
    obtain ⟨reply, rfl⟩ := claimed_of_step_opened hstep
    cases reply with
    | ok =>
      rw [(Prod.mk.inj (Option.some.inj hstep).symm).1] at hs
      cases hs
    | error =>
      rw [(Prod.mk.inj (Option.some.inj hstep).symm).1] at hs
      cases hs
  | feed c hc ih =>
    obtain ⟨hh, hnil, hd, hpos, c', rfl⟩ := ih hs
    exact ⟨hh, hnil, hd, hpos, c, rfl⟩

/-! ### At work -/

/-- A session that was opened and whose claim is granted is at work (`Wired`), with `Blank`
books. -/
theorem atWork_of_claimed {c : Channel Coordinate} (hnil : requests ≠ [])
    (hd : (requests.map (·.id)).Nodup)
    (hs : step { opened capacity requests with stream := c } (.claimed (.ok ())) =
      some (s', ns)) :
    s'.requests = requests ∧ s'.Wired ∧
      Kept [⟨{ opened capacity requests with stream := c }, .claimed (.ok ()), ns⟩] s' := by
  obtain ⟨rfl, rfl⟩ := Prod.mk.inj (Option.some.inj hs).symm
  have hpos : 0 < requests.length := List.length_pos_iff.2 hnil
  refine ⟨rfl, ?_, .blank rfl ⟨rfl, rfl, rfl, rfl, rfl, rfl, rfl⟩⟩
  exact { stage := rfl
          service := rfl
          intake := rfl
          watcher := Watcher.noConfusion
          client := Client.Stage.noConfusion
          attempts_receiving := rfl
          attempts_sending := fun h ↦ by cases h
          attempts_open := fun h ↦ by cases h
          outcomes_sending := rfl
          outcomes_receiving := fun _ ↦ rfl
          reports_receiving := rfl
          reports_sending := fun h ↦ by cases h
          intentions_sending := rfl
          intentions_receiving := rfl
          intentions_capacity := rfl
          results_sending := rfl
          results_receiving := rfl
          devices_sending := rfl
          signals_sending := rfl
          router_open := rfl
          router_capacity := rfl
          forwarder := .inl ⟨rfl, rfl⟩
          submitting := fun rs hrs ↦ (Scheduler.submitting.inj hrs).symm
          requests_distinct := hd
          requests_left := hpos }

/-- **A session that collects is at work** (`Wired`). -/
theorem Course.wired (hc : Course (call capacity requests).1 h s) (hs : s.stage = .collecting) :
    s.requests = requests ∧ s.Wired := by
  induction hc with
  | start =>
    rcases call_cases capacity requests with ⟨-, h⟩ | ⟨e, h⟩ | h | ⟨-, -, -, h⟩
    all_goals rw [h] at hs; cases hs
  | @turn h s s' ns m hc hstep ih =>
    -- It was at work before, or its claim is granted in this turn.
    rcases (stageChange_of_step hstep).before_collecting hs with hbefore | ⟨hbefore, rfl⟩
    · obtain ⟨hreq, hw⟩ := ih hbefore
      have hwk := hw.working_of_step hstep hs
      exact ⟨hwk.requests_eq.trans hreq, hw.of_working hwk⟩
    · obtain ⟨rfl, hnil, hdistinct, -, c, rfl⟩ := hc.claiming hbefore
      obtain ⟨hreq, hw, -⟩ := atWork_of_claimed hnil hdistinct hstep
      exact ⟨hreq, hw⟩
  | feed c hc ih =>
    obtain ⟨hreq, hw⟩ := ih hs
    exact ⟨hreq, { hw with }⟩

/-- **A session that collects is at work and keeps its books** (`Kept`). -/
theorem Course.atWork (hc : Course (call capacity requests).1 h s)
    (hd : ((drawn h).map (·.1)).Nodup) (hs : s.stage = .collecting) :
    s.requests = requests ∧ s.Wired ∧ Kept h s := by
  obtain ⟨hreq, hw⟩ := hc.wired hs
  refine ⟨hreq, hw, ?_⟩
  clear hreq hw
  induction hc with
  | start =>
    rcases call_cases capacity requests with ⟨-, h⟩ | ⟨e, h⟩ | h | ⟨-, -, -, h⟩
    all_goals rw [h] at hs; cases hs
  | @turn h s s' ns m hc hstep ih =>
    rcases (stageChange_of_step hstep).before_collecting hs with hbefore | ⟨hbefore, rfl⟩
    · obtain ⟨-, hw⟩ := hc.wired hbefore
      exact (ih (nodup_of_append hd) hbefore).working hw hd (hw.working_of_step hstep hs)
    · obtain ⟨rfl, hnil, hdistinct, -, c, rfl⟩ := hc.claiming hbefore
      exact (atWork_of_claimed hnil hdistinct hstep).2.2
  | feed c hc ih =>
    cases ih hd hs with
    | blank hs hb => exact .blank hs hb
    | sound hs hb => exact .sound hs hb

end Session

end DeviceLab
