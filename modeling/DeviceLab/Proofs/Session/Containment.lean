import DeviceLab.Proofs.Distinct
import DeviceLab.Proofs.Session.Crew
import DeviceLab.Proofs.Worker.Containment

/-!
# What panics can do to a session

The turns of a session tell what each worker took (`takenOf`), what it answered (`answeredOf`), and
what it lost (`lostOf`). A worker loses the intention in its hands if the question for the health of
its device panics (`panicsOf`), or if time is up; no other panic reaches beyond the command that it
is a panic of.

* `Course.record` keeps account of that: at any time, what a worker took is what it answered, what
  it lost, and what it holds, in this order (`Record`). It is proved turn by turn (`Tells`), from
  `workerChange_of_step` and from what an answer does to the intention that is held
  (`Worker.Resumed.held`).
* `Record.meets_iff` is about workers that came to their end by themselves. They did what they owe,
  to answer every intention and to leave with their last notices, exactly if that one question never
  panicked. It rests on `Worker.Course.finalNotices`.
* `getsOn` is about workers that did not: they can always go on (`GetsOn`).

`Course.contains_panics_iff` puts these together, and `loses_intention_of_status_panic` is the
course in which the question does panic.
-/

namespace DeviceLab

namespace Session

/-! ### What the turns tell about one worker -/

/-- The intentions that a worker took. -/
def takenOf (n : Nat) (h : List Turn) : List Intention :=
  valuesOf n (received h)

/-- The results that a worker reported. -/
def answeredOf (n : Nat) (h : List Turn) : List IntentionResult :=
  valuesOf n (reported h)

/-- What a worker reports in a turn. -/
def Turn.noticesOf (n : Nat) (t : Turn) : List Notice :=
  if t.move.worker? = some n then t.notices else []

/-- All that a worker reported. -/
def noticesOf (n : Nat) (h : List Turn) : List Notice :=
  h.flatMap (Turn.noticesOf n)

/-- The panic of a turn in which a worker had asked for the health of its device. -/
def Turn.panicsOf (n : Nat) (t : Turn) : List (Option String) :=
  match t.move with
  | .answer k _ reply => if k = n then reply.crash?.toList else []
  | _ => []

/-- The panics (`Turn.panicsOf`) that came when a worker had asked for the health of its device. -/
def panicsOf (n : Nat) (h : List Turn) : List (Option String) :=
  h.flatMap (Turn.panicsOf n)

/-- The intention that a worker loses in a turn: by such a panic, or because time is up. -/
def Turn.lostOf (n : Nat) (t : Turn) : List Intention :=
  let held := (t.before.crew[n]?.bind (·.holding?)).toList
  match t.move with
  | .answer k _ reply => if k = n ∧ reply.crash?.isSome = true then held else []
  | .overrun => held
  | _ => []

/-- The intentions that a worker lost. -/
def lostOf (n : Nat) (h : List Turn) : List Intention :=
  h.flatMap (Turn.lostOf n)

variable {first s s' : Session} {h : List Turn} {t : Turn} {m : Move} {ns : List Notice} {n : Nat}
  {w : Worker}

section Append

variable (n : Nat) (h : List Turn) (t : Turn)

theorem takenOf_append_singleton :
    takenOf n (h ++ [t]) = takenOf n h ++ valuesOf n t.received := by
  rw [takenOf, received_append_singleton, valuesOf_append, takenOf]

theorem answeredOf_append_singleton :
    answeredOf n (h ++ [t]) = answeredOf n h ++ valuesOf n t.reported := by
  rw [answeredOf, reported_append_singleton, valuesOf_append, answeredOf]

theorem noticesOf_append_singleton :
    noticesOf n (h ++ [t]) = noticesOf n h ++ t.noticesOf n := by
  rw [noticesOf, List.flatMap_append, List.flatMap_singleton, noticesOf]

theorem panicsOf_append_singleton : panicsOf n (h ++ [t]) = panicsOf n h ++ t.panicsOf n := by
  rw [panicsOf, List.flatMap_append, List.flatMap_singleton, panicsOf]

theorem lostOf_append_singleton : lostOf n (h ++ [t]) = lostOf n h ++ t.lostOf n := by
  rw [lostOf, List.flatMap_append, List.flatMap_singleton, lostOf]

end Append

/-! ### Turns of one worker and of others -/

/-- What a turn tells about a worker: the values of `noticesOf`, `received`, `reported`, `panicsOf`
and `lostOf` for its number. -/
structure Tells (n : Nat) (t : Turn) (notices : List Notice) (taken : List Intention)
    (answered : List IntentionResult) (panics : List (Option String)) (lost : List Intention) :
    Prop where
  notices : t.noticesOf n = notices
  taken : valuesOf n t.received = taken
  answered : valuesOf n t.reported = answered
  panics : t.panicsOf n = panics
  lost : t.lostOf n = lost

/-- A turn that does not concern a worker tells nothing about it (`Tells`). -/
theorem tells_of_apart (hm : m.worker? ≠ some n) (ho : m ≠ .overrun) :
    Tells n ⟨s, m, ns⟩ [] [] [] [] [] := by
  cases m with
  | overrun => exact absurd rfl ho
  | seek k =>
    have hk : k ≠ n := fun he ↦ hm (congrArg some he)
    exact ⟨if_neg hm, valuesOf_map_of_ne hk _, rfl, rfl, rfl⟩
  | answer k time reply =>
    have hk : k ≠ n := fun he ↦ hm (congrArg some he)
    exact ⟨if_neg hm, valuesOf_map_of_ne hk _, valuesOf_map_of_ne hk _, if_neg hk,
      if_neg fun he ↦ hk he.1⟩
  | _ => exact ⟨rfl, rfl, rfl, rfl, rfl⟩

/-- A worker that asks the router may take something. -/
theorem tells_of_seek : Tells n ⟨s, .seek n, ns⟩ ns (ns.filterMap Notice.received?) [] [] [] :=
  ⟨if_pos rfl, valuesOf_map_self n _, rfl, rfl, rfl⟩

/-- A worker whose device answers may take or answer something, and may lose what it holds. -/
theorem tells_of_answer (hw : s.crew[n]? = some w) (time : UInt64) (reply : Reply) :
    Tells n ⟨s, .answer n time reply, ns⟩ ns (ns.filterMap Notice.received?)
      (ns.filterMap (Notice.result? time)) reply.crash?.toList
      (if reply.crash?.isSome = true then w.holding?.toList else []) := by
  refine ⟨if_pos rfl, valuesOf_map_self n _, valuesOf_map_self n _, if_pos rfl, ?_⟩
  simp only [Turn.lostOf, hw, Option.bind_some, true_and]

/-- A worker that is stopped loses what it holds. -/
theorem tells_of_overrun {w : Option Worker} (hw : s.crew[n]? = w) (ns : List Notice) :
    Tells n ⟨s, .overrun, ns⟩ [] [] [] [] (w.bind (·.holding?)).toList := by
  subst hw
  exact ⟨rfl, rfl, rfl, rfl, rfl⟩

/-! ### Records -/

/-- The record of a worker: the turns tell its `Worker.Course`, and what it took is what it
answered, what it lost and what it holds. It can lose something only in coming to a forced end. -/
structure Record (n : Nat) (h : List Turn) (w : Worker) : Prop where
  course : ∃ d, Worker.Course d w (noticesOf n h)
  taken : takenOf n h =
    (answeredOf n h).map (·.intention) ++ lostOf n h ++ w.holding?.toList
  lost : lostOf n h ≠ [] → w.crash? ≠ none ∨ w.stage = .aborted
  panics : panicsOf n h = w.crash?.toList

/-- Nothing was lost as long as a worker goes on. -/
theorem Record.lost_eq_nil (hr : Record n h w) (hw : w.isOver = false) : lostOf n h = [] := by
  by_contra hne
  rcases hr.lost hne with hcrash | haborted
  · exact hcrash (Worker.crash?_of_isOver_eq_false hw)
  · rw [Worker.isOver, haborted] at hw
    cases hw

/-- A turn that tells nothing about a worker keeps its `Record`. -/
theorem Record.mute (hr : Record n h w) (ht : Tells n t [] [] [] [] []) :
    Record n (h ++ [t]) w := by
  constructor
  · rw [noticesOf_append_singleton, ht.notices, List.append_nil]
    exact hr.course
  · rw [takenOf_append_singleton, answeredOf_append_singleton, lostOf_append_singleton, ht.taken,
      ht.answered, ht.lost, List.append_nil, List.append_nil, List.append_nil]
    exact hr.taken
  · rw [lostOf_append_singleton, ht.lost, List.append_nil]
    exact hr.lost
  · rw [panicsOf_append_singleton, ht.panics, List.append_nil]
    exact hr.panics

/-- A turn of a worker that goes on keeps its record if it accounts for what the worker held. -/
theorem Record.turn {w' : Worker} {notices : List Notice} {taken : List Intention}
    {answered : List IntentionResult} {panics : List (Option String)} {lost : List Intention}
    (hr : Record n h w) (hw : w.isOver = false) (ht : Tells n t notices taken answered panics lost)
    (hcourse : ∀ d, Worker.Course d w (noticesOf n h) →
      Worker.Course d w' (noticesOf n h ++ notices))
    (hbalance : w.holding?.toList ++ taken =
      answered.map (·.intention) ++ lost ++ w'.holding?.toList)
    (hlost : lost ≠ [] → w'.crash? ≠ none ∨ w'.stage = .aborted)
    (hpanics : panics = w'.crash?.toList) : Record n (h ++ [t]) w' := by
  have hnone := hr.lost_eq_nil hw
  constructor
  · obtain ⟨d, hc⟩ := hr.course
    rw [noticesOf_append_singleton, ht.notices]
    exact ⟨d, hcourse d hc⟩
  · have htaken := hr.taken
    rw [hnone, List.append_nil] at htaken
    rw [takenOf_append_singleton, answeredOf_append_singleton, lostOf_append_singleton, ht.taken,
      ht.answered, ht.lost, htaken, hnone, List.append_assoc, hbalance, List.map_append]
    simp only [List.append_assoc, List.nil_append]
  · rw [lostOf_append_singleton, hnone, ht.lost]
    exact hlost
  · rw [panicsOf_append_singleton, hr.panics, Worker.crash?_of_isOver_eq_false hw, ht.panics]
    exact hpanics

/-- What the router offers a worker is taken and held. -/
theorem Record.received (hr : Record n h w) (hs : w.isSeeking = true) (offer : Option Intention) :
    Record n (h ++ [⟨s, .seek n, (w.receive offer).2⟩]) (w.receive offer).1 := by
  have hstage := Worker.stage_of_isSeeking hs
  have hw : w.isOver = false := by rw [Worker.isOver, hstage]
  refine hr.turn hw tells_of_seek (fun d hc ↦ hc.receive offer hs) ?_ (fun hne ↦ (hne rfl).elim) ?_
  · rw [Worker.holding?_of_isSeeking hs]
    cases offer <;> rfl
  · cases offer <;> rfl

/-- What an answer of the device does to what a worker holds is told in the turn, by the cases of
`Worker.Held`. -/
theorem Record.resumed {w' : Worker} {time : UInt64} {reply : Reply} (hr : Record n h w)
    (hcrew : s.crew[n]? = some w) (hreply : w.resume time reply = some (w', ns)) :
    Record n (h ++ [⟨s, .answer n time reply, ns⟩]) w' := by
  have hresumed := Worker.resumed_of_resume hreply
  have hw := Worker.isOver_eq_false_of_resume hreply
  refine hr.turn hw (tells_of_answer hcrew time reply)
    (fun d hc ↦ hc.resume time reply hreply) hresumed.balance (fun hne ↦ .inl fun hnone ↦ hne ?_)
    (by rw [hresumed.crash?_eq])
  rw [← hresumed.crash?_eq, hnone]
  rfl

/-- A worker that is stopped loses what it holds. -/
theorem Record.overran (hr : Record n h w) (hcrew : s.crew[n]? = some w) :
    Record n (h ++ [⟨s, .overrun, ns⟩]) w.abort := by
  have htells := tells_of_overrun hcrew ns
  cases hw : w.isOver with
  | true =>
    have hnone := w.holding?_abort
    rw [Worker.abort, if_pos hw] at hnone ⊢
    rw [Option.bind_some, hnone] at htells
    exact hr.mute htells
  | false =>
    have habort : w.abort = { w with stage := .aborted } := by
      rw [Worker.abort, if_neg (by simp [hw])]
    refine hr.turn hw htells (fun d hc ↦ ?_) ?_ (fun _ ↦ .inr ?_) ?_
    · rw [List.append_nil]
      exact hc.abort
    · rw [w.holding?_abort]
      simp
    · rw [habort]
    · rw [habort]
      rfl

/-- Nobody has told anything yet. -/
theorem record_new (n : Nat) (d : DeviceData) : Record n [] (.new d) :=
  ⟨⟨d, .new⟩, rfl, fun hne ↦ (hne rfl).elim, rfl⟩

/-- **Every move keeps the `Record` of every worker.** One that is not hired yet has the record of a
new one. -/
theorem Course.record (hc : Course first h s) (hfirst : first.workers = []) (n : Nat)
    (d : DeviceData) : Record n h (s.crew[n]?.getD (.new d)) := by
  induction hc generalizing d with
  | start =>
    have hcrew : first.crew = [] := by rw [crew, hfirst, List.map_nil]
    rw [hcrew]
    exact record_new n d
  | feed c _ ih => exact ih d
  | @turn h s s' ns m _ hs ih =>
    have hchange := workerChange_of_step hs n
    generalize hcrew : s.crew[n]? = before at ih hchange
    generalize s'.crew[n]? = after at hchange ⊢
    cases hchange with
    | apart hm ho => exact (ih d).mute (tells_of_apart hm ho)
    | hired d' => exact (ih d').mute (tells_of_apart (Option.some_ne_none n).symm Move.noConfusion)
    | waited => exact (ih d).mute tells_of_seek
    | received offer hseeking => exact (ih d).received hseeking offer
    | resumed hr => exact (ih d).resumed hcrew hr
    | overran =>
      cases before with
      | none => exact (ih d).mute (tells_of_overrun hcrew _)
      | some w => exact (ih d).overran hcrew

/-! ### Coming to an end -/

/-- What a `Record` says of a worker that came to its end by itself. -/
theorem Record.meets_iff (hr : Record n h w) (hover : w.isOver = true) (ha : w.stage ≠ .aborted) :
    (takenOf n h = (answeredOf n h).map (·.intention) ∧
        ∃ p, w.returned = some p ∧ p.isTerminal = true) ↔ panicsOf n h = [] := by
  obtain ⟨d, hcourse⟩ := hr.course
  rw [hr.panics]
  constructor
  · rintro ⟨-, p, hp, -⟩
    have hended : w.stage = .ended := by
      by_contra hne
      rw [hcourse.returned_eq_none hne] at hp
      cases hp
    rw [Worker.crash?, hended]
    rfl
  · intro hnone
    have hcrash : w.crash? = none := Option.toList_eq_nil_iff.1 hnone
    have hended : w.stage = .ended := by
      rw [Worker.isOver] at hover
      rw [Worker.crash?] at hcrash
      cases hs : w.stage <;> simp [hs] at hover hcrash ha ⊢
    have hlost : lostOf n h = [] := by
      by_contra hne
      rcases hr.lost hne with hc | hab
      · exact hc hcrash
      · exact ha hab
    refine ⟨?_, hcourse.returned_of_ended hended⟩
    have hheld : w.holding? = none := by rw [Worker.holding?, hended]
    rw [hr.taken, hlost, hheld, List.append_nil]
    exact List.append_nil _

/-! ### Getting on -/

@[simp] theorem hush_results_items (s : Session) : s.hush.results.items = s.results.items := by
  rw [hush]
  split <;> rfl

/-- A session gets on with one of its workers. The worker waits for the router or for its device;
any answer to the command that its device is busy with (`Worker.command?`) is taken, and nothing
else; every answer brings the end of the intention in its hands nearer (`Worker.due`); and what the
worker reports on it is passed on. -/
structure GetsOn (s : Session) (n : Nat) (w : Worker) : Prop where
  waits : w.isOver = false → w.isSeeking = true ∨ ∃ c, w.command? = some c
  takes : ∀ time reply, (s.step (.answer n time reply)).isSome = true ↔
    ∃ c, w.command? = some c ∧ reply.answers c = true
  nearer : ∀ time reply s' ns, s.step (.answer n time reply) = some (s', ns) →
    ∃ w', s'.crew[n]? = some w' ∧ (w'.holding? ≠ none → w'.due < w.due)
  passes : ∀ time reply s' ns, s.step (.answer n time reply) = some (s', ns) →
    s.results.receiving = true →
      s'.results.items = s.results.items ++ ns.filterMap (Notice.result? time)

/-- An answer of the device of a worker that is hired. -/
theorem answer_eq (hw : s.crew[n]? = some w) (time : UInt64) (reply : Reply) :
    s.step (.answer n time reply) = (w.resume time reply).map fun r ↦
      ((r.2.foldl (publish time) s).setWorker n r.1, r.2) := by
  rw [crew_getElem?, Option.map_eq_some_iff] at hw
  obtain ⟨x, hx, rfl⟩ := hw
  rw [step, answer, hx]
  cases hr : x.worker.resume time reply with
  | none => simp [hr]
  | some r => simp [hr]

theorem getsOn (hw : s.crew[n]? = some w) : GetsOn s n w where
  waits ho := by
    cases hc : w.command? with
    | none => exact .inl (Worker.isSeeking_of_command?_eq_none hc ho)
    | some c => exact .inr ⟨c, rfl⟩
  takes time reply := by
    rw [answer_eq hw, Option.isSome_map]
    exact Worker.resume_isSome_iff
  nearer time reply s' ns hs := by
    rw [answer_eq hw, Option.map_eq_some_iff] at hs
    obtain ⟨⟨w', more⟩, hr, heq⟩ := hs
    obtain ⟨rfl, rfl⟩ := Prod.mk.inj heq
    refine ⟨w', ?_, (Worker.resumed_of_resume hr).due_lt⟩
    rw [setWorker_crew, foldl_publish_crew]
    exact List.getElem?_set_self (List.getElem?_eq_some_iff.1 hw).1
  passes time reply s' ns hs hreceiving := by
    rw [answer_eq hw, Option.map_eq_some_iff] at hs
    obtain ⟨⟨w', more⟩, hr, heq⟩ := hs
    obtain ⟨rfl, rfl⟩ := Prod.mk.inj heq
    obtain ⟨signals, -, hfold⟩ := foldl_publish hreceiving time more
    rw [hfold, setWorker, hush_results_items]

/-! ### The theorem -/

/-- **When a worker does what it owes.** Take any course of a session that begins without workers,
and any worker that it has hired. What the worker took (`takenOf`) is what it answered
(`answeredOf`), in order, then what it lost (`lostOf`) and what it holds; it loses something only if
asking for the health of its device panicked (`panicsOf`) or if it was stopped because time was up.
It has told its `Worker.FinalNotices` exactly if it returned, once, and the phase that it shows is
the last one that it published.

So a worker that is over and was not stopped has answered all that it took, and has returned with a
terminal phase, exactly if asking for the health of its device never panicked, whatever else failed
or panicked. Until it is over, the session gets on with it (`GetsOn`). -/
theorem Course.contains_panics_iff (hc : Course first h s) (hfirst : first.workers = []) {x : Hired}
    (hx : s.workers[n]? = some x) :
    let w := x.worker
    takenOf n h = (answeredOf n h).map (·.intention) ++ lostOf n h ++ w.holding?.toList ∧
      (lostOf n h ≠ [] → panicsOf n h ≠ [] ∨ w.stage = .aborted) ∧
      Worker.FinalNotices w.device w.returned ((noticesOf n h).filter Notice.isFinal) ∧
      (Worker.phasesIn (noticesOf n h)).getLast? = some w.phase ∧
      (w.isOver = true → w.stage ≠ .aborted →
        ((takenOf n h = (answeredOf n h).map (·.intention) ∧
            ∃ p, w.returned = some p ∧ p.isTerminal = true) ↔ panicsOf n h = [])) ∧
      GetsOn s n w := by
  intro w
  have hcrew : s.crew[n]? = some w := by rw [crew_getElem?, hx, Option.map_some]
  have hr := hc.record hfirst n w.device
  rw [hcrew, Option.getD_some] at hr
  obtain ⟨d, hcourse⟩ := hr.course
  refine ⟨hr.taken, fun hne ↦ (hr.lost hne).imp_left fun hcrash ↦ ?_, ?_,
    hcourse.getLast_phasesIn, hr.meets_iff, getsOn hcrew⟩
  · rw [hr.panics]
    exact fun hnil ↦ hcrash (Option.toList_eq_nil_iff.1 hnil)
  · rw [hcourse.wordAt.1]
    exact hcourse.finalNotices

/-- A device that freezes under its first intention, and has it answered. -/
theorem contains_panics_iff_of_frozen :
    ∃ (h : List Turn) (s : Session) (x : Hired), Course (call 1 [sampleRequest 1]).1 h s ∧
      s.workers[0]? = some x ∧ x.worker.isOver = true ∧ panicsOf 0 h = [] ∧
      (takenOf 0 h).length = 1 ∧ takenOf 0 h = (answeredOf 0 h).map (·.intention) := by
  have hbroken := (course_sample 1).follow sampleBreak rfl
  have hmet := (hbroken.contains_panics_iff (n := 0) rfl rfl).2.2.2.2.1 rfl nofun
  exact ⟨_, _, _, hbroken, rfl, rfl, rfl, rfl, (hmet.2 rfl).1⟩

/-- Asking for the health of a device panics when its worker has an intention in hand: the worker is
over without `Worker.FinalNotices`, and nobody answers the intention. -/
theorem loses_intention_of_status_panic :
    ∃ (h : List Turn) (s : Session) (x : Hired) (i : Intention),
      Course (call 1 [sampleRequest 1]).1 h s ∧ s.workers[0]? = some x ∧ panicsOf 0 h = [none] ∧
        takenOf 0 h = [i] ∧ answeredOf 0 h = [] ∧ s.results.items = [] ∧
        x.worker.isOver = true ∧ x.worker.returned = none ∧ x.worker.phase.isTerminal = false ∧
        (noticesOf 0 h).filter Notice.isFinal = [] := by
  have hcrashed := (course_sample 1).follow
    (sampleMoves ++ [.answer 0 1 (.status (.panicked none))]) rfl
  exact ⟨_, _, _, _, hcrashed, rfl, rfl, rfl, rfl, rfl, rfl, rfl, rfl, rfl⟩

end Session

end DeviceLab
