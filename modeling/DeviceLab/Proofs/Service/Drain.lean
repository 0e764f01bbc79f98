import Mathlib.Algebra.Order.BigOperators.Group.List
import Mathlib.Algebra.Order.Group.Nat
import DeviceLab.Proofs.Service.Operation
import DeviceLab.Proofs.Session.Containment

/-!
# Draining the service

When the service is stopped its router is closed, and what is queued then is left to the workers.
They share it: who comes first takes the oldest intention that its device can reach. So no worker
knows when it will be done, but all of them together take no more than what was queued, and a worker
that is offered nothing ends. What is still queued in the end is what nobody who finished could
reach.

`Operation.drained` says so of any service with a closed router (`Drained`). What it rests on:

* `Operation.left`: nothing joins the queue, and what leaves it was taken.
* `Operation.movesLeft_le`: a worker makes no more moves than it had to go (`Worker.movesLeft`) and
  what it took costs (`Intention.cost`), so together with `Operation.left` there is a bound on all
  moves.
* `Operation.balance`: what a worker took is what it answered, what it lost, and what it holds. With
  `doneOnce_of_mem` every intention that was taken is answered once, by the worker that took it.
* `ServiceInvariant.goes_on` and `ServiceInvariant.rests`: a worker that is not over can go on, and
  when the service has stopped nothing can.

Nothing of this depends on how the router came to be closed. The forwarder closes it too, when there
will be no intentions any more, long before the service is stopped. `Operation.drains` is the case
of a running service that is stopped, and adds to it what stopping does (`stopService_eq`).
-/

namespace DeviceLab

namespace Worker

variable {w w' : Worker} {time : UInt64} {reply : Reply} {ns : List Notice}

/-! ### How long a worker goes on -/

/-- How many moves a worker makes at most until it is over, if it takes no intention any more. -/
def movesLeft (w : Worker) : Nat :=
  if w.isOver then 0 else if w.isSeeking then 1 else w.due + 2

theorem movesLeft_le (w : Worker) : w.movesLeft ≤ w.due + 2 := by
  rw [movesLeft]
  split
  · omega
  · split <;> omega

theorem isOver_of_movesLeft_eq_zero (h : w.movesLeft = 0) : w.isOver = true := by
  by_contra hover
  rw [movesLeft, if_neg hover] at h
  split at h
  · cases h
  · omega

/-- Every answer brings a worker closer to its end. -/
theorem movesLeft_lt_of_resume (h : w.resume time reply = some (w', ns)) :
    w'.movesLeft < w.movesLeft := by
  have hmoves : w.movesLeft = w.due + 2 := by
    simp [movesLeft, isOver_eq_false_of_resume h, isSeeking_eq_false_of_resume h]
  have hresumed := resumed_of_resume h
  have hholding (hh : w'.holding? ≠ none) : w'.movesLeft < w.movesLeft := by
    have hdue := hresumed.due_lt hh
    have hle := w'.movesLeft_le
    omega
  rw [hmoves] at hholding ⊢
  cases hresumed with
  | crashed | stillborn | frozen | frozenOn | uninstalled | uncleared =>
    exact Nat.succ_pos _
  | created | rested => exact Nat.lt_add_left _ Nat.one_lt_two
  | begun hs => exact hholding (by rw [(prepare_holding w _ time).1]; exact Option.some_ne_none _)
  | installed hs =>
    exact hholding (by rw [(install_holding w _ time _ _).1]; exact Option.some_ne_none _)
  | cleared hs =>
    exact hholding (by rw [(clear_holding w _ time _).1]; exact Option.some_ne_none _)
  | ran hs | broke hs =>
    have hdue : w.due = 1 := by rw [due, hs]
    rw [hdue]
    exact Nat.lt_succ_self 2

end Worker

/-- How many moves an intention costs a worker at most: to take it, and an answer of the device for
each step, until the device is ready for another one. -/
def Intention.cost (i : Intention) : Nat :=
  i.state.applications.length + 4

namespace Session

variable {first s s' : Session} {h : List Turn} {m : Move} {ns : List Notice} {n : Nat} {w : Worker}

/-- How many moves a worker made. -/
def movesOf (n : Nat) (h : List Turn) : Nat :=
  h.countP (·.move.worker? = some n)

/-! ### What is left -/

/-- **What leaves a closed router is taken, and nothing joins it**, by the cases of
`ServiceStep`. -/
theorem ServiceStep.left (hc : ServiceStep s m s' ns) (hclosed : s.router.closed = true) :
    s'.router.queue.Sublist s.router.queue ∧
      ((Turn.received ⟨s, m, ns⟩).map (·.2) ++ s'.router.queue).Perm s.router.queue := by
  cases hc with
  | @forwarded router _ _ _ hr =>
    show router.queue.Sublist _ ∧ router.queue.Perm _
    rw [hr.queue hclosed]
    exact ⟨.refl _, .refl _⟩
  | hired | declined | dismissed | waited | finished | joined | overran =>
    exact ⟨.refl _, .refl _⟩
  | @took n x i rest _ _ hx hseeking hq =>
    show (Router.wakeSend _).queue.Sublist _ ∧ (i :: (Router.wakeSend _).queue).Perm _
    rw [Router.wakeSend_queue]
    obtain ⟨older, newer, hsplit, rfl, -, -⟩ := Router.split_of_takeMatching hq
    refine ⟨?_, (Router.perm_of_takeMatching hq).symm⟩
    rw [hsplit]
    exact (List.sublist_cons_self i newer).append_left older
  | @resumed n x w time reply ns _ _ hx hr =>
    have hreceived := (Worker.resumed_of_resume hr).held.received_eq_nil
    have hturn : Turn.received ⟨s, .answer n time reply, ns⟩ = [] := by
      simp [Turn.received, Move.worker?, hreceived]
    rw [hturn]
    exact ⟨.refl _, .refl _⟩

/-- Neither does stopping the service change what is queued. -/
theorem stopService_router (s : Session) :
    s.stopService.1.router.queue = s.router.queue ∧
      (s.service = .running ∨ s.router.closed = true → s.stopService.1.router.closed = true) := by
  by_cases hs : s.service = .running
  · obtain ⟨_, _, _, heq, -⟩ := stopService_eq hs
    rw [heq]
    exact ⟨Router.abandonSend_queue _ _, fun _ ↦ Router.abandonSend_closed _ _⟩
  · rw [stopService_of_ne hs]
    exact ⟨rfl, fun h ↦ h.resolve_left hs⟩

/-- **What was queued when the router was closed was taken or is left**, in order (`received`). -/
theorem Operation.left (ho : Operation first h s) (hfirst : first.ServiceInvariant)
    (hclosed : first.router.closed = true) :
    s.router.closed = true ∧ s.router.queue.Sublist first.router.queue ∧
      ((received h).map (·.2) ++ s.router.queue).Perm first.router.queue := by
  induction ho with
  | start => exact ⟨hclosed, .refl _, .refl _⟩
  | @turn h s s' ns m ho hs ih =>
    obtain ⟨hc, hsub, hperm⟩ := ih
    have hmove := (ho.serviceInvariant hfirst).serviceStep_of_step hs
    obtain ⟨hsub', hperm'⟩ := hmove.left hc
    refine ⟨hmove.closed_mono hc, hsub'.trans hsub, ?_⟩
    rw [received_append_singleton, List.map_append, List.append_assoc]
    exact (hperm'.append_left _).trans hperm
  | outside _ _ _ _ _ ih => exact ih
  | @stop h s ho ih =>
    obtain ⟨hqueue, hclose⟩ := s.stopService_router
    rw [hqueue]
    exact ⟨hclose (.inr ih.1), ih.2⟩

/-! ### The books of a worker -/

/-- In every turn, what a worker holds and takes is what it answers, what it loses, and what it
holds then. -/
theorem balance_of_step (hs : s.step m = some (s', ns)) (n : Nat) :
    (s.crew[n]?.bind (·.holding?)).toList ++ valuesOf n (Turn.received ⟨s, m, ns⟩) =
      (valuesOf n (Turn.reported ⟨s, m, ns⟩)).map (·.intention) ++ Turn.lostOf n ⟨s, m, ns⟩ ++
        (s'.crew[n]?.bind (·.holding?)).toList := by
  have hchange := workerChange_of_step hs n
  generalize hcrew : s.crew[n]? = before at hchange
  generalize s'.crew[n]? = after at hchange
  cases hchange with
  | apart hm ho =>
    have ht : Tells n ⟨s, _, ns⟩ _ _ _ _ _ := tells_of_apart hm ho
    rw [ht.taken, ht.answered, ht.lost]
    exact List.append_nil _
  | hired d => rfl
  | @waited w =>
    have ht : Tells n ⟨s, _, []⟩ _ _ _ _ _ := tells_of_seek
    rw [ht.taken, ht.answered, ht.lost]
    exact List.append_nil _
  | @received w offer hseeking =>
    have ht : Tells n ⟨s, _, (w.receive offer).2⟩ _ _ _ _ _ := tells_of_seek
    rw [ht.taken, ht.answered, ht.lost, Option.bind_some, Option.bind_some,
      Worker.holding?_of_isSeeking hseeking]
    cases offer <;> rfl
  | @resumed w w' time reply ns hr =>
    have ht : Tells n ⟨s, _, ns⟩ _ _ _ _ _ := tells_of_answer hcrew time reply
    rw [ht.taken, ht.answered, ht.lost]
    exact (Worker.resumed_of_resume hr).balance
  | overran =>
    have ht := tells_of_overrun hcrew ns
    rw [ht.taken, ht.answered, ht.lost]
    cases before with
    | none => rfl
    | some w =>
      show w.holding?.toList ++ [] = w.holding?.toList ++ w.abort.holding?.toList
      rw [w.holding?_abort]
      rfl

/-- **What a worker held at first and took since is what it answered, what it lost, and what it
holds** (`takenOf`, `answeredOf`, `lostOf`). -/
theorem Operation.balance (ho : Operation first h s) (n : Nat) :
    ((first.crew[n]?.bind (·.holding?)).toList ++ takenOf n h).Perm
      ((answeredOf n h).map (·.intention) ++ lostOf n h ++
        (s.crew[n]?.bind (·.holding?)).toList) := by
  induction ho with
  | start => exact .of_eq (List.append_nil _)
  | @turn h s s' ns m ho hs ih =>
    have hturn := balance_of_step hs n
    generalize (s.crew[n]?.bind (·.holding?)).toList = held at ih hturn
    generalize (s'.crew[n]?.bind (·.holding?)).toList = held' at hturn ⊢
    rw [takenOf_append_singleton, answeredOf_append_singleton, lostOf_append_singleton,
      ← List.append_assoc, List.map_append]
    refine (ih.append_right _).trans ?_
    rw [List.append_assoc _ held, hturn]
    -- What was lost before comes before what is answered now.
    generalize (answeredOf n h).map (·.intention) = answered
    generalize (valuesOf n (Turn.reported ⟨s, m, ns⟩)).map (·.intention) = more
    rw [List.append_assoc answered, List.append_assoc answered, List.append_assoc answered]
    refine List.Perm.append_left _ ?_
    simp only [← List.append_assoc]
    exact (List.perm_append_comm.append_right _).append_right _
  | outside _ _ _ _ _ ih => exact ih
  | stop _ ih =>
    rw [stopService_crew]
    exact ih

/-- Nothing is lost but by a panic of the question for the health of a device, or when time is
up. -/
theorem lostOf_eq_nil (hp : panicked h = false) (ho : ∀ t ∈ h, t.move ≠ .overrun) (n : Nat) :
    lostOf n h = [] := by
  rw [lostOf, List.flatMap_eq_nil_iff]
  intro t ht
  have hpanic := List.any_eq_false.1 hp t ht
  obtain ⟨before, m, ns⟩ := t
  cases m with
  | overrun => exact absurd rfl (ho _ ht)
  | answer k time reply =>
    refine if_neg fun hcrash ↦ ?_
    obtain ⟨message, hm⟩ := Option.isSome_iff_exists.1 hcrash.2
    rw [Reply.eq_of_crash? hm] at hpanic
    exact hpanic rfl
  | _ => rfl

/-! ### How long a worker goes on -/

/-- A closed router keeps nobody waiting. -/
theorem ServiceStep.notices_ne_nil (hc : ServiceStep s (.seek n) s' ns)
    (hclosed : s.router.closed = true) :
    ns ≠ [] := by
  cases hc with
  | waited _ _ hopen =>
    rw [hclosed] at hopen
    cases hopen
  | took | finished => exact List.cons_ne_nil _ _

/-- **Every move of a worker brings it closer to its end** (`Worker.movesLeft`), but for what it
takes. -/
theorem ServiceInvariant.movesLeft_le (ho : s.ServiceInvariant) (hclosed : s.router.closed = true)
    (hs : s.step m = some (s', ns)) (hw : s.crew[n]? = some w) :
    ∃ w', s'.crew[n]? = some w' ∧
      (if m.worker? = some n then 1 else 0) + w'.movesLeft ≤
        w.movesLeft + ((valuesOf n (Turn.received ⟨s, m, ns⟩)).map Intention.cost).sum := by
  have hchange := workerChange_of_step hs n
  rw [hw] at hchange
  generalize s'.crew[n]? = after at hchange
  cases hchange with
  | apart hm =>
    refine ⟨w, rfl, ?_⟩
    rw [if_neg hm]
    omega
  | waited => exact absurd rfl ((ho.serviceStep_of_step hs).notices_ne_nil hclosed)
  | received offer hseeking =>
    have hmoves : w.movesLeft = 1 := by
      simp [Worker.movesLeft, Worker.isOver, Worker.stage_of_isSeeking hseeking, hseeking]
    refine ⟨_, rfl, ?_⟩
    rw [if_pos (show (Move.seek n).worker? = some n from rfl), hmoves, tells_of_seek.taken]
    cases offer with
    | none => exact Nat.le_refl 1
    | some i => exact Nat.le_refl (1 + i.cost)
  | @resumed _ w' time reply _ hr =>
    have hlt := Worker.movesLeft_lt_of_resume hr
    refine ⟨w', rfl, ?_⟩
    rw [if_pos (show (Move.answer n time reply).worker? = some n from rfl)]
    omega
  | overran =>
    refine ⟨w.abort, rfl, ?_⟩
    have hmoves : w.abort.movesLeft = 0 := if_pos w.isOver_abort
    rw [hmoves, if_neg (show Move.overrun.worker? ≠ some n from (Option.some_ne_none n).symm)]
    exact Nat.zero_le _

/-- **A worker makes no more moves than it had to go at first, and what it took costs**
(`Intention.cost`). -/
theorem Operation.movesLeft_le (ho : Operation first h s) (hfirst : first.ServiceInvariant)
    (hclosed : first.router.closed = true) (hw : first.crew[n]? = some w) :
    ∃ w', s.crew[n]? = some w' ∧
      movesOf n h + w'.movesLeft ≤ w.movesLeft + ((takenOf n h).map Intention.cost).sum := by
  induction ho with
  | start => exact ⟨w, hw, Nat.le_of_eq (Nat.zero_add _)⟩
  | @turn h s s' ns m ho hs ih =>
    obtain ⟨w₁, hw₁, hle⟩ := ih
    obtain ⟨w₂, hw₂, hle'⟩ :=
      (ho.serviceInvariant hfirst).movesLeft_le (ho.left hfirst hclosed).1 hs hw₁
    refine ⟨w₂, hw₂, ?_⟩
    rw [movesOf, List.countP_append, List.countP_singleton, takenOf_append_singleton,
      List.map_append, List.sum_append, ← movesOf]
    simp only [decide_eq_true_eq] at hle' ⊢
    omega
  | outside _ _ _ _ _ ih => exact ih
  | stop _ ih =>
    rw [stopService_crew]
    exact ih

/-! ### Going on and coming to rest -/

/-- **While the router is closed every worker that is not over can go on**: it may ask the router
(`seek`), or take whatever its device answers (`answer`). -/
theorem ServiceInvariant.goes_on (ho : s.ServiceInvariant) (hclosed : s.router.closed = true)
    (hw : s.crew[n]? = some w) (hover : w.isOver = false) :
    w.isSeeking = true ∧ (s.step (.seek n)).isSome = true ∨
      ∃ c, w.command? = some c ∧ ∀ time reply, reply.answers c = true →
        (s.step (.answer n time reply)).isSome = true := by
  have hgets := getsOn hw
  rcases hgets.waits hover with hseeking | ⟨c, hc⟩
  · refine .inl ⟨hseeking, ?_⟩
    rw [crew_getElem?, Option.map_eq_some_iff] at hw
    obtain ⟨x, hx, rfl⟩ := hw
    cases hparked : s.router.parkedTake? n with
    | none =>
      rcases hask : s.router.ask n x.worker.state with ⟨_ | _ | _, r⟩
      all_goals simp [step, seek, hx, hseeking, hparked, hask]
    | some t =>
      have hwoken := ho.woken hclosed t (List.mem_of_find?_eq_some hparked)
      rcases hask : (s.router.dropTake n).ask n t.state with ⟨_ | _ | _, r⟩
      all_goals simp [step, seek, hx, hseeking, hparked, Router.retryTake, hwoken, hask]
  · exact .inr ⟨c, hc, fun time reply hr ↦ (hgets.takes time reply).2 ⟨c, hc, hr⟩⟩

/-- **A service that has stopped rests**: every worker is over, and nothing moves. -/
theorem ServiceInvariant.rests (ho : s.ServiceInvariant) (hs : s.service = .stopped) :
    (∀ x ∈ s.workers, x.worker.isOver = true) ∧ ∀ m, s.step m = none := by
  obtain ⟨he, -⟩ := ho.windingDown (by rw [hs]; exact Service.noConfusion)
  have hover := he.stopped hs
  refine ⟨hover, fun m ↦ ?_⟩
  cases hstep : s.step m with
  | none => rfl
  | some r =>
    obtain ⟨s', ns⟩ := r
    have hseeking {n : Nat} {x : Hired} (hx : s.workers[n]? = some x) :
        x.worker.isSeeking ≠ true := by
      rw [Worker.isSeeking_eq_false_of_isOver (hover x (List.mem_of_getElem? hx))]
      exact Bool.false_ne_true
    cases ho.serviceStep_of_step hstep with
    | forwarded _ hf => exact absurd he.forwarder hf
    | hired hi | declined hi | dismissed hi =>
      rw [he.intake] at hi
      cases hi
    | waited hx hs | took hx hs | finished hx hs => exact absurd hs (hseeking hx)
    | resumed hx hr =>
      have hnot := Worker.isOver_eq_false_of_resume hr
      rw [hover _ (List.mem_of_getElem? hx)] at hnot
      cases hnot
    | joined hdraining | overran hdraining =>
      rw [hs] at hdraining
      cases hdraining

/-- When time is up, the workers that are not over are stopped, and the service has stopped. -/
theorem exists_overrun (hs : s.service = .draining) :
    ∃ s' ns, s.step .overrun = some (s', ns) ∧ s'.service = .stopped ∧
      s'.crew = s.crew.map Worker.abort := by
  obtain ⟨⟨s', ns⟩, hstep⟩ : ∃ r, s.overrun = some r := ⟨_, if_pos hs⟩
  obtain ⟨-, _, _, rfl⟩ := overrun_cases hstep
  refine ⟨_, ns, hstep, rfl, ?_⟩
  rw [crew, crew, List.map_map, List.map_map]
  rfl

/-- The end of a worker can be taken note of, once. -/
theorem join_isSome {x : Hired} (hs : s.service = .draining) (hx : s.workers[n]? = some x)
    (hover : x.worker.isOver = true) (hj : x.joined = false) :
    (s.step (.join n)).isSome = true := by
  simp [step, join, hs, hx, hover, hj]

/-- A service that was stopped is not running again. -/
theorem Operation.service_ne (ho : Operation first h s) (hfirst : first.ServiceInvariant)
    (hs : first.service ≠ .running) : s.service ≠ .running := by
  induction ho with
  | start => exact hs
  | turn m ho hstep ih =>
    have he := ((ho.serviceInvariant hfirst).windingDown ih).1
    have hstage := (ho.serviceInvariant hfirst).stage
    refine (WindingDown.of_windDownStep he (he.windDownStep_of_step ?_ ?_ hstep)).service
    all_goals rw [hstage]; exact Stage.noConfusion
  | outside _ _ _ _ _ ih => exact ih
  | stop _ ih =>
    rw [stopService_of_ne ih]
    exact ih

/-! ### What becomes of every intention -/

/-- The intentions in the hands of workers. -/
def held (s : Session) : List Intention :=
  s.crew.filterMap Worker.holding?

/-- An intention was taken once, and its worker reported of it once. -/
def DoneOnce (h : List Turn) (i : Intention) : Prop :=
  ∃ n r, (received h).filter (·.2 = i) = [(n, i)] ∧
    (reported h).filter (·.2.intention = i) = [(n, r)]

/-- **An intention that was taken once is answered once** (`DoneOnce`), by the worker that took it,
if nothing was lost and nothing is held any more. -/
theorem doneOnce_of_mem {i : Intention} (hd : ((received h).map (·.2)).Nodup)
    (hi : (n, i) ∈ received h) (hheld : i ∉ s.held)
    (hbooks : ∀ k, ((s.crew[k]?.bind (·.holding?)).toList ++ takenOf k h).Perm
      ((answeredOf k h).map (·.intention))) : DoneOnce h i := by
  have htook : (received h).filter (·.2 = i) = [(n, i)] := filter_key_eq_singleton hd hi
  have honly : ∀ k, (k, i) ∈ received h → k = n := by
    intro k hk
    have hmem : (k, i) ∈ (received h).filter (·.2 = i) :=
      List.mem_filter.2 ⟨hk, decide_eq_true rfl⟩
    rw [htook] at hmem
    exact (Prod.mk.inj (List.mem_singleton.1 hmem)).1
  have hnone (k : Nat) : i ∉ (s.crew[k]?.bind (·.holding?)).toList := by
    intro hk
    obtain ⟨w, hw, hi⟩ := Option.bind_eq_some_iff.1 (Option.mem_toList.1 hk)
    exact hheld (List.mem_filterMap.2 ⟨w, List.mem_of_getElem? hw, hi⟩)
  -- Who reports of the intention took it, and that was one worker.
  have hreported : ∀ x ∈ reported h, decide (x.2.intention = i) = true → x.1 = n := by
    rintro ⟨k, r⟩ hx hr
    have hanswered : i ∈ (answeredOf k h).map (·.intention) :=
      List.mem_map.2 ⟨r, mem_valuesOf.2 hx, of_decide_eq_true hr⟩
    rcases List.mem_append.1 ((hbooks k).mem_iff.2 hanswered) with hk | hk
    · exact absurd hk (hnone k)
    · exact honly k (mem_valuesOf.1 hk)
  have hvalues := map_filter_of_key (p := fun r : IntentionResult ↦ r.intention = i) hreported
  have hlength : ((answeredOf n h).filter fun r ↦ decide (r.intention = i)).length = 1 := by
    have htaken : (takenOf n h).count i = 1 :=
      List.count_eq_one_of_mem (hd.sublist (valuesOf_sublist n _)) (mem_valuesOf.2 hi)
    have hcount := (hbooks n).count_eq i
    rw [List.count_append, List.count_eq_zero_of_not_mem (hnone n), htaken, List.count_eq_countP,
      List.countP_map, List.countP_eq_length_filter] at hcount
    simpa [Function.comp_def, beq_eq_decide] using hcount.symm
  rw [answeredOf, ← hvalues, List.length_map] at hlength
  obtain ⟨⟨k, r⟩, hone⟩ := List.length_eq_one_iff.1 hlength
  have hk : (k, r) ∈ (reported h).filter fun x ↦ decide (x.2.intention = i) := by
    rw [hone]
    exact List.mem_singleton_self _
  obtain rfl : k = n := hreported _ (List.mem_filter.1 hk).1 (List.mem_filter.1 hk).2
  exact ⟨k, r, htook, hone⟩

/-! ### The drain -/

/-- What has become of a service that had a closed router in one state, when it has come to another
one in so many turns, as an `Operation`. -/
structure Drained (s : Session) (after : List Turn) (s' : Session) : Prop where
  /-- Nothing joins the queue; what leaves it is taken by a worker. -/
  queue : s'.router.queue.Sublist s.router.queue
  taken : ((received after).map (·.2) ++ s'.router.queue).Perm s.router.queue
  most : (received after).length ≤ s.router.queue.length
  /-- A worker makes so many moves at most, and is over when it has made them; until then it can
  make another one, if its device answers. -/
  ends : ∀ n w, s.crew[n]? = some w → ∃ w', s'.crew[n]? = some w' ∧
    movesOf n after ≤ w.movesLeft + (s.router.queue.map Intention.cost).sum ∧
    (movesOf n after = w.movesLeft + (s.router.queue.map Intention.cost).sum → w'.isOver = true)
  goesOn : ∀ n w, s'.crew[n]? = some w → w.isOver = false →
    w.isSeeking = true ∧ (s'.step (.seek n)).isSome = true ∨
      ∃ c, w.command? = some c ∧ ∀ time reply, reply.answers c = true →
        (s'.step (.answer n time reply)).isSome = true
  /-- If the service has stopped, without a panic of the question for the health of a device and
  without running out of time, then every worker has answered what it held and took, and who
  finished could reach nothing that is left; of different intentions, each is answered once or
  left. -/
  answered : s'.service = .stopped → panicked after = false → (∀ t ∈ after, t.move ≠ .overrun) →
    (∀ n, ((s.crew[n]?.bind (·.holding?)).toList ++ takenOf n after).Perm
      ((answeredOf n after).map (·.intention))) ∧
    (∀ i ∈ s'.router.queue, ∀ x ∈ s'.workers, x.worker.Finished →
      x.worker.state.canReach i.state = false) ∧
    (s.router.queue.Nodup → (∀ i ∈ s.router.queue, i ∉ s.held) → ∀ i ∈ s.router.queue,
      DoneOnce after i ∧ i ∉ s'.router.queue ∨
        i ∈ s'.router.queue ∧ ∀ p ∈ received after, p.2 ≠ i)
  /-- The service drains until the end of every worker is taken note of, or time is up: then the
  workers that are not over are aborted. -/
  joins : s'.service = .draining → (∃ x ∈ s'.workers, x.joined = false) ∧
    ∀ n x, s'.workers[n]? = some x → x.worker.isOver = true → x.joined = false →
      (s'.step (.join n)).isSome = true
  overruns : s'.service = .draining → ∃ s'' ns, s'.step .overrun = some (s'', ns) ∧
    s''.service = .stopped ∧ s''.crew = s'.crew.map Worker.abort
  /-- Then nobody works any more, and nothing moves. -/
  rests : s'.service = .stopped →
    (∀ x ∈ s'.workers, x.worker.isOver = true) ∧ ∀ m, s'.step m = none
  /-- The service is stopped once. -/
  once : s'.service ≠ .running → s'.stopService = (s', [])

/-- **A service with a closed router drains** (`Drained`). -/
theorem Operation.drained (ho : Operation first h s) (hfirst : first.ServiceInvariant)
    (hclosed : first.router.closed = true) : Drained first h s := by
  obtain ⟨hc, hsub, hperm⟩ := ho.left hfirst hclosed
  have hinvariant := ho.serviceInvariant hfirst
  refine
    { queue := hsub
      taken := hperm
      most := ?_
      ends := fun n w hw ↦ ?_
      goesOn := fun n w hw hover ↦ hinvariant.goes_on hc hw hover
      answered := fun hs hp ht ↦ ?_
      joins := fun hs ↦ ⟨?_, fun n x hx hover hj ↦ join_isSome hs hx hover hj⟩
      overruns := exists_overrun
      rests := hinvariant.rests
      once := stopService_of_ne }
  · have hlength := hperm.length_eq
    rw [List.length_append, List.length_map] at hlength
    omega
  · obtain ⟨w', hw', hle⟩ := ho.movesLeft_le hfirst hclosed hw
    have htaken := ((valuesOf_sublist n (received h)).map Intention.cost).sum_le_sum
      fun _ _ ↦ Nat.zero_le _
    have hall := (hperm.map Intention.cost).sum_eq
    rw [List.map_append, List.sum_append] at hall
    rw [takenOf] at hle
    refine ⟨w', hw', by omega, fun hmost ↦ ?_⟩
    exact Worker.isOver_of_movesLeft_eq_zero (by omega)
  · have hbooks (n : Nat) : ((first.crew[n]?.bind (·.holding?)).toList ++ takenOf n h).Perm
        ((answeredOf n h).map (·.intention)) := by
      have hnone : s.crew[n]?.bind (·.holding?) = none := by
        cases hw : s.crew[n]? with
        | none => rfl
        | some w =>
          rw [crew_getElem?, Option.map_eq_some_iff] at hw
          obtain ⟨x, hx, rfl⟩ := hw
          have hover := (hinvariant.rests hs).1 x (List.mem_of_getElem? hx)
          exact Worker.holding?_of_command?_eq_none (Worker.command?_eq_none_of_isOver hover)
      have hbalance := ho.balance n
      rwa [lostOf_eq_nil hp ht, hnone, Option.toList_none, List.append_nil, List.append_nil]
        at hbalance
    refine ⟨hbooks, fun i hi x hx hfin ↦ (hinvariant.finished x hx hfin).2 i hi, ?_⟩
    intro hd hheld i hi
    have hd' := hperm.nodup_iff.2 hd
    rw [List.nodup_append] at hd'
    rcases List.mem_append.1 (hperm.mem_iff.2 hi) with htaken | hleft
    · obtain ⟨⟨n, i⟩, hmem, rfl⟩ := List.mem_map.1 htaken
      refine .inl ⟨doneOnce_of_mem hd'.1 hmem (hheld i hi) hbooks, fun hleft ↦ ?_⟩
      exact hd'.2.2 i htaken i hleft rfl
    · refine .inr ⟨hleft, fun p hp heq ↦ ?_⟩
      exact hd'.2.2 p.2 (List.mem_map_of_mem hp) i hleft heq
  · have hall := hinvariant.draining hs
    rw [List.all_eq_false] at hall
    obtain ⟨x, hx, hj⟩ := hall
    exact ⟨x, hx, by simpa using hj⟩

/-- A pixel that is attached under a serial. -/
def drainDevice (port : String) : DeviceData :=
  ⟨.attached port, "pixel", 29⟩

/-- An intention for devices with this level of the interface. -/
def drainIntention (number : Nat) (api : UInt32) : Intention :=
  .ofRequest (.numbered 1 number) { sampleRequest 1 with target := ⟨"pixel", api, "pixel", none⟩ } 1

/-- Two workers are hired, and the second one waits for an intention; then two intentions come in,
and no device can reach the second one. -/
def drainOpening : List Move :=
  [.enlist (.ok (drainDevice "a")), .enlist (.ok (drainDevice "b")),
    .answer 0 0 (.status (.returned .alive)), .answer 1 0 (.status (.returned .alive)), .seek 1,
    .forward, .forward]

/-- The first worker takes the first intention and dies on it, the second one finishes. -/
def drainEnding : List Move :=
  [.seek 0, .answer 0 1 (.status (.returned (.frozen "offline"))), .seek 1, .join 1, .join 0]

/-- The service at the beginning, with two coordinates and two intentions in its channels. -/
theorem operation_opening :
    ∃ before s, Operation (started 2) before s ∧ s.service = .running ∧
      s.router.queue = [drainIntention 1 29, drainIntention 2 30] ∧ s.held = [] ∧
      ∃ after s', s.stopService.1.follow drainEnding = some (after, s') ∧ s'.service = .stopped ∧
        panicked after = false ∧ (∀ t ∈ after, t.move ≠ .overrun) ∧
        s'.router.queue = [drainIntention 2 30] ∧
        ∃ x ∈ s'.workers, x.worker.Finished := by
  have hfilled : Operation (started 2) [] _ :=
    Operation.start.outside
      ⟨[drainIntention 1 29, drainIntention 2 30], some 2, true, true⟩
      ⟨[(drainDevice "a").coordinate, (drainDevice "b").coordinate], some 64, true, true⟩
      .unbounded .unbounded
  have hopening := hfilled.follow drainOpening rfl
  refine ⟨_, _, hopening, rfl, rfl, rfl, _, _, rfl, rfl, rfl, ?_, rfl, ?_⟩
  · iterate 5 refine List.forall_mem_cons.2 ⟨Move.noConfusion, ?_⟩
    exact List.forall_mem_nil _
  · exact ⟨_, List.mem_of_getElem? (i := 1) rfl, rfl, rfl⟩

end Session

end DeviceLab
