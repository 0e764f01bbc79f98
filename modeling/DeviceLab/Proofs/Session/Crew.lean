import DeviceLab.Proofs.Distinct
import DeviceLab.Proofs.Session.Moves

/-!
# The crew of a session

The `crew` are the workers that a session has hired, in the order of their numbers. A worker is
hired anew, keeps its number from then on, and is never dismissed. Whatever else happens in a
session, one worker only sees five kinds of moves: those that do not concern it, its own questions
to the router, with or without something to take, the answers of its device, and the end of the time
that the workers have. `WorkerChange` lists them, and what they make of the worker.

`workerChange_of_step` says that there are no others. It rests on one lemma for each part of a move
that leaves the crew alone (`hush_crew`, `stopService_crew` and so on), on `setWorker_crew` and
`abortWorkers_crew` for those that do not, and needs nothing to be known of the session. What is
proved of single workers (`Worker.Course`) carries over to sessions by cases on `WorkerChange`.
-/

namespace DeviceLab

namespace Session

variable {s s' : Session} {m : Move} {ns : List Notice} {n : Nat}

/-- The workers of a session, by number. -/
def crew (s : Session) : List Worker :=
  s.workers.map (·.worker)

theorem crew_getElem? (s : Session) (n : Nat) : s.crew[n]? = s.workers[n]?.map (·.worker) :=
  List.getElem?_map ..

/-! ### What leaves the crew alone -/

@[simp] theorem hush_crew (s : Session) : s.hush.crew = s.crew := by
  rw [hush]
  split <;> rfl

@[simp] theorem endIntake_crew (s : Session) : s.endIntake.crew = s.crew :=
  hush_crew _

@[simp] theorem finishDrain_crew (s : Session) : s.finishDrain.1.crew = s.crew := by
  rw [finishDrain]
  split <;> rfl

@[simp] theorem stopService_crew (s : Session) : s.stopService.1.crew = s.crew := by
  rw [stopService]
  split
  · exact (finishDrain_crew _).trans (endIntake_crew _)
  · rfl

@[simp] theorem windDown_crew (s : Session) (why : Ending) : (s.windDown why).1.crew = s.crew :=
  stopService_crew s.endScheduler.endClient

@[simp] theorem letOut_crew (s : Session) (r : Scheduler × Scheduler.Output) :
    (s.letOut r).1.crew = s.crew := by
  rw [letOut]
  cases r.1 <;> rfl

@[simp] theorem forwarded_crew (s : Session) (x : SendResult × Router) :
    (s.forwarded x).1.crew = s.crew := by
  obtain ⟨- | - | -, r⟩ := x <;> rfl

@[simp] theorem foldl_publish_crew (time : UInt64) (s : Session) (ns : List Notice) :
    (ns.foldl (publish time) s).crew = s.crew := by
  induction ns generalizing s with
  | nil => rfl
  | cons a ns ih =>
    rw [List.foldl_cons, ih]
    unfold publish
    split <;> rfl

/-! ### What changes it -/

theorem map_modify_worker (xs : List Hired) (n : Nat) (w : Worker) :
    (xs.modify n fun x ↦ { x with worker := w }).map (·.worker) = (xs.map (·.worker)).set n w := by
  induction xs generalizing n with
  | nil => cases n <;> rfl
  | cons x xs ih =>
    cases n with
    | zero => rfl
    | succ n => exact congrArg (_ :: ·) (ih n)

/-- A worker that is put in its place is the only one that changes. -/
theorem setWorker_crew (s : Session) (n : Nat) (w : Worker) :
    (s.setWorker n w).crew = s.crew.set n w := by
  rw [setWorker, hush_crew]
  exact map_modify_worker s.workers n w

theorem abortWorkers_crew (s : Session) : s.abortWorkers.crew = s.crew.map Worker.abort := by
  rw [abortWorkers, hush_crew, crew, crew, List.map_map, List.map_map]
  rfl

/-- A hired worker joins the others at the end. -/
theorem hire_crew (s : Session) (d : DeviceData) : (s.hire d).crew = s.crew ++ [.new d] :=
  List.map_append

/-! ### What one worker sees -/

/-- What a move with its notices makes of the worker with a number, who may not be hired yet
(`workerChange_of_step`). -/
inductive WorkerChange (n : Nat) : Option Worker → Move → List Notice → Option Worker → Prop
  /-- The move does not concern the worker. -/
  | apart {w : Option Worker} {m : Move} {ns : List Notice} (hm : m.worker? ≠ some n)
      (ho : m ≠ .overrun) : WorkerChange n w m ns w
  /-- The worker is hired. -/
  | hired {found : Except LabError DeviceData} {ns : List Notice} (d : DeviceData) :
      WorkerChange n none (.enlist found) ns (some (.new d))
  /-- The router has nothing for the worker yet. -/
  | waited {w : Worker} : WorkerChange n (some w) (.seek n) [] (some w)
  /-- The router has an intention for the worker, or will have none any more. -/
  | received {w : Worker} (offer : Option Intention) (hs : w.isSeeking = true) :
      WorkerChange n (some w) (.seek n) (w.receive offer).2 (some (w.receive offer).1)
  /-- The device of the worker answers. -/
  | resumed {w w' : Worker} {time : UInt64} {reply : Reply} {ns : List Notice}
      (hr : w.resume time reply = some (w', ns)) :
      WorkerChange n (some w) (.answer n time reply) ns (some w')
  /-- Time is up for all workers. -/
  | overran {w : Option Worker} {ns : List Notice} :
      WorkerChange n w .overrun ns (w.map Worker.abort)

/-- A move that leaves the crew alone concerns nobody (`WorkerChange`). -/
theorem workerChange_of_crew_eq (hc : s'.crew = s.crew) (hm : m.worker? ≠ some n)
    (ho : m ≠ .overrun) :
    WorkerChange n s.crew[n]? m ns s'.crew[n]? := by
  rw [hc]
  exact .apart hm ho

theorem workerChange_of_seek {k : Nat} (hs : s.seek k = some (s', ns)) (n : Nat) :
    WorkerChange n s.crew[n]? (.seek k) ns s'.crew[n]? := by
  obtain ⟨x, state, hx, hseeking, -, hs⟩ := Wired.seek_cases hs
  have hworker : s.crew[k]? = some x.worker := by rw [crew_getElem?, hx, Option.map_some]
  have hoffer (t : Session) (ht : t.crew = s.crew) (offer : Option Intention) :
      WorkerChange n s.crew[n]? (.seek k) (x.worker.receive offer).2
        (t.setWorker k (x.worker.receive offer).1).crew[n]? := by
    rw [setWorker_crew, ht]
    by_cases hn : k = n
    · subst hn
      rw [List.getElem?_set_self (List.getElem?_eq_some_iff.1 hworker).1, hworker]
      exact .received offer hseeking
    · rw [List.getElem?_set_ne hn]
      exact .apart (fun he ↦ hn (Option.some.inj he)) Move.noConfusion
  rcases hask : (s.router.dropTake k).ask k state with ⟨i | _ | _, r⟩
  all_goals
    rw [hask] at hs
    obtain ⟨rfl, rfl⟩ := Prod.mk.inj (Option.some.inj hs)
  · exact hoffer { s with router := r } rfl (some i)
  · exact hoffer { s with router := r } rfl none
  · by_cases hn : k = n
    · subst hn
      show WorkerChange k s.crew[k]? (.seek k) [] s.crew[k]?
      rw [hworker]
      exact .waited
    · exact .apart (fun he ↦ hn (Option.some.inj he)) Move.noConfusion

theorem workerChange_of_answer {k : Nat} {time : UInt64} {reply : Reply}
    (hs : s.answer k time reply = some (s', ns)) (n : Nat) :
    WorkerChange n s.crew[n]? (.answer k time reply) ns s'.crew[n]? := by
  simp only [answer, Option.bind_eq_bind, Option.bind_eq_some_iff] at hs
  obtain ⟨x, hx, ⟨w, more⟩, hr, hs⟩ := hs
  obtain ⟨rfl, rfl⟩ := Prod.mk.inj (Option.some.inj hs)
  have hworker : s.crew[k]? = some x.worker := by rw [crew_getElem?, hx, Option.map_some]
  rw [setWorker_crew, foldl_publish_crew]
  by_cases hn : k = n
  · subst hn
    rw [List.getElem?_set_self (List.getElem?_eq_some_iff.1 hworker).1, hworker]
    exact .resumed hr
  · rw [List.getElem?_set_ne hn]
    exact .apart (fun he ↦ hn (Option.some.inj he)) Move.noConfusion

theorem workerChange_of_enlist {found : Except LabError DeviceData}
    (hs : s.enlist found = some (s', ns)) (n : Nat) :
    WorkerChange n s.crew[n]? (.enlist found) ns s'.crew[n]? := by
  rw [enlist] at hs
  split at hs
  · cases hs
  split at hs
  · cases hs
  cases found with
  | error e =>
    obtain ⟨rfl, rfl⟩ := Prod.mk.inj (Option.some.inj hs)
    exact .apart (Option.some_ne_none n).symm Move.noConfusion
  | ok d =>
    obtain ⟨rfl, rfl⟩ := Prod.mk.inj (Option.some.inj hs)
    rw [hire_crew]
    show WorkerChange n s.crew[n]? _ _ (s.crew ++ [.new d])[n]?
    rcases Nat.lt_trichotomy n s.crew.length with hn | rfl | hn
    · rw [List.getElem?_append_left hn]
      exact .apart (Option.some_ne_none n).symm Move.noConfusion
    · rw [List.getElem?_eq_none (Nat.le_refl _), List.getElem?_concat_length]
      exact .hired d
    · rw [List.getElem?_append_right (Nat.le_of_lt hn),
        List.getElem?_eq_none (Nat.le_of_lt hn), List.getElem?_eq_none (Nat.sub_pos_of_lt hn)]
      exact .apart (Option.some_ne_none n).symm Move.noConfusion

theorem crew_of_some {x : Session × List Notice} {ws : List Worker} (hx : x.1.crew = ws)
    (hs : some x = some (s', ns)) : s'.crew = ws := by
  rw [Option.some.inj hs] at hx
  exact hx

theorem join_crew {k : Nat} (hs : s.join k = some (s', ns)) : s'.crew = s.crew := by
  simp only [join, Option.bind_eq_bind, Option.bind_eq_some_iff] at hs
  obtain ⟨-, -, x, -, -, -, hs⟩ := hs
  refine crew_of_some ?_ hs
  rw [finishDrain_crew]
  exact map_modify_of_key (f := Hired.worker) (g := fun x ↦ { x with joined := true }) (fun _ ↦ rfl)
    s.workers k

theorem forward_crew (hs : s.forward = some (s', ns)) : s'.crew = s.crew := by
  rw [forward] at hs
  split at hs
  · cases hs
  · split at hs
    · refine crew_of_some ?_ hs
      exact forwarded_crew ..
    · split at hs
      · cases hs
      · exact crew_of_some rfl hs
  · obtain ⟨x, -, hx⟩ := Option.map_eq_some_iff.1 hs
    exact crew_of_some (forwarded_crew ..) (congrArg some hx)

theorem claimed_crew {reply : Except LabError Unit} (hs : s.claimed reply = some (s', ns)) :
    s'.crew = s.crew := by
  rw [claimed.eq_def] at hs
  split at hs
  · cases reply with
    | ok => exact crew_of_some rfl hs
    | error e =>
      refine crew_of_some ?_ hs
      exact stopService_crew s.endWatcher
  · cases hs

theorem collect_crew (hs : s.collect = some (s', ns)) : s'.crew = s.crew := by
  rw [collect] at hs
  split at hs
  · split at hs
    · refine crew_of_some ?_ hs
      split
      · rfl
      · exact windDown_crew ..
    · split at hs
      · cases hs
      · exact crew_of_some (windDown_crew ..) hs
  · cases hs

/-- **What a move makes of one worker**: every move is a `WorkerChange` of every worker. -/
theorem workerChange_of_step (hs : s.step m = some (s', ns)) (n : Nat) :
    WorkerChange n s.crew[n]? m ns s'.crew[n]? := by
  have hnone : none ≠ some n := (Option.some_ne_none n).symm
  cases m with
  | seek k => exact workerChange_of_seek hs n
  | answer k time reply => exact workerChange_of_answer hs n
  | enlist found => exact workerChange_of_enlist hs n
  | join k => exact workerChange_of_crew_eq (join_crew hs) hnone Move.noConfusion
  | forward => exact workerChange_of_crew_eq (forward_crew hs) hnone Move.noConfusion
  | claimed reply => exact workerChange_of_crew_eq (claimed_crew hs) hnone Move.noConfusion
  | collect => exact workerChange_of_crew_eq (collect_crew hs) hnone Move.noConfusion
  | overrun =>
    rw [step, overrun] at hs
    split at hs
    · have hcrew : s'.crew = s.crew.map Worker.abort := by
        refine crew_of_some (x := (s.abortWorkers.finishDrain.1, _)) ?_ hs
        exact (finishDrain_crew _).trans (abortWorkers_crew s)
      rw [hcrew, List.getElem?_map]
      exact .overran
    · cases hs
  | schedule | takeAttempt | takeResult | handOn | closeIntake | takeCoordinate | deliver | heed
    | removed | expire | drained | released =>
    -- Each of these branches on what it finds, and every branch leaves the crew alone.
    refine workerChange_of_crew_eq ?_ hnone Move.noConfusion
    simp only [step, schedule, takeAttempt, takeResult, handOn, closeIntake, takeCoordinate,
      deliver, heed, removed, expire, drained, released] at hs
    repeat' split at hs
    all_goals first
      | cases hs; done
      | exact crew_of_some rfl hs
      | exact crew_of_some (by exact letOut_crew ..) hs
      | exact crew_of_some (by exact endIntake_crew _) hs
      | exact crew_of_some (by exact windDown_crew ..) hs

end Session

end DeviceLab
