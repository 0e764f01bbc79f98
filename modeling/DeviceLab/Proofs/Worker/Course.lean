import DeviceLab.Worker

/-!
# The course of one worker

A worker is driven from outside: the router gives it an intention or says that there will be none,
its device answers, and it may be aborted. Its `Course` is everything that it has reported on the
way, in order, for any router and any device whatsoever.

`Resumed` says once what an answer of the device can make of a worker, one constructor for each
thing that can happen, guards included; `resumed_of_resume` is the only place that opens
`Worker.resume`. It rests on `guarded_cases` for the commands whose panics are caught, and on
`prepare_of_digest_eq` and `prepare_of_digest_ne` for the two ways in which a device is prepared.
What is proved of steps elsewhere goes by the cases of `Resumed`.
-/

namespace DeviceLab

namespace Worker

/-! ### What an answer makes of a worker -/

/-- An answer of the device takes a worker to its next state, with the notices of that step
(`resumed_of_resume`). -/
inductive Resumed (w : Worker) (time : UInt64) : Reply → Worker → List Notice → Prop
  /-- Asking for the health of the device panicked. -/
  | crashed {message : Option String} (h : w.command? = some .status) :
      Resumed w time (.status (.panicked message)) { w with stage := .crashed message } []
  /-- The device was frozen from the start. -/
  | stillborn {reason : String} (h : w.stage = .starting) :
      Resumed w time (.status (.returned (.frozen reason)))
        (w.die freezeMessage reason).1 (w.die freezeMessage reason).2
  /-- The device is alive and looks for its first intention. -/
  | created (h : w.stage = .starting) :
      Resumed w time (.status (.returned .alive)) { w with stage := .seeking, phase := .idle }
        [w.say (.created w.state), .phase w.device .idle]
  /-- The device froze before the intention was begun. -/
  | frozenOn {i : Intention} {reason : String} (h : w.stage = .checking i) :
      Resumed w time (.status (.returned (.frozen reason)))
        (w.dieOn i freezeMessage reason).1 (w.dieOn i freezeMessage reason).2
  /-- The device is brought into the state that the intention asks for. -/
  | begun {i : Intention} (h : w.stage = .checking i) :
      Resumed w time (.status (.returned .alive)) (w.prepare i).1 (w.prepare i).2
  /-- The device froze after a test. -/
  | frozen {reason : String} (h : w.stage = .resting) :
      Resumed w time (.status (.returned (.frozen reason)))
        (w.die freezeMessage reason).1 (w.die freezeMessage reason).2
  /-- The device is ready for another intention. -/
  | rested (h : w.stage = .resting) :
      Resumed w time (.status (.returned .alive)) { w with stage := .seeking } []
  /-- An application was installed. -/
  | installed {i : Intention} {path : String} {left : List String} {done : List Installation}
      {x : Installation} (h : w.stage = .installing i path left done) :
      Resumed w time (.installed (.returned x))
        (w.install i (done ++ [x]) left).1 (w.install i (done ++ [x]) left).2
  /-- An installation failed or panicked. -/
  | uninstalled {i : Intention} {path : String} {left : List String} {done : List Installation}
      {answer : Answer Installation} {e : LabError} {lines : List LogLine}
      (h : w.stage = .installing i path left done)
      (hg : w.guarded answer = (.error e, lines.map .log)) :
      Resumed w time (.installed answer) (w.giveUp i e).1 (lines.map .log ++ (w.giveUp i e).2)
  /-- A package was cleared. -/
  | cleared {i : Intention} {package : String} {left : List String}
      (h : w.stage = .clearing i package left) :
      Resumed w time (.cleared (.returned ())) (w.clear i left).1 (w.clear i left).2
  /-- Clearing a package failed or panicked. -/
  | uncleared {i : Intention} {package : String} {left : List String} {answer : Answer Unit}
      {e : LabError} {lines : List LogLine} (h : w.stage = .clearing i package left)
      (hg : w.guarded answer = (.error e, lines.map .log)) :
      Resumed w time (.cleared answer) (w.giveUp i e).1 (lines.map .log ++ (w.giveUp i e).2)
  /-- The test has run. -/
  | ran {i : Intention} {run : DeviceRun} (h : w.stage = .running i) :
      Resumed w time (.ran (.returned run)) (w.complete i run).1 (w.complete i run).2
  /-- The test could not be run, or running it panicked. -/
  | broke {i : Intention} {answer : Answer DeviceRun} {e : LabError} {lines : List LogLine}
      {run : DeviceRun} (h : w.stage = .running i)
      (hg : w.guarded answer = (.error e, lines.map .log))
      (hrun : run = .broken i.action.test w.device
        ("Unexpected infrastructure error: " ++ e.message) time) :
      Resumed w time (.ran answer) (w.complete i run).1 (lines.map .log ++ (w.complete i run).2)

/-- A device that is in the state asked for has its packages cleared. -/
theorem prepare_of_digest_eq {w : Worker} {i : Intention} (h : w.state.digest = i.state.digest) :
    let begun : Worker := { w with phase := .preparing }
    let cleared := begun.clear i (i.state.applications.map (·.2))
    w.prepare i = (cleared.1, .phase w.device .preparing :: cleared.2) := by
  simp only [prepare, if_pos h]

/-- Any other device has all applications installed. -/
theorem prepare_of_digest_ne {w : Worker} {i : Intention} (h : w.state.digest ≠ i.state.digest) :
    let begun : Worker := { w with phase := .preparing }
    let installed := begun.install i [] (i.state.applications.map (·.1))
    w.prepare i = (installed.1, .phase w.device .preparing :: installed.2) := by
  simp only [prepare, if_neg h]

/-- A `guarded` command either returned, without a word, or it is an error with log lines only. -/
theorem guarded_cases {α : Type} (w : Worker) (answer : Answer α) :
    (∃ a, answer = .returned a ∧ w.guarded answer = (.ok a, [])) ∨
      ∃ (e : LabError) (lines : List LogLine), w.guarded answer = (.error e, lines.map .log) := by
  cases answer with
  | returned a => exact .inl ⟨a, rfl, rfl⟩
  | failed e => exact .inr ⟨e, [], rfl⟩
  | panicked m =>
    exact .inr ⟨_, [⟨.error, w.device.coordinate.text ++ ": device command panicked: " ++
      panicText m⟩], rfl⟩

/-- **What an answer can do**: every step of a worker on an answer is one of `Resumed`. -/
theorem resumed_of_resume {w w' : Worker} {time : UInt64} {reply : Reply} {ns : List Notice}
    (h : w.resume time reply = some (w', ns)) : Resumed w time reply w' ns := by
  cases reply with
  | status answer =>
    rcases answer with health | e | m
    · rcases hs : w.stage <;> rcases health with - | reason <;> simp only [resume, hs] at h
      all_goals first
        | (obtain ⟨rfl, rfl⟩ := Prod.mk.injEq _ _ _ _ ▸ Option.some.inj h)
        | cases h
      · exact .created hs
      · exact .stillborn hs
      · exact .begun hs
      · exact .frozenOn hs
      · exact .rested hs
      · exact .frozen hs
    · simp [resume] at h
    · rcases hs : w.stage <;> simp [resume, hs] at h
      all_goals
        obtain ⟨rfl, rfl⟩ := h
        exact .crashed (by rw [command?, hs])
  | installed answer =>
    rcases hs : w.stage <;> simp only [resume, hs, reduceCtorEq] at h
    rcases guarded_cases w answer with ⟨x, rfl, hg⟩ | ⟨e, lines, hg⟩
    · simp only [hg, List.nil_append, Option.some.injEq, Prod.mk.injEq] at h
      obtain ⟨rfl, rfl⟩ := h
      exact .installed hs
    · simp only [hg, Option.some.injEq, Prod.mk.injEq] at h
      obtain ⟨rfl, rfl⟩ := h
      exact .uninstalled hs hg
  | cleared answer =>
    rcases hs : w.stage <;> simp only [resume, hs, reduceCtorEq] at h
    rcases guarded_cases w answer with ⟨x, rfl, hg⟩ | ⟨e, lines, hg⟩
    · simp only [hg, List.nil_append, Option.some.injEq, Prod.mk.injEq] at h
      obtain ⟨rfl, rfl⟩ := h
      exact .cleared hs
    · simp only [hg, Option.some.injEq, Prod.mk.injEq] at h
      obtain ⟨rfl, rfl⟩ := h
      exact .uncleared hs hg
  | ran answer =>
    rcases hs : w.stage <;> simp only [resume, hs, reduceCtorEq] at h
    rcases guarded_cases w answer with ⟨x, rfl, hg⟩ | ⟨e, lines, hg⟩
    · simp only [hg, List.nil_append, Option.some.injEq, Prod.mk.injEq] at h
      obtain ⟨rfl, rfl⟩ := h
      exact .ran hs
    · simp only [hg, Option.some.injEq, Prod.mk.injEq] at h
      obtain ⟨rfl, rfl⟩ := h
      exact .broke hs hg rfl

/-- A worker seeks in one stage only. -/
theorem stage_of_isSeeking {w : Worker} (hs : w.isSeeking = true) : w.stage = .seeking := by
  rw [isSeeking] at hs
  split at hs
  · assumption
  · cases hs

/-! ### The device of a worker -/

@[simp] theorem clear_device (w : Worker) (i : Intention) (left : List String) :
    (w.clear i left).1.device = w.device := by
  cases left <;> rfl

@[simp] theorem install_device (w : Worker) (i : Intention) (done : List Installation)
    (left : List String) : (w.install i done left).1.device = w.device := by
  cases left <;> rfl

@[simp] theorem receive_device (w : Worker) (offer : Option Intention) :
    (w.receive offer).1.device = w.device := by
  cases offer <;> rfl

/-- No answer changes the device of a worker. -/
theorem Resumed.device_eq {w w' : Worker} {time : UInt64} {reply : Reply} {ns : List Notice}
    (h : Resumed w time reply w' ns) : w'.device = w.device := by
  cases h with
  | @begun i hs =>
    by_cases hg : w.state.digest = i.state.digest
    · rw [prepare_of_digest_eq hg, clear_device]
    · rw [prepare_of_digest_ne hg, install_device]
  | installed => exact install_device w _ _ _
  | cleared => exact clear_device w _ _
  | _ => rfl

/-! ### Courses -/

/-- The worker of a device has come to a state and has reported so much on the way. What the router
offers and when, what the device answers, and whether the worker is aborted (`abort`), is all left
open. -/
inductive Course (d : DeviceData) : Worker → List Notice → Prop
  | new : Course d (.new d) []
  | receive {w : Worker} {ns : List Notice} (offer : Option Intention) (h : Course d w ns)
      (hs : w.isSeeking = true) : Course d (w.receive offer).1 (ns ++ (w.receive offer).2)
  | resume {w w' : Worker} {ns more : List Notice} (time : UInt64) (reply : Reply)
      (h : Course d w ns) (hr : w.resume time reply = some (w', more)) : Course d w' (ns ++ more)
  | abort {w : Worker} {ns : List Notice} (h : Course d w ns) : Course d w.abort ns

end Worker

end DeviceLab
