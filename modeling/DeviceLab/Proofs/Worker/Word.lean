import DeviceLab.Proofs.Worker.Course
import Mathlib.Tactic.ByContra

/-!
# What a worker tells its listeners

The events that a worker reports over its whole life form one `Word` of a small language, and the
phases that it publishes form the matching word of another. A life is stillborn, or it begins with
`born` and goes on with `Blocks`, each of which is one intention carried out from `received` to
`testCompleted`; it ends because the router has nothing more, because the device froze after a test,
or because the device froze or failed with an intention in hand.

* `Course.wordAt` is the invariant along a course: what exactly a worker has told is fixed by what
  it waits for (`WordAt`). It rests on `WordAt.resumed`, which goes by the cases of `Resumed`.
* `WordAt.partial` says that whatever was told so far can be completed to a word (`Partial`).
* `Course.getLast_phasesIn` is about the phase that a worker shows, and rests on the steps alone.

`course_tells_word` puts these together. What it says of the last phase and of deaths is read off
the words (`Word.getLast_phases`, `Word.countP_isDeath`), and needs no induction over courses.
-/

namespace DeviceLab

/-! ### Events and phases among notices -/

namespace Notice

/-- Whether a notice is an event of a device or of a test. -/
def isEvent : Notice → Bool
  | event _ _ => true
  | test _ _ => true
  | _ => false

/-- The phase in a notice. -/
def phase? : Notice → Option Phase
  | phase _ p => some p
  | _ => none

/-- Whether a notice says that a device died. -/
def isDeath : Notice → Bool
  | event _ (.died _ _) => true
  | _ => false

@[simp] theorem filter_isEvent_map_log (lines : List LogLine) :
    (lines.map log).filter isEvent = [] := by
  induction lines with
  | nil => rfl
  | cons l ls ih => exact ih

@[simp] theorem filterMap_phase?_map_log (lines : List LogLine) :
    (lines.map log).filterMap phase? = [] := by
  induction lines with
  | nil => rfl
  | cons l ls ih => exact ih

@[simp] theorem filter_isEvent_map_event {α : Type} (d : DeviceData) (f : α → DeviceEvent)
    (xs : List α) :
    (xs.map fun x ↦ event d (f x)).filter isEvent = xs.map fun x ↦ event d (f x) := by
  rw [List.filter_eq_self]
  intro e he
  obtain ⟨x, -, rfl⟩ := List.mem_map.1 he
  rfl

@[simp] theorem filterMap_phase?_map_event {α : Type} (d : DeviceData) (f : α → DeviceEvent)
    (xs : List α) : (xs.map fun x ↦ event d (f x)).filterMap phase? = [] := by
  rw [List.filterMap_eq_nil_iff]
  intro e he
  obtain ⟨x, -, rfl⟩ := List.mem_map.1 he
  rfl

end Notice

namespace Worker

/-- The events among the notices of a course. -/
def eventsIn (ns : List Notice) : List Notice :=
  ns.filter Notice.isEvent

/-- The phases published in a course: the phase of a new worker, then those among its notices. -/
def phasesIn (ns : List Notice) : List Phase :=
  .created :: ns.filterMap Notice.phase?

theorem eventsIn_append (ns more : List Notice) :
    eventsIn (ns ++ more) = eventsIn ns ++ eventsIn more :=
  List.filter_append ns more

theorem phasesIn_append (ns more : List Notice) :
    phasesIn (ns ++ more) = phasesIn ns ++ more.filterMap Notice.phase? := by
  rw [phasesIn, List.filterMap_append, phasesIn, List.cons_append]

/-! ### The language -/

/-- The first event of a device that is alive. -/
def born (d : DeviceData) : Notice :=
  .event d (.created (.ofDevice d.api d.model))

/-- An intention up to the start of its test, with the installations made for it. -/
def started (d : DeviceData) (i : Intention) (done : List Installation) : List Notice :=
  .event d (.received i) :: (done.map (fun x ↦ .event d (.installed x)) ++
    [.event d (.prepared i.state), .event d (.testStarted i),
     .test d (.started i.action.targetPackage i.action.test i.action.execution)])

/-- An intention that was carried out, with the run that came of it. -/
def block (d : DeviceData) (i : Intention) (done : List Installation) (run : DeviceRun) :
    List Notice :=
  started d i done ++
    [.test d (.finished i.action.test i.action.targetPackage run.outcome run.run.duration
      i.action.execution), .event d (.testCompleted i run)]

/-- So many blocks one after the other, each an intention from `received` to `testCompleted`. -/
inductive Blocks (d : DeviceData) : Nat → List Notice → Prop
  | none : Blocks d 0 []
  | snoc {n : Nat} {bs : List Notice} (i : Intention) (done : List Installation) (run : DeviceRun)
      (h : Blocks d n bs) : Blocks d (n + 1) (bs ++ block d i done run)

/-- The phases of so many blocks. -/
def rounds (n : Nat) : List Phase :=
  (List.replicate n [Phase.preparing, .executing, .idle]).flatten

theorem rounds_succ (n : Nat) : rounds (n + 1) = rounds n ++ [.preparing, .executing, .idle] := by
  rw [rounds, List.replicate_succ', List.flatten_append, List.flatten_singleton, rounds]

/-- The words: the events of a whole life, the phases published in it, and the phase returned. -/
inductive Word (d : DeviceData) : List Notice → List Phase → Phase → Prop
  /-- The device was frozen from the start. -/
  | stillborn (message reason : String) :
      Word d [.event d (.died message reason)] [.created, .dead] .dead
  /-- The router had nothing more. -/
  | finished {n : Nat} {bs : List Notice} (h : Blocks d n bs) :
      Word d (born d :: (bs ++ [.event d .finished]))
        (.created :: .idle :: (rounds n ++ [.finished])) .finished
  /-- The device froze after a test. -/
  | died {n : Nat} {bs : List Notice} (message reason : String) (h : Blocks d (n + 1) bs) :
      Word d (born d :: (bs ++ [.event d (.died message reason)]))
        (.created :: .idle :: (rounds (n + 1) ++ [.dead])) .dead
  /-- The device froze with an intention in hand, or could not be prepared for it. -/
  | failed {n : Nat} {bs : List Notice} {tail : List Phase} (i : Intention)
      (message reason : String) (h : Blocks d n bs)
      (ht : tail = [.dead] ∨ tail = [.preparing, .dead]) :
      Word d (born d :: (bs ++ [.event d (.received i), .event d (.died message reason),
          .event d (.intentionFailed i reason)]))
        (.created :: .idle :: (rounds n ++ tail)) .dead

/-! ### Reading a word -/

/-- Nobody dies in a block. -/
theorem Blocks.not_isDeath {d : DeviceData} {n : Nat} {bs : List Notice} (h : Blocks d n bs) :
    bs.countP Notice.isDeath = 0 := by
  induction h with
  | none => rfl
  | snoc i done run _ ih =>
    have hdone : (done.map fun x ↦ Notice.event d (.installed x)).countP Notice.isDeath = 0 := by
      rw [List.countP_eq_zero]
      intro e he
      obtain ⟨x, -, rfl⟩ := List.mem_map.1 he
      simp [Notice.isDeath]
    simp [block, started, Notice.isDeath, ih, hdone]

/-- The last published phase is the one returned. -/
theorem Word.getLast_phases {d : DeviceData} {es : List Notice} {ps : List Phase} {p : Phase}
    (h : Word d es ps p) : ps.getLast? = some p := by
  cases h with
  | stillborn => rfl
  | @finished n bs _ =>
    show ((Phase.created :: .idle :: rounds n) ++ [Phase.finished]).getLast? = _
    rw [List.getLast?_concat]
  | @died n bs m r _ =>
    show ((Phase.created :: .idle :: rounds (n + 1)) ++ [Phase.dead]).getLast? = _
    rw [List.getLast?_concat]
  | @failed n bs tail i m r _ ht =>
    show ((Phase.created :: .idle :: rounds n) ++ tail).getLast? = _
    rcases ht with rfl | rfl
    · rw [List.getLast?_concat]
    · rw [List.getLast?_append]
      rfl

/-- A device that is reported dead is reported dead once, and exactly when the worker returns so. -/
theorem Word.countP_isDeath {d : DeviceData} {es : List Notice} {ps : List Phase} {p : Phase}
    (h : Word d es ps p) : es.countP Notice.isDeath = if p = .dead then 1 else 0 := by
  cases h with
  | stillborn => rfl
  | finished h => simp [born, Notice.isDeath, h.not_isDeath]
  | died m r h => simp [born, List.countP_cons, Notice.isDeath, h.not_isDeath]
  | failed i m r h ht => simp [born, List.countP_cons, Notice.isDeath, h.not_isDeath]

/-- A worker returns dead or finished. -/
theorem Word.returned {d : DeviceData} {es : List Notice} {ps : List Phase} {p : Phase}
    (h : Word d es ps p) : p = .dead ∨ p = .finished := by
  cases h with
  | finished => exact .inr rfl
  | stillborn => exact .inl rfl
  | died => exact .inl rfl
  | failed => exact .inl rfl

/-! ### What a worker has told so far -/

/-- So many blocks were told, and nothing else since the device was found alive. -/
def Between (d : DeviceData) (n : Nat) (es : List Notice) (ps : List Phase) : Prop :=
  ∃ bs, Blocks d n bs ∧ es = born d :: bs ∧ ps = .created :: .idle :: rounds n

/-- What was told is a part of a word. -/
def Partial (d : DeviceData) (es : List Notice) (ps : List Phase) : Prop :=
  ∃ word phases p, Word d word phases p ∧ es <+: word ∧ ps <+: phases

/-- What a worker has told, by what it waits for. -/
def WordAt (d : DeviceData) (w : Worker) (es : List Notice) (ps : List Phase) : Prop :=
  match w.stage with
  | .starting => w.state = .ofDevice d.api d.model ∧ es = [] ∧ ps = [.created]
  | .seeking => ∃ n, Between d n es ps
  | .checking i => ∃ n told, Between d n told ps ∧ es = told ++ [.event d (.received i)]
  | .clearing i _ _ => ∃ n told shown, Between d n told shown ∧
      es = told ++ [.event d (.received i)] ∧ ps = shown ++ [.preparing]
  | .installing i _ _ _ => ∃ n told shown, Between d n told shown ∧
      es = told ++ [.event d (.received i)] ∧ ps = shown ++ [.preparing]
  | .running i => ∃ n told shown done, Between d n told shown ∧
      es = told ++ started d i done ∧ ps = shown ++ [.preparing, .executing]
  | .resting => ∃ n, Between d (n + 1) es ps
  | .ended => ∃ p, w.returned = some p ∧ Word d es ps p
  | .crashed _ => Partial d es ps
  | .aborted => Partial d es ps

/-! ### What was told is a part of a word -/

/-- One more block after the others. -/
theorem Between.snoc {d : DeviceData} {n : Nat} {told : List Notice} {shown : List Phase}
    (h : Between d n told shown) (i : Intention) (done : List Installation) (run : DeviceRun) :
    Between d (n + 1) (told ++ block d i done run)
      (shown ++ [.preparing, .executing, .idle]) := by
  obtain ⟨bs, hbs, rfl, rfl⟩ := h
  exact ⟨bs ++ block d i done run, hbs.snoc i done run, rfl, by rw [rounds_succ]; rfl⟩

/-- Whatever was told between two intentions can be completed: the router may have nothing more. -/
theorem Between.partial {d : DeviceData} {n : Nat} {es : List Notice} {ps : List Phase}
    (h : Between d n es ps) : Partial d es ps := by
  obtain ⟨bs, hbs, rfl, rfl⟩ := h
  exact ⟨_, _, _, .finished hbs, List.prefix_append (born d :: bs) _,
    List.prefix_append (.created :: .idle :: rounds n) _⟩

/-- A part of a part of a word is a part of it. -/
theorem Partial.mono {d : DeviceData} {es es' : List Notice} {ps ps' : List Phase}
    (h : Partial d es' ps') (he : es <+: es') (hp : ps <+: ps') : Partial d es ps := by
  obtain ⟨word, phases, p, hw, hes, hps⟩ := h
  exact ⟨word, phases, p, hw, he.trans hes, hp.trans hps⟩

/-- An intention whose test has started can be completed. -/
theorem Between.partial_started {d : DeviceData} {n : Nat} {told : List Notice} {shown : List Phase}
    (h : Between d n told shown) (i : Intention) (done : List Installation) :
    Partial d (told ++ started d i done) (shown ++ [.preparing, .executing]) := by
  -- The test may end in any run, and the worker may be idle then.
  have run : DeviceRun := .broken i.action.test d "" 0
  refine (h.snoc i done run).partial.mono ?_ ?_
  · rw [block, ← List.append_assoc]
    exact List.prefix_append _ _
  · exact ⟨[.idle], by rw [List.append_assoc]; rfl⟩

/-- An intention that was received can be completed, whether its preparation was begun or not. -/
theorem Between.partial_received {d : DeviceData} {n : Nat} {told : List Notice}
    {shown : List Phase} (h : Between d n told shown) (i : Intention) :
    Partial d (told ++ [.event d (.received i)]) (shown ++ [.preparing]) := by
  refine (h.partial_started i []).mono ?_ ?_
  · exact ⟨_, List.append_assoc _ _ _⟩
  · exact ⟨[.executing], by rw [List.append_assoc]; rfl⟩

/-- **Whatever a worker has told is a part of a word** (`Partial`). -/
theorem WordAt.partial {d : DeviceData} {w : Worker} {es : List Notice} {ps : List Phase}
    (h : WordAt d w es ps) : Partial d es ps := by
  rcases hs : w.stage with
    - | - | i | ⟨i, package, left⟩ | ⟨i, path, left, done⟩ | i | - | - | m | -
  all_goals rw [WordAt, hs] at h
  -- One case for each thing that a worker may wait for.
  · obtain ⟨-, rfl, rfl⟩ := h
    exact ⟨_, _, _, .stillborn "" "", List.nil_prefix, [.dead], rfl⟩
  · obtain ⟨n, h⟩ := h
    exact h.partial
  · obtain ⟨n, told, h, rfl⟩ := h
    exact (h.partial_received i).mono List.prefix_rfl (List.prefix_append _ _)
  · obtain ⟨n, told, shown, h, rfl, rfl⟩ := h
    exact h.partial_received i
  · obtain ⟨n, told, shown, h, rfl, rfl⟩ := h
    exact h.partial_received i
  · obtain ⟨n, told, shown, done, h, rfl, rfl⟩ := h
    exact h.partial_started i done
  · obtain ⟨n, h⟩ := h
    exact h.partial
  · obtain ⟨p, -, h⟩ := h
    exact ⟨es, ps, p, h, List.prefix_rfl, List.prefix_rfl⟩
  · exact h
  · exact h

/-! ### Every step keeps `WordAt` -/

variable {d : DeviceData} {w : Worker} {told : List Notice} {shown : List Phase} {n : Nat}
  {i : Intention}

/-- The test starts once the device is prepared. -/
theorem wordAt_execute (hd : w.device = d) (h : Between d n told shown) (done : List Installation) :
    WordAt d (w.execute i).1
      (told ++ .event d (.received i) :: (done.map (fun x ↦ .event d (.installed x)) ++
        eventsIn (w.execute i).2))
      (shown ++ .preparing :: (w.execute i).2.filterMap Notice.phase?) := by
  subst hd
  exact ⟨n, told, shown, done, h, rfl, rfl⟩

/-- Clearing goes on, or the test starts. -/
theorem wordAt_clear (hd : w.device = d) (h : Between d n told shown) (left : List String) :
    WordAt d (w.clear i left).1
      (told ++ .event d (.received i) :: eventsIn (w.clear i left).2)
      (shown ++ .preparing :: (w.clear i left).2.filterMap Notice.phase?) := by
  cases left with
  | nil => exact wordAt_execute hd h []
  | cons package left => exact ⟨n, told, shown, h, rfl, rfl⟩

/-- Installing goes on, or all installations are reported and the test starts. -/
theorem wordAt_install (hd : w.device = d) (h : Between d n told shown) (done : List Installation)
    (left : List String) :
    WordAt d (w.install i done left).1
      (told ++ .event d (.received i) :: eventsIn (w.install i done left).2)
      (shown ++ .preparing :: (w.install i done left).2.filterMap Notice.phase?) := by
  cases left with
  | nil =>
    subst hd
    rw [install, eventsIn_append, List.filterMap_append]
    simp only [say, eventsIn, Notice.filter_isEvent_map_event, Notice.filterMap_phase?_map_event,
      List.nil_append]
    exact wordAt_execute rfl h done
  | cons path left => exact ⟨n, told, shown, h, rfl, rfl⟩

/-- Preparing the device begins with its phase. -/
theorem wordAt_prepare (hd : w.device = d) (h : Between d n told shown) :
    WordAt d (w.prepare i).1 (told ++ .event d (.received i) :: eventsIn (w.prepare i).2)
      (shown ++ (w.prepare i).2.filterMap Notice.phase?) := by
  subst hd
  by_cases hg : w.state.digest = i.state.digest
  · rw [prepare_of_digest_eq hg]
    exact wordAt_clear (w := { w with phase := .preparing }) rfl h _
  · rw [prepare_of_digest_ne hg]
    exact wordAt_install (w := { w with phase := .preparing }) rfl h [] _

/-- The device died with an intention in hand. -/
theorem wordAt_dieOn (hd : w.device = d) (h : Between d n told shown) (message reason : String)
    {begun : List Phase} (hb : begun = [] ∨ begun = [.preparing]) :
    WordAt d (w.dieOn i message reason).1
      (told ++ .event d (.received i) :: eventsIn (w.dieOn i message reason).2)
      (shown ++ (begun ++ (w.dieOn i message reason).2.filterMap Notice.phase?)) := by
  subst hd
  obtain ⟨bs, hbs, rfl, rfl⟩ := h
  refine ⟨.dead, rfl, ?_⟩
  rcases hb with rfl | rfl
  · exact .failed i message reason hbs (.inl rfl)
  · exact .failed i message reason hbs (.inr rfl)

/-- The device could not be prepared, which the log may tell something about. -/
theorem wordAt_giveUp (hd : w.device = d) (h : Between d n told shown) (e : LabError)
    (lines : List LogLine) :
    WordAt d (w.giveUp i e).1
      (told ++ .event d (.received i) :: eventsIn (lines.map Notice.log ++ (w.giveUp i e).2))
      (shown ++
        .preparing :: (lines.map Notice.log ++ (w.giveUp i e).2).filterMap Notice.phase?) := by
  rw [eventsIn_append, List.filterMap_append, Notice.filterMap_phase?_map_log, eventsIn,
    Notice.filter_isEvent_map_log, List.nil_append, List.nil_append]
  exact wordAt_dieOn hd h _ _ (.inr rfl)

/-- The test is over, which the log may tell something about. -/
theorem wordAt_complete (hd : w.device = d) (h : Between d n told shown) (done : List Installation)
    (run : DeviceRun) (lines : List LogLine) :
    WordAt d (w.complete i run).1
      (told ++ started d i done ++ eventsIn (lines.map Notice.log ++ (w.complete i run).2))
      (shown ++ [.preparing, .executing] ++
        (lines.map Notice.log ++ (w.complete i run).2).filterMap Notice.phase?) := by
  subst hd
  rw [eventsIn_append, List.filterMap_append, Notice.filterMap_phase?_map_log, eventsIn,
    Notice.filter_isEvent_map_log, List.nil_append, List.nil_append, List.append_assoc,
    List.append_assoc]
  exact ⟨n, h.snoc i done run⟩

/-- An answer of the device keeps `WordAt`. -/
theorem WordAt.resumed {es : List Notice} {ps : List Phase} {w' : Worker} {time : UInt64}
    {reply : Reply} {ns : List Notice} (hd : w.device = d) (hw : WordAt d w es ps)
    (h : Resumed w time reply w' ns) :
    WordAt d w' (es ++ eventsIn ns) (ps ++ ns.filterMap Notice.phase?) := by
  cases h with
  | crashed hs =>
    -- A panic tells nothing, and what was told before is a part of a word.
    show Partial d (es ++ []) (ps ++ [])
    rw [List.append_nil, List.append_nil]
    exact hw.partial
  | stillborn hs =>
    rw [WordAt, hs] at hw
    obtain ⟨-, rfl, rfl⟩ := hw
    subst hd
    exact ⟨.dead, rfl, .stillborn _ _⟩
  | created hs =>
    rw [WordAt, hs] at hw
    obtain ⟨hstate, rfl, rfl⟩ := hw
    subst hd
    exact ⟨0, [], .none, by rw [hstate]; rfl, rfl⟩
  | frozenOn hs =>
    rw [WordAt, hs] at hw
    obtain ⟨n, told, h, rfl⟩ := hw
    rw [List.append_assoc]
    exact wordAt_dieOn hd h _ _ (.inl rfl)
  | begun hs =>
    rw [WordAt, hs] at hw
    obtain ⟨n, told, h, rfl⟩ := hw
    rw [List.append_assoc]
    exact wordAt_prepare hd h
  | frozen hs =>
    -- A worker rests after a test only, so there was a block at least.
    rw [WordAt, hs] at hw
    obtain ⟨n, bs, hbs, rfl, rfl⟩ := hw
    subst hd
    exact ⟨.dead, rfl, .died _ _ hbs⟩
  | rested hs =>
    rw [WordAt, hs] at hw
    obtain ⟨n, h⟩ := hw
    exact ⟨n + 1, by simpa [eventsIn] using h⟩
  | installed hs =>
    rw [WordAt, hs] at hw
    obtain ⟨n, told, shown, h, rfl, rfl⟩ := hw
    rw [List.append_assoc, List.append_assoc]
    exact wordAt_install hd h _ _
  | uninstalled hs hg =>
    rw [WordAt, hs] at hw
    obtain ⟨n, told, shown, h, rfl, rfl⟩ := hw
    rw [List.append_assoc, List.append_assoc]
    exact wordAt_giveUp hd h _ _
  | cleared hs =>
    rw [WordAt, hs] at hw
    obtain ⟨n, told, shown, h, rfl, rfl⟩ := hw
    rw [List.append_assoc, List.append_assoc]
    exact wordAt_clear hd h _
  | uncleared hs hg =>
    rw [WordAt, hs] at hw
    obtain ⟨n, told, shown, h, rfl, rfl⟩ := hw
    rw [List.append_assoc, List.append_assoc]
    exact wordAt_giveUp hd h _ _
  | ran hs =>
    rw [WordAt, hs] at hw
    obtain ⟨n, told, shown, done, h, rfl, rfl⟩ := hw
    exact wordAt_complete hd h done _ []
  | broke hs hg hrun =>
    rw [WordAt, hs] at hw
    obtain ⟨n, told, shown, done, h, rfl, rfl⟩ := hw
    exact wordAt_complete hd h done _ _

/-- What the router offers keeps `WordAt`. -/
theorem WordAt.receive {es : List Notice} {ps : List Phase} (hd : w.device = d)
    (hw : WordAt d w es ps) (hs : w.isSeeking = true) (offer : Option Intention) :
    WordAt d (w.receive offer).1 (es ++ eventsIn (w.receive offer).2)
      (ps ++ (w.receive offer).2.filterMap Notice.phase?) := by
  rw [WordAt, stage_of_isSeeking hs] at hw
  obtain ⟨n, h⟩ := hw
  subst hd
  cases offer with
  | some i =>
    refine ⟨n, es, ?_, rfl⟩
    show Between w.device n es (ps ++ [])
    rwa [List.append_nil]
  | none =>
    obtain ⟨bs, hbs, rfl, rfl⟩ := h
    exact ⟨.finished, rfl, .finished hbs⟩

/-- An aborted worker has told a part of a word; one that was over stays as it was. -/
theorem WordAt.abort {es : List Notice} {ps : List Phase} (hw : WordAt d w es ps) :
    WordAt d w.abort es ps := by
  rw [Worker.abort]
  split
  · exact hw
  · exact hw.partial

/-- **Along a course `WordAt` holds**, from nothing told at all. -/
theorem Course.wordAt {ns : List Notice} (h : Course d w ns) :
    w.device = d ∧ WordAt d w (eventsIn ns) (phasesIn ns) := by
  induction h with
  | new => exact ⟨rfl, rfl, rfl, rfl⟩
  | receive offer _ hs ih =>
    rw [eventsIn_append, phasesIn_append, receive_device]
    exact ⟨ih.1, ih.2.receive ih.1 hs offer⟩
  | resume time reply _ hr ih =>
    have hr := resumed_of_resume hr
    rw [eventsIn_append, phasesIn_append, hr.device_eq]
    exact ⟨ih.1, ih.2.resumed ih.1 hr⟩
  | @abort w ns _ ih =>
    refine ⟨?_, ih.2.abort⟩
    rw [Worker.abort]
    split <;> exact ih.1

/-! ### Phases and the end -/

theorem clear_phase (w : Worker) (i : Intention) (left : List String) :
    (w.phase :: (w.clear i left).2.filterMap Notice.phase?).getLast? =
      some (w.clear i left).1.phase := by
  cases left <;> rfl

theorem install_phase (w : Worker) (i : Intention) (done : List Installation)
    (left : List String) :
    (w.phase :: (w.install i done left).2.filterMap Notice.phase?).getLast? =
      some (w.install i done left).1.phase := by
  cases left with
  | cons path left => rfl
  | nil =>
    -- The installations are reported before the phase is published, and are no phases.
    rw [install, List.filterMap_append]
    simp only [say, Notice.filterMap_phase?_map_event, List.nil_append]
    rfl

/-- The phase that an answer leaves is the last one published on it, if any was. -/
theorem Resumed.phase_eq {w w' : Worker} {time : UInt64} {reply : Reply} {ns : List Notice}
    (h : Resumed w time reply w' ns) :
    ((w.phase :: ns.filterMap Notice.phase?).getLast?) = some w'.phase := by
  cases h with
  | @begun i hs =>
    by_cases hg : w.state.digest = i.state.digest
    · rw [prepare_of_digest_eq hg]
      exact clear_phase { w with phase := .preparing } i _
    · rw [prepare_of_digest_ne hg]
      exact install_phase { w with phase := .preparing } i [] _
  | installed => exact install_phase w _ _ _
  | cleared => exact clear_phase w _ _
  | uninstalled | uncleared | broke =>
    rw [List.filterMap_append, Notice.filterMap_phase?_map_log]
    rfl
  | _ => rfl

theorem clear_returned (w : Worker) (i : Intention) (left : List String) :
    (w.clear i left).1.returned = w.returned := by
  cases left <;> rfl

theorem install_returned (w : Worker) (i : Intention) (done : List Installation)
    (left : List String) : (w.install i done left).1.returned = w.returned := by
  cases left <;> rfl

/-- A worker that goes on after an answer has not returned on it. -/
theorem Resumed.returned_eq {w w' : Worker} {time : UInt64} {reply : Reply} {ns : List Notice}
    (h : Resumed w time reply w' ns) (hw : w'.stage ≠ .ended) :
    w.stage ≠ .ended ∧ w'.returned = w.returned := by
  have hgoing {st : Stage} (hs : w.stage = st) (hst : st ≠ .ended) : w.stage ≠ .ended := by
    rw [hs]
    exact hst
  cases h with
  | @crashed m hs =>
    refine ⟨fun he ↦ ?_, rfl⟩
    rw [command?, he] at hs
    cases hs
  | stillborn | frozenOn | frozen | uninstalled | uncleared => exact absurd rfl hw
  | created hs | rested hs | ran hs | broke hs => exact ⟨hgoing hs Stage.noConfusion, rfl⟩
  | @begun i hs =>
    refine ⟨hgoing hs Stage.noConfusion, ?_⟩
    by_cases hg : w.state.digest = i.state.digest
    · rw [prepare_of_digest_eq hg, clear_returned]
    · rw [prepare_of_digest_ne hg, install_returned]
  | installed hs => exact ⟨hgoing hs Stage.noConfusion, install_returned w _ _ _⟩
  | cleared hs => exact ⟨hgoing hs Stage.noConfusion, clear_returned w _ _⟩

/-- The phase that a worker shows is the last one that it published. -/
theorem Course.getLast_phasesIn {ns : List Notice} (h : Course d w ns) :
    (phasesIn ns).getLast? = some w.phase := by
  induction h with
  | new => rfl
  | @receive w ns offer _ hs ih =>
    rw [phasesIn_append, List.getLast?_append, ih]
    cases offer <;> rfl
  | @resume w w' ns more time reply _ hr ih =>
    have hp := (resumed_of_resume hr).phase_eq
    rw [← List.singleton_append, List.getLast?_append] at hp
    rw [phasesIn_append, List.getLast?_append, ih]
    exact hp
  | @abort w ns _ ih =>
    rw [ih, Worker.abort]
    split <;> rfl

/-- Only a worker that has ended has returned. -/
theorem Course.returned_eq_none {ns : List Notice} (h : Course d w ns) (hw : w.stage ≠ .ended) :
    w.returned = none := by
  induction h with
  | new => rfl
  | @receive w ns offer _ hs ih =>
    cases offer with
    | some i =>
      refine ih fun he ↦ ?_
      rw [stage_of_isSeeking hs] at he
      cases he
    | none => exact absurd rfl hw
  | resume time reply _ hr ih =>
    obtain ⟨hne, he⟩ := (resumed_of_resume hr).returned_eq hw
    rw [he]
    exact ih hne
  | @abort w ns _ ih =>
    by_cases hover : w.isOver = true
    · rw [Worker.abort, if_pos hover] at hw ⊢
      exact ih hw
    · rw [Worker.abort, if_neg hover]
      refine ih fun he ↦ hover ?_
      rw [isOver, he]

/-! ### The theorem -/

/-- **What one worker tells.** Along any course, for any router and any answers of the device, the
events told form a prefix of a word and the phases published a prefix of its phases, the phase shown
being the last one published. A worker that has returned has told exactly one word and published
exactly its phases; it returns the last of them, which is `dead` if one death was reported and
`finished` if none was. -/
theorem course_tells_word {ns : List Notice} (h : Course d w ns) :
    (∃ word phases p, Word d word phases p ∧ eventsIn ns <+: word ∧ phasesIn ns <+: phases) ∧
      (phasesIn ns).getLast? = some w.phase ∧
      ∀ p, w.returned = some p →
        Word d (eventsIn ns) (phasesIn ns) p ∧ (phasesIn ns).getLast? = some p ∧
          (p = .dead ↔ (eventsIn ns).countP Notice.isDeath = 1) ∧
          (p = .finished ↔ (eventsIn ns).countP Notice.isDeath = 0) := by
  obtain ⟨-, hwordAt⟩ := h.wordAt
  refine ⟨hwordAt.partial, h.getLast_phasesIn, ?_⟩
  intro p hp
  -- A worker that has returned has ended, and then what it told is a whole word.
  have hended : w.stage = .ended := by
    by_contra hne
    rw [h.returned_eq_none hne] at hp
    cases hp
  rw [WordAt, hended] at hwordAt
  obtain ⟨q, hq, hword⟩ := hwordAt
  obtain rfl : p = q := Option.some.inj (hp.symm.trans hq)
  refine ⟨hword, hword.getLast_phases, ?_, ?_⟩
  · rw [hword.countP_isDeath]
    split <;> simp_all
  · rw [hword.countP_isDeath]
    rcases hword.returned with rfl | rfl <;> simp

/-- A device that installs one application, runs one test, is sent another intention and freezes. -/
theorem course_tells_word_of_second_frozen :
    ∃ (d : DeviceData) (w : Worker) (ns : List Notice), Course d w ns ∧ w.returned = some .dead ∧
      (eventsIn ns).length = 11 ∧ Word d (eventsIn ns) (phasesIn ns) .dead := by
  let d : DeviceData := ⟨.attached "emulator-5554", "pixel", 29⟩
  let i : Intention :=
    { id := .numbered 0 1
      state := .ofLayers [.apiLevel 29, .model "pixel", .application "app.apk" "com.example"]
      action := ⟨⟨"LoginTest", "login", "api29"⟩, "com.example", "com.example", .empty, 1,
        .ofMillis 1000⟩ }
  have hnew := (Course.new (d := d)).resume 0 (.status (.returned .alive)) rfl
  have hfirst := (hnew.receive (some i) rfl).resume 0 (.status (.returned .alive))
    (congrArg some (prepare_of_digest_ne (by decide +kernel)))
  have hrun := (hfirst.resume 0 (.installed (.returned ⟨"app.apk", 0, 5⟩)) rfl).resume 0
    (.ran (.returned ⟨⟨i.action.test, .passed, 5, 9⟩, d⟩)) rfl
  have hidle := hrun.resume 0 (.status (.returned .alive)) rfl
  have hdead := (hidle.receive (some i) rfl).resume 0 (.status (.returned (.frozen "gone"))) rfl
  exact ⟨d, _, _, hdead, rfl, rfl, ((course_tells_word hdead).2.2 .dead rfl).1⟩

end Worker

end DeviceLab
