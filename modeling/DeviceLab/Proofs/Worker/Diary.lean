import DeviceLab.Proofs.Worker.Word

/-!
# The diary of a worker

A `Diary` keeps, for each intention that a worker received, which commands it has given to its
device and how each of them went. It has one `Chapter` for each intention, the latest first; what is
noted before the first intention, that the device was asked for its health, belongs to none and is
left out.

Between two intentions all chapters are `Whole`: the device was found alive, the plan for the
intention (`planFor`) succeeded command by command, the test ran, and the device was alive
afterwards. At any other time the latest chapter alone may be open, and `Account` lists what can
stand in it.

`Diary.written` says what a diary can look like (`Written`). It rests on `Diary.diaryAt`: what
exactly stands in the latest chapter is fixed by what the worker waits for (`DiaryAt`), and every
step keeps that (`DiaryAt.resumed`, by the cases of `Resumed`). Nothing is assumed of the device:
`Course.diary` says that a diary can be kept on every course.
-/

namespace DeviceLab

/-! ### Answers -/

/-- Whether a command came to its regular end. -/
def Answer.isReturned {α : Type} : Answer α → Bool
  | .returned _ => true
  | .failed _ => false
  | .panicked _ => false

/-- Whether the device did what it was asked for; a device that is asked for its health has to be
alive. -/
def Reply.succeeded : Reply → Bool
  | .status (.returned .alive) => true
  | .status _ => false
  | .installed answer => answer.isReturned
  | .cleared answer => answer.isReturned
  | .ran answer => answer.isReturned

namespace Worker

theorem isReturned_of_guarded {α : Type} {w : Worker} {answer : Answer α} {e : LabError}
    {ns : List Notice} (hg : w.guarded answer = (.error e, ns)) : answer.isReturned = false := by
  cases answer with
  | returned a => cases hg
  | failed e => rfl
  | panicked m => rfl

/-! ### Diaries -/

/-- An entry: a command was given to the device, or the device has answered it. -/
inductive Entry
  | issued (c : Command)
  | answered (c : Command) (succeeded : Bool)
  deriving DecidableEq

/-- What was noted for one intention, entry by entry (`Entry`). -/
structure Chapter where
  intention : Intention
  entries : List Entry

/-- What a worker gives to its device on coming to where it stands. -/
def issuedBy (w : Worker) : List Entry :=
  (w.command?.map Entry.issued).toList

/-- What a worker learns from a reply. -/
def answeredBy (w : Worker) (reply : Reply) : List Entry :=
  (w.command?.map (Entry.answered · reply.succeeded)).toList

/-- Goes on with the latest chapter. -/
def note (es : List Entry) : List Chapter → List Chapter
  | [] => []
  | c :: earlier => { c with entries := c.entries ++ es } :: earlier

/-- The worker of a device has come to a state, and its diary says so much. What the router offers
and when, what the device answers, and whether the worker is aborted, is all left open. -/
inductive Diary (d : DeviceData) : Worker → List Chapter → Prop
  | new : Diary d (.new d) []
  | receive {w : Worker} {cs : List Chapter} (i : Intention) (h : Diary d w cs)
      (hs : w.isSeeking = true) :
      Diary d (w.receive (some i)).1 (⟨i, issuedBy (w.receive (some i)).1⟩ :: cs)
  | finish {w : Worker} {cs : List Chapter} (h : Diary d w cs) (hs : w.isSeeking = true) :
      Diary d (w.receive none).1 cs
  | resume {w w' : Worker} {cs : List Chapter} {ns : List Notice} (time : UInt64) (reply : Reply)
      (h : Diary d w cs) (hr : w.resume time reply = some (w', ns)) :
      Diary d w' (note (answeredBy w reply ++ issuedBy w') cs)
  | abort {w : Worker} {cs : List Chapter} (h : Diary d w cs) : Diary d w.abort cs

variable {d : DeviceData} {w : Worker} {cs : List Chapter}

/-- A worker with a diary is on its course. -/
theorem Diary.course (h : Diary d w cs) : ∃ ns, Course d w ns := by
  induction h with
  | new => exact ⟨_, .new⟩
  | receive i _ hs ih =>
    obtain ⟨ns, hc⟩ := ih
    exact ⟨_, hc.receive (some i) hs⟩
  | finish _ hs ih =>
    obtain ⟨ns, hc⟩ := ih
    exact ⟨_, hc.receive none hs⟩
  | resume time reply _ hr ih =>
    obtain ⟨ns, hc⟩ := ih
    exact ⟨_, hc.resume time reply hr⟩
  | abort _ ih =>
    obtain ⟨ns, hc⟩ := ih
    exact ⟨_, hc.abort⟩

/-- On every course a diary can be kept. -/
theorem Course.diary {ns : List Notice} (h : Course d w ns) : ∃ cs, Diary d w cs := by
  induction h with
  | new => exact ⟨_, .new⟩
  | receive offer _ hs ih =>
    obtain ⟨cs, hd⟩ := ih
    cases offer with
    | some i => exact ⟨_, hd.receive i hs⟩
    | none => exact ⟨_, hd.finish hs⟩
  | resume time reply _ hr ih =>
    obtain ⟨cs, hd⟩ := ih
    exact ⟨_, hd.resume time reply hr⟩
  | abort _ ih =>
    obtain ⟨cs, hd⟩ := ih
    exact ⟨_, hd.abort⟩

/-! ### Plans -/

/-- What it takes to bring a device from a state to a target: if the digests agree, the packages of
the target are cleared, and otherwise its applications are installed. -/
def reconciliation (s target : DeviceState) : List Command :=
  if s.digest = target.digest then target.applications.map (.clear ·.2)
  else target.applications.map (.install ·.1)

theorem reconciliation_of_digest_eq {s target : DeviceState} (h : s.digest = target.digest) :
    reconciliation s target = (target.applications.map (·.2)).map .clear := by
  rw [reconciliation, if_pos h, List.map_map]
  rfl

theorem reconciliation_of_digest_ne {s target : DeviceState} (h : s.digest ≠ target.digest) :
    reconciliation s target = (target.applications.map (·.1)).map .install := by
  rw [reconciliation, if_neg h, List.map_map]
  rfl

/-- The state in which the device was left by these chapters: the target of the latest intention, or
what the device was made of. -/
def stateAfter (d : DeviceData) : List Chapter → DeviceState
  | [] => .ofDevice d.api d.model
  | c :: _ => c.intention.state

/-- What it takes to bring the device from where these chapters left it to what an intention asks
for. -/
def planFor (d : DeviceData) (earlier : List Chapter) (i : Intention) : List Command :=
  reconciliation (stateAfter d earlier) i.state

/-! ### What can stand in a chapter -/

/-- Commands that succeeded one after the other. -/
def carriedOut (done : List Command) : List Entry :=
  done.flatMap fun c ↦ [.issued c, .answered c true]

theorem carriedOut_append (done more : List Command) :
    carriedOut (done ++ more) = carriedOut done ++ carriedOut more :=
  List.flatMap_append

/-- What follows a plan that succeeded: the test, and the question for the health of the device. -/
def testEntries (test : Command) (succeeded alive : Bool) : List Entry :=
  [.issued test, .answered test succeeded, .issued .status, .answered .status alive]

/-- What can stand in a chapter, for a plan and a test, if the worker has returned so. -/
inductive Account (plan : List Command) (test : Command) (returned : Option Phase) :
    List Entry → Prop
  /-- The device was asked for its health. -/
  | asked : Account plan test returned [.issued .status]
  /-- The device froze before the intention was begun, or asking for its health panicked. -/
  | gone : Account plan test returned [.issued .status, .answered .status false]
  /-- The device is busy with a command of the plan. -/
  | preparing {done left : List Command} {c : Command} (h : plan = done ++ c :: left) :
      Account plan test returned (carriedOut (.status :: done) ++ [.issued c])
  /-- A command of the plan failed or panicked. -/
  | failed {done left : List Command} {c : Command} (h : plan = done ++ c :: left)
      (hr : returned = some .dead) :
      Account plan test returned (carriedOut (.status :: done) ++ [.issued c, .answered c false])
  /-- The plan succeeded, and the test was started; more or less of the rest is done. -/
  | prepared {rest : List Entry} (succeeded alive : Bool)
      (h : .issued test :: rest <+: testEntries test succeeded alive) :
      Account plan test returned (carriedOut (.status :: plan) ++ .issued test :: rest)

/-- All chapters are whole: the device did (`carriedOut`) whatever it was asked for, the tests
perhaps excepted. -/
inductive Whole (d : DeviceData) : List Chapter → Prop
  | none : Whole d []
  | cons {earlier : List Chapter} (i : Intention) (succeeded : Bool) (h : Whole d earlier) :
      Whole d (⟨i, carriedOut (.status :: planFor d earlier i) ++
        testEntries (.run i.action) succeeded true⟩ :: earlier)

/-- What a diary can look like if the worker has returned so: all chapters are `Whole`, except
perhaps for the latest one (`Account`) if the worker did not finish. -/
inductive Written (d : DeviceData) (returned : Option Phase) : List Chapter → Prop
  | whole {cs : List Chapter} (h : Whole d cs) : Written d returned cs
  | ajar {i : Intention} {es : List Entry} {earlier : List Chapter} (h : Whole d earlier)
      (ha : Account (planFor d earlier i) (.run i.action) returned es)
      (hr : returned ≠ some .finished) : Written d returned (⟨i, es⟩ :: earlier)

/-! ### The diary by what a worker waits for -/

/-- What the diary of a worker says, by what the worker waits for. -/
def DiaryAt (d : DeviceData) (w : Worker) (cs : List Chapter) : Prop :=
  match w.stage with
  | .starting => w.state = stateAfter d [] ∧ cs = []
  | .seeking => w.state = stateAfter d cs ∧ Whole d cs
  | .checking i => ∃ earlier, w.state = stateAfter d earlier ∧ Whole d earlier ∧
      cs = ⟨i, [.issued .status]⟩ :: earlier
  | .clearing i package left => ∃ earlier done, Whole d earlier ∧
      planFor d earlier i = done ++ (package :: left).map .clear ∧
      cs = ⟨i, carriedOut (.status :: done) ++ [.issued (.clear package)]⟩ :: earlier
  | .installing i path left _ => ∃ earlier done, Whole d earlier ∧
      planFor d earlier i = done ++ (path :: left).map .install ∧
      cs = ⟨i, carriedOut (.status :: done) ++ [.issued (.install path)]⟩ :: earlier
  | .running i => ∃ earlier, w.state = i.state ∧ Whole d earlier ∧
      cs = ⟨i, carriedOut (.status :: planFor d earlier i) ++ [.issued (.run i.action)]⟩ :: earlier
  | .resting => ∃ i earlier succeeded, w.state = i.state ∧ Whole d earlier ∧
      cs = ⟨i, carriedOut (.status :: planFor d earlier i) ++ [.issued (.run i.action),
        .answered (.run i.action) succeeded, .issued .status]⟩ :: earlier
  | .ended => Written d w.returned cs
  | .crashed _ => Written d none cs
  | .aborted => Written d none cs

/-- The diary of a worker that has not returned. -/
theorem DiaryAt.written (h : DiaryAt d w cs) (hw : w.stage ≠ .ended) : Written d none cs := by
  have hopen : (none : Option Phase) ≠ some .finished := by simp
  rcases hs : w.stage with - | - | i | ⟨i, pkg, left⟩ | ⟨i, path, left, made⟩ | i | - | - | m | -
  all_goals rw [DiaryAt, hs] at h
  -- One case for each thing that a worker may wait for.
  · obtain ⟨-, rfl⟩ := h
    exact .whole .none
  · exact .whole h.2
  · obtain ⟨earlier, -, hwhole, rfl⟩ := h
    exact .ajar hwhole .asked hopen
  · obtain ⟨earlier, done, hwhole, hplan, rfl⟩ := h
    exact .ajar hwhole (.preparing hplan) hopen
  · obtain ⟨earlier, done, hwhole, hplan, rfl⟩ := h
    exact .ajar hwhole (.preparing hplan) hopen
  · obtain ⟨earlier, -, hwhole, rfl⟩ := h
    exact .ajar hwhole (.prepared true true ⟨_, rfl⟩) hopen
  · obtain ⟨i, earlier, succeeded, -, hwhole, rfl⟩ := h
    exact .ajar hwhole (.prepared succeeded true ⟨_, rfl⟩) hopen
  · exact absurd hs hw
  · exact h
  · exact h

/-! ### Every step keeps `DiaryAt` -/

variable {i : Intention} {earlier : List Chapter}

/-- The test starts once the plan has succeeded. -/
theorem diaryAt_execute (h : Whole d earlier) :
    DiaryAt d (w.execute i).1 (⟨i, carriedOut (.status :: planFor d earlier i) ++
      issuedBy (w.execute i).1⟩ :: earlier) :=
  ⟨earlier, rfl, h, rfl⟩

/-- Clearing goes on, or the test starts. -/
theorem diaryAt_clear (h : Whole d earlier) {done : List Command} (left : List String)
    (hplan : planFor d earlier i = done ++ left.map .clear) :
    DiaryAt d (w.clear i left).1 (⟨i, carriedOut (.status :: done) ++
      issuedBy (w.clear i left).1⟩ :: earlier) := by
  cases left with
  | nil =>
    rw [List.map_nil, List.append_nil] at hplan
    rw [← hplan]
    exact diaryAt_execute h
  | cons package left => exact ⟨earlier, done, h, hplan, rfl⟩

/-- Installing goes on, or the test starts. -/
theorem diaryAt_install (h : Whole d earlier) {done : List Command} (made : List Installation)
    (left : List String) (hplan : planFor d earlier i = done ++ left.map .install) :
    DiaryAt d (w.install i made left).1 (⟨i, carriedOut (.status :: done) ++
      issuedBy (w.install i made left).1⟩ :: earlier) := by
  cases left with
  | nil =>
    rw [List.map_nil, List.append_nil] at hplan
    rw [← hplan]
    exact diaryAt_execute h
  | cons path left => exact ⟨earlier, done, h, hplan, rfl⟩

/-- Preparing the device begins with the first command of the plan, if there is any. -/
theorem diaryAt_prepare (h : Whole d earlier) (hstate : w.state = stateAfter d earlier) :
    DiaryAt d (w.prepare i).1
      (⟨i, carriedOut [.status] ++ issuedBy (w.prepare i).1⟩ :: earlier) := by
  by_cases hg : w.state.digest = i.state.digest
  · rw [prepare_of_digest_eq hg]
    rw [hstate] at hg
    have hplan : planFor d earlier i = [] ++ (i.state.applications.map (·.2)).map .clear :=
      reconciliation_of_digest_eq hg
    exact diaryAt_clear h _ hplan
  · rw [prepare_of_digest_ne hg]
    rw [hstate] at hg
    have hplan : planFor d earlier i = [] ++ (i.state.applications.map (·.1)).map .install :=
      reconciliation_of_digest_ne hg
    exact diaryAt_install h [] _ hplan

/-- A worker asks for the health of its device first of all, with an intention in hand, and after a
test. -/
theorem stage_of_status (hc : w.command? = some .status) :
    w.stage = .starting ∨ (∃ i, w.stage = .checking i) ∨ w.stage = .resting := by
  rw [command?] at hc
  split at hc
  · next hs => exact .inl hs
  · next i hs => exact .inr (.inl ⟨i, hs⟩)
  · cases hc
  · cases hc
  · cases hc
  · next hs => exact .inr (.inr hs)
  · cases hc

/-- A device that was asked for its health is gone: it froze, or asking panicked. -/
theorem DiaryAt.gone (hw : DiaryAt d w cs) (hc : w.command? = some .status)
    {returned : Option Phase} (hr : returned ≠ some .finished) :
    Written d returned (note [.answered .status false] cs) := by
  obtain hs | ⟨i, hs⟩ | hs := stage_of_status hc
  all_goals rw [DiaryAt, hs] at hw
  · obtain ⟨-, rfl⟩ := hw
    exact .whole .none
  · obtain ⟨earlier, -, hwhole, rfl⟩ := hw
    exact .ajar hwhole .gone hr
  · obtain ⟨i, earlier, succeeded, -, hwhole, rfl⟩ := hw
    refine .ajar hwhole ?_ hr
    rw [List.append_assoc]
    exact .prepared succeeded false List.prefix_rfl

/-- What is learnt from the reply to a command. -/
theorem answeredBy_of_command {c : Command} (hc : w.command? = some c) (reply : Reply) :
    answeredBy w reply = [.answered c reply.succeeded] := by
  rw [answeredBy, hc]
  rfl

/-- A command of the plan succeeded. -/
theorem note_succeeded (done : List Command) (c : Command) (es : List Entry) :
    note (.answered c true :: es)
        (⟨i, carriedOut (.status :: done) ++ [.issued c]⟩ :: earlier) =
      ⟨i, carriedOut (.status :: (done ++ [c])) ++ es⟩ :: earlier := by
  rw [note, ← List.cons_append, carriedOut_append]
  simp [carriedOut]

/-- A command of the plan failed, and the worker gives up. -/
theorem written_giveUp (h : Whole d earlier) {done left : List Command} {c : Command}
    (hplan : planFor d earlier i = done ++ c :: left) :
    Written d (some .dead) (note [.answered c false]
      (⟨i, carriedOut (.status :: done) ++ [.issued c]⟩ :: earlier)) := by
  have hdead : some Phase.dead ≠ some .finished := by decide
  refine .ajar h ?_ hdead
  rw [List.append_assoc]
  exact .failed hplan rfl

/-- The test is over, however it went. -/
theorem diaryAt_complete (h : Whole d earlier) (hstate : w.state = i.state) (run : DeviceRun)
    (succeeded : Bool) :
    DiaryAt d (w.complete i run).1 (note [.answered (.run i.action) succeeded, .issued .status]
      (⟨i, carriedOut (.status :: planFor d earlier i) ++ [.issued (.run i.action)]⟩ ::
        earlier)) := by
  refine ⟨i, earlier, succeeded, hstate, h, ?_⟩
  rw [note, List.append_assoc]
  rfl

/-- An answer of the device keeps `DiaryAt`. -/
theorem DiaryAt.resumed {w' : Worker} {time : UInt64} {reply : Reply} {ns : List Notice}
    (hw : DiaryAt d w cs) (h : Resumed w time reply w' ns) :
    DiaryAt d w' (note (answeredBy w reply ++ issuedBy w') cs) := by
  have hdead : some Phase.dead ≠ some .finished := by decide
  have hnone : (none : Option Phase) ≠ some .finished := by decide
  cases h with
  | crashed hc =>
    rw [answeredBy_of_command hc]
    exact hw.gone hc hnone
  | stillborn hs | frozenOn hs | frozen hs =>
    have hc : w.command? = some .status := by rw [command?, hs]
    rw [answeredBy_of_command hc]
    exact hw.gone hc hdead
  | created hs =>
    rw [DiaryAt, hs] at hw
    obtain ⟨hstate, rfl⟩ := hw
    exact ⟨hstate, .none⟩
  | begun hs =>
    rw [answeredBy_of_command (by rw [command?, hs])]
    rw [DiaryAt, hs] at hw
    obtain ⟨earlier, hstate, hwhole, rfl⟩ := hw
    exact diaryAt_prepare hwhole hstate
  | rested hs =>
    rw [answeredBy_of_command (by rw [command?, hs])]
    rw [DiaryAt, hs] at hw
    obtain ⟨i, earlier, succeeded, hstate, hwhole, rfl⟩ := hw
    refine ⟨hstate, ?_⟩
    show Whole d (⟨i, _ ++ [.answered .status true]⟩ :: earlier)
    rw [List.append_assoc]
    exact hwhole.cons i succeeded
  | installed hs =>
    rw [answeredBy_of_command (by rw [command?, hs])]
    rw [DiaryAt, hs] at hw
    obtain ⟨earlier, done, hwhole, hplan, rfl⟩ := hw
    -- The command goes from what is left of the plan to what is done of it.
    show DiaryAt d _ (note (.answered _ true :: _) _)
    rw [note_succeeded]
    exact diaryAt_install hwhole _ _ (hplan.trans (List.append_cons _ _ _))
  | cleared hs =>
    rw [answeredBy_of_command (by rw [command?, hs])]
    rw [DiaryAt, hs] at hw
    obtain ⟨earlier, done, hwhole, hplan, rfl⟩ := hw
    show DiaryAt d _ (note (.answered _ true :: _) _)
    rw [note_succeeded]
    exact diaryAt_clear hwhole _ (hplan.trans (List.append_cons _ _ _))
  | uninstalled hs hg | uncleared hs hg =>
    rw [answeredBy_of_command (by rw [command?, hs])]
    rw [DiaryAt, hs] at hw
    obtain ⟨earlier, done, hwhole, hplan, rfl⟩ := hw
    rw [Reply.succeeded, isReturned_of_guarded hg]
    exact written_giveUp hwhole hplan
  | ran hs | broke hs =>
    rw [answeredBy_of_command (by rw [command?, hs])]
    rw [DiaryAt, hs] at hw
    obtain ⟨earlier, hstate, hwhole, rfl⟩ := hw
    exact diaryAt_complete hwhole hstate _ _

/-- **Along a diary `DiaryAt` holds**, from nothing noted at all. -/
theorem Diary.diaryAt (h : Diary d w cs) : DiaryAt d w cs := by
  induction h with
  | new => exact ⟨rfl, rfl⟩
  | receive i _ hs ih =>
    rw [DiaryAt, stage_of_isSeeking hs] at ih
    exact ⟨_, ih.1, ih.2, rfl⟩
  | finish _ hs ih =>
    rw [DiaryAt, stage_of_isSeeking hs] at ih
    exact .whole ih.2
  | resume time reply _ hr ih => exact ih.resumed (resumed_of_resume hr)
  | @abort w cs _ ih =>
    by_cases hover : w.isOver = true
    · rwa [Worker.abort, if_pos hover]
    · rw [Worker.abort, if_neg hover]
      refine ih.written fun he ↦ hover ?_
      rw [isOver, he]

/-- **What the diary of a worker looks like** (`Written`). -/
theorem Diary.written (h : Diary d w cs) : Written d w.returned cs := by
  have hdiaryAt := h.diaryAt
  by_cases hended : w.stage = .ended
  · rw [DiaryAt, hended] at hdiaryAt
    exact hdiaryAt
  · obtain ⟨ns, hc⟩ := h.course
    rw [hc.returned_eq_none hended]
    exact hdiaryAt.written hended

end Worker

end DeviceLab
