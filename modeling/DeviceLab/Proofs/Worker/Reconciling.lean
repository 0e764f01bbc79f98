import DeviceLab.Proofs.Device.Digest
import DeviceLab.Proofs.Worker.Diary

/-!
# How a worker brings its device into a state

A worker remembers the target of the last intention and never looks at its device. Whether it
installs applications or only clears packages, it decides by comparing digests. `Diary.reconciles`
says, from the diary of a worker, which commands it gives for each intention, and that it is never
wrong to skip the installations: whenever a test runs, the applications of its state are the ones
that were installed last.

* The commands are those of the plan up to the first that fails, with the test after the last one
  (`Account.commandsIn_eq`), and a command that fails is the end of the worker
  (`Account.returned_of_failure`). Both are read off a single chapter; `Written.account` finds the
  chapter in a diary.
* That the applications are there rests on `UpToDate.cons`: a plan that is carried out brings the
  device up to date, whether it installs or clears (`Whole.upToDate`). This is the only place that
  asks for the hash not to collide, and only on the states that the worker met (`Distinguished`).
-/

namespace DeviceLab

namespace Worker

/-! ### Reading a chapter -/

/-- The command that was given, if it was not only a question for the health of the device. -/
def Entry.given? : Entry → Option Command
  | issued .status => none
  | issued k => some k
  | answered _ _ => none

/-- How a command went, if it was not only a question for the health of the device. -/
def Entry.outcome? : Entry → Option Bool
  | issued _ => none
  | answered .status _ => none
  | answered _ succeeded => some succeeded

/-- The path of an application that was installed. -/
def Entry.installed? : Entry → Option String
  | answered (.install path) true => some path
  | _ => none

/-- The commands that were given, in order. -/
def commandsIn (es : List Entry) : List Command :=
  es.filterMap Entry.given?

/-- How those of `commandsIn` went that were answered, in order. -/
def answersIn (es : List Entry) : List Bool :=
  es.filterMap Entry.outcome?

/-- The paths of the applications that were installed, in order. -/
def installedIn (es : List Entry) : List String :=
  es.filterMap Entry.installed?

/-- The device was asked for its health first of all, and was alive. -/
def FoundAlive (es : List Entry) : Prop :=
  [.issued .status, .answered .status true] <+: es

instance (es : List Entry) : Decidable (FoundAlive es) :=
  inferInstanceAs (Decidable (_ <+: es))

/-- The commands given for a plan (`planFor`) and a test when so far they went like this: the plan
command by command, up to the first that failed or is not answered yet, and then the test. -/
def issuedFor (test : Command) : List Command → List Bool → List Command
  | [], _ => [test]
  | k :: plan, true :: answers => k :: issuedFor test plan answers
  | k :: _, false :: _ => [k]
  | k :: _, [] => [k]

theorem issuedFor_append (test : Command) (done plan : List Command) (answers : List Bool) :
    issuedFor test (done ++ plan) (List.replicate done.length true ++ answers) =
      done ++ issuedFor test plan answers := by
  induction done with
  | nil => rfl
  | cons k done ih => exact congrArg (k :: ·) ih

/-! ### What was carried out -/

section CarriedOut

variable {done : List Command} {rest : List Entry}

theorem carriedOut_cons (k : Command) :
    carriedOut (k :: done) = .issued k :: .answered k true :: carriedOut done := rfl

theorem given?_issued {k : Command} (h : k ≠ .status) : (Entry.issued k).given? = some k := by
  cases k with
  | status => exact absurd rfl h
  | _ => rfl

theorem outcome?_answered {k : Command} (h : k ≠ .status) (succeeded : Bool) :
    (Entry.answered k succeeded).outcome? = some succeeded := by
  cases k with
  | status => exact absurd rfl h
  | _ => rfl

theorem commandsIn_carriedOut (h : .status ∉ done) : commandsIn (carriedOut done) = done := by
  induction done with
  | nil => rfl
  | cons k done ih =>
    have hk : k ≠ .status := fun he ↦ h (he ▸ List.mem_cons_self)
    have hdone : .status ∉ done := fun hmem ↦ h (List.mem_cons_of_mem k hmem)
    rw [carriedOut_cons, commandsIn, List.filterMap_cons_some (given?_issued hk),
      List.filterMap_cons_none rfl]
    exact congrArg (k :: ·) (ih hdone)

theorem answersIn_carriedOut (h : .status ∉ done) :
    answersIn (carriedOut done) = List.replicate done.length true := by
  induction done with
  | nil => rfl
  | cons k done ih =>
    have hk : k ≠ .status := fun he ↦ h (he ▸ List.mem_cons_self)
    have hdone : .status ∉ done := fun hmem ↦ h (List.mem_cons_of_mem k hmem)
    rw [carriedOut_cons, answersIn, List.filterMap_cons_none rfl,
      List.filterMap_cons_some (outcome?_answered hk true)]
    exact congrArg (true :: ·) (ih hdone)

theorem installedIn_carriedOut (paths : List String) :
    installedIn (carriedOut (paths.map .install)) = paths := by
  induction paths with
  | nil => rfl
  | cons path paths ih => exact congrArg (path :: ·) ih

theorem issued_mem_carriedOut {k : Command} : .issued k ∈ carriedOut done ↔ k ∈ done := by
  simp [carriedOut]

theorem commandsIn_append (h : .status ∉ done) :
    commandsIn (carriedOut (.status :: done) ++ rest) = done ++ commandsIn rest := by
  show commandsIn (carriedOut done ++ rest) = _
  rw [commandsIn, List.filterMap_append]
  exact congrArg (· ++ commandsIn rest) (commandsIn_carriedOut h)

theorem answersIn_append (h : .status ∉ done) :
    answersIn (carriedOut (.status :: done) ++ rest) =
      List.replicate done.length true ++ answersIn rest := by
  show answersIn (carriedOut done ++ rest) = _
  rw [answersIn, List.filterMap_append]
  exact congrArg (· ++ answersIn rest) (answersIn_carriedOut h)

theorem installedIn_append (paths : List String) :
    installedIn (carriedOut (.status :: paths.map .install) ++ rest) =
      paths ++ installedIn rest := by
  show installedIn (carriedOut (paths.map .install) ++ rest) = _
  rw [installedIn, List.filterMap_append]
  exact congrArg (· ++ installedIn rest) (installedIn_carriedOut paths)

theorem foundAlive_append (done : List Command) :
    FoundAlive (carriedOut (.status :: done) ++ rest) :=
  ⟨carriedOut done ++ rest, rfl⟩

variable {a : TestAction} {succeeded alive : Bool}

/-- Nothing but the test is given to the device after the plan (`testEntries`). -/
theorem commandsIn_testEntries
    (h : .issued (.run a) :: rest <+: testEntries (.run a) succeeded alive) :
    commandsIn (.issued (.run a) :: rest) = [.run a] := by
  have hrest := (List.cons_prefix_cons.1 h).2.filterMap Entry.given?
  show Command.run a :: commandsIn rest = _
  rw [commandsIn, List.prefix_nil.1 hrest]

/-- Nothing is installed after the plan. -/
theorem installedIn_testEntries (h : rest <+: testEntries (.run a) succeeded alive) :
    installedIn rest = [] :=
  List.prefix_nil.1 (h.filterMap Entry.installed?)

end CarriedOut

/-! ### What a chapter says -/

variable {d : DeviceData} {i : Intention} {earlier : List Chapter}

/-- A plan consists of clearings and installations. -/
theorem mem_planFor {k : Command} (h : k ∈ planFor d earlier i) :
    (∃ package, k = .clear package) ∨ ∃ path, k = .install path := by
  rw [planFor, reconciliation] at h
  split at h
  · obtain ⟨x, -, rfl⟩ := List.mem_map.1 h
    exact .inl ⟨x.2, rfl⟩
  · obtain ⟨x, -, rfl⟩ := List.mem_map.1 h
    exact .inr ⟨x.1, rfl⟩

theorem status_notMem_planFor : .status ∉ planFor d earlier i := by
  intro h
  obtain ⟨_, h⟩ | ⟨_, h⟩ := mem_planFor h <;> cases h

theorem run_notMem_planFor (a : TestAction) : .run a ∉ planFor d earlier i := by
  intro h
  obtain ⟨_, h⟩ | ⟨_, h⟩ := mem_planFor h <;> cases h

section Plan

variable {done left : List Command} {k : Command} (h : planFor d earlier i = done ++ k :: left)

include h

theorem status_notMem_of_planFor : .status ∉ done := by
  have hmem : .status ∉ done ++ k :: left := h ▸ status_notMem_planFor
  rw [List.mem_append, not_or] at hmem
  exact hmem.1

theorem ne_status_of_planFor : k ≠ .status := by
  have hmem : .status ∉ done ++ k :: left := h ▸ status_notMem_planFor
  rw [List.mem_append, List.mem_cons, not_or, not_or] at hmem
  exact Ne.symm hmem.2.1

theorem run_notMem_of_planFor (a : TestAction) : .run a ∉ done ++ [k] := by
  have hmem : .run a ∉ done ++ [k] ++ left := by
    rw [← List.append_cons, ← h]
    exact run_notMem_planFor a
  rw [List.mem_append, not_or] at hmem
  exact hmem.1

/-- The commands for an intention when one of the plan is pending. -/
theorem commandsIn_pending : commandsIn (carriedOut (.status :: done) ++ [.issued k]) =
    done ++ [k] := by
  rw [commandsIn_append (status_notMem_of_planFor h), commandsIn,
    List.filterMap_cons_some (given?_issued (ne_status_of_planFor h))]
  rfl

/-- The commands for an intention when one of the plan failed. -/
theorem commandsIn_failed :
    commandsIn (carriedOut (.status :: done) ++ [.issued k, .answered k false]) = done ++ [k] := by
  rw [commandsIn_append (status_notMem_of_planFor h), commandsIn,
    List.filterMap_cons_some (given?_issued (ne_status_of_planFor h))]
  rfl

/-- How the commands for an intention went when one of the plan failed. -/
theorem answersIn_failed :
    answersIn (carriedOut (.status :: done) ++ [.issued k, .answered k false]) =
      List.replicate done.length true ++ [false] := by
  rw [answersIn_append (status_notMem_of_planFor h), answersIn, List.filterMap_cons_none rfl,
    List.filterMap_cons_some (outcome?_answered (ne_status_of_planFor h) false)]
  rfl

end Plan

section Account

variable {returned : Option Phase} {es : List Entry}

/-- **The commands for an intention are those of the plan up to the first that fails**
(`issuedFor`), with the test after the last one. -/
theorem Account.commandsIn_eq (h : Account (planFor d earlier i) (.run i.action) returned es)
    (ha : FoundAlive es) :
    commandsIn es = issuedFor (.run i.action) (planFor d earlier i) (answersIn es) := by
  cases h with
  | asked => exact absurd ha (by decide)
  | gone => exact absurd ha (by decide)
  | preparing hp =>
    rw [commandsIn_pending hp, answersIn_append (status_notMem_of_planFor hp), hp,
      issuedFor_append]
    rfl
  | failed hp hr =>
    rw [commandsIn_failed hp, answersIn_failed hp, hp, issuedFor_append]
    rfl
  | @prepared rest succeeded alive hrest =>
    have hissued := issuedFor_append (.run i.action) (planFor d earlier i) []
      (answersIn (.issued (.run i.action) :: rest))
    rw [List.append_nil] at hissued
    rw [commandsIn_append status_notMem_planFor, answersIn_append status_notMem_planFor,
      commandsIn_testEntries hrest, hissued, issuedFor]

/-- Nothing is done for an intention on a device that was not `FoundAlive`. -/
theorem Account.commandsIn_eq_nil
    (h : Account (planFor d earlier i) (.run i.action) returned es) (ha : ¬ FoundAlive es) :
    commandsIn es = [] := by
  cases h with
  | asked => rfl
  | gone => rfl
  | preparing | failed | prepared => exact absurd (foundAlive_append _) ha

/-- The test is run only after the whole plan succeeded. -/
theorem Account.entries_of_run (h : Account (planFor d earlier i) (.run i.action) returned es)
    (hrun : .run i.action ∈ commandsIn es) :
    ∃ succeeded alive rest, rest <+: testEntries (.run i.action) succeeded alive ∧
      es = carriedOut (.status :: planFor d earlier i) ++ rest := by
  cases h with
  | asked => cases hrun
  | gone => cases hrun
  | preparing hp =>
    rw [commandsIn_pending hp] at hrun
    exact absurd hrun (run_notMem_of_planFor hp i.action)
  | failed hp hr =>
    rw [commandsIn_failed hp] at hrun
    exact absurd hrun (run_notMem_of_planFor hp i.action)
  | prepared succeeded alive hrest => exact ⟨succeeded, alive, _, hrest, rfl⟩

/-- A command of the plan that failed is the end of the worker, and no test is run. -/
theorem Account.returned_of_failure
    (h : Account (planFor d earlier i) (.run i.action) returned es)
    (hf : false ∈ (answersIn es).take (planFor d earlier i).length) :
    .run i.action ∉ commandsIn es ∧ returned = some .dead := by
  have hnone (n : Nat) : false ∉ List.replicate n true := fun hmem ↦ by
    cases List.eq_of_mem_replicate hmem
  cases h with
  | asked => cases List.mem_of_mem_take hf
  | gone => cases List.mem_of_mem_take hf
  | preparing hp =>
    have hmem := List.mem_of_mem_take hf
    rw [answersIn_append (status_notMem_of_planFor hp)] at hmem
    exact absurd ((List.append_nil _).subst hmem) (hnone _)
  | failed hp hr =>
    rw [commandsIn_failed hp]
    exact ⟨run_notMem_of_planFor hp i.action, hr⟩
  | prepared succeeded alive hrest =>
    rw [answersIn_append status_notMem_planFor,
      List.take_left' List.length_replicate] at hf
    exact absurd hf (hnone _)

end Account

/-! ### Any chapter of a diary -/

section Chapters

variable {returned : Option Phase} {later : List Chapter} {c : Chapter}

/-- A `Whole` chapter: the plan was carried out and the test was run. -/
theorem Whole.entries_eq (h : Whole d (later ++ c :: earlier)) :
    Whole d earlier ∧ ∃ succeeded, c.entries =
      carriedOut (.status :: planFor d earlier c.intention) ++
        testEntries (.run c.intention.action) succeeded true := by
  induction later with
  | nil =>
    cases h with
    | cons i succeeded hwhole => exact ⟨hwhole, succeeded, rfl⟩
  | cons c' later ih =>
    cases h with
    | cons i succeeded hwhole => exact ih hwhole

/-- A chapter is `Whole`, or it is the latest one and the worker did not finish. -/
theorem Written.entries_cases (h : Written d returned (later ++ c :: earlier)) :
    Whole d earlier ∧ ((∃ succeeded, c.entries =
        carriedOut (.status :: planFor d earlier c.intention) ++
          testEntries (.run c.intention.action) succeeded true) ∨
      later = [] ∧ returned ≠ some .finished ∧
        Account (planFor d earlier c.intention) (.run c.intention.action) returned c.entries) := by
  generalize hcs : later ++ c :: earlier = cs at h
  cases h with
  | whole hw =>
    rw [← hcs] at hw
    exact ⟨hw.entries_eq.1, .inl hw.entries_eq.2⟩
  | ajar hw ha hr =>
    cases later with
    | nil =>
      obtain ⟨rfl, rfl⟩ := List.cons.inj hcs
      exact ⟨hw, .inr ⟨rfl, hr, ha⟩⟩
    | cons c' later =>
      obtain ⟨rfl, rfl⟩ := List.cons.inj hcs
      exact ⟨hw.entries_eq.1, .inl hw.entries_eq.2⟩

/-- The chapters before any chapter are whole, and an `Account` stands in it. -/
theorem Written.account (h : Written d returned (later ++ c :: earlier)) :
    Whole d earlier ∧
      Account (planFor d earlier c.intention) (.run c.intention.action) returned c.entries := by
  obtain ⟨hwhole, ⟨succeeded, he⟩ | ⟨-, -, ha⟩⟩ := h.entries_cases
  · rw [he]
    exact ⟨hwhole, .prepared succeeded true List.prefix_rfl⟩
  · exact ⟨hwhole, ha⟩

/-- If another chapter follows, or the worker finished, then the whole plan was carried out and the
test was run. -/
theorem Written.commandsIn_eq (h : Written d returned (later ++ c :: earlier))
    (hl : later ≠ [] ∨ returned = some .finished) :
    FoundAlive c.entries ∧
      commandsIn c.entries = planFor d earlier c.intention ++ [.run c.intention.action] := by
  obtain ⟨-, ⟨succeeded, he⟩ | ⟨hlater, hr, -⟩⟩ := h.entries_cases
  · rw [he, commandsIn_append status_notMem_planFor]
    exact ⟨foundAlive_append _, rfl⟩
  · exact (hl.elim (· hlater) hr).elim

/-- If a command of a plan failed, then the worker returned on it. -/
theorem Written.returned_of_failure (h : Written d returned (later ++ c :: earlier))
    (hf : false ∈ (answersIn c.entries).take (planFor d earlier c.intention).length) :
    .run c.intention.action ∉ commandsIn c.entries ∧ returned = some .dead ∧ later = [] := by
  obtain ⟨hrun, hdead⟩ := h.account.2.returned_of_failure hf
  refine ⟨hrun, hdead, by_contra fun hl ↦ hrun ?_⟩
  rw [(h.commandsIn_eq (.inl hl)).2]
  exact List.mem_append_right _ List.mem_cons_self

end Chapters

/-! ### What was installed last -/

/-- The paths that the latest installing reconciliation installed (`installedIn`), if there was
one. -/
def lastInstalled (d : DeviceData) : List Chapter → Option (List String)
  | [] => none
  | c :: earlier =>
    if (stateAfter d earlier).digest = c.intention.state.digest then lastInstalled d earlier
    else some (installedIn c.entries)

/-- The applications of the state in which these chapters left the device are the ones that were
`lastInstalled`; or there are none, and it was never tried to install any. -/
def UpToDate (d : DeviceData) (cs : List Chapter) : Prop :=
  lastInstalled d cs = some ((stateAfter d cs).applications.map (·.1)) ∨
    (stateAfter d cs).applications = [] ∧
      ∀ c ∈ cs, ∀ path, .issued (.install path) ∉ c.entries

/-- The states that a worker met: what its device was made of, and the targets of its intentions. -/
def statesIn (d : DeviceData) (cs : List Chapter) : List DeviceState :=
  .ofDevice d.api d.model :: cs.map (·.intention.state)

/-- The states were made of layers, and the hash does not collide on the canonical texts
(`DeviceState.Separated`) of any two of them. -/
structure Distinguished (states : List DeviceState) : Prop where
  ofLayers : ∀ s ∈ states, s = .ofLayers s.layers
  separated : ∀ s ∈ states, ∀ t ∈ states, DeviceState.Separated s.layers t.layers

/-- States with equal digests are equal. -/
theorem Distinguished.eq_of_digest_eq {states : List DeviceState} (h : Distinguished states)
    {s t : DeviceState} (hs : s ∈ states) (ht : t ∈ states) (heq : s.digest = t.digest) :
    s = t := by
  have hlayers := (h.separated s hs t ht).digestOf_inj
  rw [h.ofLayers s hs, h.ofLayers t ht] at heq ⊢
  rw [hlayers.1 heq]

theorem Distinguished.mono {states more : List DeviceState} (h : Distinguished more)
    (hsub : states ⊆ more) : Distinguished states :=
  ⟨fun s hs ↦ h.ofLayers s (hsub hs), fun s hs t ht ↦ h.separated s (hsub hs) t (hsub ht)⟩

theorem statesIn_subset_append (later cs : List Chapter) :
    statesIn d cs ⊆ statesIn d (later ++ cs) := by
  rw [statesIn, statesIn, List.map_append]
  exact List.cons_subset_cons _ (List.subset_append_right _ _)

theorem stateAfter_mem_statesIn (cs : List Chapter) : stateAfter d cs ∈ statesIn d cs := by
  cases cs with
  | nil => exact List.mem_cons_self
  | cons c cs => exact List.mem_cons_of_mem _ List.mem_cons_self

/-- No installation is tried for an intention whose plan is to clear packages
(`reconciliation_of_digest_eq`). -/
theorem install_notMem_of_digest_eq {succeeded alive : Bool} {rest : List Entry}
    (hg : (stateAfter d earlier).digest = i.state.digest)
    (hrest : rest <+: testEntries (.run i.action) succeeded alive) (path : String) :
    .issued (.install path) ∉ carriedOut (.status :: planFor d earlier i) ++ rest := by
  rw [planFor, reconciliation_of_digest_eq hg, List.mem_append, issued_mem_carriedOut]
  rintro (hplan | hmem)
  · simp at hplan
  · have hentry := hrest.subset hmem
    simp [testEntries] at hentry

/-- **A plan that is carried out brings the device up to date** (`UpToDate`), whether it installs or
clears. -/
theorem UpToDate.cons {c : Chapter} (h : UpToDate d earlier)
    (hd : Distinguished (statesIn d (c :: earlier))) {succeeded alive : Bool} {rest : List Entry}
    (hrest : rest <+: testEntries (.run c.intention.action) succeeded alive)
    (he : c.entries = carriedOut (.status :: planFor d earlier c.intention) ++ rest) :
    UpToDate d (c :: earlier) := by
  by_cases hg : (stateAfter d earlier).digest = c.intention.state.digest
  · -- The target is the state that the device is in, so nothing of it is out of date.
    have hmem : stateAfter d earlier ∈ statesIn d (c :: earlier) :=
      statesIn_subset_append [c] earlier (stateAfter_mem_statesIn earlier)
    have hstate : stateAfter d (c :: earlier) = stateAfter d earlier :=
      (hd.eq_of_digest_eq hmem (stateAfter_mem_statesIn (c :: earlier)) hg).symm
    rw [UpToDate, hstate, lastInstalled, if_pos hg]
    refine h.imp_right fun ⟨hnone, hnever⟩ ↦ ⟨hnone, ?_⟩
    rw [List.forall_mem_cons, he]
    exact ⟨install_notMem_of_digest_eq hg hrest, hnever⟩
  · left
    rw [lastInstalled, if_neg hg, he, planFor, reconciliation_of_digest_ne hg, installedIn_append,
      installedIn_testEntries hrest, List.append_nil]
    rfl

/-- **Whole chapters leave a device up to date**, by `UpToDate.cons`. -/
theorem Whole.upToDate {cs : List Chapter} (h : Whole d cs) (hd : Distinguished (statesIn d cs)) :
    UpToDate d cs := by
  induction h with
  | none => exact .inr ⟨rfl, List.forall_mem_nil _⟩
  | @cons earlier i succeeded _ ih =>
    have hearlier := hd.mono (statesIn_subset_append [_] earlier)
    exact (ih hearlier).cons hd List.prefix_rfl rfl

/-! ### The theorem -/

/-- **What a worker does for each intention.** In any diary, let `c` be the chapter of some
intention, `earlier` the ones before it, and let the plan be made from the state in which those left
the device.

If the device was found alive, the commands for the intention are those of the plan in order, up to
the first that failed or is still pending, and then the test, once; if it was not, there are none.
If a command of the plan failed or panicked, no test is run, the worker returned on it, and no
intention follows. If another intention follows, or the worker finished, then the whole plan and the
test were carried out.

Hence, if the hash does not collide on the states that the worker met, then whenever a test was
started, the latest installing reconciliation has installed exactly the applications of its state,
in order, or the state has no applications and nothing was ever to be installed. -/
theorem Diary.reconciles {w : Worker} {cs : List Chapter} (h : Diary d w cs) :
    (∀ later c earlier, cs = later ++ c :: earlier →
      let plan := reconciliation (stateAfter d earlier) c.intention.state
      let test := Command.run c.intention.action
      (FoundAlive c.entries → commandsIn c.entries = issuedFor test plan (answersIn c.entries)) ∧
        (¬ FoundAlive c.entries → commandsIn c.entries = []) ∧
        (false ∈ (answersIn c.entries).take plan.length →
          test ∉ commandsIn c.entries ∧ w.returned = some .dead ∧ later = []) ∧
        (later ≠ [] ∨ w.returned = some .finished →
          FoundAlive c.entries ∧ commandsIn c.entries = plan ++ [test])) ∧
      (Distinguished (statesIn d cs) → ∀ later c earlier, cs = later ++ c :: earlier →
        .run c.intention.action ∈ commandsIn c.entries →
          lastInstalled d (c :: earlier) = some (c.intention.state.applications.map (·.1)) ∨
            c.intention.state.applications = [] ∧
              ∀ c' ∈ c :: earlier, ∀ path, .issued (.install path) ∉ c'.entries) := by
  have hwritten := h.written
  constructor
  · rintro later c earlier rfl
    have ha := hwritten.account.2
    exact ⟨ha.commandsIn_eq, ha.commandsIn_eq_nil, hwritten.returned_of_failure,
      hwritten.commandsIn_eq⟩
  · rintro hd later c earlier rfl hrun
    obtain ⟨hwhole, ha⟩ := hwritten.account
    obtain ⟨succeeded, alive, rest, hrest, he⟩ := ha.entries_of_run hrun
    have hlatest := hd.mono (statesIn_subset_append later (c :: earlier))
    have hearlier := hlatest.mono (statesIn_subset_append [c] earlier)
    exact (hwhole.upToDate hearlier).cons hlatest hrest he

/-- A second intention for the same state has its package cleared and its test run, with the
application that was installed for the first; if clearing the package panics, that is the end. -/
theorem reconciles_of_same_state :
    ∃ (d : DeviceData) (w dead : Worker) (c failed first : Chapter),
      Diary d w [c, first] ∧ Distinguished (statesIn d [c, first]) ∧
        commandsIn c.entries = [.clear "com.example", .run c.intention.action] ∧
        lastInstalled d [c, first] = some ["app.apk"] ∧
        Diary d dead [failed, first] ∧ dead.returned = some .dead ∧
        .run failed.intention.action ∉ commandsIn failed.entries := by
  let d : DeviceData := ⟨.attached "emulator-5554", "pixel", 29⟩
  let i : Intention :=
    { id := .numbered 0 1
      state := .ofLayers [.apiLevel 29, .model "pixel", .application "app.apk" "com.example"]
      action := ⟨⟨"LoginTest", "login", "api29"⟩, "com.example", "com.example", .empty, 1,
        .ofMillis 1000⟩ }
  let first : Chapter :=
    ⟨i, carriedOut [.status, .install "app.apk"] ++ testEntries (.run i.action) true true⟩
  let c : Chapter := ⟨i, carriedOut [.status, .clear "com.example"] ++ [.issued (.run i.action)]⟩
  let failed : Chapter := ⟨i, carriedOut [.status] ++
    [.issued (.clear "com.example"), .answered (.clear "com.example") false]⟩
  have hdigest : (DeviceState.ofDevice d.api d.model).digest ≠ i.state.digest := by decide +kernel
  have hnew := (Diary.new (d := d)).resume 0 (.status (.returned .alive)) rfl
  have hbegun := (hnew.receive i rfl).resume 0 (.status (.returned .alive))
    (congrArg some (prepare_of_digest_ne hdigest))
  have htested := (hbegun.resume 0 (.installed (.returned ⟨"app.apk", 0, 5⟩)) rfl).resume 0
    (.ran (.returned ⟨⟨i.action.test, .passed, 5, 9⟩, d⟩)) rfl
  have hfirst : Diary d _ [first] := htested.resume 0 (.status (.returned .alive)) rfl
  have hsecond := (hfirst.receive i rfl).resume 0 (.status (.returned .alive))
    (congrArg some (prepare_of_digest_eq rfl))
  have hcleared : Diary d _ [c, first] := hsecond.resume 0 (.cleared (.returned ())) rfl
  have hfailed : Diary d _ [failed, first] := hsecond.resume 0 (.cleared (.panicked none)) rfl
  have hstates : Distinguished (statesIn d [c, first]) := by
    have hcases {s : DeviceState} (hs : s ∈ statesIn d [c, first]) :
        s = .ofDevice d.api d.model ∨ s = i.state := by
      change s ∈ [.ofDevice d.api d.model, i.state, i.state] at hs
      simpa using hs
    constructor
    · intro s hs
      obtain rfl | rfl := hcases hs <;> rfl
    · intro s hs t ht
      obtain rfl | rfl := hcases hs <;> obtain rfl | rfl := hcases ht
      · exact .refl _
      · exact .of_digestOf_ne hdigest
      · exact .of_digestOf_ne (Ne.symm hdigest)
      · exact .refl _
  have hplan : reconciliation i.state i.state = [.clear "com.example"] :=
    reconciliation_of_digest_eq rfl
  have hcommands : commandsIn c.entries = [.clear "com.example", .run i.action] := by
    have h := (hcleared.reconciles.1 [] c [first] rfl).1 (foundAlive_append _)
    exact h.trans (congrArg (issuedFor _ · [true]) hplan)
  have hrun : .run i.action ∈ commandsIn c.entries := by
    rw [hcommands]
    exact List.mem_cons_of_mem _ List.mem_cons_self
  have hlast := hcleared.reconciles.2 hstates [] c [first] rfl hrun
  have hfailure := (hfailed.reconciles.1 [] failed [first] rfl).2.2.1
  have hdead := hfailure (hplan ▸ List.mem_cons_self)
  refine ⟨d, _, _, c, failed, first, hcleared, hstates, hcommands, ?_, hfailed, hdead.2.1, hdead.1⟩
  exact hlast.resolve_right fun h ↦ List.cons_ne_nil _ _ h.1

end Worker

end DeviceLab
