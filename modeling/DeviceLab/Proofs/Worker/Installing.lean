import DeviceLab.Proofs.Worker.Reconciling

/-!
# Which installations are reported

A worker collects the installations for an intention and reports them when the last one has
succeeded. If one of them fails, the worker gives up, and nothing is said of the ones before it.

So the installations that were made are the reported ones, in order, and behind them those of the
batch that the worker still has in hand or was given up with. There can only be one such batch: it
belongs to the latest intention, and the worker did not finish.

`InstallRecord.reports_all_iff` says so. It rests on `InstallRecord.balanced`, the equation along a
course (`Balanced`), and on `Diary.written`, by which all chapters but the latest are whole and so
none of their installations is missing (`Whole.unreportedIn_cons`). Step by step the equation is
kept by `Balanced.installed` and `Balanced.other_answer`, since an answer either is an installation
that succeeded or has nothing to do with installations (`Resumed.installed_or_other`).

`drops_installation_of_failed_batch` is a batch of two of which the second fails.
-/

namespace DeviceLab

/-- The installation that a device answers with. -/
def Reply.installation? : Reply → Option Installation
  | .installed (.returned x) => some x
  | _ => none

/-- The installation that a notice reports. -/
def Notice.installation? : Notice → Option Installation
  | event _ (.installed x) => some x
  | _ => none

namespace Worker

/-! ### What was made and what was reported -/

/-- The installations that succeeded, in order. -/
def installationsIn (replies : List Reply) : List Installation :=
  replies.filterMap Reply.installation?

/-- The installations that were reported, in order. -/
def reportedIn (ns : List Notice) : List Installation :=
  ns.filterMap Notice.installation?

/-- Some applications were installed for an intention, and not all that its state asks for. -/
def Chapter.CutShort (c : Chapter) : Prop :=
  installedIn c.entries ≠ [] ∧ installedIn c.entries ≠ c.intention.state.applications.map (·.1)

instance (c : Chapter) : Decidable c.CutShort :=
  inferInstanceAs (Decidable (_ ∧ _))

/-- The paths that were installed for an intention, unless they are all that its state asks for
(`CutShort`). -/
def Chapter.unreported (c : Chapter) : List String :=
  if installedIn c.entries = c.intention.state.applications.map (·.1) then []
  else installedIn c.entries

/-- The paths that were installed for intentions with others that were not
(`Chapter.unreported`). -/
def unreportedIn (cs : List Chapter) : List String :=
  cs.flatMap Chapter.unreported

/-- The installations that a worker has in hand while it goes on installing. -/
def inHand? (w : Worker) : Option (List Installation) :=
  match w.stage with
  | .installing _ _ _ made => some made
  | _ => none

/-- A worker has a `Diary`, has reported so much, and its device has given these answers. -/
inductive InstallRecord (d : DeviceData) : Worker → List Chapter → List Notice → List Reply → Prop
  | new : InstallRecord d (.new d) [] [] []
  | receive {w : Worker} {cs : List Chapter} {ns : List Notice} {replies : List Reply}
      (i : Intention) (h : InstallRecord d w cs ns replies) (hs : w.isSeeking = true) :
      InstallRecord d (w.receive (some i)).1 (⟨i, issuedBy (w.receive (some i)).1⟩ :: cs)
        (ns ++ (w.receive (some i)).2) replies
  | finish {w : Worker} {cs : List Chapter} {ns : List Notice} {replies : List Reply}
      (h : InstallRecord d w cs ns replies) (hs : w.isSeeking = true) :
      InstallRecord d (w.receive none).1 cs (ns ++ (w.receive none).2) replies
  | resume {w w' : Worker} {cs : List Chapter} {ns more : List Notice} {replies : List Reply}
      (time : UInt64) (reply : Reply) (h : InstallRecord d w cs ns replies)
      (hr : w.resume time reply = some (w', more)) :
      InstallRecord d w' (note (answeredBy w reply ++ issuedBy w') cs) (ns ++ more)
        (replies ++ [reply])
  | abort {w : Worker} {cs : List Chapter} {ns : List Notice} {replies : List Reply}
      (h : InstallRecord d w cs ns replies) : InstallRecord d w.abort cs ns replies

variable {d : DeviceData} {w w' : Worker} {cs earlier : List Chapter} {ns more : List Notice}
  {replies : List Reply} {reply : Reply} {time : UInt64} {i : Intention}

theorem InstallRecord.diary (h : InstallRecord d w cs ns replies) : Diary d w cs := by
  induction h with
  | new => exact .new
  | receive i _ hs ih => exact ih.receive i hs
  | finish _ hs ih => exact ih.finish hs
  | resume time reply _ hr ih => exact ih.resume time reply hr
  | abort _ ih => exact ih.abort

theorem InstallRecord.course (h : InstallRecord d w cs ns replies) : Course d w ns := by
  induction h with
  | new => exact .new
  | receive i _ hs ih => exact ih.receive (some i) hs
  | finish _ hs ih => exact ih.receive none hs
  | resume time reply _ hr ih => exact ih.resume time reply hr
  | abort _ ih => exact ih.abort

/-- A record of installations can be kept on every `Course`. -/
theorem Course.installRecord (h : Course d w ns) :
    ∃ cs replies, InstallRecord d w cs ns replies := by
  induction h with
  | new => exact ⟨_, _, .new⟩
  | receive offer _ hs ih =>
    obtain ⟨cs, replies, hm⟩ := ih
    cases offer with
    | some i => exact ⟨_, _, hm.receive i hs⟩
    | none => exact ⟨_, _, hm.finish hs⟩
  | resume time reply _ hr ih =>
    obtain ⟨cs, replies, hm⟩ := ih
    exact ⟨_, _, hm.resume time reply hr⟩
  | abort _ ih =>
    obtain ⟨cs, replies, hm⟩ := ih
    exact ⟨_, _, hm.abort⟩

/-! ### What a step reports -/

@[simp] theorem reportedIn_append (ns more : List Notice) :
    reportedIn (ns ++ more) = reportedIn ns ++ reportedIn more :=
  List.filterMap_append

/-- A log line reports nothing. -/
@[simp] theorem reportedIn_map_log (lines : List LogLine) : reportedIn (lines.map .log) = [] := by
  rw [reportedIn, List.filterMap_map]
  exact List.filterMap_eq_nil_iff.2 fun _ _ ↦ rfl

/-- The report of a batch (`reportedIn`) names its installations in order. -/
@[simp] theorem reportedIn_map_installed (made : List Installation) :
    reportedIn (made.map fun x ↦ w.say (.installed x)) = made := by
  rw [reportedIn, List.filterMap_map]
  exact List.filterMap_some

theorem reportedIn_clear (left : List String) : reportedIn (w.clear i left).2 = [] := by
  cases left <;> rfl

theorem reportedIn_install_nil (made : List Installation) :
    reportedIn (w.install i made []).2 = made := by
  show reportedIn (made.map (fun x ↦ w.say (.installed x)) ++ (w.execute i).2) = made
  rw [reportedIn_append, reportedIn_map_installed]
  exact List.append_nil made

theorem reportedIn_prepare : reportedIn (w.prepare i).2 = [] := by
  by_cases hg : w.state.digest = i.state.digest
  · rw [prepare_of_digest_eq hg]
    exact reportedIn_clear _
  · rw [prepare_of_digest_ne hg]
    cases i.state.applications.map (·.1) <;> rfl

theorem inHand?_clear (left : List String) : (w.clear i left).1.inHand? = none := by
  cases left <;> rfl

/-- Whoever begins to install has nothing in hand. -/
theorem inHand?_prepare : (w.prepare i).1.inHand? = none ∨ (w.prepare i).1.inHand? = some [] := by
  by_cases hg : w.state.digest = i.state.digest
  · rw [prepare_of_digest_eq hg]
    exact .inl (inHand?_clear _)
  · rw [prepare_of_digest_ne hg]
    cases i.state.applications.map (·.1) with
    | nil => exact .inl rfl
    | cons path left => exact .inr rfl

/-- What is noted when a worker goes on (`issuedBy`) says nothing of an installation. -/
theorem installedIn_issuedBy (w : Worker) : installedIn (issuedBy w) = [] := by
  rw [issuedBy]
  cases w.command? <;> rfl

/-- What is noted of an answer (`answeredBy`) says nothing of an installation, unless it was one
that succeeded. -/
theorem installedIn_answeredBy {k : Command} (hk : w.command? = some k)
    (h : (Entry.answered k reply.succeeded).installed? = none) :
    installedIn (answeredBy w reply) = [] := by
  rw [answeredBy_of_command hk]
  exact List.filterMap_cons_none h

/-- A step on an answer that has nothing to do with installations, except that it may be the last
one before the first of them. -/
structure OtherAnswer (w : Worker) (reply : Reply) (w' : Worker) (more : List Notice) : Prop where
  made : reply.installation? = none
  reported : reportedIn more = []
  noted : installedIn (answeredBy w reply) = []
  fresh : w'.inHand? = none ∨ w'.inHand? = some [] ∧ ∃ i, w.stage = .checking i

/-- **An answer either is an installation that succeeded, or has nothing to do with installations**
(`OtherAnswer`). -/
theorem Resumed.installed_or_other (h : Resumed w time reply w' more) :
    (∃ i path left made x, w.stage = .installing i path left made ∧
      reply = .installed (.returned x) ∧ w' = (w.install i (made ++ [x]) left).1 ∧
        more = (w.install i (made ++ [x]) left).2) ∨ OtherAnswer w reply w' more := by
  cases h with
  | crashed hc => exact .inr ⟨rfl, rfl, installedIn_answeredBy hc rfl, .inl rfl⟩
  | stillborn hs | created hs | frozenOn hs | frozen hs | rested hs | ran hs =>
    exact .inr ⟨rfl, rfl, installedIn_answeredBy (by rw [command?, hs]) rfl, .inl rfl⟩
  | begun hs =>
    exact .inr ⟨rfl, reportedIn_prepare, installedIn_answeredBy (by rw [command?, hs]) rfl,
      inHand?_prepare.imp_right fun h ↦ ⟨h, _, hs⟩⟩
  | installed hs => exact .inl ⟨_, _, _, _, _, hs, rfl, rfl, rfl⟩
  | @uninstalled i path left made answer e lines hs hg =>
    have hfailed := isReturned_of_guarded hg
    refine .inr ⟨?_, ?_, installedIn_answeredBy (by rw [command?, hs]) ?_, .inl rfl⟩
    · cases answer with
      | returned x => cases hfailed
      | _ => rfl
    · rw [reportedIn_append, reportedIn_map_log]
      rfl
    · rw [Reply.succeeded, hfailed]
      rfl
  | cleared hs =>
    exact .inr ⟨rfl, reportedIn_clear _, installedIn_answeredBy (by rw [command?, hs]) rfl,
      .inl (inHand?_clear _)⟩
  | uncleared hs | broke hs =>
    refine .inr ⟨rfl, ?_, installedIn_answeredBy (by rw [command?, hs]) rfl, .inl rfl⟩
    rw [reportedIn_append, reportedIn_map_log]
    rfl

/-! ### Chapters that are cut short -/

theorem Chapter.unreported_eq_nil_iff {c : Chapter} : c.unreported = [] ↔ ¬ c.CutShort := by
  rw [unreported, CutShort]
  split <;> tauto

theorem Chapter.unreported_eq_nil {c : Chapter} (h : installedIn c.entries = []) :
    c.unreported = [] :=
  unreported_eq_nil_iff.2 fun hc ↦ hc.1 h

/-- While the applications are being installed, those that are there are not reported. -/
theorem Chapter.unreported_installing {c : Chapter} {paths left : List String} {es : List Entry}
    (he : c.entries = carriedOut (.status :: paths.map .install) ++ es)
    (hpaths : c.intention.state.applications.map (·.1) = paths ++ left)
    (hes : installedIn es = []) : c.unreported = if left = [] then [] else paths := by
  rw [unreported, he, installedIn_append, hes, List.append_nil, hpaths]
  simp only [List.self_eq_append_right]

/-- Clearing packages installs nothing. -/
theorem installedIn_cleared (packages : List String) (rest : List Entry) :
    installedIn (carriedOut (.status :: packages.map .clear) ++ rest) = installedIn rest := by
  induction packages with
  | nil => rfl
  | cons package packages ih => exact ih

/-- If the test was run (`testEntries`), then all installations have been reported. -/
theorem Chapter.unreported_whole {c : Chapter} {succeeded alive : Bool} {rest : List Entry}
    (he : c.entries = carriedOut (.status :: planFor d earlier c.intention) ++ rest)
    (hrest : rest <+: testEntries (.run c.intention.action) succeeded alive) :
    c.unreported = [] := by
  have hnone := installedIn_testEntries hrest
  by_cases hg : (stateAfter d earlier).digest = c.intention.state.digest
  · rw [planFor, reconciliation_of_digest_eq hg] at he
    refine unreported_eq_nil ?_
    rw [he, installedIn_cleared, hnone]
  · rw [planFor, reconciliation_of_digest_ne hg] at he
    exact unreported_installing he (List.append_nil _).symm hnone

theorem Whole.unreportedIn_eq_nil (h : Whole d cs) : unreportedIn cs = [] := by
  induction h with
  | none => rfl
  | cons i succeeded _ ih =>
    rw [unreportedIn, List.flatMap_cons, Chapter.unreported_whole rfl List.prefix_rfl]
    exact ih

/-- Behind whole chapters it is the latest one that counts. -/
theorem Whole.unreportedIn_cons (h : Whole d earlier) (c : Chapter) :
    unreportedIn (c :: earlier) = c.unreported := by
  rw [unreportedIn, List.flatMap_cons, ← unreportedIn, h.unreportedIn_eq_nil, List.append_nil]

/-- Notes that say nothing of an installation change nothing in `unreportedIn`. -/
theorem unreportedIn_note {es : List Entry} (h : installedIn es = []) (cs : List Chapter) :
    unreportedIn (note es cs) = unreportedIn cs := by
  cases cs with
  | nil => rfl
  | cons c cs =>
    have hc : installedIn (c.entries ++ es) = installedIn c.entries := by
      rw [installedIn, List.filterMap_append]
      exact (congrArg (installedIn c.entries ++ ·) h).trans (List.append_nil _)
    rw [note, unreportedIn, unreportedIn, List.flatMap_cons, List.flatMap_cons,
      Chapter.unreported, Chapter.unreported, hc]

/-- A plan (`planFor`) with an installation in it consists of installations. -/
theorem paths_of_planFor {done : List Command} {path : String} {left : List String}
    (h : planFor d earlier i = done ++ (path :: left).map .install) :
    ∃ paths : List String, done = paths.map .install ∧
      i.state.applications.map (·.1) = paths ++ path :: left := by
  have hinjective (p q : String) (heq : Command.install p = .install q) : p = q :=
    Command.install.inj heq
  by_cases hg : (stateAfter d earlier).digest = i.state.digest
  · have hmem : Command.install path ∈ planFor d earlier i := by
      rw [h]
      exact List.mem_append_right _ List.mem_cons_self
    rw [planFor, reconciliation_of_digest_eq hg] at hmem
    obtain ⟨_, -, hclear⟩ := List.mem_map.1 hmem
    cases hclear
  · rw [planFor, reconciliation_of_digest_ne hg] at h
    obtain ⟨paths, others, hpaths, hdone, hothers⟩ := List.map_eq_append_iff.1 h
    obtain rfl := (List.map_inj_right hinjective).1 hothers
    exact ⟨paths, hdone.symm, hpaths⟩

/-- One more application is installed: now there is one path more, or they are all. -/
theorem unreportedIn_note_installed {paths left : List String} {path : String} {es : List Entry}
    (hwhole : Whole d earlier) (hes : installedIn es = [])
    (hpaths : i.state.applications.map (·.1) = paths ++ path :: left) :
    unreportedIn (note (.answered (.install path) true :: es)
      (⟨i, carriedOut (.status :: paths.map .install) ++ [.issued (.install path)]⟩ :: earlier)) =
        if left = [] then [] else paths ++ [path] := by
  have hmore : paths.map Command.install ++ [.install path] = (paths ++ [path]).map .install := by
    rw [List.map_append]
    rfl
  rw [note_succeeded, hmore, hwhole.unreportedIn_cons]
  exact Chapter.unreported_installing rfl (hpaths.trans (List.append_cons _ _ _)) hes

/-! ### The balance -/

/-- The installations are the reported ones and then some more, as many as were made for intentions
that are cut short. What a worker has in hand (`inHand?`) are the latter. -/
structure Balanced (w : Worker) (cs : List Chapter) (ns : List Notice) (replies : List Reply)
    (rest : List Installation) : Prop where
  made_eq : installationsIn replies = reportedIn ns ++ rest
  length_eq : rest.length = (unreportedIn cs).length
  inHand : w.inHand? = none ∨ w.inHand? = some rest

variable {rest : List Installation}

/-- A step that has nothing to do with installations (`OtherAnswer`) keeps the balance. -/
theorem Balanced.other_answer (hb : Balanced w cs ns replies rest) (hp : DiaryAt d w cs)
    (h : OtherAnswer w reply w' more) :
    Balanced w' (note (answeredBy w reply ++ issuedBy w') cs) (ns ++ more) (replies ++ [reply])
      rest where
  made_eq := by
    rw [installationsIn, List.filterMap_append, List.filterMap_cons_none h.made, List.filterMap_nil,
      List.append_nil, reportedIn_append, h.reported, List.append_nil]
    exact hb.made_eq
  length_eq := by
    have hnoted : installedIn (answeredBy w reply ++ issuedBy w') = [] := by
      rw [installedIn, List.filterMap_append]
      exact List.append_eq_nil_iff.2 ⟨h.noted, installedIn_issuedBy w'⟩
    rw [unreportedIn_note hnoted]
    exact hb.length_eq
  inHand := by
    rcases h.fresh with hnone | ⟨hfresh, i, hs⟩
    · exact .inl hnone
    · rw [DiaryAt, hs] at hp
      obtain ⟨earlier, -, hwhole, rfl⟩ := hp
      have hlength := hb.length_eq
      rw [hwhole.unreportedIn_cons, Chapter.unreported_eq_nil rfl] at hlength
      rw [hfresh, List.length_eq_zero_iff.1 hlength]
      exact .inr rfl

/-- An installation that succeeds is put to those in hand, and if it was the last one of its batch,
they are all reported. -/
theorem Balanced.installed {path : String} {left : List String} {made : List Installation}
    {x : Installation} (hb : Balanced w cs ns replies rest) (hp : DiaryAt d w cs)
    (hs : w.stage = .installing i path left made) :
    let w' := (w.install i (made ++ [x]) left).1
    let reply := Reply.installed (.returned x)
    ∃ rest', Balanced w' (note (answeredBy w reply ++ issuedBy w') cs)
      (ns ++ (w.install i (made ++ [x]) left).2) (replies ++ [reply]) rest' := by
  intro w' reply
  have hhand : w.inHand? = some made := by rw [inHand?, hs]
  obtain rfl : rest = made := by
    rcases hb.inHand with h | h
    · rw [hhand] at h
      cases h
    · exact Option.some.inj (h.symm.trans hhand)
  have hmade : installationsIn (replies ++ [reply]) = reportedIn ns ++ (rest ++ [x]) := by
    rw [installationsIn, List.filterMap_append, ← List.append_assoc, ← hb.made_eq]
    rfl
  rw [DiaryAt, hs] at hp
  obtain ⟨earlier, done, hwhole, hplan, rfl⟩ := hp
  obtain ⟨paths, rfl, hpaths⟩ := paths_of_planFor hplan
  have hbefore := hb.length_eq
  rw [hwhole.unreportedIn_cons, Chapter.unreported_installing rfl hpaths rfl,
    if_neg (List.cons_ne_nil _ _)] at hbefore
  have hafter := unreportedIn_note_installed hwhole (installedIn_issuedBy w') hpaths
  rw [answeredBy_of_command (by rw [command?, hs])]
  cases left with
  | nil =>
    refine ⟨[], ?_, ?_, .inl rfl⟩
    · rw [hmade, reportedIn_append, reportedIn_install_nil, List.append_nil]
    · exact (congrArg List.length hafter).symm
  | cons next left =>
    refine ⟨rest ++ [x], ?_, ?_, .inr rfl⟩
    · rw [hmade, reportedIn_append]
      exact congrArg (· ++ (rest ++ [x])) (List.append_nil _).symm
    · rw [if_neg (List.cons_ne_nil _ _)] at hafter
      refine Eq.trans ?_ (congrArg List.length hafter).symm
      rw [List.length_append, List.length_append, hbefore]
      rfl

/-- **Along a course the balance is kept** (`Balanced`). -/
theorem InstallRecord.balanced (h : InstallRecord d w cs ns replies) :
    ∃ rest, Balanced w cs ns replies rest := by
  induction h with
  | new => exact ⟨[], rfl, rfl, .inl rfl⟩
  | @receive w _ _ _ i _ _ ih =>
    obtain ⟨rest, hb⟩ := ih
    have hissued : installedIn (issuedBy (w.receive (some i)).1) = [] := installedIn_issuedBy _
    refine ⟨rest, ?_, ?_, .inl rfl⟩
    · rw [reportedIn_append]
      exact hb.made_eq.trans (congrArg (· ++ rest) (List.append_nil _).symm)
    · rw [unreportedIn, List.flatMap_cons, Chapter.unreported_eq_nil hissued]
      exact hb.length_eq
  | finish _ _ ih =>
    obtain ⟨rest, hb⟩ := ih
    refine ⟨rest, ?_, hb.length_eq, .inl rfl⟩
    rw [reportedIn_append]
    exact hb.made_eq.trans (congrArg (· ++ rest) (List.append_nil _).symm)
  | resume time reply h hr ih =>
    obtain ⟨rest, hb⟩ := ih
    obtain ⟨i, path, left, made, x, hs, rfl, rfl, rfl⟩ | hother :=
      (resumed_of_resume hr).installed_or_other
    · exact hb.installed h.diary.diaryAt hs
    · exact ⟨rest, hb.other_answer h.diary.diaryAt hother⟩
  | @abort w _ _ _ _ ih =>
    obtain ⟨rest, hb⟩ := ih
    refine ⟨rest, hb.made_eq, hb.length_eq, ?_⟩
    rw [Worker.abort]
    split
    · exact hb.inHand
    · exact .inl rfl

/-! ### The theorem -/

/-- **Which installations are reported.** Whatever a worker is given and whatever fails or panics on
its device, the reports of installations (`reportedIn`) are the first of the installations that
succeeded (`installationsIn`), in order.

They are all of them exactly if no intention is cut short (`Chapter.CutShort`), some of its
applications being installed and not all. Only the latest intention of a worker that did not finish
can be, and then exactly the installations for it are not reported. -/
theorem InstallRecord.reports_all_iff (h : InstallRecord d w cs ns replies) :
    let made := installationsIn replies
    reportedIn ns <+: made ∧
      (reportedIn ns = made ↔ ∀ c ∈ cs, ¬ c.CutShort) ∧
      ∀ later c earlier, cs = later ++ c :: earlier → c.CutShort →
        later = [] ∧ w.returned ≠ some .finished ∧
          made.length = (reportedIn ns).length + (installedIn c.entries).length := by
  intro made
  obtain ⟨rest, hmade, hlength, -⟩ := h.balanced
  refine ⟨⟨rest, hmade.symm⟩, ?_, ?_⟩
  · have hnone : reportedIn ns = made ↔ unreportedIn cs = [] := by
      rw [← List.length_eq_zero_iff, ← hlength, List.length_eq_zero_iff]
      show _ = installationsIn replies ↔ _
      rw [hmade, List.self_eq_append_right]
    rw [hnone, unreportedIn, List.flatMap_eq_nil_iff]
    exact forall₂_congr fun c _ ↦ Chapter.unreported_eq_nil_iff
  · rintro later c earlier rfl hcut
    obtain ⟨hwhole, ⟨succeeded, he⟩ | ⟨rfl, hreturned, -⟩⟩ := h.diary.written.entries_cases
    · have hnone := Chapter.unreported_whole he List.prefix_rfl
      exact absurd hcut (Chapter.unreported_eq_nil_iff.1 hnone)
    · refine ⟨rfl, hreturned, ?_⟩
      rw [List.nil_append, hwhole.unreportedIn_cons, Chapter.unreported, if_neg hcut.2] at hlength
      show (installationsIn replies).length = _
      rw [hmade, List.length_append, hlength]

/-- A device that two applications are to be installed on. -/
def pairDevice : DeviceData :=
  ⟨.attached "emulator-5554", "pixel", 29⟩

/-- An intention with two applications to install. -/
def pairIntention : Intention where
  id := .numbered 0 1
  state := .ofLayers [.apiLevel 29, .model "pixel", .application "app.apk" "com.example",
    .application "app-test.apk" "com.example.test"]
  action := ⟨⟨"LoginTest", "login", "api29"⟩, "com.example.test", "com.example", .empty, 1,
    .ofMillis 1000⟩

theorem pairIntention_digest_ne :
    (Worker.new pairDevice).state.digest ≠ pairIntention.state.digest := by
  decide +kernel

/-- Two applications are installed, and both are reported. -/
theorem reports_all_iff_of_two_applications :
    ∃ (w : Worker) (c : Chapter) (ns : List Notice) (replies : List Reply),
      InstallRecord pairDevice w [c] ns replies ∧ ¬ c.CutShort ∧
        reportedIn ns = installationsIn replies ∧
        installationsIn replies = [⟨"app.apk", 0, 5⟩, ⟨"app-test.apk", 5, 9⟩] := by
  let c : Chapter := ⟨pairIntention, carriedOut [.status, .install "app.apk",
    .install "app-test.apk"] ++ [.issued (.run pairIntention.action)]⟩
  have hnew := (InstallRecord.new (d := pairDevice)).resume 0 (.status (.returned .alive)) rfl
  have hbegun := (hnew.receive pairIntention rfl).resume 0 (.status (.returned .alive))
    (congrArg some (prepare_of_digest_ne pairIntention_digest_ne))
  have hfirst := hbegun.resume 0 (.installed (.returned ⟨"app.apk", 0, 5⟩)) rfl
  have hsecond : InstallRecord pairDevice _ [c] _ _ :=
    hfirst.resume 0 (.installed (.returned ⟨"app-test.apk", 5, 9⟩)) rfl
  have hwhole : ¬ c.CutShort := fun hc ↦ hc.2 rfl
  exact ⟨_, c, _, _, hsecond, hwhole,
    hsecond.reports_all_iff.2.1.2 (List.forall_mem_singleton.2 hwhole), rfl⟩

/-- An application is installed, the installation of the next one fails, and neither is reported. -/
theorem drops_installation_of_failed_batch :
    ∃ (w : Worker) (c : Chapter) (ns : List Notice) (replies : List Reply),
      InstallRecord pairDevice w [c] ns replies ∧ w.returned = some .dead ∧
        installationsIn replies = [⟨"app.apk", 0, 5⟩] ∧ reportedIn ns = [] := by
  have hnew := (InstallRecord.new (d := pairDevice)).resume 0 (.status (.returned .alive)) rfl
  have hbegun := (hnew.receive pairIntention rfl).resume 0 (.status (.returned .alive))
    (congrArg some (prepare_of_digest_ne pairIntention_digest_ne))
  have hfirst := hbegun.resume 0 (.installed (.returned ⟨"app.apk", 0, 5⟩)) rfl
  have hfailed := hfirst.resume 0 (.installed (.failed (.installationFailed "emulator-5554"
    "app-test.apk" "INSTALL_FAILED_INSUFFICIENT_STORAGE"))) rfl
  exact ⟨_, _, _, _, hfailed, rfl, rfl, rfl⟩

end Worker

end DeviceLab
