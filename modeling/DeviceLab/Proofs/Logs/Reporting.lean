import DeviceLab.Proofs.Logs.Files

/-!
# What reports write and whom they ask

A report puts at most two contents into files, the log of a container and after it the dump of a
device (`Reporting`, `Reporting.files`). Both files are directly in the folder of the reporter,
whatever is in the serial (`Reporting.isLogPlace`): its name is made of a fixed beginning, a text as
long as the serial that has only letters, digits and three marks (`StandsFor`), and a fixed end, so
that it is one part of a path (`StandsFor.isPart`).

A device is asked for its dump exactly if the log of the container could be stored
(`Reporter.stored?`) and the device is remembered under the serial (`asks_iff`). That it is asked
says more than that some branch is taken: what comes of the report depends on what the device gives
(`Asks`), and on no other (`report_congr`).
-/

namespace DeviceLab.Logs

variable {Device : Type} {r : Reporter Device} {fs fs' : Files} {serial : Serial} {log : String}
  {dump : Device → Except LabError String} {d : Device}

/-! ### Names -/

/-- A text that stands for a serial in the name of a file: it has as many characters, and only those
that a name keeps. -/
structure StandsFor (text : String) (serial : Serial) : Prop where
  length : text.length = serial.value.length
  plain : ∀ c ∈ text.toList, c.isAlphanum = true ∨ c = '-' ∨ c = '.' ∨ c = '_'

theorem standsFor_sanitized (serial : Serial) : StandsFor (sanitized serial) serial where
  length := by
    rw [sanitized, String.length_ofList, List.length_map, String.length_toList]
  plain := by
    intro c hc
    rw [sanitized, String.toList_ofList, List.mem_map] at hc
    obtain ⟨x, -, rfl⟩ := hc
    split
    · next hx =>
      rw [isPlain, Bool.or_eq_true, Bool.or_eq_true, decide_eq_true_eq, decide_eq_true_eq] at hx
      tauto
    · exact .inr (.inr (.inr rfl))

theorem StandsFor.unbroken {text : String} (h : StandsFor text serial) : '/' ∉ text.toList := by
  intro hslash
  exact absurd (h.plain _ hslash) (by decide)

/-- What stands for a serial is one part of a path, between a beginning and an end that are
unbroken. -/
theorem StandsFor.isPart {text front rear : String} (h : StandsFor text serial)
    (hfront : '/' ∉ front.toList) (hlength : 2 < front.length) (hrear : '/' ∉ rear.toList) :
    Files.IsPart (front ++ text ++ rear) := by
  refine Files.isPart_of_length ?_ ?_
  · rw [String.toList_append, String.toList_append, List.mem_append, List.mem_append]
    rintro ((hslash | hslash) | hslash)
    · exact hfront hslash
    · exact h.unbroken hslash
    · exact hrear hslash
  · rw [String.length_append, String.length_append]
    omega

/-- What a reporter keeps: the logs of containers and those of devices. -/
inductive Kind
  | container
  | device
  deriving DecidableEq

namespace Kind

/-- The name of the file for a log. -/
def file : Kind → Serial → String
  | container => emulatorFile
  | device => logcatFile

/-- Where a log is kept. -/
def place (kind : Kind) (folder : String) (serial : Serial) : Place :=
  Files.target folder ++ [kind.file serial]

theorem isPart_file (kind : Kind) (serial : Serial) : Files.IsPart (kind.file serial) := by
  cases kind
  all_goals exact (standsFor_sanitized serial).isPart (by decide) (by decide) (by decide)

end Kind

/-- The files after contents were put into them, one after the other. -/
def Files.putAll (fs : Files) (ws : List (Place × String)) : Files :=
  ws.foldl (fun fs w ↦ fs.put w.1 w.2) fs

/-- A place of a log file: directly in the folder, and named after a serial. -/
def IsLogPlace (folder : String) (serial : Serial) (place : Place) : Prop :=
  ∃ text, StandsFor text serial ∧
    (place = Files.target folder ++ ["emulator-" ++ text ++ ".log"] ∨
      place = Files.target folder ++ ["logcat-" ++ text ++ ".txt"])

theorem Kind.isLogPlace_place (kind : Kind) (folder : String) (serial : Serial) :
    IsLogPlace folder serial (kind.place folder serial) := by
  refine ⟨_, standsFor_sanitized serial, ?_⟩
  cases kind with
  | container => exact .inl rfl
  | device => exact .inr rfl

/-! ### One call -/

namespace Reporter

/-- The files as soon as the log of a container is stored, if it can be. -/
def stored? (r : Reporter Device) (fs : Files) (serial : Serial) (log : String) : Option Files :=
  match fs.reach r.folder with
  | (fs, true) => (fs.write (Files.joined r.folder (emulatorFile serial)) log).toOption
  | (_, false) => none

/-- A log that is stored is put into its file, and the file may have its name. -/
theorem eq_put_of_stored? (hs : r.stored? fs serial log = some fs') :
    fs' = (fs.reach r.folder).1.put (Kind.container.place r.folder serial) log ∧
      Files.isName (emulatorFile serial) = true := by
  rw [stored?] at hs
  split at hs
  · next reached hreach =>
    rw [hreach]
    cases hw : reached.write (Files.joined r.folder (emulatorFile serial)) log with
    | error e => rw [hw] at hs; cases hs
    | ok written =>
      rw [hw] at hs
      rw [← Option.some.inj hs]
      exact Files.write_joined_of_ok (Kind.container.isPart_file serial) hw
  · cases hs

/-- A report that fails before the log of the container is stored. -/
theorem report_of_unstored (hs : r.stored? fs serial log = none) :
    ∃ e, ∀ dump, r.report fs dump serial log = ⟨r, (fs.reach r.folder).1, .error e⟩ := by
  rw [stored?] at hs
  split at hs
  · next reached hreach =>
    cases hw : reached.write (Files.joined r.folder (emulatorFile serial)) log with
    | error e => exact ⟨e, fun dump ↦ by simp only [report, inFolder, hreach, hw]⟩
    | ok written => rw [hw] at hs; cases hs
  · next reached hreach =>
    exact ⟨_, fun dump ↦ by simp only [report, inFolder, hreach]; rfl⟩

/-- A report goes on to the device as soon as the log of the container is stored. -/
theorem report_of_stored (hs : r.stored? fs serial log = some fs')
    (dump : Device → Except LabError String) :
    r.report fs dump serial log = r.collect fs' dump serial := by
  rw [stored?] at hs
  split at hs
  · next reached hreach =>
    cases hw : reached.write (Files.joined r.folder (emulatorFile serial)) log with
    | error e => rw [hw] at hs; cases hs
    | ok written =>
      rw [hw] at hs
      obtain rfl := Option.some.inj hs
      simp only [report, inFolder, hreach, hw]
  · cases hs

/-- What can come of a report (`reporting`): what is put into files, and what is left behind. -/
inductive Reporting (r : Reporter Device) (fs : Files) (dump : Device → Except LabError String)
    (serial : Serial) (log : String) : List (Place × String) → Reported Device → Prop
  /-- The log of the container cannot be stored. -/
  | unstored {e : LabError} (hs : r.stored? fs serial log = none) :
      Reporting r fs dump serial log [] ⟨r, (fs.reach r.folder).1, .error e⟩
  /-- There is no device to ask. -/
  | alone {fs' : Files} (hs : r.stored? fs serial log = some fs')
      (hd : r.devices.lookup serial = none) :
      Reporting r fs dump serial log [(Kind.container.place r.folder serial, log)] ⟨r, fs', .ok ()⟩
  /-- The device gives no dump, or it cannot be stored. -/
  | undumped {fs' : Files} {d : Device} {e : LabError} (hs : r.stored? fs serial log = some fs')
      (hd : r.devices.lookup serial = some d) (he : ∀ e', dump d = .error e' → e = e') :
      Reporting r fs dump serial log [(Kind.container.place r.folder serial, log)]
        ⟨r.forget serial, fs', .error e⟩
  /-- The dump is stored. -/
  | dumped {fs' : Files} {d : Device} {content : String}
      (hs : r.stored? fs serial log = some fs') (hd : r.devices.lookup serial = some d)
      (hdump : dump d = .ok content) :
      Reporting r fs dump serial log
        [(Kind.container.place r.folder serial, log), (Kind.device.place r.folder serial, content)]
        ⟨r.forget serial, fs'.put (Kind.device.place r.folder serial) content, .ok ()⟩

theorem reporting (r : Reporter Device) (fs : Files) (dump : Device → Except LabError String)
    (serial : Serial) (log : String) :
    ∃ ws, Reporting r fs dump serial log ws (r.report fs dump serial log) := by
  cases hs : r.stored? fs serial log with
  | none =>
    obtain ⟨e, he⟩ := report_of_unstored hs
    rw [he]
    exact ⟨_, .unstored hs⟩
  | some fs' =>
    rw [report_of_stored hs, collect]
    cases hd : r.devices.lookup serial with
    | none => exact ⟨_, .alone hs hd⟩
    | some d =>
      dsimp only
      cases hdump : dump d with
      | error e => exact ⟨_, .undumped hs hd fun e' he ↦ Except.error.inj (hdump.symm.trans he)⟩
      | ok content =>
        dsimp only [Except.bind]
        cases hw : fs'.write (Files.joined r.folder (logcatFile serial)) content with
        | error e => exact ⟨_, .undumped hs hd fun e' he ↦ nomatch hdump.symm.trans he⟩
        | ok written =>
          rw [(Files.write_joined_of_ok (Kind.device.isPart_file serial) hw).1]
          exact ⟨_, .dumped hs hd hdump⟩

/-- What a report puts into files is all that it changes in them, once there is the folder. -/
theorem Reporting.files {ws : List (Place × String)} {out : Reported Device}
    (h : Reporting r fs dump serial log ws out) :
    out.files = (fs.reach r.folder).1.putAll ws := by
  cases h with
  | unstored hs => rfl
  | alone hs hd => exact (eq_put_of_stored? hs).1
  | undumped hs hd he => exact (eq_put_of_stored? hs).1
  | dumped hs hd hdump => rw [(eq_put_of_stored? hs).1]; rfl

/-- **A report writes log files of its serial** (`IsLogPlace`), whatever comes of it. -/
theorem Reporting.isLogPlace {ws : List (Place × String)} {out : Reported Device}
    (h : Reporting r fs dump serial log ws out) : ∀ w ∈ ws, IsLogPlace r.folder serial w.1 := by
  have hemulator := Kind.container.isLogPlace_place r.folder serial
  have hlogcat := Kind.device.isLogPlace_place r.folder serial
  cases h with
  | unstored => exact nofun
  | alone | undumped => exact List.forall_mem_singleton.2 hemulator
  | dumped => exact List.forall_mem_cons.2 ⟨hemulator, List.forall_mem_singleton.2 hlogcat⟩

/-- A report that stores the log of the container forgets the device under the serial, whatever
comes of asking it. -/
theorem Reporting.reporter {ws : List (Place × String)} {out : Reported Device}
    (h : Reporting r fs dump serial log ws out) :
    out.reporter.folder = r.folder ∧ ∀ other, out.reporter.devices.lookup other =
      if other = serial ∧ (r.stored? fs serial log).isSome = true then none
      else r.devices.lookup other := by
  have hforget (other : Serial) :
      (r.forget serial).devices.lookup other =
        if other = serial then none else r.devices.lookup other :=
    lookup_filter_key_ne r.devices serial other
  cases h with
  | unstored hs => exact ⟨rfl, fun other ↦ by simp [hs]⟩
  | alone hs hd =>
    refine ⟨rfl, fun other ↦ ?_⟩
    split
    · next hother => rw [hother.1, hd]
    · rfl
  | undumped hs hd he => exact ⟨rfl, fun other ↦ by simp [hs, hforget]⟩
  | dumped hs hd hdump => exact ⟨rfl, fun other ↦ by simp [hs, hforget]⟩

/-- What is put into files when a device is redirected: nothing. It is remembered exactly if that
succeeds. -/
theorem redirect_cases (r : Reporter Device) (fs : Files) (serial : Serial) (d : Device) :
    (r.redirect fs serial d).files = (fs.reach r.folder).1 ∧
    (r.redirect fs serial d).reporter.folder = r.folder ∧
    ((r.redirect fs serial d).result = .ok () ∧
        (∀ other, (r.redirect fs serial d).reporter.devices.lookup other =
          if other = serial then some d else r.devices.lookup other) ∨
      (r.redirect fs serial d).result ≠ .ok () ∧ (r.redirect fs serial d).reporter = r) := by
  rw [redirect, inFolder]
  rcases fs.reach r.folder with ⟨reached, _ | _⟩
  · exact ⟨rfl, rfl, .inr ⟨nofun, rfl⟩⟩
  · exact ⟨rfl, rfl, .inl ⟨rfl, fun other ↦
      lookup_filter_key_ne_concat r.devices serial other d⟩⟩

/-! ### Whom a report asks -/

/-- A report asks a device for its dump: what comes of the report depends on what that device
gives. -/
def Asks (r : Reporter Device) (fs : Files) (serial : Serial) (log : String) (d : Device) : Prop :=
  ∃ dump dump', (∀ other, other ≠ d → dump other = dump' other) ∧
    r.report fs dump serial log ≠ r.report fs dump' serial log

/-- A report cannot tell two sources of dumps apart that agree on the device under the serial. -/
theorem report_congr {dump' : Device → Except LabError String}
    (h : ∀ d, r.devices.lookup serial = some d → dump d = dump' d) :
    r.report fs dump serial log = r.report fs dump' serial log := by
  cases hs : r.stored? fs serial log with
  | none =>
    obtain ⟨e, he⟩ := report_of_unstored hs
    rw [he, he]
  | some fs' =>
    rw [report_of_stored hs, report_of_stored hs, collect, collect]
    cases hd : r.devices.lookup serial with
    | none => rfl
    | some d =>
      dsimp only
      rw [h d hd]

/-- **A report asks the device under its serial**, if it stores the log of the container
(`stored?`), and no other. -/
theorem asks_iff :
    r.Asks fs serial log d ↔
      (r.stored? fs serial log).isSome = true ∧ r.devices.lookup serial = some d := by
  constructor
  · rintro ⟨dump, dump', hagree, hne⟩
    by_contra hnot
    cases hs : r.stored? fs serial log with
    | none =>
      obtain ⟨e, he⟩ := report_of_unstored hs
      exact hne (by rw [he, he])
    | some fs' =>
      refine hne (report_congr fun other hother ↦ hagree other ?_)
      rintro rfl
      exact hnot ⟨by rw [hs]; rfl, hother⟩
  · rintro ⟨hs, hd⟩
    obtain ⟨fs', hs⟩ := Option.isSome_iff_exists.1 hs
    have hresult {dump : Device → Except LabError String} {e : LabError} (he : dump d = .error e) :
        (r.report fs dump serial log).result = .error e := by
      rw [report_of_stored hs, collect, hd]
      dsimp only
      rw [he]
      rfl
    classical
    -- Which of two errors the device gives shows in the result.
    refine ⟨fun _ ↦ .error .alreadyReserving,
      fun other ↦ if other = d then .error .notReserving else .error .alreadyReserving,
      fun other hother ↦ (if_neg hother).symm, fun heq ↦ ?_⟩
    have h := congrArg Reported.result heq
    rw [hresult rfl, hresult (if_pos rfl)] at h
    cases h

end Reporter

end DeviceLab.Logs
