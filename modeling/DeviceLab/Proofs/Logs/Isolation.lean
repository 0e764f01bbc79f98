import DeviceLab.Proofs.Logs.History
import Mathlib.Data.String.Basic
import Mathlib.Data.List.Forall2

/-!
# Whose logs a file holds

A file holds the log that was last stored under its name. A name is shared by all serials that are
`Alike` (`sanitized_eq_iff`): they differ only where neither has a character that a name keeps. So
as long as every call succeeds and nobody else changes the files, what is kept apart is what names
keep apart (`History.keeps_names`), and no more: of two serials that are alike, the one that is
reported later takes the files of the other (`not_keeps_of_alike`). Where no two serials of
a history are alike, logs are kept apart by the values of serials (`History.keeps_values`).
`logs_kept_iff` has both directions.

Nothing keeps a device that is attached to the host from having a serial that is like one of a host
and a port, in which the colon is replaced.
-/

namespace DeviceLab.Logs

variable {Device : Type} {a b : Serial}

/-! ### Names that are shared -/

/-- Serials that differ only where neither has a character that a name keeps. -/
def Alike (a b : Serial) : Prop :=
  List.Forall₂ (fun c d ↦ c = d ∨ isPlain c = false ∧ isPlain d = false)
    a.value.toList b.value.toList

/-- **Serials share a name exactly if they are `Alike`.** -/
theorem sanitized_eq_iff : sanitized a = sanitized b ↔ Alike a b := by
  have hmark : isPlain '_' = false := by decide
  have hchar (c d : Char) : (if isPlain c then c else '_') = (if isPlain d then d else '_') ↔
      c = d ∨ isPlain c = false ∧ isPlain d = false := by
    by_cases hc : isPlain c = true
    · by_cases hd : isPlain d = true
      · simp [hc, hd]
      · have hne : c ≠ '_' := fun h ↦ by rw [h, hmark] at hc; cases hc
        have hne' : c ≠ d := fun h ↦ hd (h ▸ hc)
        simp [hc, hd, hne, hne']
    · by_cases hd : isPlain d = true
      · have hne : '_' ≠ d := fun h ↦ by rw [← h, hmark] at hd; cases hd
        have hne' : c ≠ d := fun h ↦ hc (h ▸ hd)
        simp [hc, hd, hne, hne']
      · simp [hc, hd]
  rw [sanitized, sanitized, String.ofList_inj, ← List.forall₂_eq_eq_eq, List.forall₂_map_left_iff,
    List.forall₂_map_right_iff, Alike]
  simp only [hchar]

theorem sanitized_congr (h : a.value = b.value) : sanitized a = sanitized b := by
  rw [sanitized, h, sanitized]

/-- The longest value of a serial that a file can be named after. -/
def maxValueLength : Nat := 242

/-- Letters and digits take one byte. -/
theorem utf8Size_of_isAlphanum {c : Char} (h : c.isAlphanum = true) : c.utf8Size = 1 := by
  have hupper (h : c.isUpper = true) : c.val ≤ 'Z'.val := (of_decide_eq_true h).2
  have hlower (h : c.isLower = true) : c.val ≤ 'z'.val :=
    of_decide_eq_true ((Bool.and_eq_true ..).mp h).2
  have hdigit (h : c.isDigit = true) : c.val ≤ '9'.val :=
    of_decide_eq_true ((Bool.and_eq_true ..).mp h).2
  rw [Char.utf8Size_eq_one_iff]
  rcases (Bool.or_eq_true ..).mp h with h | h
  · rcases (Bool.or_eq_true ..).mp h with h | h
    · exact UInt32.le_trans (hupper h) (by decide)
    · exact UInt32.le_trans (hlower h) (by decide)
  · exact UInt32.le_trans (hdigit h) (by decide)

theorem utf8Len_eq_length {cs : List Char} (h : ∀ c ∈ cs, c.utf8Size = 1) :
    String.utf8Len cs = cs.length := by
  induction cs with
  | nil => rfl
  | cons c cs ih =>
    rw [List.forall_mem_cons] at h
    rw [String.utf8Len_cons, ih h.2, h.1, List.length_cons]

/-- What `StandsFor` a serial takes a byte for each character. -/
theorem StandsFor.utf8ByteSize {text : String} (h : StandsFor text a) :
    text.utf8ByteSize = a.value.length := by
  rw [← h.length, ← String.length_toList, ← utf8Len_eq_length, ← String.utf8ByteSize_ofList,
    String.ofList_toList]
  intro c hc
  rcases h.plain c hc with h | rfl | rfl | rfl
  · exact utf8Size_of_isAlphanum h
  all_goals decide

/-- Files can be named (`isName`) after all serials that are not too long. -/
theorem isName_emulatorFile_iff (serial : Serial) :
    Files.isName (emulatorFile serial) = true ↔ serial.value.length ≤ maxValueLength := by
  have hnul : '\x00' ∉ (emulatorFile serial).toList := by
    rw [emulatorFile, String.toList_append, String.toList_append, List.mem_append, List.mem_append]
    rintro ((hmem | hmem) | hmem)
    · exact absurd hmem (by decide)
    · exact absurd ((standsFor_sanitized serial).plain _ hmem) (by decide)
    · exact absurd hmem (by decide)
  have hsize : (emulatorFile serial).utf8ByteSize = serial.value.length + 13 := by
    rw [emulatorFile, String.utf8ByteSize_append, String.utf8ByteSize_append,
      (standsFor_sanitized serial).utf8ByteSize]
    show 9 + serial.value.length + 4 = _
    omega
  rw [Files.isName, hsize, Files.maxNameBytes, maxValueLength]
  simp [hnul]

/-! ### What one call keeps -/

/-- A place belongs to one kind and one name. -/
theorem Kind.place_eq_iff {kind kind' : Kind} {folder : String} :
    kind.place folder a = kind'.place folder b ↔ kind = kind' ∧ sanitized a = sanitized b := by
  have hne (a b : Serial) : emulatorFile a ≠ logcatFile b := by
    intro h
    have hhead := congrArg (·.toList.head?) h
    simp [emulatorFile, logcatFile] at hhead
  cases kind <;> cases kind'
  · simp [place, file, emulatorFile]
  · simp [place, file, hne]
  · simp [place, file, (hne _ _).symm]
  · simp [place, file, logcatFile]

/-- What a file of one kind and name holds after a log was put into another. -/
theorem content?_put_place (fs : Files) (kind kind' : Kind) (folder : String) (a b : Serial)
    (text : String) :
    (fs.put (kind'.place folder a) text).content? (kind.place folder b) =
      if kind = kind' ∧ sanitized a = sanitized b then some text
      else fs.content? (kind.place folder b) := by
  rw [Files.content?_put]
  refine if_congr ?_ rfl rfl
  rw [Kind.place_eq_iff, eq_comm (a := sanitized b)]

/-- What a report has to keep: the log of the container, and the dump of the device that it asks, if
that gives one. -/
def Reporter.text? (r : Reporter Device) (dump : Device → Except LabError String) (serial : Serial)
    (log : String) : Kind → Option String
  | .container => some log
  | .device => (r.devices.lookup serial).bind fun d ↦ (dump d).toOption

/-- What the files hold after a report that succeeds. -/
theorem Reporter.Reporting.content? {r : Reporter Device} {fs : Files}
    {dump : Device → Except LabError String} {log : String} {ws : List (Place × String)}
    {out : Reported Device} (h : Reporting r fs dump a log ws out) (hok : out.result = .ok ())
    (kind : Kind) (b : Serial) :
    out.files.content? (kind.place r.folder b) =
      (if sanitized a = sanitized b then r.text? dump a log kind else none).or
        (fs.content? (kind.place r.folder b)) := by
  have hreach := Files.content?_congr (Files.reach_entries fs r.folder)
  cases h with
  | unstored | undumped => cases hok
  | alone hs hd =>
    rw [(eq_put_of_stored? hs).1, content?_put_place, hreach]
    cases kind with
    | container => by_cases hname : sanitized a = sanitized b <;> simp [hname, text?]
    | device => simp [text?, hd]
  | dumped hs hd hdump =>
    dsimp only
    rw [(eq_put_of_stored? hs).1, content?_put_place, content?_put_place, hreach]
    cases kind with
    | container => by_cases hname : sanitized a = sanitized b <;> simp [hname, text?]
    | device =>
      by_cases hname : sanitized a = sanitized b <;> simp [hname, text?, hd, hdump, Except.toOption]

namespace Turn

/-- Everything that a turn is called for is done. -/
def Succeeds (t : Turn Device) : Prop :=
  t.outcome.result = .ok ()

instance (t : Turn Device) : Decidable t.Succeeds :=
  inferInstanceAs (Decidable (t.outcome.result = .ok ()))

/-- A turn is a report of a serial. -/
def Reports (t : Turn Device) (serial : Serial) : Prop :=
  ∃ log dump, t.call = .report serial log dump

/-- What a turn has to keep for a serial, where those that have a key in common are taken for
one. -/
def textFor? (key : Serial → String) (t : Turn Device) (kind : Kind) (serial : Serial) :
    Option String :=
  match t.call with
  | .redirect _ _ => none
  | .report a log dump => if key a = key serial then t.reporter.text? dump a log kind else none

variable {t : Turn Device} {key key' : Serial → String} {kind : Kind} {serial : Serial}

theorem textFor?_of_call {log : String} {dump : Device → Except LabError String}
    (h : t.call = .report a log dump) :
    t.textFor? key .container serial = if key a = key serial then some log else none := by
  rw [textFor?, h]
  rfl

/-- What a turn has to keep for a serial (`textFor?`) is of a report of one with its key. -/
theorem reports_of_textFor? {text : String} (h : t.textFor? key kind serial = some text) :
    ∃ a, t.Reports a ∧ key a = key serial := by
  obtain ⟨r, fs, call⟩ := t
  cases call with
  | redirect => cases h
  | report a log dump =>
    by_cases hkey : key a = key serial
    · exact ⟨a, ⟨log, dump, rfl⟩, hkey⟩
    · exact nomatch (if_neg hkey).symm.trans h

theorem textFor?_congr (hkey : ∀ a, t.Reports a → (key a = key serial ↔ key' a = key' serial)) :
    t.textFor? key kind serial = t.textFor? key' kind serial := by
  obtain ⟨r, fs, call⟩ := t
  cases call with
  | redirect => rfl
  | report a log dump => exact if_congr (hkey a ⟨log, dump, rfl⟩) rfl rfl

/-- What the files hold after a turn that succeeds. -/
theorem content?_outcome (ht : t.Succeeds) (kind : Kind) (b : Serial) :
    t.outcome.files.content? (kind.place t.reporter.folder b) =
      (t.textFor? sanitized kind b).or (t.files.content? (kind.place t.reporter.folder b)) := by
  obtain ⟨r, fs, call⟩ := t
  cases call with
  | redirect serial d =>
    have hfiles := (r.redirect_cases fs serial d).1
    exact Files.content?_congr ((congrArg Files.entries hfiles).trans (Files.reach_entries ..)) _
  | report a log dump =>
    obtain ⟨ws, h⟩ := r.reporting fs dump a log
    exact h.content? ht kind b

/-- A serial that is reported with success is no longer than `maxValueLength`. -/
theorem length_of_reports (ht : t.Succeeds) (hr : t.Reports a) :
    a.value.length ≤ maxValueLength := by
  obtain ⟨r, fs, call⟩ := t
  obtain ⟨log, dump, rfl⟩ := hr
  rw [← isName_emulatorFile_iff]
  cases hs : r.stored? fs a log with
  | some fs' => exact (Reporter.eq_put_of_stored? hs).2
  | none =>
    obtain ⟨e, he⟩ := Reporter.report_of_unstored hs
    have hresult := congrArg Reported.result (he dump)
    exact nomatch hresult.symm.trans ht

end Turn

/-! ### What a history keeps -/

/-- What was last to be kept for a serial (`textFor?`), where those that have a key in common are
taken for one. -/
def latest (key : Serial → String) (h : List (Turn Device)) (kind : Kind) (serial : Serial) :
    Option String :=
  h.reverse.findSome? (Turn.textFor? key · kind serial)

/-- **The files keep apart what a key tells apart**: for every serial they hold what was last to be
kept for it (`latest`). -/
def Keeps (key : Serial → String) (folder : String) (h : List (Turn Device)) (fs : Files) : Prop :=
  ∀ kind serial text, latest key h kind serial = some text →
    fs.content? (kind.place folder serial) = some text

/-- Others change no file directly in a folder. -/
def Spares (folder : String) (fs fs' : Files) : Prop :=
  ∀ name, fs'.content? (Files.target folder ++ [name]) = fs.content? (Files.target folder ++ [name])

variable {h : List (Turn Device)} {t : Turn Device} {r : Reporter Device} {fs : Files}
  {folder : String} {kind : Kind} {serial : Serial}

theorem latest_concat (key : Serial → String) (h : List (Turn Device)) (t : Turn Device)
    (kind : Kind) (serial : Serial) :
    latest key (h ++ [t]) kind serial =
      (t.textFor? key kind serial).or (latest key h kind serial) := by
  rw [latest, List.reverse_concat, List.findSome?_cons, latest]
  cases t.textFor? key kind serial <;> rfl

/-- Two keys that cannot be told apart on what was reported. -/
theorem latest_congr {key key' : Serial → String}
    (hkey : ∀ t ∈ h, ∀ a, t.Reports a → (key a = key serial ↔ key' a = key' serial)) :
    latest key h kind serial = latest key' h kind serial := by
  induction h using List.reverseRecOn with
  | nil => rfl
  | append_singleton h t ih =>
    rw [List.forall_mem_append, List.forall_mem_singleton] at hkey
    rw [latest_concat, latest_concat, Turn.textFor?_congr hkey.2, ih hkey.1]

namespace History

/-- **Under each name the files hold what was last stored under it**: they `Keeps` what `sanitized`
tells apart. -/
theorem keeps_names (hh : History (Spares folder) folder h r fs) (hok : ∀ t ∈ h, t.Succeeds) :
    Keeps sanitized folder h fs := by
  intro kind serial text hlatest
  induction hh with
  | start => cases hlatest
  | @turn h r fs call hh ih =>
    rw [List.forall_mem_append, List.forall_mem_singleton] at hok
    have hcontent := Turn.content?_outcome hok.2 kind serial
    rw [hh.folder_eq] at hcontent
    rw [hcontent]
    rw [latest_concat] at hlatest
    cases htext : Turn.textFor? sanitized ⟨r, fs, call⟩ kind serial with
    | some text' =>
      rw [htext] at hlatest
      exact hlatest
    | none =>
      rw [htext] at hlatest
      exact ih hok.1 hlatest
  | meddle hspares _ ih => exact (hspares _).trans (ih hok hlatest)

/-- **Logs of serials with different values are kept apart**, if no two that are reported are
`Alike`. -/
theorem keeps_values (hh : History (Spares folder) folder h r fs) (hok : ∀ t ∈ h, t.Succeeds)
    (hapart : ∀ t ∈ h, ∀ u ∈ h, ∀ a b, t.Reports a → u.Reports b → Alike a b → a.value = b.value) :
    Keeps Serial.value folder h fs := by
  intro kind serial text hlatest
  obtain ⟨t, ht, htext⟩ := List.exists_of_findSome?_eq_some hlatest
  obtain ⟨a, hreports, hvalue⟩ := Turn.reports_of_textFor? htext
  refine hh.keeps_names hok kind serial text ((latest_congr fun u hu b hb ↦ ?_).symm.trans hlatest)
  refine ⟨sanitized_congr, fun hname ↦ ?_⟩
  have halike : Alike b a := sanitized_eq_iff.1 (hname.trans (sanitized_congr hvalue).symm)
  exact (hapart u hu t (List.mem_reverse.1 ht) b a hb hreports halike).trans hvalue

end History

/-! ### Exactly when logs are kept apart -/

/-- A log is stored directly under the root, where there are no folders (`write_root`). -/
theorem report_under_root {fs : Files} (hfolders : fs.folders = [])
    (hroot : fs.rootBytes + Files.maxNameBytes < Files.maxPathBytes)
    (hlength : a.value.length ≤ maxValueLength) (dump : Device → Except LabError String)
    (log : String) :
    Reporter.report ⟨"", []⟩ fs dump a log =
      ⟨⟨"", []⟩, fs.put (Kind.container.place "" a) log, .ok ()⟩ := by
  have hwrite := Files.write_root (Kind.container.isPart_file a)
    ((isName_emulatorFile_iff a).2 hlength) hfolders hroot log
  have hs : Reporter.stored? ⟨"", ([] : List (Serial × Device))⟩ fs a log =
      some (fs.put (Kind.container.place "" a) log) := by
    rw [Reporter.stored?, Files.reach_root (by omega)]
    exact congrArg Except.toOption hwrite
  rw [Reporter.report_of_stored hs]
  rfl

/-- A history can go on with such a report. -/
theorem History.go_on_under_root {h : List (Turn Device)} {fs : Files}
    (hh : History (Spares "") "" h ⟨"", []⟩ fs) (hfolders : fs.folders = [])
    (hroot : fs.rootBytes + Files.maxNameBytes < Files.maxPathBytes)
    (hlength : a.value.length ≤ maxValueLength) (log : String) :
    ∃ t : Turn Device, (∃ dump, t.call = .report a log dump) ∧ t.Succeeds ∧
      History (Spares "") "" (h ++ [t]) ⟨"", []⟩ (fs.put (Kind.container.place "" a) log) := by
  let dump : Device → Except LabError String := fun _ ↦ .ok ""
  let t : Turn Device := ⟨⟨"", []⟩, fs, .report a log dump⟩
  have hout : t.outcome = ⟨⟨"", []⟩, fs.put (Kind.container.place "" a) log, .ok ()⟩ :=
    report_under_root hfolders hroot hlength dump log
  have hturn := hh.turn t.call
  rw [hout] at hturn
  exact ⟨t, ⟨dump, rfl⟩, congrArg Reported.result hout, hturn⟩

/-- Of two reports of serials that are `Alike`, the second one takes the log of the first one
away. -/
theorem not_keeps_of_alike (Device : Type) (hlength : a.value.length ≤ maxValueLength)
    (halike : Alike a b) (hne : a.value ≠ b.value) :
    ∃ (h : List (Turn Device)) (r : Reporter Device) (fs : Files), History (Spares "") "" h r fs ∧
      (∀ t ∈ h, t.Succeeds) ∧ (∀ t ∈ h, t.call.serial = a ∨ t.call.serial = b) ∧
      ¬ Keeps Serial.value "" h fs := by
  have hlength' : b.value.length ≤ maxValueLength := by
    rw [← String.length_toList, ← List.Forall₂.length_eq halike, String.length_toList]
    exact hlength
  have hname : sanitized b = sanitized a := (sanitized_eq_iff.2 halike).symm
  have hstart : History (Spares "") "" ([] : List (Turn Device)) ⟨"", []⟩ {} := .start {}
  have hroot : ({} : Files).rootBytes + Files.maxNameBytes < Files.maxPathBytes := by decide
  obtain ⟨t, ⟨dump, ht⟩, htok, hfirst⟩ := hstart.go_on_under_root rfl hroot hlength "first"
  obtain ⟨u, ⟨dump', hu⟩, huok, hsecond⟩ := hfirst.go_on_under_root rfl hroot hlength' "second"
  rw [List.nil_append, List.singleton_append] at hsecond
  refine ⟨[t, u], _, _, hsecond, ?_, ?_, fun hkeeps ↦ ?_⟩
  · exact List.forall_mem_cons.2 ⟨htok, List.forall_mem_singleton.2 huok⟩
  · rw [List.forall_mem_cons, List.forall_mem_singleton, ht, hu]
    exact ⟨.inl rfl, .inr rfl⟩
  · have hheld := content?_put_place
      (Files.put {} (Kind.container.place "" a) "first") .container .container "" b a "second"
    have hkept := hkeeps .container a "first" (by
      simp [latest, Turn.textFor?_of_call hu, Turn.textFor?_of_call ht, hne.symm])
    rw [hheld, if_pos ⟨rfl, hname⟩] at hkept
    exact absurd hkept (by decide)

/-- **What log files hold, and for whom.** Serials have the same files exactly if they are `Alike`,
and after calls that all succeed each file holds what was last to be kept under its name. So
whatever the folder and whatever the calls, the logs of the serials in a list are kept apart
(`Keeps`) exactly if no two that have different values are alike; those that are too long to name a
file after them (`maxValueLength`) do not count. -/
theorem logs_kept_iff (Device : Type) (serials : List Serial) :
    (∀ (kind : Kind) folder a b, kind.place folder a = kind.place folder b ↔ Alike a b) ∧
    (∀ folder (h : List (Turn Device)) r fs, History (Spares folder) folder h r fs →
      (∀ t ∈ h, t.Succeeds) → Keeps sanitized folder h fs) ∧
    ((∀ folder (h : List (Turn Device)) r fs, History (Spares folder) folder h r fs →
        (∀ t ∈ h, t.Succeeds) → (∀ t ∈ h, t.call.serial ∈ serials) →
        Keeps Serial.value folder h fs) ↔
      ∀ a ∈ serials, ∀ b ∈ serials, a.value.length ≤ maxValueLength → Alike a b →
        a.value = b.value) := by
  refine ⟨fun kind folder a b ↦ ?_, fun folder h r fs hh hok ↦ hh.keeps_names hok, ?_, ?_⟩
  · rw [Kind.place_eq_iff, sanitized_eq_iff, and_iff_right rfl]
  · intro hkeeps a ha b hb hlength halike
    by_contra hne
    obtain ⟨h, r, fs, hh, hok, hserials, hlost⟩ := not_keeps_of_alike Device hlength halike hne
    refine hlost (hkeeps "" h r fs hh hok fun t ht ↦ ?_)
    rcases hserials t ht with heq | heq
    · exact heq ▸ ha
    · exact heq ▸ hb
  · intro hapart folder h r fs hh hok hserials
    refine hh.keeps_values hok fun t ht u hu a b hta hub halike ↦ ?_
    refine hapart a ?_ b ?_ (Turn.length_of_reports (hok t ht) hta) halike
    · obtain ⟨log, dump, hcall⟩ := hta
      simpa [hcall, Call.serial] using hserials t ht
    · obtain ⟨log, dump, hcall⟩ := hub
      simpa [hcall, Call.serial] using hserials u hu

/-- A device behind a port of a host and one attached under a name that is `Alike`: reporting the
second one overwrites what the first one reported. -/
theorem loses_log_of_alike :
    let a : Serial := .remote "10.0.0.1:5555"
    let b : Serial := .attached "10.0.0.1_5555"
    let dump : Unit → Except LabError String := fun _ ↦ .ok ""
    let first : Turn Unit := ⟨⟨"logs", []⟩, {}, .report a "first" dump⟩
    let second : Turn Unit := ⟨first.outcome.reporter, first.outcome.files, .report b "second" dump⟩
    History (Spares "logs") "logs" [first, second] second.outcome.reporter second.outcome.files ∧
      first.Succeeds ∧ second.Succeeds ∧ a.value ≠ b.value ∧
      latest Serial.value [first, second] .container a = some "first" ∧
      second.outcome.files.content? (Kind.container.place "logs" a) = some "second" ∧
      ¬ Keeps Serial.value "logs" [first, second] second.outcome.files := by
  intro a b dump first second
  have hstart : History (Spares "logs") "logs" ([] : List (Turn Unit)) ⟨"logs", []⟩ {} := .start {}
  have hh := (hstart.turn first.call).turn second.call
  have hfirst : first.Succeeds := by decide
  have hsecond : second.Succeeds := by decide
  have hlatest : latest Serial.value [first, second] .container a = some "first" := by decide
  have hplace : Kind.container.place "logs" b = Kind.container.place "logs" a := by decide
  have hheld :=
    hh.keeps_names (List.forall_mem_cons.2 ⟨hfirst, List.forall_mem_singleton.2 hsecond⟩)
    .container b "second" (by decide)
  rw [hplace] at hheld
  refine ⟨hh, hfirst, hsecond, by decide, hlatest, hheld, fun hkeeps ↦ ?_⟩
  have hkept := (hkeeps .container a "first" hlatest).symm.trans hheld
  exact absurd hkept (by decide)

end DeviceLab.Logs
