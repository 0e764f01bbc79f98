import DeviceLab.Proofs.Logs.Reporting

/-!
# Histories of a reporter

A `History` is a list of turns, each a call with the reporter and the files that it came to. It
starts with any files and no devices. In between the turns files may be changed by others: a history
says how far they may go, and the results here hold however far that is.

Whether a reporter remembers a device depends on the turns alone. A serial is settled by a turn that
redirects it or stores a report of it (`Turn.Settles`), and a device is owed for it if the last turn
that settled it redirected it to that device (`Owes`). What one turn remembers
(`Turn.lookup_outcome_iff`) gives by induction that a reporter remembers what is owed
(`History.lookup_iff_owes`). So a redirection is answered by one report at most
(`not_owes_of_stores`): it outlasts the failure of a report before the log of the container is
stored, and no failure after that.

`History.writes_and_asks` is what a turn writes and whom it asks. It rests on
`Turn.writes_log_files`, which is about any reporter, and on `asks_iff` with
`History.lookup_iff_owes`.
-/

namespace DeviceLab.Logs

variable {Device : Type}

/-! ### Turns -/

/-- What a reporter is called for. -/
inductive Call (Device : Type)
  | redirect (serial : Serial) (device : Device)
  | report (serial : Serial) (log : String) (dump : Device → Except LabError String)

/-- The serial that a call is about. -/
def Call.serial : Call Device → Serial
  | redirect serial _ => serial
  | report serial _ _ => serial

/-- A call with the reporter and the files that it comes to. -/
structure Turn (Device : Type) where
  reporter : Reporter Device
  files : Files
  call : Call Device

namespace Turn

/-- What the call leaves behind. -/
def outcome (t : Turn Device) : Reported Device :=
  match t.call with
  | .redirect serial device => t.reporter.redirect t.files serial device
  | .report serial log dump => t.reporter.report t.files dump serial log

/-- A device is redirected under a serial. -/
def Redirects (t : Turn Device) (serial : Serial) (d : Device) : Prop :=
  t.call = .redirect serial d ∧ t.outcome.result = .ok ()

/-- A report of a serial stores the log of the container, whatever comes of it then. -/
def Stores (t : Turn Device) (serial : Serial) : Prop :=
  ∃ log dump, t.call = .report serial log dump ∧
    (t.reporter.stored? t.files serial log).isSome = true

/-- A report of a serial asks a device for its dump. -/
def Asks (t : Turn Device) (serial : Serial) (d : Device) : Prop :=
  ∃ log dump, t.call = .report serial log dump ∧ t.reporter.Asks t.files serial log d

/-- What devices were redirected for is settled for a serial: one is redirected anew, or asked. -/
def Settles (t : Turn Device) (serial : Serial) : Prop :=
  (∃ d, t.Redirects serial d) ∨ t.Stores serial

variable {t : Turn Device} {serial : Serial} {d : Device}

/-- **A turn writes log files of its serial** (`IsLogPlace`), and changes no other. -/
theorem writes_log_files (t : Turn Device) :
    ∃ ws, t.outcome.files = (t.files.reach t.reporter.folder).1.putAll ws ∧
      ∀ w ∈ ws, IsLogPlace t.reporter.folder t.call.serial w.1 := by
  obtain ⟨r, fs, call⟩ := t
  cases call with
  | redirect serial d => exact ⟨[], (r.redirect_cases fs serial d).1, nofun⟩
  | report serial log dump =>
    obtain ⟨ws, h⟩ := r.reporting fs dump serial log
    exact ⟨ws, h.files, h.isLogPlace⟩

theorem outcome_folder (t : Turn Device) : t.outcome.reporter.folder = t.reporter.folder := by
  obtain ⟨r, fs, call⟩ := t
  cases call with
  | redirect serial d => exact (r.redirect_cases fs serial d).2.1
  | report serial log dump =>
    obtain ⟨ws, h⟩ := r.reporting fs dump serial log
    exact h.reporter.1

/-- **What a turn remembers**: the device that it redirects, or one from before that it does not
settle (`Settles`). -/
theorem lookup_outcome_iff (t : Turn Device) (serial : Serial) (d : Device) :
    t.outcome.reporter.devices.lookup serial = some d ↔
      t.Redirects serial d ∨ t.reporter.devices.lookup serial = some d ∧ ¬ t.Settles serial := by
  obtain ⟨r, fs, call⟩ := t
  cases call with
  | redirect other d' =>
    have hstores : ¬ Stores ⟨r, fs, .redirect other d'⟩ serial := nofun
    rcases (r.redirect_cases fs other d').2.2 with ⟨hok, hlookup⟩ | ⟨hfail, hsame⟩
    · have hredirects (d : Device) :
          Redirects ⟨r, fs, .redirect other d'⟩ serial d ↔ serial = other ∧ d' = d := by
        simp [Redirects, outcome, hok, eq_comm]
      rw [outcome, hlookup, Settles]
      simp only [hredirects, hstores, or_false]
      by_cases hother : serial = other
      · simp [hother]
      · simp [hother]
    · have hredirects (d : Device) : ¬ Redirects ⟨r, fs, .redirect other d'⟩ serial d :=
        fun h ↦ hfail h.2
      rw [outcome, hsame, Settles]
      simp [hredirects, hstores]
  | report other log dump =>
    have hredirects (d : Device) : ¬ Redirects ⟨r, fs, .report other log dump⟩ serial d := nofun
    have hstores : Stores ⟨r, fs, .report other log dump⟩ serial ↔
        serial = other ∧ (r.stored? fs other log).isSome = true := by
      constructor
      · rintro ⟨_, _, hcall, hs⟩
        obtain ⟨rfl, rfl, -⟩ := Call.report.inj hcall
        exact ⟨rfl, hs⟩
      · rintro ⟨rfl, hs⟩
        exact ⟨log, dump, rfl, hs⟩
    obtain ⟨ws, h⟩ := r.reporting fs dump other log
    rw [outcome, h.reporter.2, Settles, hstores]
    split
    · next hsettled =>
      refine ⟨nofun, ?_⟩
      rintro (hr | ⟨-, hnot⟩)
      · exact (hredirects d hr).elim
      · exact (hnot (.inr hsettled)).elim
    · next hkept => simp [hredirects, hkept]

/-- A report asks the device that is remembered under its serial. -/
theorem asks_iff_lookup :
    t.Asks serial d ↔ t.Stores serial ∧ t.reporter.devices.lookup serial = some d := by
  constructor
  · rintro ⟨log, dump, hcall, hasks⟩
    obtain ⟨hs, hd⟩ := Reporter.asks_iff.1 hasks
    exact ⟨⟨log, dump, hcall, hs⟩, hd⟩
  · rintro ⟨⟨log, dump, hcall, hs⟩, hd⟩
    exact ⟨log, dump, hcall, Reporter.asks_iff.2 ⟨hs, hd⟩⟩

end Turn

/-! ### Histories -/

/-- The turns of a reporter for a folder, in their order, with the reporter and the files that they
lead to. In between others may change files. -/
inductive History (may : Files → Files → Prop) (folder : String) :
    List (Turn Device) → Reporter Device → Files → Prop
  | start (fs : Files) : History may folder [] ⟨folder, []⟩ fs
  | turn {h : List (Turn Device)} {r : Reporter Device} {fs : Files} (call : Call Device)
      (hh : History may folder h r fs) :
      History may folder (h ++ [⟨r, fs, call⟩]) (Turn.outcome ⟨r, fs, call⟩).reporter
        (Turn.outcome ⟨r, fs, call⟩).files
  | meddle {h : List (Turn Device)} {r : Reporter Device} {fs fs' : Files} (hm : may fs fs')
      (hh : History may folder h r fs) : History may folder h r fs'

/-- A device is owed for a serial: it was redirected, and nothing has settled the serial since. -/
def Owes (h : List (Turn Device)) (serial : Serial) (d : Device) : Prop :=
  ∃ before t since, h = before ++ t :: since ∧ t.Redirects serial d ∧
    ∀ u ∈ since, ¬ u.Settles serial

variable {may : Files → Files → Prop} {folder : String} {h before since : List (Turn Device)}
  {r : Reporter Device} {fs : Files} {t : Turn Device} {serial : Serial} {d : Device}

theorem not_owes_nil : ¬ Owes [] serial d := by
  rintro ⟨before, t, since, hnil, -⟩
  simp at hnil

/-- What is owed after one more turn. -/
theorem owes_concat_iff :
    Owes (h ++ [t]) serial d ↔ t.Redirects serial d ∨ Owes h serial d ∧ ¬ t.Settles serial := by
  constructor
  · rintro ⟨before, u, since, hsplit, hu, hsince⟩
    rcases List.eq_nil_or_concat' since with rfl | ⟨since, v, rfl⟩
    · obtain ⟨-, rfl⟩ := List.append_inj' hsplit rfl |>.imp_right List.singleton_inj.1
      exact .inl hu
    · rw [← List.cons_append, ← List.append_assoc] at hsplit
      obtain ⟨rfl, rfl⟩ := List.append_inj' hsplit rfl |>.imp_right List.singleton_inj.1
      rw [List.forall_mem_append, List.forall_mem_singleton] at hsince
      exact .inr ⟨⟨before, u, since, rfl, hu, hsince.1⟩, hsince.2⟩
  · rintro (ht | ⟨⟨before, u, since, rfl, hu, hsince⟩, ht⟩)
    · exact ⟨h, t, [], rfl, ht, nofun⟩
    · refine ⟨before, u, since ++ [t], by simp, hu, ?_⟩
      rw [List.forall_mem_append, List.forall_mem_singleton]
      exact ⟨hsince, ht⟩

/-- A report that stores the log of the container takes the redirection back, whether the device
gives a dump or not. -/
theorem not_owes_of_stores (ht : t.Stores serial) : ¬ Owes (h ++ [t]) serial d := by
  rw [owes_concat_iff]
  rintro (hredirects | ⟨-, hsettled⟩)
  · obtain ⟨log, dump, hcall, -⟩ := ht
    cases hcall.symm.trans hredirects.1
  · exact hsettled (.inr ht)

namespace History

theorem folder_eq (hh : History may folder h r fs) : r.folder = folder := by
  induction hh with
  | start => rfl
  | turn call _ ih => exact (Turn.outcome_folder _).trans ih
  | meddle _ _ ih => exact ih

/-- **A reporter remembers what is owed** (`Owes`). -/
theorem lookup_iff_owes (hh : History may folder h r fs) :
    r.devices.lookup serial = some d ↔ Owes h serial d := by
  induction hh with
  | start => exact ⟨nofun, fun howes ↦ (not_owes_nil howes).elim⟩
  | turn call _ ih => rw [Turn.lookup_outcome_iff, owes_concat_iff, ih]
  | meddle _ _ ih => exact ih

/-- A turn comes to what the turns before it lead to. -/
theorem before_turn (hh : History may folder (before ++ t :: since) r fs) :
    History may folder before t.reporter t.files := by
  generalize hsplit : before ++ t :: since = h at hh
  induction hh generalizing since with
  | start => simp at hsplit
  | turn call hh ih =>
    rcases List.eq_nil_or_concat' since with rfl | ⟨since, v, rfl⟩
    · obtain ⟨rfl, rfl⟩ := List.append_inj' hsplit rfl |>.imp_right List.singleton_inj.1
      exact hh
    · rw [← List.cons_append, ← List.append_assoc] at hsplit
      exact ih (List.append_inj' hsplit rfl).1
  | meddle _ _ ih => exact ih hsplit

/-- **What a turn writes and whom it asks.** Whatever the calls before were and whatever failed in
them, a turn makes sure of the folder, which changes no file, and then puts contents only into files
directly in the folder that are named after its serial (`IsLogPlace`). It `Asks` a device for its
dump exactly if it is a report whose log was stored (`Stores`) and the device is owed for that
serial (`Owes`). -/
theorem writes_and_asks (hh : History may folder (before ++ t :: since) r fs) :
    (t.files.reach folder).1.entries = t.files.entries ∧
    (∃ ws, t.outcome.files = (t.files.reach folder).1.putAll ws ∧
      ∀ w ∈ ws, IsLogPlace folder t.call.serial w.1) ∧
    ∀ serial d, t.Asks serial d ↔ t.Stores serial ∧ Owes before serial d := by
  have hbefore := hh.before_turn
  refine ⟨Files.reach_entries .., ?_, fun serial d ↦ ?_⟩
  · rw [← hbefore.folder_eq]
    exact t.writes_log_files
  · rw [Turn.asks_iff_lookup, hbefore.lookup_iff_owes]

/-- A serial that looks like a path out of the folder. Its device is asked once, and gives no dump;
the log of the container is stored in the folder nevertheless, and the next report asks nobody. -/
theorem writes_and_asks_of_path :
    let serial : Serial := .remote "../é"
    let refused : Unit → Except LabError String := fun _ ↦ .error .notReserving
    let redirected : Turn Unit := ⟨⟨"logs", []⟩, {}, .redirect serial ()⟩
    let reported : Turn Unit :=
      ⟨redirected.outcome.reporter, redirected.outcome.files, .report serial "first" refused⟩
    let again : Turn Unit :=
      ⟨reported.outcome.reporter, reported.outcome.files, .report serial "second" refused⟩
    History (fun _ _ ↦ False) "logs" [redirected, reported, again]
        again.outcome.reporter again.outcome.files ∧
      reported.Asks serial () ∧ reported.outcome.result = .error .notReserving ∧
      again.outcome.files.entries = [(["logs", "emulator-..__.log"], "second")] ∧
      ¬ again.Asks serial () := by
  intro serial refused redirected reported again
  have hstart : History (fun _ _ ↦ False) "logs" ([] : List (Turn Unit)) ⟨"logs", []⟩ {} :=
    .start {}
  have hh : History (fun _ _ ↦ False) "logs" ([redirected] ++ reported :: [again])
      again.outcome.reporter again.outcome.files :=
    ((hstart.turn redirected.call).turn reported.call).turn again.call
  have hh' : History (fun _ _ ↦ False) "logs" ([redirected, reported] ++ again :: [])
      again.outcome.reporter again.outcome.files := hh
  have hreported := hh.writes_and_asks.2.2 serial ()
  have hagain := hh'.writes_and_asks.2.2 serial ()
  have hstores : reported.Stores serial := ⟨"first", refused, rfl, by decide⟩
  have howes : Owes [redirected] serial () := ⟨[], redirected, [], rfl, ⟨rfl, by decide⟩, nofun⟩
  have hnone : ¬ Owes ([redirected] ++ [reported]) serial () := not_owes_of_stores hstores
  exact ⟨hh, hreported.2 ⟨hstores, howes⟩, by decide, by decide,
    fun hasks ↦ hnone (hagain.1 hasks).2⟩

end History

end DeviceLab.Logs
