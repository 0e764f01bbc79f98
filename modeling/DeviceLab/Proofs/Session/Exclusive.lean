import DeviceLab.Proofs.Session.Supply
import DeviceLab.Proofs.Session.Teardown

/-!
# One worker for each device

Nothing in a session keeps two workers from using one device: the handle of a device is shared, and
who resolves a coordinate gets it. That every device is in one pair of hands rests on three parts of
a session.

* The intake hires one worker for each coordinate that it is given (`Course.hired`), and is given
  what the reservation handed out (`Supply.offered_prefix`). A device is known by its serial, so if
  the coordinates have different serials and the bridge is `Addressed`, the workers have different
  serials as well (`Supply.nodup_serials`).
* A worker has one command at a time (`length_commandsOn_le`) and one intention
  (`Course.exists_left`, which rests on `Course.record`).
* The caller lets nobody be hired any more when it winds the session up (`Course.offered_eq_nil`).

`takenOn`, `reportedOn` and `commandsOn` tell of a device what `takenOf`, `answeredOf` and
`Worker.command?` tell of a worker; `eq_of_serialOf` is what makes the two the same.
-/

namespace DeviceLab

theorem Worker.abort_device (w : Worker) : w.abort.device = w.device := by
  rw [abort]
  split <;> rfl

namespace Session

variable {first s s' : Session} {h : List Turn} {t : Turn} {cs : List Coordinate} {m : Move}
  {ns : List Notice} {n : Nat} {w : Worker} {capacity : Nat} {requests : List Request}

/-! ### Who is hired -/

/-- The bridge finds for a coordinate the device at its serial. -/
def Addressed (h : List Turn) : Prop :=
  ∀ p ∈ offered h, ∀ d, p.2 = .ok d → d.serialText = p.1.serial.value

theorem Addressed.of_append {more : List Turn} (ha : Addressed (h ++ more)) : Addressed h := by
  intro p hp
  refine ha p ?_
  rw [offered, List.flatMap_append]
  exact List.mem_append_left _ hp

/-- Workers keep their devices, and are hired by the intake alone (`offered`). -/
theorem crew_device_of_step (hs : s.step m = some (s', ns)) :
    s'.crew.map (·.device) =
      s.crew.map (·.device) ++ (Turn.offered ⟨s, m, ns⟩).filterMap (·.2.toOption) := by
  by_cases hm : ∃ found, m = .enlist found
  · obtain ⟨found, rfl⟩ := hm
    rw [step, enlist] at hs
    split at hs
    · cases hs
    split at hs
    · cases hs
    next c rest hitems =>
    have hoffered : Turn.offered ⟨s, .enlist found, ns⟩ = [(c, found)] := by
      simp [Turn.offered, hitems]
    rw [hoffered]
    cases found with
    | ok d =>
      obtain ⟨rfl, rfl⟩ := Prod.mk.inj (Option.some.inj hs)
      rw [hire_crew, List.map_append]
      rfl
    | error e =>
      obtain ⟨rfl, rfl⟩ := Prod.mk.inj (Option.some.inj hs)
      exact (List.append_nil _).symm
  · have hoffered : Turn.offered ⟨s, m, ns⟩ = [] := by
      rw [Turn.offered]
      split
      · exact absurd ⟨_, ‹_›⟩ hm
      · rfl
    rw [hoffered, List.filterMap_nil, List.append_nil]
    refine List.ext_getElem? fun n ↦ ?_
    rw [List.getElem?_map, List.getElem?_map]
    have hchange := workerChange_of_step hs n
    generalize s.crew[n]? = before at hchange
    generalize s'.crew[n]? = after at hchange
    cases hchange with
    | apart | waited => rfl
    | hired => exact absurd ⟨_, rfl⟩ hm
    | received offer => exact congrArg some (Worker.receive_device ..)
    | resumed hr => exact congrArg some (Worker.resumed_of_resume hr).device_eq
    | overran =>
      cases before with
      | none => rfl
      | some w => exact congrArg some w.abort_device

/-- **The workers are those of the coordinates that the bridge resolved**, in order (`offered`). -/
theorem Course.hired (hc : Course first h s) (hfirst : first.workers = []) :
    s.crew.map (·.device) = (offered h).filterMap (·.2.toOption) := by
  induction hc with
  | start => rw [crew, hfirst]; rfl
  | turn m hc hs ih =>
    rw [crew_device_of_step hs, ih, offered_append_singleton, List.filterMap_append]
  | feed c hc ih => exact ih

/-- A session that is not at work offers nothing to the bridge. -/
theorem Course.offered_eq_nil (hc : Course (call capacity requests).1 h s)
    (hs : s.stage ≠ .collecting) (hstep : s.step m = some (s', ns)) :
    Turn.offered ⟨s, m, ns⟩ = [] := by
  have hidle : s.intake = false ∨ s.devices.items = [] := by
    have hinvariant := hc.teardownInvariant
    cases hst : s.stage with
    | collecting => exact absurd hst hs
    | claiming =>
      obtain ⟨-, -, -, -, c, rfl⟩ := hc.claiming hst
      exact .inr rfl
    | draining why =>
      rw [hst] at hinvariant
      cases why with
      | refused => exact .inl hinvariant.1.intake
      | _ => exact .inl hinvariant.1.intake
    | releasing | returned | panicked =>
      rw [hst] at hinvariant
      exact .inl hinvariant.1.intake
    | off | aborted =>
      rw [hst] at hinvariant
      exact hinvariant.elim
  rw [Turn.offered]
  split
  · next found c rest hm hitems =>
    obtain rfl : m = .enlist found := hm
    rcases hidle with hintake | hnil
    · rw [step, enlist, hintake] at hstep
      cases hstep
    · rw [show s.devices.items = c :: rest from hitems] at hnil
      cases hnil
  · rfl

/-- **Only what was handed out is `offered` to the bridge**, in order. -/
theorem Supply.offered_prefix (hc : Supply (call capacity requests).1 h cs s) :
    (offered h).map (·.1) <+: cs := by
  induction hc with
  | start => exact List.prefix_refl _
  | @turn h cs s s' ns m hc hs ih =>
    rw [offered_append_singleton, List.map_append]
    by_cases hst : s.stage = .collecting
    · have hnext : (Turn.offered ⟨s, m, ns⟩).map (·.1) <+: s.devices.items := by
        rw [Turn.offered]
        split
        · next hitems =>
          rw [hitems]
          exact List.prefix_append [_] _
        · exact List.nil_prefix
      have hline := (hc.places hst).handed
      rw [List.append_assoc, List.append_assoc] at hline
      rw [← hline]
      exact (List.prefix_append_right_inj _).2 (hnext.trans (List.prefix_append _ _))
    · rw [hc.course.offered_eq_nil hst hs, List.map_nil, List.append_nil]
      exact ih
  | opened hc _ ih => exact ih
  | hand c hc _ ih => exact ih.trans (List.prefix_append _ _)
  | finish hc ih => exact ih

/-- **Different devices for different workers**, if the coordinates that were handed out have
different serials. -/
theorem Supply.nodup_serials (hc : Supply (call capacity requests).1 h cs s)
    (hd : (cs.map (·.serial.value)).Nodup) (ha : Addressed h) :
    (s.crew.map (·.device.serialText)).Nodup := by
  have hhired := hc.course.hired (call_workers capacity requests)
  have hkey : ∀ p ∈ offered h, ∀ d, p.2.toOption = some d →
      d.serialText = p.1.serial.value := by
    intro p hp d hpd
    refine ha p hp d ?_
    obtain ⟨c, e | d'⟩ := p
    · cases hpd
    · exact congrArg Except.ok (Option.some.inj hpd)
  have hserials : s.crew.map (·.device.serialText) =
      ((offered h).filter (·.2.toOption.isSome)).map (·.1.serial.value) := by
    rw [← map_filterMap_of_key hkey, ← hhired, List.map_map]
    rfl
  have hoffered : ((offered h).map (·.1.serial.value)).Nodup := by
    have hsub := (hc.offered_prefix.sublist.map fun c ↦ c.serial.value)
    rw [List.map_map] at hsub
    exact hd.sublist hsub
  rw [hserials]
  exact hoffered.sublist (List.filter_sublist.map _)

/-! ### What is lost once -/

/-- A worker loses nothing but what it holds. -/
theorem Turn.lostOf_sublist (n : Nat) (t : Turn) :
    (t.lostOf n).Sublist (t.before.crew[n]?.bind (·.holding?)).toList := by
  rw [Turn.lostOf]
  split
  · split
    · exact .refl _
    · exact List.nil_sublist _
  · exact .refl _
  · exact List.nil_sublist _

/-- A worker that has lost an intention holds none. -/
theorem Record.holding?_eq_none (hr : Record n h w) (hne : lostOf n h ≠ []) :
    w.holding? = none := by
  rcases hr.lost hne with hcrash | haborted
  · by_contra hheld
    obtain ⟨i, hi⟩ := Option.ne_none_iff_exists'.1 hheld
    exact hcrash (Worker.crash?_of_holding? hi)
  · rw [Worker.holding?, haborted]

/-- **No worker loses more than one intention**, since it is over once it has lost one
(`Record.lost_eq_nil`). -/
theorem Course.length_lostOf_le (hc : Course first h s) (hfirst : first.workers = []) (n : Nat) :
    (lostOf n h).length ≤ 1 := by
  induction hc with
  | start => exact Nat.zero_le 1
  | feed c hc ih => exact ih
  | @turn h s s' ns m hc hs ih =>
    have hsub := Turn.lostOf_sublist n ⟨s, m, ns⟩
    rw [lostOf_append_singleton]
    by_cases hnil : lostOf n h = []
    · rw [hnil]
      exact hsub.length_le.trans Option.length_toList_le
    · have hnone : s.crew[n]?.bind (·.holding?) = none := by
        cases hw : s.crew[n]? with
        | none => rfl
        | some w =>
          have hr := hc.record hfirst n w.device
          rw [hw, Option.getD_some] at hr
          exact hr.holding?_eq_none hnil
      rw [show Turn.lostOf n ⟨s, m, ns⟩ = [] by simpa [hnone] using hsub, List.append_nil]
      exact ih

/-- **What a worker took is what it answered, in order, and at most one intention more** (`takenOf`,
`answeredOf`). -/
theorem Course.exists_left (hc : Course first h s) (hfirst : first.workers = [])
    (hw : s.crew[n]? = some w) : ∃ left : List Intention, left.length ≤ 1 ∧
      takenOf n h = (answeredOf n h).map (·.intention) ++ left := by
  have hr := hc.record hfirst n w.device
  rw [hw, Option.getD_some] at hr
  refine ⟨lostOf n h ++ w.holding?.toList, ?_, by rw [← List.append_assoc]; exact hr.taken⟩
  by_cases hnil : lostOf n h = []
  · rw [hnil]
    exact Option.length_toList_le
  · rw [hr.holding?_eq_none hnil, Option.toList_none, List.append_nil]
    exact hc.length_lostOf_le hfirst n

/-! ### What happens on a device -/

/-- The serial of the device of a worker. -/
def serialOf (s : Session) (n : Nat) : Option String :=
  s.crew[n]?.map (·.device.serialText)

/-- The commands that the device at a serial is busy with, or is to be given at once
(`Worker.command?`). -/
def commandsOn (s : Session) (q : String) : List Command :=
  (s.crew.filter (·.device.serialText = q)).filterMap Worker.command?

/-- The intentions that were taken for the device at a serial (`takenOf`). -/
def takenOn (h : List Turn) (s : Session) (q : String) : List Intention :=
  ((received h).filter fun p ↦ s.serialOf p.1 = some q).map (·.2)

/-- The results that were reported of the device at a serial (`answeredOf`). -/
def reportedOn (h : List Turn) (s : Session) (q : String) : List IntentionResult :=
  ((reported h).filter fun p ↦ s.serialOf p.1 = some q).map (·.2)

theorem serialOf_eq_some {q : String} :
    s.serialOf n = some q ↔ ∃ w, s.crew[n]? = some w ∧ w.device.serialText = q :=
  Option.map_eq_some_iff

section Distinct

variable {q : String} (hd : (s.crew.map (·.device.serialText)).Nodup)

include hd

/-- Workers of one device are one worker. -/
theorem eq_of_serialOf {k : Nat} (hn : s.serialOf n = some q) (hk : s.serialOf k = some q) :
    n = k := by
  have hserials (j : Nat) : (s.crew.map (·.device.serialText))[j]? = s.serialOf j :=
    List.getElem?_map
  obtain ⟨w, hw, -⟩ := serialOf_eq_some.1 hn
  refine (List.getElem?_inj ?_ hd).1 ?_
  · rw [List.length_map]
    exact (List.getElem?_eq_some_iff.1 hw).1
  · rw [hserials, hserials, hn, hk]

/-- A device is busy with one command at a time. -/
theorem length_commandsOn_le : (s.commandsOn q).length ≤ 1 := by
  refine List.length_filterMap_le _ _ |>.trans ?_
  by_cases hq : ∃ w ∈ s.crew, w.device.serialText = q
  · obtain ⟨w, hw, rfl⟩ := hq
    rw [filter_key_eq_singleton hd hw]
    exact Nat.le_refl 1
  · rw [List.filter_eq_nil_iff.2 fun w hw he ↦ hq ⟨w, hw, of_decide_eq_true he⟩]
    exact Nat.zero_le 1

theorem map_filter_serialOf {α : Type} (hn : s.serialOf n = some q) (l : List (Nat × α)) :
    (l.filter fun p ↦ s.serialOf p.1 = some q).map (·.2) = valuesOf n l := by
  have hiff (k : Nat) : s.serialOf k = some q ↔ k = n :=
    ⟨fun hk ↦ eq_of_serialOf hd hk hn, fun hk ↦ hk ▸ hn⟩
  simp only [hiff, valuesOf]
  induction l with
  | nil => rfl
  | cons p l ih => by_cases hp : p.1 = n <;> simp [hp, ih]

/-- What was taken for a device is what was reported of it, and at most one intention more. -/
theorem Course.exists_left_on (hc : Course first h s) (hfirst : first.workers = []) :
    ∃ left : List Intention, left.length ≤ 1 ∧
      takenOn h s q = (reportedOn h s q).map (·.intention) ++ left := by
  by_cases hq : ∃ n, s.serialOf n = some q
  · obtain ⟨n, hn⟩ := hq
    obtain ⟨w, hw, -⟩ := serialOf_eq_some.1 hn
    rw [takenOn, reportedOn, map_filter_serialOf hd hn, map_filter_serialOf hd hn]
    exact hc.exists_left hfirst hw
  · have hnone {α : Type} (l : List (Nat × α)) :
        (l.filter fun p ↦ s.serialOf p.1 = some q).map (·.2) = [] := by
      rw [List.filter_eq_nil_iff.2 fun p _ he ↦ hq ⟨p.1, of_decide_eq_true he⟩, List.map_nil]
    exact ⟨[], Nat.zero_le 1, by rw [takenOn, reportedOn, hnone, hnone]; rfl⟩

end Distinct

end Session

end DeviceLab
