import DeviceLab.Proofs.Session.Exclusive
import DeviceLab.Simulation.Device

/-!
# Sessions on scripted devices

A scripted device counts the tests that run on it, and remembers how many these were at most. The
gauge goes up when a test begins and down when it ends; a test whose worker is stopped meanwhile
never ends, so the gauge stays up.

`Scripted` is a session together with the devices that its workers talk to (`ScriptedState`): an
answer of a device is what its script says, and everybody else makes any move. `Scripted.gaugeBound`
says that the gauge of a device never goes beyond one (`GaugeBound`). This is due to the workers and
not to the devices: a device has one worker (`Supply.nodup_serials`), which begins no command before
the last one has ended (`GaugeBound.begins`), and nobody takes the device over from a worker that
was stopped (`Testing` remembers it). `Simulation.Device.begun_begin` is all that is used of the
script.
-/

namespace DeviceLab

namespace Simulation.Device

variable {d d' : Device} {c : Command} {reply : Reply} {time : Nat}

/-! ### The gauge of a device -/

/-- What the end of a command does to the gauge. -/
theorem finish_gauge (d : Device) (c : Command) :
    (d.finish c).1.peak = d.peak ∧
      (d.finish c).1.running = match c with
        | .run _ => d.running - 1
        | _ => d.running := by
  cases c with
  | status => exact ⟨rfl, rfl⟩
  | clear package => exact ⟨rfl, rfl⟩
  | install path =>
    simp only [finish, install]
    split
    · exact ⟨rfl, rfl⟩
    · split <;> exact ⟨rfl, rfl⟩
  | run action =>
    simp only [finish, finishRun]
    split
    · exact ⟨rfl, rfl⟩
    · split <;> exact ⟨rfl, rfl⟩

/-- A command with so much time either takes it or is answered at once. -/
theorem finishAfter_cases (d : Device) (time : Nat) (c : Command) :
    d.finishAfter time c = ((d.finish c).1, .answered (d.finish c).2) ∨
      d.finishAfter time c = (d, .underway time) := by
  rw [finishAfter]
  split
  · exact .inl rfl
  · exact .inr rfl

/-- How a command can begin on a device, and what that does to the number of tests that are
`running` on it and to its `peak` (`begun_begin`). -/
inductive Begun (d : Device) : Command → Device × Progress → Prop
  /-- A command that is no test takes its time, and leaves the gauge alone. -/
  | waiting {c : Command} {time : Nat} (hc : ∀ a, c ≠ .run a) : Begun d c (d, .underway time)
  /-- A test counts as long as it takes. -/
  | testing {a : TestAction} {d' : Device} {time : Nat} (hr : d'.running = d.running + 1)
      (hp : d'.peak = max d.peak (d.running + 1)) : Begun d (.run a) (d', .underway time)
  /-- A command is answered at once; a test may have counted for a moment. -/
  | answered {c : Command} {d' : Device} {reply : Reply} (hr : d'.running = d.running)
      (hp : d'.peak = d.peak ∨ d'.peak = max d.peak (d.running + 1)) :
      Begun d c (d', .answered reply)

theorem begun_finishAfter (d : Device) (time : Nat) {c : Command} (hc : ∀ a, c ≠ .run a) :
    Begun d c (d.finishAfter time c) := by
  rcases d.finishAfter_cases time c with h | h
  · rw [h]
    obtain ⟨hp, hr⟩ := d.finish_gauge c
    refine .answered (hr.trans ?_) (.inl hp)
    cases c with
    | run a => exact absurd rfl (hc a)
    | _ => rfl
  · rw [h]
    exact .waiting hc

/-- **What the beginning of a command does to the gauge** (`Begun`). -/
theorem begun_begin (d : Device) (c : Command) : Begun d c (d.begin c) := by
  cases c with
  | status => exact begun_finishAfter d 0 nofun
  | install path => exact begun_finishAfter d d.installDelay nofun
  | clear package => exact begun_finishAfter d 0 nofun
  | run a =>
    rw [begin, beginRun]
    split
    · exact .answered rfl (.inl rfl)
    · dsimp only
      split
      · exact .answered rfl (.inl rfl)
      · rcases finishAfter_cases _ _ (.run a) with h | h
        · rw [h]
          obtain ⟨hp, hr⟩ := finish_gauge _ (.run a)
          exact .answered hr (.inr hp)
        · rw [h]
          exact .testing rfl rfl

end Simulation.Device

/-! ### Sessions and their devices -/

/-- A session with the devices that the bridge knows, by their serials, and whether the command that
a worker waits for has `begun` on its device. -/
structure ScriptedState where
  session : Session
  devices : String → Simulation.Device
  begun : Nat → Bool := fun _ ↦ false

namespace ScriptedState

/-- A device changes. -/
def setDevice (v : ScriptedState) (q : String) (d : Simulation.Device) : ScriptedState :=
  { v with devices := Function.update v.devices q d }

/-- The command of a worker begins on its device, or is over. -/
def setBegun (v : ScriptedState) (n : Nat) (b : Bool) : ScriptedState :=
  { v with begun := Function.update v.begun n b }

end ScriptedState

namespace Session

variable {first s s' : Session} {h : List Turn} {cs : List Coordinate} {v v' : ScriptedState}
    {n : Nat}
  {q : String} {capacity : Nat} {requests : List Request}

/-- Whether a move is the answer of a device to its worker. -/
def Move.isAnswer : Move → Bool
  | .answer _ _ _ => true
  | _ => false

/-- A session went from a first state to another in so many turns, on scripted devices, while the
reservation handed out these coordinates. A device is asked when its worker waits for it, and
answers what its script says, at once or later; everybody else makes any move in any order. Whatever
else happens to a device, nobody else runs tests on it. -/
inductive Scripted (first : Session) : List Turn → List Coordinate → ScriptedState → Prop
  | start (devices : String → Simulation.Device)
      (hd : ∀ q, (devices q).running = 0 ∧ (devices q).peak ≤ 1) :
      Scripted first [] [] { session := first, devices }
  | turn {h : List Turn} {cs : List Coordinate} {v : ScriptedState} {s' : Session}
      {ns : List Notice} (m : Move) (hm : m.isAnswer = false) (hc : Scripted first h cs v)
      (hs : v.session.step m = some (s', ns)) :
      Scripted first (h ++ [⟨v.session, m, ns⟩]) cs { v with session := s' }
  | begun {h : List Turn} {cs : List Coordinate} {v : ScriptedState} (n : Nat) {w : Worker}
      {c : Command} {d : Simulation.Device} {time : Nat} (hc : Scripted first h cs v)
      (hw : v.session.crew[n]? = some w) (hw' : w.command? = some c) (hn : v.begun n = false)
      (hd : (v.devices w.device.serialText).begin c = (d, .underway time)) :
      Scripted first h cs ((v.setDevice w.device.serialText d).setBegun n true)
  | answered {h : List Turn} {cs : List Coordinate} {v : ScriptedState} (n : Nat) {w : Worker}
      {c : Command} {d : Simulation.Device} {reply : Reply} (time : UInt64) {s' : Session}
      {ns : List Notice}
      (hc : Scripted first h cs v) (hw : v.session.crew[n]? = some w) (hw' : w.command? = some c)
      (hn : v.begun n = false)
      (hd : (v.devices w.device.serialText).begin c = (d, .answered reply))
      (hs : v.session.step (.answer n time reply) = some (s', ns)) :
      Scripted first (h ++ [⟨v.session, .answer n time reply, ns⟩]) cs
        { v.setDevice w.device.serialText d with session := s' }
  | ended {h : List Turn} {cs : List Coordinate} {v : ScriptedState} (n : Nat) {w : Worker}
      {c : Command} {d : Simulation.Device} {reply : Reply} (time : UInt64) {s' : Session}
      {ns : List Notice}
      (hc : Scripted first h cs v) (hw : v.session.crew[n]? = some w) (hw' : w.command? = some c)
      (hn : v.begun n = true)
      (hd : (v.devices w.device.serialText).finish c = (d, reply))
      (hs : v.session.step (.answer n time reply) = some (s', ns)) :
      Scripted first (h ++ [⟨v.session, .answer n time reply, ns⟩]) cs
        { (v.setDevice w.device.serialText d).setBegun n false with session := s' }
  | apart {h : List Turn} {cs : List Coordinate} {v : ScriptedState} {d : Simulation.Device}
      (q : String) (hc : Scripted first h cs v) (hr : d.running = (v.devices q).running)
      (hp : d.peak = (v.devices q).peak) : Scripted first h cs (v.setDevice q d)
  | opened {h : List Turn} {v : ScriptedState} (hc : Scripted first h [] v)
      (hs : v.session.stage = .claiming) :
      Scripted first h [] { v with session := { v.session with stream := .unbounded } }
  | hand {h : List Turn} {cs : List Coordinate} {v : ScriptedState} (c : Coordinate)
      (hc : Scripted first h cs v) (hs : v.session.stream.sending = true) :
      Scripted first h (cs ++ [c])
        { v with session := { v.session with stream := v.session.stream.push c } }
  | finish {h : List Turn} {cs : List Coordinate} {v : ScriptedState} (hc : Scripted first h cs v) :
      Scripted first h cs
        { v with session := { v.session with stream := v.session.stream.endSending } }

/-- A session on scripted devices is a supplied one. -/
theorem Scripted.supply (hc : Scripted first h cs v) : Supply first h cs v.session := by
  induction hc with
  | start => exact .start
  | turn m hm hc hs ih => exact ih.turn m hs
  | begun | apart => assumption
  | answered n time hc hw hw' hn hd hs ih => exact ih.turn _ hs
  | ended n time hc hw hw' hn hd hs ih => exact ih.turn _ hs
  | opened hc hs ih => exact ih.opened hs
  | hand c hc hs ih => exact ih.hand c hs
  | finish hc ih => exact ih.finish

/-- Moves that were followed, with no answer of a device among them, are turns of a session on
scripted devices. -/
theorem Scripted.follow {more : List Turn} (hc : Scripted first h cs v) (ms : List Move)
    (hms : ms.all (!·.isAnswer) = true) (hf : v.session.follow ms = some (more, s')) :
    Scripted first (h ++ more) cs { v with session := s' } :=
  of_follow_all (P := fun h s ↦ Scripted first h cs { v with session := s })
    (fun m hm hc hs ↦ hc.turn m (by simpa using hm) hs) hc ms hms hf

/-! ### One test at a time -/

/-- A worker that waits for a test, or was stopped while it did. -/
def Testing (w : Worker) : Prop :=
  w.isOver = true ∨ ∃ a, w.command? = some (.run a)

/-- The gauge of a device (`running`) is at most one, and it is up only while a test of its worker
has begun that the worker waits for, or waited for when it was stopped. -/
structure GaugeBound (v : ScriptedState) (q : String) : Prop where
  peak : (v.devices q).peak ≤ 1
  running : (v.devices q).running ≤ 1
  busy : (v.devices q).running ≠ 0 → ∃ n w, v.session.crew[n]? = some w ∧
    w.device.serialText = q ∧ v.begun n = true ∧ Testing w

/-- Only the answer of its device takes a worker from a test (`Testing`). -/
theorem testing_of_step {m : Move} {ns : List Notice} {w : Worker}
    (hm : m.isAnswer = false) (hs : s.step m = some (s', ns))
    (hw : s.crew[n]? = some w) (ht : Testing w) :
    ∃ w', s'.crew[n]? = some w' ∧ w'.device = w.device ∧ Testing w' := by
  have hchange := workerChange_of_step hs n
  rw [hw] at hchange
  generalize s'.crew[n]? = after at hchange
  cases hchange with
  | apart | waited => exact ⟨w, rfl, rfl, ht⟩
  | received offer hseeking =>
    have hstage := Worker.stage_of_isSeeking hseeking
    rcases ht with hover | ⟨a, ha⟩
    · simp [Worker.isOver, hstage] at hover
    · simp [Worker.command?, hstage] at ha
  | resumed => cases hm
  | overran => exact ⟨w.abort, rfl, w.abort_device, .inl w.isOver_abort⟩

/-- The answer of a device concerns its worker alone. -/
theorem crew_of_answer {k : Nat} {time : UInt64} {reply : Reply} {ns : List Notice}
    (hs : s.step (.answer n time reply) = some (s', ns)) (hk : k ≠ n) :
    s'.crew[k]? = s.crew[k]? := by
  have hchange := workerChange_of_step hs k
  generalize s'.crew[k]? = after, s.crew[k]? = before at hchange
  cases hchange with
  | apart => rfl
  | resumed => exact absurd rfl hk

namespace GaugeBound

variable {w : Worker} {c : Command} {d : Simulation.Device}

theorem turn (hg : GaugeBound v q) {m : Move} {ns : List Notice}
    (hm : m.isAnswer = false) (hs : v.session.step m = some (s', ns)) :
    GaugeBound { v with session := s' } q where
  peak := hg.peak
  running := hg.running
  busy hr := by
    obtain ⟨n, w, hw, hq, hn, ht⟩ := hg.busy hr
    obtain ⟨w', hw', hdevice, ht'⟩ := testing_of_step hm hs hw ht
    exact ⟨n, w', hw', by rw [DeviceData.serialText, hdevice]; exact hq, hn, ht'⟩

/-- What happens between one worker and its device leaves other devices alone. -/
theorem of_ne (hg : GaugeBound v q) (hw : v.session.crew[n]? = some w)
    (hq : w.device.serialText ≠ q) (hdevice : v'.devices q = v.devices q)
    (hcrew : ∀ k, k ≠ n → v'.session.crew[k]? = v.session.crew[k]?)
    (hbegun : ∀ k, k ≠ n → v'.begun k = v.begun k) : GaugeBound v' q where
  peak := by rw [hdevice]; exact hg.peak
  running := by rw [hdevice]; exact hg.running
  busy hr := by
    rw [hdevice] at hr
    obtain ⟨k, w', hw', hq', hk, ht⟩ := hg.busy hr
    have hne : k ≠ n := by
      rintro rfl
      rw [hw] at hw'
      obtain rfl := Option.some.inj hw'
      exact hq hq'
    exact ⟨k, w', by rw [hcrew k hne]; exact hw', hq', by rw [hbegun k hne]; exact hk, ht⟩

/-- No test is on its way on a device whose worker has not begun one. -/
theorem running_eq_zero (hg : GaugeBound v w.device.serialText)
    (hd : (v.session.crew.map (·.device.serialText)).Nodup) (hw : v.session.crew[n]? = some w)
    (hidle : v.begun n = true → ¬ Testing w) : (v.devices w.device.serialText).running = 0 := by
  by_contra hr
  obtain ⟨k, w', hw', hq, hk, ht⟩ := hg.busy hr
  obtain rfl := eq_of_serialOf hd (serialOf_eq_some.2 ⟨w', hw', hq⟩)
    (serialOf_eq_some.2 ⟨w, hw, rfl⟩)
  rw [hw] at hw'
  obtain rfl := Option.some.inj hw'
  exact hidle hk ht

theorem of_idle (hp : (v.devices q).peak ≤ 1) (hr : (v.devices q).running = 0) :
    GaugeBound v q where
  peak := hp
  running := by rw [hr]; exact Nat.zero_le 1
  busy hne := absurd hr hne

/-- A worker begins no test (`Begun`) before the last one on its device has ended. -/
theorem begins (hg : GaugeBound v w.device.serialText)
    (hd : (v.session.crew.map (·.device.serialText)).Nodup) (hw : v.session.crew[n]? = some w)
    (hw' : w.command? = some c) (hn : v.begun n = false) {time : Nat}
    (hb : (v.devices w.device.serialText).begin c = (d, .underway time)) :
    GaugeBound ((v.setDevice w.device.serialText d).setBegun n true) w.device.serialText := by
  have hidle : (v.devices w.device.serialText).running = 0 :=
    hg.running_eq_zero hd hw fun hn' ↦ by rw [hn] at hn'; cases hn'
  have hpeak := hg.peak
  have hdevice : ((v.setDevice w.device.serialText d).setBegun n true).devices
      w.device.serialText = d := Function.update_self ..
  have hbegun := (v.devices w.device.serialText).begun_begin c
  rw [hb] at hbegun
  cases hbegun with
  | waiting => exact of_idle (by rw [hdevice]; exact hpeak) (by rw [hdevice]; exact hidle)
  | @testing a _ _ hr hp =>
    refine ⟨?_, ?_, fun _ ↦ ⟨n, w, hw, rfl, Function.update_self .., .inr ⟨a, hw'⟩⟩⟩
    · rw [hdevice, hp, hidle]
      exact max_le hpeak (Nat.le_refl 1)
    · rw [hdevice, hr, hidle]

/-- A command that is answered at once leaves no test on the device. -/
theorem answers (hg : GaugeBound v w.device.serialText)
    (hd : (v.session.crew.map (·.device.serialText)).Nodup) (hw : v.session.crew[n]? = some w)
    (hn : v.begun n = false) {reply : Reply}
    (hb : (v.devices w.device.serialText).begin c = (d, .answered reply)) :
    d.peak ≤ 1 ∧ d.running = 0 := by
  have hidle : (v.devices w.device.serialText).running = 0 :=
    hg.running_eq_zero hd hw fun hn' ↦ by rw [hn] at hn'; cases hn'
  have hbegun := (v.devices w.device.serialText).begun_begin c
  rw [hb] at hbegun
  cases hbegun with
  | answered hr hp =>
    refine ⟨?_, hr.trans hidle⟩
    rcases hp with hp | hp
    · rw [hp]
      exact hg.peak
    · rw [hp, hidle]
      exact max_le hg.peak (Nat.le_refl 1)

/-- The end of a command leaves no test on the device. -/
theorem ends (hg : GaugeBound v w.device.serialText)
    (hd : (v.session.crew.map (·.device.serialText)).Nodup) (hw : v.session.crew[n]? = some w)
    (hw' : w.command? = some c) {reply : Reply}
    (hb : (v.devices w.device.serialText).finish c = (d, reply)) :
    d.peak ≤ 1 ∧ d.running = 0 := by
  obtain ⟨hp, hr⟩ := (v.devices w.device.serialText).finish_gauge c
  rw [hb] at hp hr
  refine ⟨hp.trans_le hg.peak, hr.trans ?_⟩
  have hother (hc : ∀ a, c ≠ .run a) : (v.devices w.device.serialText).running = 0 := by
    refine hg.running_eq_zero hd hw fun _ ht ↦ ?_
    rcases ht with hover | ⟨a, ha⟩
    · rw [Worker.command?_eq_none_of_isOver hover] at hw'
      cases hw'
    · exact hc a (Option.some.inj (hw'.symm.trans ha))
  cases c with
  | run a => exact Nat.sub_eq_zero_of_le hg.running
  | _ => exact hother nofun

end GaugeBound

/-- **At most one test at a time on a device** (`GaugeBound`), whenever it begins, ends or is cut
short. -/
theorem Scripted.gaugeBound (hc : Scripted (call capacity requests).1 h cs v)
    (hd : (cs.map (·.serial.value)).Nodup) (ha : Addressed h) (q : String) : GaugeBound v q := by
  induction hc generalizing q with
  | start devices hidle => exact .of_idle (hidle q).2 (hidle q).1
  | turn m hm hc hs ih => exact (ih hd ha.of_append q).turn hm hs
  | @begun h cs v n w c d time hc hw hw' hn hb ih =>
    by_cases hq : w.device.serialText = q
    · subst hq
      exact (ih hd ha _).begins (hc.supply.nodup_serials hd ha) hw hw' hn hb
    · exact (ih hd ha q).of_ne hw hq (Function.update_of_ne (Ne.symm hq) ..) (fun _ _ ↦ rfl)
        fun k hk ↦ Function.update_of_ne hk ..
  | @answered h cs v n w c d reply time s' ns hc hw hw' hn hb hs ih =>
    by_cases hq : w.device.serialText = q
    · subst hq
      have hidle :=
        (ih hd ha.of_append _).answers (hc.supply.nodup_serials hd ha.of_append) hw hn hb
      rw [← Function.update_self w.device.serialText d v.devices] at hidle
      exact .of_idle hidle.1 hidle.2
    · exact (ih hd ha.of_append q).of_ne hw hq (Function.update_of_ne (Ne.symm hq) ..)
        (fun k hk ↦ crew_of_answer hs hk) fun _ _ ↦ rfl
  | @ended h cs v n w c d reply time s' ns hc hw hw' hn hb hs ih =>
    by_cases hq : w.device.serialText = q
    · subst hq
      have hidle := (ih hd ha.of_append _).ends (hc.supply.nodup_serials hd ha.of_append) hw hw' hb
      rw [← Function.update_self w.device.serialText d v.devices] at hidle
      exact .of_idle hidle.1 hidle.2
    · exact (ih hd ha.of_append q).of_ne hw hq (Function.update_of_ne (Ne.symm hq) ..)
        (fun k hk ↦ crew_of_answer hs hk) fun k hk ↦ Function.update_of_ne hk ..
  | @apart h cs v d p hc hr hp ih =>
    by_cases hq : p = q
    · subst hq
      have hg := ih hd ha p
      have hdevice : (v.setDevice p d).devices p = d := Function.update_self ..
      refine ⟨?_, ?_, fun hne ↦ ?_⟩
      · rw [hdevice, hp]
        exact hg.peak
      · rw [hdevice, hr]
        exact hg.running
      · rw [hdevice, hr] at hne
        exact hg.busy hne
    · have hg := ih hd ha q
      have hdevice : (v.setDevice p d).devices q = v.devices q :=
        Function.update_of_ne (Ne.symm hq) ..
      exact ⟨by rw [hdevice]; exact hg.peak, by rw [hdevice]; exact hg.running,
        fun hne ↦ hg.busy (by rw [hdevice] at hne; exact hne)⟩
  | opened hc hs ih =>
    have hg := ih hd ha q
    exact ⟨hg.peak, hg.running, hg.busy⟩
  | hand c hc hs ih =>
    have hg := ih (hd.sublist (by rw [List.map_append]; exact List.sublist_append_left _ _)) ha q
    exact ⟨hg.peak, hg.running, hg.busy⟩
  | finish hc ih =>
    have hg := ih hd ha q
    exact ⟨hg.peak, hg.running, hg.busy⟩

end Session

end DeviceLab
