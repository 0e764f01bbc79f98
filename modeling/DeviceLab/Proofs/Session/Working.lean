import Mathlib.Data.Option.Basic
import DeviceLab.Proofs.Channel
import DeviceLab.Proofs.Router
import DeviceLab.Proofs.Session.Course

/-!
# A session at work

Between the claim of the reservation and the winding down all parts of a session are there and all
channels between them are whole. `Wired` says so, part by part and end by end, and `Working` says
once what a move can do to a session that is wired: one constructor for each thing that can happen,
with the state that comes of it written out.

The errands of the watcher and of the intake (`Move.isErrand`) touch nothing that attempts pass
through, so they are one constructor, apart from the hiring of a worker.

* `Wired.of_working` says that a session at work stays wired. It rests on the cases of `Working`
  alone; the two places where a channel loses an end are the scheduler that leaves, for which
  `Wired` has its exceptions, and the sender at the router, for which it has `ForwarderSeated`.
* `Working.requests_eq` and `Working.scheduler_eq` say what no move changes.

That these are all the moves there are is the matter of `DeviceLab.Proofs.Session.Moves`.
-/

namespace DeviceLab

namespace Session

/-! ### Wired sessions -/

/-- The `forwarder` reads and nobody waits to send, or it is the one who waits. -/
def ForwarderSeated (s : Session) : Prop :=
  (s.forwarder = .reading ∧ s.router.sends = []) ∨
    (s.forwarder = .parked ∧ ∃ p, p.id = forwarderId ∧ s.router.sends = [p])

/-- All parts of a session are at work, and the channels between them are whole. The scheduler alone
may have left, which is the only reason for the ends that it leaves. -/
structure Wired (s : Session) : Prop where
  stage : s.stage = .collecting
  service : s.service = .running
  intake : s.intake = true
  watcher : s.watcher ≠ .off
  client : s.client.stage ≠ .off
  attempts_receiving : s.attempts.receiving = true
  attempts_sending : s.attempts.sending = false → s.scheduler = .off
  attempts_open : s.client.attemptsOpen = false → s.scheduler = .off
  outcomes_sending : s.outcomes.sending = true
  outcomes_receiving : s.scheduler ≠ .off → s.outcomes.receiving = true
  reports_receiving : s.reports.receiving = true
  reports_sending : s.reports.sending = false → s.scheduler = .off
  intentions_sending : s.intentions.sending = true
  intentions_receiving : s.intentions.receiving = true
  intentions_capacity : s.intentions.capacity = some s.capacity
  results_sending : s.results.sending = true
  results_receiving : s.results.receiving = true
  devices_sending : s.devices.sending = true
  signals_sending : s.signals.sending = true
  router_open : s.router.closed = false
  router_capacity : s.router.capacity = s.capacity
  forwarder : s.ForwarderSeated
  submitting : ∀ rs, s.scheduler = .submitting rs → rs = s.requests
  requests_distinct : (s.requests.map (·.id)).Nodup
  requests_left : s.collected.length < s.requests.length

/-! ### What a move can do -/

/-- The moves of the watcher and of the intake. -/
def Move.isErrand : Move → Bool
  | .enlist _ | .takeCoordinate | .deliver | .heed | .removed => true
  | _ => false

/-- What a move makes of a session at work that stays at work (`Wired.working_of_step`). -/
inductive Working (s : Session) : Move → Session → List Notice → Prop
  /-- The scheduler submits the first attempt of every request. -/
  | submit {rs : List Request} (h : s.scheduler = .submitting rs) :
      Working s .schedule
        { s with
          scheduler := .collecting (rs.map fun r ↦ ⟨r, []⟩)
          attempts := { s.attempts with items := s.attempts.items ++ rs.map fun r ↦ ⟨r, 1⟩ } } []
  /-- The scheduler takes an outcome of a request that it does not know. -/
  | ignore {ps : List Pending} {o : AttemptOutcome} {rest : List AttemptOutcome} {ns : List Notice}
      (h : s.scheduler = .collecting ps) (ho : s.outcomes.items = o :: rest)
      (hp : Scheduler.find? o.request ps = none) :
      Working s .schedule { s with outcomes := s.outcomes.rest, scheduler := .collecting ps } ns
  /-- The scheduler takes an outcome after which another attempt is made. -/
  | retry {ps : List Pending} {o : AttemptOutcome} {rest : List AttemptOutcome} {p : Pending}
      {k : UInt32} (h : s.scheduler = .collecting ps) (ho : s.outcomes.items = o :: rest)
      (hp : Scheduler.find? o.request ps = some p)
      (hk : nextAttempt p.request.maxAttempts (p.runs ++ [o.run]) = some k) :
      Working s .schedule
        { s with
          outcomes := s.outcomes.rest
          scheduler := .collecting (Scheduler.put ⟨p.request, p.runs ++ [o.run]⟩ ps)
          attempts := { s.attempts with items := s.attempts.items ++ [⟨p.request, k⟩] } } []
  /-- The scheduler takes an outcome that settles its request; others are left. -/
  | settle {ps : List Pending} {o : AttemptOutcome} {rest : List AttemptOutcome} {p : Pending}
      (h : s.scheduler = .collecting ps) (ho : s.outcomes.items = o :: rest)
      (hp : Scheduler.find? o.request ps = some p)
      (hk : nextAttempt p.request.maxAttempts (p.runs ++ [o.run]) = none)
      (hl : Scheduler.erase o.request ps ≠ []) :
      Working s .schedule
        { s with
          outcomes := s.outcomes.rest
          scheduler := .collecting (Scheduler.erase o.request ps)
          reports := { s.reports with
            items := s.reports.items ++ [⟨p.request, p.runs ++ [o.run]⟩] } } []
  /-- The scheduler takes an outcome that settles the last request, and leaves. -/
  | finish {ps : List Pending} {o : AttemptOutcome} {rest : List AttemptOutcome} {p : Pending}
      {ns : List Notice} (h : s.scheduler = .collecting ps) (ho : s.outcomes.items = o :: rest)
      (hp : Scheduler.find? o.request ps = some p)
      (hk : nextAttempt p.request.maxAttempts (p.runs ++ [o.run]) = none)
      (hl : Scheduler.erase o.request ps = []) :
      Working s .schedule
        { s with
          outcomes := s.outcomes.endReceiving
          scheduler := .off
          attempts := s.attempts.endSending
          reports := { s.reports with
            items := s.reports.items ++ [⟨p.request, p.runs ++ [o.run]⟩], sending := false } } ns
  /-- The client makes an intention of an attempt. -/
  | draw {id : Uuid} {a : Attempt} {rest : List Attempt} (h : s.client.stage = .reading)
      (ha : s.attempts.items = a :: rest) :
      Working s (.takeAttempt id)
        { s with attempts := s.attempts.rest, client := s.client.take id a } []
  /-- The client finds that no attempts will come any more. -/
  | exhaust {id : Uuid} (h : s.client.stage = .reading) (ha : s.attempts.items = [])
      (hs : s.attempts.sending = false) :
      Working s (.takeAttempt id) { s with client := s.client.attemptsEnded } []
  /-- The client brings the result of an intention back to its request. -/
  | bring {r : IntentionResult} {rest : List IntentionResult} {q : Uuid}
      (h : s.client.stage = .reading) (hr : s.results.items = r :: rest)
      (hq : s.client.inFlight.lookup r.intention.id = some q) :
      Working s .takeResult
        { s with
          client := { s.client with
            inFlight := s.client.inFlight.filter (·.1 ≠ r.intention.id) }
          results := s.results.rest
          outcomes := s.outcomes.push ⟨q, r.run⟩ } []
  /-- The client drops the result of an intention that it does not know. -/
  | misplace {r : IntentionResult} {rest : List IntentionResult} {ns : List Notice}
      (h : s.client.stage = .reading) (hr : s.results.items = r :: rest)
      (hq : s.client.inFlight.lookup r.intention.id = none) :
      Working s .takeResult { s with results := s.results.rest } ns
  /-- The client hands its intention on. -/
  | handOn {i : Intention} (h : s.client.stage = .holding i) (hroom : s.intentions.hasRoom = true) :
      Working s .handOn
        { s with
          client := s.client.handed
          intentions := { s.intentions with items := s.intentions.items ++ [i] } } []
  /-- The forwarder passes an intention to a router that has room. -/
  | pass {i : Intention} {rest : List Intention} (h : s.forwarder = .reading)
      (hi : s.intentions.items = i :: rest) (hroom : s.router.queue.length < s.router.capacity) :
      Working s .forward
        { s with
          intentions := s.intentions.rest
          router := { s.router with queue := s.router.queue ++ [i] }.wakeTakes
          forwarder := .reading } []
  /-- The forwarder finds the router full. -/
  | block {i : Intention} {rest : List Intention} (h : s.forwarder = .reading)
      (hi : s.intentions.items = i :: rest) (hfull : s.router.capacity ≤ s.router.queue.length) :
      Working s .forward
        { s with
          intentions := s.intentions.rest
          router := { s.router with sends := [⟨forwarderId, i, .asleep⟩], permit := false }
          forwarder := .parked } []
  /-- The forwarder was woken and finds room. -/
  | resume {p : ParkedSend} (h : s.forwarder = .parked) (hp : s.router.sends = [p])
      (hwake : p.wake ≠ .asleep) (hroom : s.router.queue.length < s.router.capacity) :
      Working s .forward
        { s with
          router := { s.router with
            sends := [], queue := s.router.queue ++ [p.intention] }.wakeTakes
          forwarder := .reading } []
  /-- The forwarder was woken and finds the router full again. -/
  | reblock {p : ParkedSend} (h : s.forwarder = .parked) (hp : s.router.sends = [p])
      (hwake : p.wake ≠ .asleep) (hfull : s.router.capacity ≤ s.router.queue.length) :
      Working s .forward
        { s with
          router := { s.router with
            sends := [⟨forwarderId, p.intention, .asleep⟩], permit := false }
          forwarder := .parked } []
  /-- The watcher or the intake goes on an errand. -/
  | errand {m : Move} {ns : List Notice} {devices signals stream : Channel Coordinate}
      {watcher : Watcher} (hm : m.isErrand = true) (hd : devices.sending = s.devices.sending)
      (hg : signals.sending = s.signals.sending) (hw : watcher ≠ .off) :
      Working s m
        { s with devices := devices, signals := signals, stream := stream, watcher := watcher } ns
  /-- The intake hires a worker for a device. -/
  | hire {d : DeviceData} {ns : List Notice} :
      Working s (.enlist (.ok d)) ({ s with devices := s.devices.rest }.hire d) ns
  /-- A worker finds nothing for its state in the router and waits. -/
  | await {n : Nat} {x : Hired} {state : DeviceState} (hx : s.workers[n]? = some x)
      (hs : x.worker.isSeeking = true)
      (hstate : state = x.worker.state ∨ ∃ t ∈ s.router.takes, t.id = n ∧ t.state = state)
      (hq : Router.takeMatching state s.router.queue = none) :
      Working s (.seek n)
        { s with
          router := { s.router with
            takes := s.router.takes.filter (·.id ≠ n) ++ [⟨n, state, false⟩] } } []
  /-- A worker takes an intention from the router. -/
  | deliver {n : Nat} {x : Hired} {state : DeviceState} {i : Intention} {queue : List Intention}
      (hx : s.workers[n]? = some x) (hs : x.worker.isSeeking = true)
      (hstate : state = x.worker.state ∨ ∃ t ∈ s.router.takes, t.id = n ∧ t.state = state)
      (hq : Router.takeMatching state s.router.queue = some (i, queue)) :
      Working s (.seek n)
        { s with
          router := { s.router with
            takes := s.router.takes.filter (·.id ≠ n), queue := queue }.wakeSend
          workers := s.workers.modify n fun x' ↦
            { x' with worker := (x.worker.receive (some i)).1 } }
        (x.worker.receive (some i)).2
  /-- The device of a worker answers, and the service passes on what the worker reports. -/
  | answer {n : Nat} {time : UInt64} {reply : Reply} {x : Hired} {w : Worker} {ns : List Notice}
      {signals : Channel Coordinate} (hx : s.workers[n]? = some x)
      (hr : x.worker.resume time reply = some (w, ns))
      (hg : signals.sending = s.signals.sending) :
      Working s (.answer n time reply)
        { s with
          results := { s.results with
            items := s.results.items ++ ns.filterMap (Notice.result? time) }
          signals := signals
          workers := s.workers.modify n fun x' ↦ { x' with worker := w } } ns
  /-- The caller takes a report, and others are left. -/
  | gather {r : Report} {rest : List Report} (hr : s.reports.items = r :: rest)
      (hl : (Session.gather r s.collected).length < s.requests.length) :
      Working s .collect
        { s with reports := s.reports.rest, collected := Session.gather r s.collected } []

/-! ### Staying at work -/

namespace Wired

variable {s s' : Session} {ns : List Notice}

/-- A forwarder that reads has nobody waiting to send. -/
theorem sends_of_reading (hw : s.Wired) (hf : s.forwarder = .reading) : s.router.sends = [] := by
  rcases hw.forwarder with ⟨-, hsends⟩ | ⟨hparked, -⟩
  · exact hsends
  · rw [hf] at hparked
    cases hparked

/-- Waking a sender keeps the forwarder in its place. -/
theorem seated_of_wakeSend (hw : s.Wired) (takes : List ParkedTake) (queue : List Intention) :
    ForwarderSeated
      { s with router := { s.router with takes := takes, queue := queue }.wakeSend } := by
  rcases hw.forwarder with ⟨hf, hsends⟩ | ⟨hf, p, hid, hsends⟩
  · refine .inl ⟨hf, ?_⟩
    simp [Router.wakeSend, hsends]
  · by_cases hwake : p.wake = .asleep
    · refine .inr ⟨hf, { p with wake := .alone }, hid, ?_⟩
      simp [Router.wakeSend, Router.wakeFirst, hsends, hwake]
    · refine .inr ⟨hf, p, hid, ?_⟩
      simp [Router.wakeSend, hsends, hwake]

/-- While the scheduler is there, it may go on collecting, whatever it has taken in and let out. -/
theorem with_collecting (hw : s.Wired) (hon : s.scheduler ≠ .off) (ps : List Pending)
    (outcomes : List AttemptOutcome) (attempts : List Attempt) (reports : List Report) :
    Wired { s with
      outcomes := { s.outcomes with items := outcomes }
      scheduler := .collecting ps
      attempts := { s.attempts with items := attempts }
      reports := { s.reports with items := reports } } :=
  { hw with
    attempts_sending := fun hs ↦ (hon (hw.attempts_sending hs)).elim
    attempts_open := fun hs ↦ (hon (hw.attempts_open hs)).elim
    outcomes_receiving := fun _ ↦ hw.outcomes_receiving hon
    reports_sending := fun hs ↦ (hon (hw.reports_sending hs)).elim
    submitting := fun _ hrs ↦ by cases hrs }

/-- **A session at work stays `Wired`**, whatever move it makes. -/
theorem of_working {m : Move} (hw : s.Wired) (h : Working s m s' ns) : s'.Wired := by
  have hcollecting {ps : List Pending} (hs : s.scheduler = .collecting ps) :
      s.scheduler ≠ .off := by
    rw [hs]
    exact Scheduler.noConfusion
  cases h with
  | submit hs =>
    have hon : s.scheduler ≠ .off := by
      rw [hs]
      exact Scheduler.noConfusion
    exact hw.with_collecting hon _ s.outcomes.items _ s.reports.items
  | ignore hs => exact hw.with_collecting (hcollecting hs) _ _ s.attempts.items s.reports.items
  | retry hs => exact hw.with_collecting (hcollecting hs) _ _ _ s.reports.items
  | settle hs => exact hw.with_collecting (hcollecting hs) _ _ s.attempts.items _
  | finish =>
    exact { hw with
      attempts_sending := fun _ ↦ rfl
      attempts_open := fun _ ↦ rfl
      outcomes_receiving := fun hoff ↦ (hoff rfl).elim
      reports_sending := fun _ ↦ rfl
      submitting := fun _ hrs ↦ by cases hrs }
  | draw => exact { hw with client := Client.Stage.noConfusion }
  | exhaust _ _ hs => exact { hw with attempts_open := fun _ ↦ hw.attempts_sending hs }
  | bring =>
    exact { hw with
      outcomes_sending := by rw [Channel.push_sending]; exact hw.outcomes_sending
      outcomes_receiving := fun hon ↦ by
        rw [Channel.push_receiving]; exact hw.outcomes_receiving hon }
  | misplace => exact { hw with }
  | handOn => exact { hw with client := Client.Stage.noConfusion }
  | pass hf => exact { hw with forwarder := .inl ⟨rfl, hw.sends_of_reading hf⟩ }
  | block => exact { hw with forwarder := .inr ⟨rfl, _, rfl, rfl⟩ }
  | resume => exact { hw with forwarder := .inl ⟨rfl, rfl⟩ }
  | reblock => exact { hw with forwarder := .inr ⟨rfl, _, rfl, rfl⟩ }
  | errand _ hd hg hwatcher =>
    exact { hw with
      watcher := hwatcher
      devices_sending := by rw [hd]; exact hw.devices_sending
      signals_sending := by rw [hg]; exact hw.signals_sending }
  | hire => exact { hw with }
  | await => exact { hw with }
  | deliver =>
    exact { hw with
      router_open := by rw [Router.wakeSend_closed]; exact hw.router_open
      router_capacity := by rw [Router.wakeSend_capacity]; exact hw.router_capacity
      forwarder := hw.seated_of_wakeSend _ _ }
  | answer _ _ hg =>
    exact { hw with signals_sending := by rw [hg]; exact hw.signals_sending }
  | gather _ hl => exact { hw with requests_left := hl }

end Wired

section Unchanged

variable {s s' : Session} {m : Move} {ns : List Notice}

/-- No move changes the requests of a session. -/
theorem Working.requests_eq (h : Working s m s' ns) : s'.requests = s.requests := by
  cases h <;> rfl

/-- The scheduler makes its own moves. -/
theorem Working.scheduler_eq (h : Working s m s' ns) (hm : m ≠ .schedule) :
    s'.scheduler = s.scheduler := by
  cases h <;> first | rfl | exact (hm rfl).elim

/-- Requests are submitted once. -/
theorem Working.not_submitting (h : Working s m s' ns) (hs : ∀ rs, s.scheduler ≠ .submitting rs) :
    ∀ rs, s'.scheduler ≠ .submitting rs := by
  intro rs
  cases h <;> first | exact hs rs | exact Scheduler.noConfusion

end Unchanged

end Session

end DeviceLab
