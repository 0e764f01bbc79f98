import DeviceLab.Session

/-!
# The moves of a session

A session goes from state to state by moves (`Session.Move`). Most are moves of one of its parts,
which do what the part does until it may have to wait; the others are answers from outside, of the
bridge (`enlist`), of devices (`answer`) and of the reservation (`claimed`, `removed`, `released`),
or the decision that time is up (`expire`, `overrun`). `Session.step` says what a move does and is
`none` where it is not possible; in which order possible moves are made is left open.
-/

namespace DeviceLab

namespace Session

/-- The moves of a session. -/
inductive Move
  /-- The scheduler submits its requests, or takes an outcome or the end of them. -/
  | schedule
  /-- The client takes an attempt, or the end of them, and makes an intention of it. -/
  | takeAttempt (id : Uuid)
  /-- The client takes a result, or the end of them. -/
  | takeResult
  /-- The client hands its intention on. -/
  | handOn
  /-- The forwarder takes an intention, or the end of them, to the router. -/
  | forward
  /-- The intake takes a coordinate, which the bridge resolves or not. -/
  | enlist (found : Except LabError DeviceData)
  /-- The intake finds that no coordinate will come any more. -/
  | closeIntake
  /-- A worker asks the router for an intention. -/
  | seek (worker : Nat)
  /-- The device of a worker answers at a time. -/
  | answer (worker : Nat) (time : UInt64) (reply : Reply)
  /-- The watcher takes a coordinate, or the end of them, from the reservation. -/
  | takeCoordinate
  /-- The watcher passes its coordinate to the service. -/
  | deliver
  /-- The watcher takes a signal, or the end of them, from the service. -/
  | heed
  /-- The reservation has removed the resource that the watcher asked it to remove. -/
  | removed
  /-- The reservation answers to the claim of the caller. -/
  | claimed (reply : Except LabError Unit)
  /-- The caller takes a report, or the end of them. -/
  | collect
  /-- Time is up for the caller. -/
  | expire
  /-- The end of a worker is taken note of. -/
  | join (worker : Nat)
  /-- Time is up for the workers. -/
  | overrun
  /-- The caller finds the service stopped. -/
  | drained
  /-- The reservation answers to the release of the caller. -/
  | released (reply : Except LabError Unit)

/-! ### Scheduler and client -/

/-- Passes on what a step of the scheduler let out (`Scheduler.Output`); one that is off has left
its channels. -/
def letOut (s : Session) (r : Scheduler × Scheduler.Output) : Session × List Notice :=
  let s := { s with
    scheduler := r.1,
    attempts := r.2.attempts.foldl .push s.attempts,
    reports := r.2.reports.foldl .push s.reports }
  (match r.1 with
    | .off => s.endScheduler
    | _ => s, r.2.notices)

/-- The scheduler submits its requests (`Scheduler.submit`), takes an outcome (`Scheduler.receive`),
or, once no outcome can come, gives up what is pending (`Scheduler.giveUp`). -/
def schedule (s : Session) : Option (Session × List Notice) :=
  match s.scheduler with
  | .off => none
  | .submitting requests => some (s.letOut (Scheduler.submit requests s.attempts.receiving))
  | .collecting pending =>
    match s.outcomes.items with
    | o :: _ =>
      some ({ s with outcomes := s.outcomes.rest }.letOut
        (Scheduler.receive pending o s.attempts.receiving))
    | [] => if s.outcomes.sending then none else some (s.letOut (Scheduler.giveUp pending))

/-- The client, while it is `reading`, makes an intention with the identifier of the next attempt
(`Client.take`), or notes that attempts have ended. The end is noted once: then `attemptsOpen` is
false. -/
def takeAttempt (s : Session) (id : Uuid) : Option (Session × List Notice) :=
  match s.client.stage with
  | .reading =>
    if !s.client.attemptsOpen then none
    else match s.attempts.items with
      | a :: _ => some ({ s with attempts := s.attempts.rest, client := s.client.take id a }, [])
      | [] =>
        if s.attempts.sending then none else some ({ s with client := s.client.attemptsEnded }, [])
  | _ => none

/-- The client, while it is `reading`, resolves the next result into an outcome (`Client.resolve`);
the end of the results is its own end. -/
def takeResult (s : Session) : Option (Session × List Notice) :=
  match s.client.stage with
  | .reading =>
    match s.results.items with
    | r :: _ =>
      let (client, outcome, notices) := s.client.resolve r
      some ({ s with client, results := s.results.rest,
                     outcomes := outcome.toList.foldl .push s.outcomes }, notices)
    | [] => if s.results.sending then none else some (s.endClient, [])
  | _ => none

/-- The client hands its intention on when `intentions` has room, and ends when nobody receives
there. -/
def handOn (s : Session) : Option (Session × List Notice) :=
  match s.client.stage with
  | .holding i =>
    if !s.intentions.receiving then
      some (s.endClient, [.warn "Service stopped accepting intentions"])
    else if s.intentions.hasRoom then
      some ({ s with client := s.client.handed, intentions := s.intentions.push i }, [])
    else none
  | _ => none

/-! ### Forwarder and intake -/

/-- What becomes of the forwarder after it tried to send (`SendResult`). -/
def forwarded (s : Session) : SendResult × Router → Session × List Notice
  | (.accepted, router) => ({ s with router, forwarder := .reading }, [])
  | (.parked, router) => ({ s with router, forwarder := .parked }, [])
  | (.refused, router) =>
    let (s, notices) := { s with router }.endForwarder.closeRouter
    (s, .warn ("Dropping intention: " ++ LabError.routerClosed.message) :: notices)

/-- The forwarder offers the next intention to the router (`Router.offer`), or tries a parked one
again (`Router.retrySend`). When no intention can come it ends, and closes the router. -/
def forward (s : Session) : Option (Session × List Notice) :=
  match s.forwarder with
  | .off => none
  | .reading =>
    match s.intentions.items with
    | i :: _ =>
      some ({ s with intentions := s.intentions.rest }.forwarded (s.router.offer forwarderId i))
    | [] => if s.intentions.sending then none else some s.endForwarder.closeRouter
  | .parked => (s.router.retrySend forwarderId).map s.forwarded

/-- Hires a worker for a device. -/
def hire (s : Session) (d : DeviceData) : Session :=
  { s with workers := s.workers ++ [⟨.new d, false⟩] }

/-- The intake takes the next coordinate: a device that the bridge found is hired (`hire`), for one
that it did not find a signal goes back to the watcher. -/
def enlist (s : Session) (found : Except LabError DeviceData) : Option (Session × List Notice) :=
  if !s.intake then none
  else match s.devices.items with
    | [] => none
    | c :: _ =>
      let s := { s with devices := s.devices.rest }
      match found with
      | .ok d => some (s.hire d, [.info ("Starting worker for device " ++ c.text)])
      | .error e =>
        some ({ s with signals := s.signals.push c },
          [.warn ("Can't use device " ++ c.text ++ ": " ++ e.message)])

/-- The intake ends once `devices` is drained. -/
def closeIntake (s : Session) : Option (Session × List Notice) :=
  if s.intake && s.devices.drained then some (s.endIntake, []) else none

/-! ### Workers -/

/-- Puts a worker in its place. -/
def setWorker (s : Session) (n : Nat) (w : Worker) : Session :=
  { s with workers := s.workers.modify n fun h ↦ { h with worker := w } }.hush

/-- A worker that is seeking asks the router for an intention (`Router.ask`), or tries again when
its ask is parked (`Router.retryTake`). It starts on an intention that is delivered, and stops when
the router is exhausted. -/
def seek (s : Session) (n : Nat) : Option (Session × List Notice) := do
  let h ← s.workers[n]?
  guard h.worker.isSeeking
  let (result, router) ←
    if (s.router.parkedTake? n).isSome then s.router.retryTake n
    else some (s.router.ask n h.worker.state)
  let s := { s with router }
  match result with
  | .parked => return (s, [])
  | .delivered i =>
    let (w, notices) := h.worker.receive (some i)
    return (s.setWorker n w, notices)
  | .exhausted =>
    let (w, notices) := h.worker.receive none
    return (s.setWorker n w, notices)

/-- What the service makes of a notice of a worker at a time: an attempt that ends is put into
`results`, the coordinate of a device that dies into `signals`. -/
def publish (time : UInt64) (s : Session) : Notice → Session
  | .event _ (.testCompleted i run) => { s with results := s.results.push ⟨i, run⟩ }
  | .event d (.intentionFailed i reason) =>
    { s with results := s.results.push ⟨i, .broken i.action.test d reason time⟩ }
  | .event d (.died _ _) => { s with signals := s.signals.push d.coordinate }
  | _ => s

/-- A worker resumes with the reply of its device (`Worker.resume`), and what it says is
published. -/
def answer (s : Session) (n : Nat) (time : UInt64) (reply : Reply) :
    Option (Session × List Notice) := do
  let h ← s.workers[n]?
  let (w, notices) ← h.worker.resume time reply
  return ((notices.foldl (publish time) s).setWorker n w, notices)

/-- The log line about a worker that ended by a panic (`crashed`). -/
def crashNotice? (n : Nat) (w : Worker) : Option Notice :=
  match w.stage with
  | .crashed m => some (.warn ("Worker task failed: " ++ taskPanicText n m))
  | _ => none

/-- While the service is draining, the end of a worker is noted, once; a panic of the worker is
logged (`crashNotice?`). -/
def join (s : Session) (n : Nat) : Option (Session × List Notice) := do
  guard (s.service = .draining)
  let h ← s.workers[n]?
  guard (h.worker.isOver && !h.joined)
  let s := { s with workers := s.workers.modify n fun h ↦ { h with joined := true } }
  let (s, notices) := s.finishDrain
  return (s, (crashNotice? n h.worker).toList ++ notices)

/-- Time is up for a service that is draining: the workers that have not been joined are aborted
(`abortWorkers`). -/
def overrun (s : Session) : Option (Session × List Notice) :=
  if s.service = .draining then
    let left := (s.workers.filter (!·.joined)).length
    let (s, notices) := s.abortWorkers.finishDrain
    some (s, .warn ("Workers did not finish in time, aborting " ++ toString left ++ " workers") ::
      notices)
  else none

/-! ### Watcher -/

/-- The watcher, while it is `watching`, takes the next coordinate of the stream, or notes that the
stream has ended. -/
def takeCoordinate (s : Session) : Option (Session × List Notice) :=
  if s.watcher = .watching && s.stream.receiving then
    match s.stream.items with
    | c :: _ => some ({ s with stream := s.stream.rest, watcher := .delivering c }, [])
    | [] => if s.stream.sending then none else some ({ s with stream := s.stream.endReceiving }, [])
  else none

/-- The watcher passes its coordinate on when `devices` has room. When nobody receives there, it
drops the coordinate and closes the stream. -/
def deliver (s : Session) : Option (Session × List Notice) :=
  match s.watcher with
  | .delivering c =>
    if !s.devices.receiving then
      some ({ s with watcher := .watching, stream := s.stream.endReceiving },
        [.warn "Service stopped accepting devices"])
    else if s.devices.hasRoom then
      some ({ s with watcher := .watching, devices := s.devices.push c }, [])
    else none
  | _ => none

/-- The watcher takes the next signal, and asks the reservation to remove the resource if the
coordinate names one (`Coordinate.resource?`). It ends when no signal can come. -/
def heed (s : Session) : Option (Session × List Notice) :=
  if s.watcher = .watching then
    match s.signals.items with
    | c :: _ =>
      let s := { s with signals := s.signals.rest }
      match c.resource? with
      | some name => some ({ s with watcher := .removing name }, [])
      | none => some (s, [])
    | [] => if s.signals.sending then none else some (s.endWatcher, [])
  else none

/-- The reservation has answered to a removal, and the watcher is `watching` again. -/
def removed (s : Session) : Option (Session × List Notice) :=
  match s.watcher with
  | .removing _ => some ({ s with watcher := .watching }, [])
  | _ => none

/-! ### Caller -/

/-- The reservation has answered to the claim: client, watcher and scheduler start (`startClient`,
`startScheduler`), or an error makes the caller stop the service (`stopService`). -/
def claimed (s : Session) (reply : Except LabError Unit) : Option (Session × List Notice) :=
  match s.stage with
  | .claiming =>
    match reply with
    | .ok _ =>
      some (startScheduler
        { s.startClient with watcher := .watching, stage := .collecting } s.requests)
    | .error e =>
      let (s, notices) := s.endWatcher.stopService
      some ({ s with stage := .draining (.refused e) }, notices)
  | _ => none

/-- The collected reports with a new one in them, in the place of an earlier one of its request. -/
def gather (r : Report) (rs : List Report) : List Report :=
  if rs.any (·.request.id = r.request.id) then
    rs.map fun q ↦ if q.request.id = r.request.id then r else q
  else rs ++ [r]

/-- The caller takes the next report and winds down as `resolved` when each request has one, or as
`starved` when no report can come any more. -/
def collect (s : Session) : Option (Session × List Notice) :=
  match s.stage with
  | .collecting =>
    match s.reports.items with
    | r :: _ =>
      let s := { s with reports := s.reports.rest, collected := gather r s.collected }
      some (if s.collected.length < s.requests.length then (s, []) else s.windDown .resolved)
    | [] => if s.reports.sending then none else some (s.windDown .starved)
  | _ => none

/-- Time is up for a caller that is collecting, and it winds down as `timedOut`. -/
def expire (s : Session) : Option (Session × List Notice) :=
  match s.stage with
  | .collecting => some (s.windDown .timedOut)
  | _ => none

/-- The service has stopped: a refused caller returns its error, any other ends the watcher and
releases the reservation. -/
def drained (s : Session) : Option (Session × List Notice) :=
  match s.stage, s.service with
  | .draining (.refused e), .stopped => some ({ s with stage := .returned (.error e) }, [])
  | .draining why, .stopped => some ({ s.endWatcher with stage := .releasing why }, [])
  | _, _ => none

/-- The result of a session with the last log lines. -/
def result (s : Session) (why : Ending) (reply : Except LabError Unit) :
    Except LabError (List Report) × List Notice :=
  match why with
  | .refused e => (.error e, [])
  | .starved => (.error (.channelClosed "scheduler results"), [])
  | .timedOut =>
    (.error (.sessionTimeout s.collected.length s.requests.length),
      [.warn ("Session timed out with " ++ toString s.collected.length ++ "/" ++
        toString s.requests.length ++ " requests resolved")])
  | .resolved =>
    match reply with
    | .error e => (.error e, [])
    | .ok _ =>
      (.ok s.collected, [.info ("All " ++ toString s.requests.length ++ " requests resolved")])

/-- The reservation has answered to the release, and the caller returns its `result`. -/
def released (s : Session) (reply : Except LabError Unit) : Option (Session × List Notice) :=
  match s.stage with
  | .releasing why =>
    let (r, notices) := s.result why reply
    some ({ s with stage := .returned r }, notices)
  | _ => none

/-! ### Steps -/

/-- What a `Move` makes of a session, and what the outside sees of it. -/
def step (s : Session) : Move → Option (Session × List Notice)
  | .schedule => s.schedule
  | .takeAttempt id => s.takeAttempt id
  | .takeResult => s.takeResult
  | .handOn => s.handOn
  | .forward => s.forward
  | .enlist found => s.enlist found
  | .closeIntake => s.closeIntake
  | .seek n => s.seek n
  | .answer n time reply => s.answer n time reply
  | .takeCoordinate => s.takeCoordinate
  | .deliver => s.deliver
  | .heed => s.heed
  | .removed => s.removed
  | .claimed reply => s.claimed reply
  | .collect => s.collect
  | .expire => s.expire
  | .join n => s.join n
  | .overrun => s.overrun
  | .drained => s.drained
  | .released reply => s.released reply

end Session

end DeviceLab
