import DeviceLab.Channel
import DeviceLab.Client
import DeviceLab.Config
import DeviceLab.Reservation
import DeviceLab.Router
import DeviceLab.Worker

/-!
# Sessions

A `Session` runs requests on the devices of a reservation. Its parts are machines of their own, tied
together by channels:

```text
reservation → watcher → intake → workers → client ⇄ scheduler → results
                          router ← forwarder ← client
```

The *watcher* passes coordinates from the reservation to the *intake* of the execution service,
which hires a worker for each (`Hired`), and has dead devices removed. The *forwarder* passes
intentions from the client to the router. The *caller* starts everything (`call`), collects results
until every request is settled or time is up, and winds everything down in reverse order
(`windDown`).

This module holds the state of a session and what starts and stops its parts; the moves of the parts
are in `DeviceLab.Session.Step`. A state may also be a part of a session on its own, with the ends
of its channels in other hands.
-/

namespace DeviceLab

/-! ### Parts -/

/-- The forwarder reads intentions, or is parked at the router with one in hand. -/
inductive Forwarder
  | off
  | reading
  | parked
  deriving DecidableEq

/-- The watcher listens to the reservation and to the service, or carries out what it heard. -/
inductive Watcher
  | off
  | watching
  | delivering (c : Coordinate)
  | removing (resource : String)
  deriving DecidableEq

/-- The execution service runs, or waits for its workers to end after it was stopped. -/
inductive Service
  | stopped
  | running
  | draining
  deriving DecidableEq

/-- A worker of the service, and whether its end was taken note of (`join`). -/
structure Hired where
  worker : Worker
  joined : Bool := false

/-- A worker that nobody waits for any more; it is aborted if it is not over (`Worker.abort`). -/
def Hired.abort (h : Hired) : Hired :=
  ⟨h.worker.abort, true⟩

/-- Why a session is wound up. -/
inductive Ending
  /-- The reservation was refused, so there is none to release. -/
  | refused (e : LabError)
  /-- Every request is settled. -/
  | resolved
  /-- Time was up. -/
  | timedOut
  /-- The scheduler left before every request was settled. -/
  | starved

/-- Where the caller stands. -/
inductive Session.Stage
  | off
  | claiming
  | collecting
  | draining (why : Ending)
  | releasing (why : Ending)
  | returned (result : Except LabError (List Report))
  | panicked
  | aborted

/-- The state of a session: its channels, its parts, and what the caller has `collected`. -/
structure Session where
  requests : List Request := []
  capacity : Nat := 0
  attempts : Channel Attempt := {}
  outcomes : Channel AttemptOutcome := {}
  reports : Channel Report := {}
  intentions : Channel Intention := {}
  results : Channel IntentionResult := {}
  devices : Channel Coordinate := {}
  signals : Channel Coordinate := {}
  stream : Channel Coordinate := {}
  scheduler : Scheduler := .off
  client : Client := {}
  forwarder : Forwarder := .off
  router : Router := { capacity := 0 }
  intake : Bool := false
  workers : List Hired := []
  watcher : Watcher := .off
  service : Service := .stopped
  stage : Session.Stage := .off
  collected : List Report := []

namespace Session

/-! ### Starting -/

/-- How many coordinates may wait for the intake. -/
def devicesCapacity : Nat := 64

/-- The log line about a new router. -/
def routerNotice (capacity : Nat) : Notice :=
  .info ("IntentionsRouter initialized with capacity " ++ toString capacity)

/-- Starts the execution service with new channels (`devices`, `intentions`, `results`, `signals`)
and a new router. -/
def startService (s : Session) : Session × List Notice :=
  ({ s with
      intentions := .bounded s.capacity, devices := .bounded devicesCapacity,
      results := .unbounded, signals := .unbounded, router := { capacity := s.capacity },
      forwarder := .reading, intake := true, workers := [], service := .running },
    [routerNotice s.capacity, .info "Intention execution service started"])

/-- Starts the client with new channels towards the scheduler (`attempts`, `outcomes`). -/
def startClient (s : Session) : Session :=
  { s with attempts := .unbounded, outcomes := .unbounded, client := .start }

/-- Starts the scheduler with requests to submit. -/
def startScheduler (s : Session) (requests : List Request) : Session × List Notice :=
  ({ s with reports := .unbounded, scheduler := .submitting requests },
    [.info ("Scheduling " ++ toString requests.length ++ " requests")])

/-- The first request that has the identifier of an earlier one. -/
def duplicate? : List Request → Option Request
  | rs => go [] rs
where
  go (seen : List Uuid) : List Request → Option Request
    | [] => none
    | r :: rest => if r.id ∈ seen then some r else go (r.id :: seen) rest

/-- A session that was just called: nothing happens without requests, and requests that share an
identifier (`duplicate?`) are refused. Otherwise the service is started (`startService`) before the
reservation is claimed. -/
def call (capacity : Nat) (requests : List Request) : Session × List Notice :=
  if requests.isEmpty then ({ stage := .returned (.ok []) }, [])
  else match duplicate? requests with
    | some r =>
      ({ requests, stage :=
          .returned (.error (.invalidRequest ("duplicate request id " ++ r.id.text))) }, [])
    | none =>
      let running : Notice :=
        .info ("Running " ++ toString requests.length ++ " test requests")
      if Channel.canHold capacity then
        let (s, notices) := startService { requests, capacity, stage := .claiming }
        (s, running :: notices)
      else ({ requests, stage := .panicked }, [running])

/-! ### Stopping -/

/-- Ends the scheduler. -/
def endScheduler (s : Session) : Session :=
  { s with scheduler := .off, attempts := s.attempts.endSending,
           outcomes := s.outcomes.endReceiving, reports := s.reports.endSending }

/-- Ends the client. -/
def endClient (s : Session) : Session :=
  { s with client := {}, attempts := s.attempts.endReceiving, outcomes := s.outcomes.endSending,
           intentions := s.intentions.endSending, results := s.results.endReceiving }

/-- Ends the watcher. -/
def endWatcher (s : Session) : Session :=
  { s with watcher := .off, stream := s.stream.endReceiving, devices := s.devices.endSending,
           signals := s.signals.endReceiving }

/-- Nobody is left to report results and signals once the intake and all workers are over. -/
def hush (s : Session) : Session :=
  if !s.intake && s.workers.all (·.worker.isOver) then
    { s with results := s.results.endSending, signals := s.signals.endSending }
  else s

/-- Ends the intake. -/
def endIntake (s : Session) : Session :=
  { s with intake := false, devices := s.devices.endReceiving }.hush

/-- Closes the router. -/
def closeRouter (s : Session) : Session × List Notice :=
  ({ s with router := s.router.close },
    if s.router.closed then []
    else [.info ("IntentionsRouter closed with " ++ toString s.router.queue.length ++
      " pending intentions")])

/-- The number by which the forwarder is known to the router. -/
def forwarderId : Nat := 0

/-- Ends the forwarder; an intention in its hands is lost. -/
def endForwarder (s : Session) : Session :=
  { s with forwarder := .off, router := s.router.abandonSend forwarderId,
           intentions := s.intentions.endReceiving }

/-- A service that drains has stopped when the end of every worker was taken note of
(`Hired.joined`). -/
def finishDrain (s : Session) : Session × List Notice :=
  if s.service = .draining ∧ s.workers.all (·.joined) then
    ({ s with service := .stopped }, [.info "Intention execution service stopped"])
  else (s, [])

/-- Stops the service: the router is closed (`closeRouter`) and the workers are left to drain it. -/
def stopService (s : Session) : Session × List Notice :=
  if s.service = .running then
    let (s, closed) := s.closeRouter
    let (s, stopped) := { s.endForwarder.endIntake with service := .draining }.finishDrain
    (s, closed ++ stopped)
  else (s, [])

/-- Aborts every worker that is not over. -/
def abortWorkers (s : Session) : Session :=
  { s with router := { s.router with takes := [] }, workers := s.workers.map Hired.abort }.hush

/-- Winds a session down after its results: the scheduler and the client end at once, the service
drains (`stopService`). -/
def windDown (s : Session) (why : Ending) : Session × List Notice :=
  let (s, notices) := s.endScheduler.endClient.stopService
  ({ s with stage := .draining why }, notices)

/-- Abandons a session. What runs goes on by itself, but nobody waits for it any more; workers of a
service that was draining are aborted (`abortWorkers`). -/
def abandon (s : Session) : Session :=
  match s.stage with
  | .collecting => { s with stage := .aborted, reports := s.reports.endReceiving }
  | .draining _ => { s.abortWorkers with stage := .aborted, service := .stopped }
  | .returned r => { s with stage := .returned r }
  | .panicked => { s with stage := .panicked }
  | _ => { s with stage := .aborted }

end Session

end DeviceLab
