import DeviceLab.Simulation.Settle

/-!
# Controlling a lab

What can be done to a lab from outside: starting and stopping sessions and their parts, feeding
their channels (`feed`) and reading from them (`readAll`). Whatever is done, the lab settles before
the next thing (`settle`); calls that have to wait let time pass.
-/

namespace DeviceLab.Simulation

namespace Lab

/-! ### Sessions -/

/-- The latest session. -/
def session (l : Lab) : Session :=
  l.sessions.getLastD {}

/-- The lab with the latest session changed. -/
def onSession (l : Lab) (f : Session → Session) : Lab :=
  l.setSession (l.sessions.length - 1) (f l.session)

/-- The lab with another session that has just started. -/
def addSession (l : Lab) (r : Session × List Notice) : Lab :=
  ({ l with sessions := l.sessions ++ [({} : Session)] }).update l.sessions.length r

/-- Calls a session for requests. -/
def call (l : Lab) (requests : List Request) : Lab :=
  (l.addSession (Session.call l.config.routerCapacity.toNat requests)).settle

/-- Abandons the latest session. -/
def abandon (l : Lab) : Lab :=
  (l.onSession Session.abandon).settle

/-! ### The execution service -/

/-- More alarms than pass while a service stops. -/
def stopSteps : Nat := 1000000

/-- Stops the service of the latest session and waits until it has stopped. -/
def stopService (l : Lab) : Lab :=
  let n := l.sessions.length - 1
  let l := { l.update n l.session.stopService with ready := [.caller n] }.settle
  passWhile (·.session.service = .draining) stopSteps l

/-- Starts a service by itself, after the one before has stopped; its queues have to have a bound
that channels may have. -/
def startService (l : Lab) : Option Lab :=
  let l := l.stopService
  let capacity := l.config.routerCapacity.toNat
  if Channel.canHold capacity then some (l.addSession (Session.startService { capacity })).settle
  else none

/-! ### Scheduler and client -/

/-- Opens the channels of a scheduler by itself; one that was started before is stopped. -/
def openScheduler (l : Lab) : Lab :=
  (l.onSession Session.endScheduler).addSession
    ({ attempts := .unbounded, outcomes := .unbounded }, [])

/-- Starts a scheduler on the channels that are open, unless one was started on them before. -/
def startScheduler (l : Lab) (requests : List Request) : Lab :=
  if l.session.reports.receiving then l
  else (l.update (l.sessions.length - 1) (l.session.startScheduler requests)).settle

/-- Starts a client by itself, with room for some intentions; one that was started before is
stopped. -/
def startClient (l : Lab) (capacity : Nat) : Lab :=
  let l := l.onSession Session.endClient
  let s : Session := { intentions := .bounded capacity, results := .unbounded }
  (l.addSession (s.startClient, [])).settle

/-! ### Watchers -/

/-- Starts a watcher by itself, with room for some devices, if the reservation can be claimed. The
channels of the one before are dropped, the watcher itself is not stopped. -/
def watch (l : Lab) (capacity : Nat) (reservations : List Reservation) :
    Lab × Except LabError Unit :=
  let n := l.sessions.length
  let s : Session := { devices := .bounded capacity, signals := .unbounded, watcher := .watching }
  match { l with sessions := l.sessions ++ [s] }.claim (.session n) reservations with
  | (_, .error e) => (l, .error e)
  | (next, .ok _) =>
    ({ next with sessions := next.sessions.modify (n - 1) fun s ↦
        if n = 0 then s
        else { s with devices := s.devices.endReceiving, signals := s.signals.endSending } }.settle,
      .ok ())

/-- Stops the watcher of the latest session and releases the reservation. -/
def stopWatcher (l : Lab) : Lab × Except LabError Unit :=
  let (l, reply) := (l.onSession Session.endWatcher).release
  (l.settle, reply)

/-! ### Reading -/

/-- Takes everything out of a channel of the latest session, and what follows as soon as there is
room. -/
def readAll (get : Session → Channel α) (set : Session → Channel α → Session) :
    Nat → Lab → Lab × List α
  | 0, l => (l, [])
  | fuel + 1, l =>
    match (get l.session).items with
    | [] => (l, [])
    | items =>
      let l := (l.onSession fun s ↦ set s { get s with items := [] }).settle
      let (l, more) := readAll get set fuel l
      (l, items ++ more)

/-- More rounds than reading takes. -/
def readSteps : Nat := 100000

/-- Takes everything out of `intentions`. -/
def readIntentions : Lab → Lab × List Intention :=
  readAll (·.intentions) (fun s c ↦ { s with intentions := c }) readSteps

/-- Takes everything out of `results`. -/
def readResults : Lab → Lab × List IntentionResult :=
  readAll (·.results) (fun s c ↦ { s with results := c }) readSteps

/-- Takes everything out of `signals`. -/
def readSignals : Lab → Lab × List Coordinate :=
  readAll (·.signals) (fun s c ↦ { s with signals := c }) readSteps

/-- Takes everything out of `attempts`. -/
def readAttempts : Lab → Lab × List Attempt :=
  readAll (·.attempts) (fun s c ↦ { s with attempts := c }) readSteps

/-- Takes everything out of `outcomes`. -/
def readOutcomes : Lab → Lab × List AttemptOutcome :=
  readAll (·.outcomes) (fun s c ↦ { s with outcomes := c }) readSteps

/-- Takes everything out of `reports`. -/
def readReports : Lab → Lab × List Report :=
  readAll (·.reports) (fun s c ↦ { s with reports := c }) readSteps

/-- Takes everything out of `devices`. -/
def readDevices : Lab → Lab × List Coordinate :=
  readAll (·.devices) (fun s c ↦ { s with devices := c }) readSteps

/-- Takes everything out of the stream that is held by hand. -/
def readHand (l : Lab) : Lab × List Coordinate :=
  ({ l with hand := { l.hand with items := [] } }, l.hand.items)

/-- Takes the records out. -/
def readRecords (l : Lab) : Lab × List Record :=
  ({ l with records := [] }, l.records)

end Lab

/-! ### Feeding -/

/-- Puts an item into a channel without waiting, and says whether it was accepted. -/
def feed (c : Channel α) (a : α) : Channel α × Bool :=
  let accepted := c.sending && c.receiving && c.hasRoom
  (if accepted then c.push a else c, accepted)

end DeviceLab.Simulation
