import DeviceLab.Alias
import DeviceLab.Cluster.Client
import DeviceLab.Local
import DeviceLab.Session.Step
import DeviceLab.Simulation.Bridge
import DeviceLab.Simulation.Orchestrator
import DeviceLab.Simulation.Pool

/-!
# The simulated lab

A `Lab` is everything that sessions touch, in one state: scripted devices, a cluster and a
reservation client (`Provider`), the sessions themselves, a clock for timestamps, and virtual time
with the alarms that are set (`Alarm`). This module holds the state and what calls to the
reservation client make of it; who acts when is said in `DeviceLab.Simulation.Actor` and
`DeviceLab.Simulation.Settle`.
-/

namespace DeviceLab.Simulation

/-! ### State -/

/-- The reservation client that sessions use: the pool of the lab, or another one. -/
inductive Provider
  | pool
  | attached (c : Local.Client)
  | cluster (c : Cluster.Client)

/-- What an alarm is for. -/
inductive Alarm
  /-- The device of a worker is through with its command. -/
  | command (session worker : Nat)
  /-- A session has run out of time. -/
  | expire (session : Nat)
  /-- The workers of a service have run out of time. -/
  | overrun (session : Nat)
  /-- An attached device is through with booting. -/
  | attachedBoot
  /-- An attached device has run out of time to boot. -/
  | attachedBootLimit
  /-- A listener has paused. -/
  | pause (listener : Nat)
  /-- A deployment has run out of time to be created. -/
  | creationLimit (listener : Nat)
  /-- The device in a pod is through with booting. -/
  | boot (boot : Nat)
  /-- The device in a pod has run out of time to boot. -/
  | bootLimit (boot : Nat)
  deriving DecidableEq

/-- What came of a call to the router that no session makes. -/
inductive Outcome
  | sent (result : Except LabError Unit)
  | took (intention : Option Intention)

/-- Those who act of their own accord. -/
inductive Actor
  | forwarder (session : Nat)
  | intake (session : Nat)
  | worker (session worker : Nat)
  | taker (id : Nat)
  | sender (id : Nat)
  | assigner
  | listener (n : Nat)
  | consumer
  | boot (n : Nat)
  | watcher (session : Nat)
  | client (session : Nat)
  | scheduler (session : Nat)
  | caller (session : Nat)
  deriving DecidableEq

/-- A notice with the time at which it was given. -/
structure Record where
  time : Nat
  notice : Notice

/-- The state of a lab. -/
structure Lab where
  config : Config := {}
  reservations : List Reservation := []
  /-- Virtual time, in milliseconds. -/
  now : Nat := 0
  /-- The clock for timestamps, in milliseconds since the epoch. -/
  clock : UInt64 := 1000
  bridge : Bridge := {}
  cluster : FaultyCluster := {}
  pool : Pool := {}
  provider : Provider := .pool
  /-- Who holds the stream of the latest claim, for clients that feed one stream per claim. -/
  owner : Owner := .nobody
  /-- The stream of a claim that was made by hand. -/
  hand : Channel Coordinate := {}
  sessions : List Session := []
  /-- When sessions returned. -/
  finished : List (Nat × Nat) := []
  alarms : List (Nat × Alarm) := []
  /-- Those who are ready to act, in the order in which they became so. -/
  ready : List Actor := []
  records : List Record := []
  outcomes : List (Nat × Outcome) := []
  /-- How many identifiers were made up for intentions and for deployments. -/
  intentions : Nat := 0
  deployments : Nat := 0

namespace Lab

/-! ### Records and alarms -/

/-- The lab with further notices on record. -/
def note (l : Lab) (notices : List Notice) : Lab :=
  { l with records := l.records ++ notices.map (⟨l.now, ·⟩) }

/-- The longest time that anybody waits, thirty years of 365 days in milliseconds. -/
def longestWait : Nat :=
  30 * 365 * 24 * 60 * 60 * 1000

/-- Sets an alarm after some time. -/
def setAlarm (l : Lab) (a : Alarm) (after : Nat) : Lab :=
  { l with alarms := l.alarms ++ [(l.now + min after longestWait, a)] }

/-- Takes an alarm back. -/
def clearAlarm (l : Lab) (a : Alarm) : Lab :=
  { l with alarms := l.alarms.filter (·.2 ≠ a) }

/-- Whether an alarm is set for later. -/
def awaits (l : Lab) (a : Alarm) : Bool :=
  l.alarms.any fun e ↦ e.2 = a && l.now < e.1

/-- Whether an alarm is set, be it due or not. -/
def isSet (l : Lab) (a : Alarm) : Bool :=
  l.alarms.any (·.2 = a)

/-! ### Sessions -/

/-- The lab with a session changed. -/
def setSession (l : Lab) (n : Nat) (s : Session) : Lab :=
  { l with sessions := l.sessions.set n s }

/-- Sets and takes back the alarms of a session that went from one state to another, and takes note
of the time at which it returned. -/
def follow (l : Lab) (n : Nat) (before after : Session) : Lab :=
  let l := match before.service, after.service with
    | .draining, .draining => l
    | _, .draining => l.setAlarm (.overrun n) l.config.workerShutdownTimeout.toNat
    | .draining, _ => l.clearAlarm (.overrun n)
    | _, _ => l
  let l := match before.stage, after.stage with
    | .collecting, .collecting => l
    | _, .collecting =>
      match l.config.sessionTimeout with
      | some limit => l.setAlarm (.expire n) limit.toNat
      | none => l
    | .collecting, _ => l.clearAlarm (.expire n)
    | _, _ => l
  match after.stage with
  | .returned _ | .panicked =>
    if l.finished.any (·.1 = n) then l else { l with finished := l.finished ++ [(n, l.now)] }
  | _ => l

/-- Puts a session in its place with what it reports. -/
def update (l : Lab) (n : Nat) (r : Session × List Notice) : Lab :=
  match l.sessions[n]? with
  | none => l
  | some before => ((l.setSession n r.1).note r.2).follow n before r.1

/-- Makes a move of a session. -/
def move (l : Lab) (n : Nat) (m : Session.Move) : Option Lab := do
  let s ← l.sessions[n]?
  return l.update n (← s.step m)

/-! ### Streams -/

/-- The stream of a claim. -/
def streamOf (l : Lab) : Owner → Channel Coordinate
  | .session n => ((l.sessions[n]?).map (·.stream)).getD {}
  | .hand => l.hand
  | .nobody => {}

/-- The lab with the stream of a claim changed. -/
def setStream (l : Lab) (c : Channel Coordinate) : Owner → Lab
  | .session n => { l with sessions := l.sessions.modify n fun s ↦ { s with stream := c } }
  | .hand => { l with hand := c }
  | .nobody => l

/-- Hands a coordinate out to the latest claim. -/
def handOut (l : Lab) (c : Coordinate) : Lab :=
  l.setStream ((l.streamOf l.owner).push c) l.owner

/-- Ends the stream of the latest claim. -/
def endStream (l : Lab) : Lab :=
  l.setStream (l.streamOf l.owner).endSending l.owner

/-- Pushes a coordinate into the pool and says whether somebody may take it. -/
def push (l : Lab) (c : Coordinate) : Lab × Bool :=
  match l.pool.owner with
  | none =>
    ({ l with pool := { l.pool with stream := l.pool.stream.push c } }, l.pool.stream.sending)
  | some o =>
    let stream := l.streamOf o
    (l.setStream (stream.push c) o, stream.sending && stream.receiving)

/-- No more coordinates are pushed into the pool. -/
def endPushing (l : Lab) : Lab :=
  match l.pool.owner with
  | none => { l with pool := { l.pool with stream := l.pool.stream.endSending } }
  | some o => l.setStream (l.streamOf o).endSending o

/-! ### Claims and releases -/

/-- Claims reservations for an owner. -/
def claim (l : Lab) (owner : Owner) (reservations : List Reservation) :
    Lab × Except LabError Unit :=
  match l.provider with
  | .pool =>
    match l.pool.claim owner with
    | .ok (pool, stream) => ({ l with pool }.setStream stream owner, .ok ())
    | .error e => (l, .error e)
  | .attached c =>
    match c.claim reservations with
    | .ok c => ({ l with provider := .attached c, owner }.setStream .unbounded owner, .ok ())
    | .error e => (l, .error e)
  | .cluster c =>
    let ids := (List.range reservations.length).map fun k ↦ Alias.deploymentId (l.deployments + k)
    match c.claim l.config ids reservations with
    | some (.ok (c, notices)) =>
      (({ l with provider := .cluster c, owner, deployments := l.deployments + ids.length }.note
        notices).setStream .unbounded owner, .ok ())
    | some (.error e) => (l, .error e)
    | none => (l, .error .alreadyReserving)

/-- The answers of the cluster, the log reporter and the bridge to the next request of a pod that is
taken care of. -/
def tendPod (l : Lab) (n k : Nat) (p : Cluster.PodRelease) : Lab × Option Cluster.Release.Move :=
  match p.stage with
  | .fetching => (l, some (.fetched n k (l.cluster.cluster.log p.pod)))
  | .reporting log =>
    let (cluster, answer) := l.cluster.report p.serial.value log
    ({ l with cluster }, some (.reported n k answer))
  | .describing _ => (l, some (.described n k (l.cluster.pod p.pod)))
  | .disconnecting =>
    match l.bridge.resolve p.coordinate with
    | (bridge, .error e) => ({ l with bridge }, some (.disconnected n k (.failed e)))
    | (bridge, .ok d) =>
      let (d, answer) := d.disconnect
      ({ l with bridge := bridge.set d }, some (.disconnected n k answer))
  | _ => (l, none)

/-- The answers of the lab to the next request of a deployment that is released. -/
def tend (l : Lab) (n : Nat) (d : Cluster.DeploymentRelease) : Lab × Option Cluster.Release.Move :=
  match d.stage with
  | .listing =>
    let (cluster, reply) := l.cluster.list d.name
    ({ l with cluster }, some (.listed n reply))
  | .saving =>
    match d.pods.findIdx? (!·.isOver) with
    | some k =>
      match d.pods[k]? with
      | some p => l.tendPod n k p
      | none => (l, none)
    | none => (l, some (.saved n))
  | .deleting =>
    let (cluster, answer) := l.cluster.delete d.name
    ({ l with cluster }, some (.deleted n answer))
  | _ => (l, none)

/-- Lets a release go on: all deployments are listed first, then each is wound up in turn. -/
def tendNext (l : Lab) (r : Cluster.Release) : Lab × Option Cluster.Release.Move :=
  let unlisted := r.deployments.findIdx? fun d ↦
    match d.stage with
    | .listing => true
    | _ => false
  match unlisted.or (r.deployments.findIdx? (!·.isOver)) with
  | none => (l, none)
  | some n =>
    match r.deployments[n]? with
    | some d => l.tend n d
    | none => (l, none)

/-- Carries a release out to its end. -/
def carryOut : Nat → Lab → Cluster.Release → Lab × Cluster.Release
  | 0, l, r => (l, r)
  | fuel + 1, l, r =>
    match l.tendNext r with
    | (l, none) => (l, r)
    | (l, some m) =>
      match r.step m with
      | some (r, notices) => carryOut fuel (l.note notices) r
      | none => (l, r)

/-- More steps than any release takes. -/
def releaseSteps : Nat := 1000000

/-- Releases the latest claim. -/
def release (l : Lab) : Lab × Except LabError Unit :=
  match l.provider with
  | .pool =>
    match l.pool.release with
    | .ok pool => ({ l with pool }, .ok ())
    | .error e => (l, .error e)
  | .attached c =>
    match c.release with
    | .ok (c, notices) =>
      ((({ l with provider := .attached c }.endStream.clearAlarm .attachedBoot).clearAlarm
        .attachedBootLimit).note notices, .ok ())
    | .error e => (l, .error e)
  | .cluster c =>
    match c.release l.config with
    | some (.ok (.releasing r)) =>
      let l := { l.endStream with alarms := l.alarms.filter fun a ↦
        match a.2 with
        | .pause _ | .creationLimit _ | .boot _ | .bootLimit _ => false
        | _ => true }
      let (l, r) := carryOut releaseSteps l r
      match (Cluster.Client.releasing r).settle with
      | some (c, notices) => ({ l with provider := .cluster c }.note notices, .ok ())
      | none => ({ l with provider := .cluster (.releasing r) }, .ok ())
    | some (.error e) => (l, .error e)
    | _ => (l, .error .notReserving)

/-- Removes a resource. -/
def remove (l : Lab) (name : String) : Lab :=
  match l.provider with
  | .pool => { l with pool := l.pool.remove name }
  | .attached _ => l
  | .cluster _ =>
    let (cluster, reply) := l.cluster.deletePod name
    { l with cluster }.note (Cluster.Client.removalNotices name reply)

end Lab

end DeviceLab.Simulation
