import DeviceLab.Simulation.Lab

/-!
# What the actors of a lab do

Everything that goes on by itself in a lab is done by an `Actor`: a part of a session, the job or
the claim of a reservation client, or somebody who waits at a router. `Lab.act` makes the next step
of an actor and is `none` when it has to wait.
-/

namespace DeviceLab.Simulation

namespace Lab

/-! ### Sessions -/

/-- The next step of the client of a session. -/
def actClient (l : Lab) (n : Nat) : Option Lab := do
  let s ← l.sessions[n]?
  match s.client.stage with
  | .off => none
  | .holding _ => l.move n .handOn
  | .reading =>
    let id := Alias.intentionId l.intentions
    if s.attempts.items.isEmpty then (l.move n (.takeAttempt id)).or (l.move n .takeResult)
    else
      let minted := { l with intentions := l.intentions + 1 }
      minted.move n (.takeAttempt id)

/-- The next step of the intake of a session. -/
def actIntake (l : Lab) (n : Nat) : Option Lab := do
  let s ← l.sessions[n]?
  guard s.intake
  match s.devices.items with
  | [] => l.move n .closeIntake
  | c :: _ =>
    let (bridge, found) := l.bridge.resolve c
    let l := { l with bridge }
    l.move n (.enlist (found.map Device.data))

/-- The next step of a worker: it asks for an intention, begins a command or takes the answer. -/
def actWorker (l : Lab) (n k : Nat) : Option Lab := do
  let s ← l.sessions[n]?
  let w := (← s.workers[k]?).worker
  match w.command? with
  | none => l.move n (.seek k)
  | some c =>
    let d ← l.bridge.device? w.device.serialText
    let alarm := Alarm.command n k
    if l.awaits alarm then none
    else if l.isSet alarm then
      let (d, reply) := d.finish c
      let l := { l with bridge := l.bridge.set d }
      (l.clearAlarm alarm).move n (.answer k l.clock reply)
    else
      let (d, progress) := d.begin c
      let l := { l with bridge := l.bridge.set d }
      match progress with
      | .answered reply => l.move n (.answer k l.clock reply)
      | .underway time => return l.setAlarm alarm time

/-- The next step of the watcher of a session. -/
def actWatcher (l : Lab) (n : Nat) : Option Lab := do
  let s ← l.sessions[n]?
  match s.watcher with
  | .off => none
  | .watching => (l.move n .takeCoordinate).or (l.move n .heed)
  | .delivering _ => l.move n .deliver
  | .removing name => (l.remove name).move n .removed

/-- The next step of the caller of a session. -/
def actCaller (l : Lab) (n : Nat) : Option Lab := do
  let s ← l.sessions[n]?
  match s.stage with
  | .claiming =>
    let (l, reply) := l.claim (.session n) l.reservations
    l.move n (.claimed reply)
  | .collecting => l.move n .collect
  | .releasing _ =>
    let (l, reply) := l.release
    l.move n (.released reply)
  | _ =>
    match s.workers.findIdx? fun h ↦ h.worker.isOver && !h.joined with
    | some k => (l.move n (.join k)).or (l.move n .drained)
    | none => l.move n .drained

/-! ### Calls to a router by hand -/

/-- What becomes of somebody who tried to send. -/
def sent (l : Lab) (n id : Nat) (s : Session) : SendResult × Router → Lab
  | (result, router) =>
    let l := l.setSession n { s with router }
    match result with
    | .parked => l
    | .accepted => { l with outcomes := l.outcomes ++ [(id, .sent (.ok ()))] }
    | .refused => { l with outcomes := l.outcomes ++ [(id, .sent (.error .routerClosed))] }

/-- What becomes of somebody who tried to take. -/
def took (l : Lab) (n id : Nat) (s : Session) : TakeResult × Router → Lab
  | (result, router) =>
    let l := l.setSession n { s with router }
    match result with
    | .parked => l
    | .delivered i => { l with outcomes := l.outcomes ++ [(id, .took (some i))] }
    | .exhausted => { l with outcomes := l.outcomes ++ [(id, .took none)] }

/-- Sends an intention to the router of the first session by hand. -/
def send (l : Lab) (id : Nat) (i : Intention) : Lab :=
  match l.sessions[0]? with
  | some s => l.sent 0 id s (s.router.offer id i)
  | none => l

/-- Takes an intention from the router of the first session by hand. -/
def take (l : Lab) (id : Nat) (state : DeviceState) : Lab :=
  match l.sessions[0]? with
  | some s => l.took 0 id s (s.router.ask id state)
  | none => l

/-! ### Reservations -/

/-- Passes on what a job let out, and ends the stream when the job is done. -/
def jobStep (l : Lab) (r : Local.Job × Local.Job.Output) : Lab :=
  let l := { l with provider := .attached (.reserving r.1) }.note r.2.notices
  let l := r.2.handedOut.elim l l.handOut
  if r.1.isOver then l.endStream else l

/-- The next step of the job of a claim of attached devices. -/
def actAssigner (l : Lab) : Option Lab := do
  let .attached (.reserving j) := l.provider | none
  match j.stage with
  | .ended => none
  | .listing => return l.jobStep (← j.step (.listed l.bridge.output))
  | .looking c _ =>
    let (bridge, found) := l.bridge.resolve c
    let l := { l with bridge }
    let r ← j.step (.looked (found.map Device.data))
    match r.1.stage, found with
    | .booting _ _ _, .ok d =>
      return ((l.jobStep r).setAlarm .attachedBoot d.bootDelay).setAlarm .attachedBootLimit
        l.config.bootTimeout.toNat
    | _, _ => return l.jobStep r
  | .booting c _ _ =>
    guard (!l.awaits .attachedBoot)
    let ready := ((l.bridge.device? c.serial.value).map (·.boots)).getD false
    let l := (l.clearAlarm .attachedBoot).clearAlarm .attachedBootLimit
    return l.jobStep (← j.step (.booted ready (l.streamOf l.owner).receiving))

/-- Passes on what a claim let out, and ends the stream when the claim will hand out nothing
more. -/
def claimStep (l : Lab) (names : List String) (r : Cluster.Claim × Cluster.Claim.Output) : Lab :=
  let l := { l with provider := .cluster (.reserving names r.1) }.note r.2.notices
  let l := r.2.handedOut.elim l l.handOut
  if r.1.isOver then l.endStream else l

/-- The running claim of the cluster client. -/
def claim? (l : Lab) : Option (List String × Cluster.Claim) :=
  match l.provider with
  | .cluster (.reserving names c) => some (names, c)
  | _ => none

/-- What a listener of a claim waits for. -/
def stageOf (c : Cluster.Claim) (n : Nat) : Option Cluster.Listener.Stage :=
  (c.listeners[n]?).map (·.stage)

/-- The next step of a listener. -/
def actListener (l : Lab) (n : Nat) : Option Lab := do
  let (names, c) ← l.claim?
  let x ← c.listeners[n]?
  let interval := l.config.podsQueryInterval.toNat
  match x.stage with
  | .creating =>
    let (cluster, reply) := l.cluster.create x.deployment
    return ({ l with cluster }.claimStep names (← c.step (.created n reply))).setAlarm
      (.creationLimit n) l.config.deploymentCreationTimeout.toNat
  | .counting | .listing =>
    let (cluster, reply) := l.cluster.list x.deployment.name
    let r ← c.step (.listed n reply)
    let l := { l with cluster }.claimStep names r
    match stageOf r.1 n with
    | some .recounting => return l.setAlarm (.pause n) interval
    | some .pausing => return l.setAlarm (.pause n) interval
    | some .listing => return l.clearAlarm (.creationLimit n)
    | _ => return l
  | .passing _ =>
    let r ← c.step (.pass n)
    let l := l.claimStep names r
    match stageOf r.1 n with
    | some .pausing => return l.setAlarm (.pause n) interval
    | _ => return l
  | .recounting | .pausing =>
    guard (!l.awaits (.pause n))
    return (l.clearAlarm (.pause n)).claimStep names (← c.step (.wake n))
  | .ended => none

/-- The next step of the consumer of a claim. -/
def actConsumer (l : Lab) : Option Lab := do
  let (names, c) ← l.claim?
  return l.claimStep names (← c.step .consume)

/-- The next step of a boot. -/
def actBoot (l : Lab) (n : Nat) : Option Lab := do
  let (names, c) ← l.claim?
  let b ← c.boots[n]?
  match b.stage with
  | .looking =>
    let (bridge, found) := l.bridge.resolve b.coordinate
    let l := { l with bridge }.claimStep names (← c.step (.looked n (found.map fun _ ↦ ())))
    match found with
    | .ok d =>
      return (l.setAlarm (.boot n) d.bootDelay).setAlarm (.bootLimit n) l.config.bootTimeout.toNat
    | .error _ => return l
  | .booting =>
    guard (!l.awaits (.boot n))
    let ready := ((l.bridge.device? b.serial).map (·.boots)).getD false
    return ((l.clearAlarm (.boot n)).clearAlarm (.bootLimit n)).claimStep names
      (← c.step (.booted n ready))
  | .redirecting =>
    let (cluster, reply) := l.cluster.redirect b.serial
    return { l with cluster }.claimStep names (← c.step (.redirected n reply))
  | .disconnecting =>
    let d ← l.bridge.device? b.serial
    let (d, answer) := d.disconnect
    return { l with bridge := l.bridge.set d }.claimStep names (← c.step (.disconnected n answer))
  | .deleting =>
    let (cluster, reply) := l.cluster.deletePod b.pod
    return { l with cluster }.claimStep names (← c.step (.deleted n reply))
  | .ended _ | .crashed => none

/-! ### All actors -/

/-- The next step of an actor. -/
def act (l : Lab) : Actor → Option Lab
  | .forwarder n => l.move n .forward
  | .intake n => l.actIntake n
  | .worker n k => l.actWorker n k
  | .taker id => do
    let s ← l.sessions[0]?
    return l.took 0 id s (← s.router.retryTake id)
  | .sender id => do
    let s ← l.sessions[0]?
    guard (id ≠ Session.forwarderId)
    return l.sent 0 id s (← s.router.retrySend id)
  | .assigner => l.actAssigner
  | .listener n => l.actListener n
  | .consumer => l.actConsumer
  | .boot n => l.actBoot n
  | .watcher n => l.actWatcher n
  | .client n => l.actClient n
  | .scheduler n => l.move n .schedule
  | .caller n => l.actCaller n

/-- The workers of a session, those parked at the router first, in the order in which they wait. -/
def workersOf (n : Nat) (s : Session) : List Actor :=
  let parked := s.router.takes.map (·.id)
  let others := (List.range s.workers.length).filter (· ∉ parked)
  if s.workers.isEmpty then parked.map .taker else (parked ++ others).map (.worker n)

/-- The actors of a session. -/
def actorsOf (n : Nat) (s : Session) : List Actor :=
  [.forwarder n, .intake n] ++ workersOf n s ++ s.router.sends.map (.sender ·.id)

/-- The actors of the reservation client. -/
def reservationActors (l : Lab) : List Actor :=
  match l.provider with
  | .pool => []
  | .attached _ => [.assigner]
  | .cluster _ =>
    match l.claim? with
    | none => []
    | some (_, c) =>
      (List.range c.listeners.length).map .listener ++ [.consumer] ++
        (List.range c.boots.length).map .boot

/-- All actors of a lab, in the order in which those act that become ready at once. -/
def actors (l : Lab) : List Actor :=
  let numbered := (List.range l.sessions.length).zip l.sessions
  numbered.flatMap (fun e ↦ actorsOf e.1 e.2) ++ l.reservationActors ++
    numbered.flatMap fun e ↦ [.watcher e.1, .client e.1, .scheduler e.1, .caller e.1]

end Lab

end DeviceLab.Simulation
