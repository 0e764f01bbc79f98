import DeviceLab.Channel
import DeviceLab.Cluster

/-!
# A running claim

A `Claim` on a cluster has

* a `Listener` for each of its deployments, which creates the deployment, waits until it lists all
  replicas or time is up, and from then on passes the pods of every listing on;
* a consumer, which starts a boot for each new pod that runs and has an address (`Claim.meet`);
* the boots. A `Boot` hands out the coordinate of its device, or gives the pod up: then the device
  is disconnected and the pod deleted.

Every part waits for one thing at a time, the end of a pause or an answer of the cluster, the
bridge, the device or the log reporter. The moves of a claim (`Claim.Move`) are these answers, and
`Claim.step` is `none` for an answer that nobody waits for.
-/

namespace DeviceLab.Cluster

/-! ### Listeners -/

/-- What a listener waits for. -/
inductive Listener.Stage
  /-- The answer to the creation of the deployment. -/
  | creating
  /-- A listing, to see whether all replicas are there. -/
  | counting
  /-- The end of a pause before the next count. -/
  | recounting
  /-- A listing to pass on. -/
  | listing
  /-- Room for the pods of a listing. -/
  | passing (pods : List Pod)
  /-- The end of a pause before the next listing. -/
  | pausing
  /-- Nothing: there is no deployment to listen to, or nobody listens. -/
  | ended

/-- A listener of a deployment. -/
structure Listener where
  deployment : Deployment
  stage : Listener.Stage := .creating

/-- Whether a listener has ended. -/
def Listener.isOver (l : Listener) : Bool :=
  match l.stage with
  | .ended => true
  | _ => false

/-! ### Boots -/

/-- What a boot waits for. -/
inductive Boot.Stage
  /-- The device, from the bridge. -/
  | looking
  /-- The device to boot, or time to be up. -/
  | booting
  /-- The log reporter to start collecting. -/
  | redirecting
  /-- The end of disconnecting the device. -/
  | disconnecting
  /-- The end of deleting the pod. -/
  | deleting
  /-- Nothing: the coordinate is handed out, or the pod is given up. -/
  | ended (handedOut : Bool)
  /-- Nothing: disconnecting the device panicked. -/
  | crashed

/-- The boot of the device in a pod. -/
structure Boot where
  pod : String
  coordinate : Coordinate
  stage : Boot.Stage := .looking

namespace Boot

/-- Whether a boot has come to an end. -/
def isOver (b : Boot) : Bool :=
  match b.stage with
  | .ended _ => true
  | .crashed => true
  | _ => false

/-- The serial of the device. -/
def serial (b : Boot) : String :=
  b.coordinate.serial.value

end Boot

/-! ### Claims -/

/-- A running claim. -/
structure Claim where
  config : Config
  listeners : List Listener
  pods : Channel Pod
  consuming : Bool := true
  seen : List String := []
  boots : List Boot := []

/-- What a move of a claim lets out. -/
structure Claim.Output where
  notices : List Notice := []
  handedOut : Option Coordinate := none

/-- The moves of a claim. -/
inductive Claim.Move
  /-- The cluster answers to the creation of a deployment. -/
  | created (listener : Nat) (reply : Except LabError Unit)
  /-- The cluster answers to the listing of a deployment. -/
  | listed (listener : Nat) (reply : Except LabError (List Pod))
  /-- A pause of a listener is over. -/
  | wake (listener : Nat)
  /-- Time is up for the creation of a deployment. -/
  | expire (listener : Nat)
  /-- A listener passes a pod on. -/
  | pass (listener : Nat)
  /-- The consumer takes a pod, or the end of them. -/
  | consume
  /-- The bridge resolves the device of a boot or not. -/
  | looked (boot : Nat) (reply : Except LabError Unit)
  /-- The device of a boot is ready, or will not be. -/
  | booted (boot : Nat) (ready : Bool)
  /-- The log reporter answers. -/
  | redirected (boot : Nat) (reply : Except LabError Unit)
  /-- The device of a boot is disconnected. -/
  | disconnected (boot : Nat) (answer : Answer Unit)
  /-- The cluster answers to the deletion of a pod. -/
  | deleted (boot : Nat) (reply : Except LabError Bool)

namespace Claim

/-- How many pods may wait for the consumer. -/
def podsCapacity : Nat := 64

/-- A claim that has just started. -/
def start (config : Config) (deployments : List Deployment) : Claim where
  config := config
  listeners := deployments.map fun d ↦ { deployment := d }
  pods := { Channel.bounded podsCapacity with sending := !deployments.isEmpty }

/-- Whether nothing will be handed out any more. -/
def isOver (c : Claim) : Bool :=
  !c.consuming && c.boots.all Boot.isOver

/-- The claim with a listener in another stage. Pods stop coming when the last listener ends
(`Listener.isOver`). -/
def setListener (c : Claim) (n : Nat) (stage : Listener.Stage) : Claim :=
  let listeners := c.listeners.modify n fun l ↦ { l with stage }
  { c with listeners,
           pods := { c.pods with sending := c.pods.sending && !listeners.all Listener.isOver } }

/-- The claim with a boot in another stage. -/
def setBoot (c : Claim) (n : Nat) (stage : Boot.Stage) : Claim :=
  { c with boots := c.boots.modify n fun b ↦ { b with stage } }

/-- What a listener does after it has nothing left to pass on. -/
def passOn : List Pod → Listener.Stage
  | [] => .pausing
  | pods => .passing pods

/-! ### Moves -/

/-- A listener that is `creating` starts to count when its deployment is created, and ends with a
log line when it is not. -/
def created (c : Claim) (n : Nat) (reply : Except LabError Unit) : Option (Claim × Output) := do
  let l ← c.listeners[n]?
  match l.stage, reply with
  | .creating, .ok _ => return (c.setListener n .counting, {})
  | .creating, .error e =>
    return (c.setListener n .ended, { notices :=
      [.error ("Failed to create deployment " ++ l.deployment.name ++ ": " ++ e.message)] })
  | _, _ => none

/-- A listener that is `counting` goes on to `listing` when all replicas are there, and pauses
otherwise; one that is `listing` has the pods of the answer to pass on. A listing that failed counts
as an empty one (`received`). -/
def listed (c : Claim) (n : Nat) (reply : Except LabError (List Pod)) :
    Option (Claim × Output) := do
  let l ← c.listeners[n]?
  let (pods, notices) := received l.deployment.name reply
  match l.stage with
  | .counting =>
    let stage : Listener.Stage :=
      if pods.length < l.deployment.replicas.toNat then .recounting else .listing
    return (c.setListener n stage, { notices })
  | .listing => return (c.setListener n (passOn pods), { notices })
  | _ => none

/-- The pause is over, and a listener that is `recounting` or `pausing` counts or lists again. -/
def wake (c : Claim) (n : Nat) : Option (Claim × Output) := do
  let l ← c.listeners[n]?
  match l.stage with
  | .recounting => return (c.setListener n .counting, {})
  | .pausing => return (c.setListener n .listing, {})
  | _ => none

/-- Time is up for the creation, and a listener that is still counting lists what is there. -/
def expire (c : Claim) (n : Nat) : Option (Claim × Output) := do
  let l ← c.listeners[n]?
  let late : LabError :=
    .deploymentNotReady l.deployment.name c.config.deploymentCreationTimeoutSpan.seconds
  match l.stage with
  | .counting | .recounting =>
    return (c.setListener n .listing, { notices := [.warn late.message] })
  | _ => none

/-- A listener passes the next pod of its listing on when `pods` has room, and ends when nobody
receives there. -/
def pass (c : Claim) (n : Nat) : Option (Claim × Output) := do
  let l ← c.listeners[n]?
  match l.stage with
  | .passing (p :: rest) =>
    if !c.pods.receiving then return (c.setListener n .ended, {})
    else if c.pods.hasRoom then
      return ({ c with pods := c.pods.push p }.setListener n (passOn rest), {})
    else none
  | _ => none

/-- What becomes of a pod that was passed on: a new one that runs and has an address is booted under
its `coordinate`. -/
def meet (c : Claim) (p : Pod) : Claim × Output :=
  if p.phase ≠ .running ∨ p.name ∈ c.seen then (c, {})
  else match p.ip with
    | none => (c, { notices := [.warn (LabError.podWithoutIp p.name).message] })
    | some ip =>
      ({ c with
          seen := p.name :: c.seen,
          boots :=
            c.boots ++ [⟨p.name, coordinate c.config.remoteBridgePort p.name ip, .looking⟩] },
        {})

/-- The consumer meets the next pod (`meet`), and ends when no pod can come any more. -/
def consume (c : Claim) : Option (Claim × Output) :=
  if !c.consuming then none
  else match c.pods.items with
    | p :: _ => some ({ c with pods := c.pods.rest }.meet p)
    | [] =>
      if c.pods.sending then none
      else some ({ c with consuming := false, pods := c.pods.endReceiving }, {})

/-- The bridge has answered for a boot that is `looking`: its device is booted, or its pod is
deleted when there is no device. -/
def looked (c : Claim) (n : Nat) (reply : Except LabError Unit) : Option (Claim × Output) := do
  let b ← c.boots[n]?
  match b.stage, reply with
  | .looking, .ok _ => return (c.setBoot n .booting, {})
  | .looking, .error e =>
    return (c.setBoot n .deleting, { notices :=
      [.warn ("Pod " ++ b.pod ++ " has no reachable device " ++ b.serial ++ ": " ++ e.message ++
        ". Deleting")] })
  | _, _ => none

/-- The device of a boot that is `booting` is ready, and its log is redirected; or it is not, and it
is disconnected. -/
def booted (c : Claim) (n : Nat) (ready : Bool) : Option (Claim × Output) := do
  let b ← c.boots[n]?
  match b.stage, ready with
  | .booting, true => return (c.setBoot n .redirecting, {})
  | .booting, false =>
    return (c.setBoot n .disconnecting, { notices :=
      [.warn ("Pod " ++ b.pod ++ " can't load device. Disconnect and delete")] })
  | _, _ => none

/-- The log reporter has answered, and the coordinate is handed out, whatever the answer was. -/
def redirected (c : Claim) (n : Nat) (reply : Except LabError Unit) : Option (Claim × Output) := do
  let b ← c.boots[n]?
  let notices : List Notice := match reply with
    | .ok _ => []
    | .error e => [.warn ("Failed to redirect logcat of " ++ b.serial ++ ": " ++ e.message)]
  match b.stage with
  | .redirecting =>
    return (c.setBoot n (.ended true), { notices, handedOut := some b.coordinate })
  | _ => none

/-- The device is disconnected, or could not be, and its pod is deleted. A panic is the end of the
boot. -/
def disconnected (c : Claim) (n : Nat) (answer : Answer Unit) : Option (Claim × Output) := do
  let b ← c.boots[n]?
  let gone (done : Bool) : Claim × Output :=
    (c.setBoot n .deleting, { notices :=
      [.warn ("Disconnect device " ++ b.serial ++ ": " ++ toString done ++ ". Can't boot it.")] })
  match b.stage, answer with
  | .disconnecting, .returned _ => return gone true
  | .disconnecting, .failed _ => return gone false
  | .disconnecting, .panicked _ => return (c.setBoot n .crashed, {})
  | _, _ => none

/-- What is reported of the deletion of a pod. -/
def deletionNotice (pod : String) : Except LabError Bool → Notice
  | .ok deleted => .warn ("Pod " ++ pod ++ " is deleted: " ++ toString deleted)
  | .error e => .warn ("Failed to delete pod " ++ pod ++ ": " ++ e.message)

/-- The pod is deleted, or could not be (`deletionNotice`), and the boot has ended with nothing
handed out. -/
def deleted (c : Claim) (n : Nat) (reply : Except LabError Bool) : Option (Claim × Output) := do
  let b ← c.boots[n]?
  match b.stage with
  | .deleting => return (c.setBoot n (.ended false), { notices := [deletionNotice b.pod reply] })
  | _ => none

/-- What a `Move` makes of a claim, and what it lets out. -/
def step (c : Claim) : Move → Option (Claim × Output)
  | .created n reply => c.created n reply
  | .listed n reply => c.listed n reply
  | .wake n => c.wake n
  | .expire n => c.expire n
  | .pass n => c.pass n
  | .consume => c.consume
  | .looked n reply => c.looked n reply
  | .booted n ready => c.booted n ready
  | .redirected n reply => c.redirected n reply
  | .disconnected n answer => c.disconnected n answer
  | .deleted n reply => c.deleted n reply

end Claim

end DeviceLab.Cluster
