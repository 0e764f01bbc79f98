import DeviceLab.Config
import DeviceLab.Event
import DeviceLab.Reservation
import DeviceLab.Text.Blank

/-!
# Deployments and pods

In a cluster every reservation becomes a `Deployment` (`Deployment.ofReservation`), whose replicas
are pods with an emulator in each. The cluster is asked for the pods of a deployment again and
again; what it lists is a snapshot, a list of `Pod`. A pod that runs and has an address is a device
of the session under its `coordinate`. A listing that fails counts as an empty one (`received`).
-/

namespace DeviceLab.Cluster

/-! ### Pods -/

/-- Where a pod is in its life. -/
inductive PodPhase
  | pending
  | running
  | succeeded
  | failed
  | unknown
  deriving DecidableEq

/-- The name of a phase. -/
def PodPhase.text : PodPhase → String
  | pending => "Pending"
  | running => "Running"
  | succeeded => "Succeeded"
  | failed => "Failed"
  | unknown => "Unknown"

/-- A pod as the cluster lists it: its address once it has one, and what keeps its container from
starting or made it end. -/
structure Pod where
  name : String
  phase : PodPhase
  ip : Option String
  waiting : Option String
  terminated : Option String
  deriving DecidableEq

/-- The coordinate of the device in a pod, which the bridge reaches through a port
(`Serial.ofHost`). -/
def coordinate (port : UInt16) (pod ip : String) : Coordinate :=
  .hosted (Serial.ofHost ip port).value pod

/-! ### Deployments -/

/-- What the cluster is asked to run for a reservation. -/
structure Deployment where
  name : String
  replicas : UInt32
  labels : List (String × String)
  device : DeviceProfile
  deriving DecidableEq

/-- The label under which pods carry the name of their deployment. -/
def nameLabel : String :=
  "deploymentName"

/-- The deployment for a reservation, named after an identifier; labels are in the order of their
keys (`nameLabel` is one of them). -/
def Deployment.ofReservation (start : String) (id : Uuid) (r : Reservation) : Deployment :=
  let name := start ++ "-" ++ id.text
  { name, replicas := r.count, labels := [(nameLabel, name), ("device", r.device.name)],
    device := r.device }

/-! ### Listings -/

/-- A message that says something. -/
def said? (message : Option String) : Option String :=
  message.filter (!·.isEmpty)

/-- What a message about a pod that cannot start is reported as. -/
def waitingNotice (deployment message : String) : Notice :=
  if Text.occursIn "couldn't parse image reference".toList message.toList then
    .error ("Can't create pods for deployment " ++ deployment ++ ", check image reference: " ++
      message)
  else .warn ("Can't start pod: " ++ message)

/-- What is reported of a listing: the messages of the first pod that is pending
(`waitingNotice`). -/
def listingNotices (deployment : String) (pods : List Pod) : List Notice :=
  match pods.find? (·.phase = .pending) with
  | none => []
  | some p =>
    ((said? p.waiting).map (waitingNotice deployment)).toList ++
      ((said? p.terminated).map fun m ↦ Notice.warn ("Pod terminated with message: " ++ m)).toList

/-- The pods that the cluster lists for a deployment, none if it fails to, and what is reported
(`listingNotices`). -/
def received (deployment : String) : Except LabError (List Pod) → List Pod × List Notice
  | .ok pods => (pods, listingNotices deployment pods)
  | .error e =>
    ([], [.warn ("Failed to get pods for deployment " ++ deployment ++ ": " ++ e.message)])

end DeviceLab.Cluster
