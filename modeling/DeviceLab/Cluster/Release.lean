import DeviceLab.Cluster

/-!
# Releasing a claim

When a claim is released, each of its deployments is wound up on its own (`DeploymentRelease`): its
pods are listed once more, the log of every pod that runs is saved and its device disconnected
(`PodRelease`), and in the end the deployment is deleted, whatever became of its pods. A panic of
the log reporter or of a device ends the care for one pod only. `Release.step` says what each answer
makes of a release.
-/

namespace DeviceLab.Cluster

/-! ### Pods -/

/-- What the care for a pod waits for. -/
inductive PodRelease.Stage
  /-- The log of the pod, from the cluster. -/
  | fetching
  /-- The log reporter to store the log. -/
  | reporting (log : String)
  /-- A description of the pod, because its log could not be saved. -/
  | describing (e : LabError)
  /-- The bridge to resolve the device, and the device to disconnect. -/
  | disconnecting
  /-- Nothing: all is done. -/
  | ended
  /-- Nothing: the log reporter or the device panicked. -/
  | crashed (message : Option String)

/-- The care for one pod at its address. -/
structure PodRelease where
  pod : String
  serial : Serial
  coordinate : Coordinate
  stage : PodRelease.Stage := .fetching

/-- Whether the care for a pod has come to an end. -/
def PodRelease.isOver (p : PodRelease) : Bool :=
  match p.stage with
  | .ended => true
  | .crashed _ => true
  | _ => false

/-! ### Deployments -/

/-- What the release of a deployment waits for. -/
inductive DeploymentRelease.Stage
  /-- The last listing. -/
  | listing
  /-- The care for its pods. -/
  | saving
  /-- The answer to the deletion. -/
  | deleting
  /-- Nothing: all is done. -/
  | ended
  /-- Nothing: the deletion panicked. -/
  | crashed

/-- The release of one deployment. -/
structure DeploymentRelease where
  name : String
  stage : DeploymentRelease.Stage := .listing
  pods : List PodRelease := []

/-- Whether the release of a deployment has come to an end, `ended` or `crashed`. -/
def DeploymentRelease.isOver (d : DeploymentRelease) : Bool :=
  match d.stage with
  | .ended => true
  | .crashed => true
  | _ => false

/-- The release of a claim. -/
structure Release where
  port : UInt16
  deployments : List DeploymentRelease

/-- The moves of a release. -/
inductive Release.Move
  /-- The cluster lists the pods of a deployment. -/
  | listed (deployment : Nat) (reply : Except LabError (List Pod))
  /-- The cluster answers with the log of a pod. -/
  | fetched (deployment pod : Nat) (reply : Except LabError String)
  /-- The log reporter answers. -/
  | reported (deployment pod : Nat) (answer : Answer Unit)
  /-- The cluster answers with a pod, or that there is none. -/
  | described (deployment pod : Nat) (reply : Except LabError (Option Pod))
  /-- The device of a pod is disconnected, or could not be. -/
  | disconnected (deployment pod : Nat) (answer : Answer Unit)
  /-- The pods of a deployment are taken care of. -/
  | saved (deployment : Nat)
  /-- The cluster answers to the deletion of a deployment. -/
  | deleted (deployment : Nat) (answer : Answer Unit)

namespace Release

/-- The release of deployments that has just started. -/
def start (config : Config) (names : List String) : Release :=
  ⟨config.remoteBridgePort, names.map fun name ↦ { name }⟩

/-- Whether everything is released. -/
def isOver (r : Release) : Bool :=
  r.deployments.all DeploymentRelease.isOver

/-- The release with a deployment changed. -/
def modifyDeployment (r : Release) (n : Nat) (f : DeploymentRelease → DeploymentRelease) :
    Release :=
  { r with deployments := r.deployments.modify n f }

/-- The release with the care for a pod in another stage. -/
def setPod (r : Release) (n k : Nat) (stage : PodRelease.Stage) : Release :=
  r.modifyDeployment n fun d ↦ { d with pods := d.pods.modify k fun p ↦ { p with stage } }

/-- The care for a pod, if its deployment has one with that number. -/
def pod? (r : Release) (n k : Nat) : Option PodRelease := do
  (← r.deployments[n]?).pods[k]?

/-- The care that a listed pod gets: one that does not run gets none, and one without an address
cannot (`LabError.podWithoutIp`). -/
def careFor (port : UInt16) (p : Pod) : Option PodRelease × List Notice :=
  if p.phase ≠ .running then (none, [])
  else match p.ip with
    | none => (none, [.warn (LabError.podWithoutIp p.name).message])
    | some ip =>
      let c := coordinate port p.name ip
      (some { pod := p.name, serial := c.serial, coordinate := c }, [])

/-- The last listing of a deployment has come, and each pod gets the care that `careFor` says. A
listing that failed counts as an empty one (`received`). -/
def listed (r : Release) (n : Nat) (reply : Except LabError (List Pod)) :
    Option (Release × List Notice) := do
  let d ← r.deployments[n]?
  match d.stage with
  | .listing =>
    let (pods, notices) := received d.name reply
    let cares := pods.map (careFor r.port)
    return (r.modifyDeployment n fun d ↦
        { d with stage := .saving, pods := cares.filterMap (·.1) },
      notices ++ cares.flatMap (·.2))
  | _ => none

/-- The log of a pod goes to the log reporter; a log that the cluster did not give is accounted for
with a description of the pod. -/
def fetched (r : Release) (n k : Nat) (reply : Except LabError String) :
    Option (Release × List Notice) := do
  let p ← r.pod? n k
  match p.stage, reply with
  | .fetching, .ok log => return (r.setPod n k (.reporting log), [])
  | .fetching, .error e => return (r.setPod n k (.describing e), [])
  | _, _ => none

/-- The log line about the care for a pod that panicked. -/
def podCrashNotice (k : Nat) (message : Option String) : Notice :=
  .warn ("Pod release task failed: " ++ taskPanicText k message)

/-- A log that is stored leads on to disconnecting, one that is not to a description of the pod; a
panic ends the care (`podCrashNotice`). -/
def reported (r : Release) (n k : Nat) (answer : Answer Unit) : Option (Release × List Notice) := do
  let p ← r.pod? n k
  match p.stage, answer with
  | .reporting _, .returned _ => return (r.setPod n k .disconnecting, [])
  | .reporting _, .failed e => return (r.setPod n k (.describing e), [])
  | .reporting _, .panicked m => return (r.setPod n k (.crashed m), [podCrashNotice k m])
  | _, _ => none

/-- How a pod is described in a log line about it. -/
def description : Except LabError (Option Pod) → String × List Notice
  | .ok (some p) => ("[podStatus=" ++ p.phase.text ++ "]", [])
  | .ok none => ("pod doesn't exist", [])
  | .error e =>
    ("Error when get pod description, " ++ e.message, [.warn ("Can't get pod info: " ++ e.message)])

/-- The failure to save the log is logged with a `description` of the pod, and the device is
disconnected next. -/
def described (r : Release) (n k : Nat) (reply : Except LabError (Option Pod)) :
    Option (Release × List Notice) := do
  let p ← r.pod? n k
  match p.stage with
  | .describing e =>
    let (text, notices) := description reply
    return (r.setPod n k .disconnecting, notices ++
      [.warn ("Get logs from emulator failed; pod=" ++ p.pod ++ "; podDescription=" ++ text ++
        "; container serial=" ++ p.serial.value ++ ": " ++ e.message)])
  | _ => none

/-- The device of a pod is disconnected, or could not be, and the care for the pod ends. -/
def disconnected (r : Release) (n k : Nat) (answer : Answer Unit) :
    Option (Release × List Notice) := do
  let p ← r.pod? n k
  match p.stage, answer with
  | .disconnecting, .returned _ => return (r.setPod n k .ended, [])
  | .disconnecting, .failed e =>
    return (r.setPod n k .ended,
      [.warn ("Failed to disconnect device: " ++ p.serial.value ++ ": " ++ e.message)])
  | .disconnecting, .panicked m => return (r.setPod n k (.crashed m), [podCrashNotice k m])
  | _, _ => none

/-- The care for all pods of a deployment has ended (`PodRelease.isOver`), and the deployment is
deleted next. -/
def saved (r : Release) (n : Nat) : Option (Release × List Notice) := do
  let d ← r.deployments[n]?
  match d.stage with
  | .saving =>
    guard (d.pods.all PodRelease.isOver)
    return (r.modifyDeployment n ({ · with stage := .deleting }), [])
  | _ => none

/-- The deployment is deleted, or could not be, and its release ends; a panic is logged by its
number. -/
def deleted (r : Release) (n : Nat) (answer : Answer Unit) : Option (Release × List Notice) := do
  let d ← r.deployments[n]?
  match d.stage, answer with
  | .deleting, .returned _ => return (r.modifyDeployment n ({ · with stage := .ended }), [])
  | .deleting, .failed e =>
    return (r.modifyDeployment n ({ · with stage := .ended }),
      [.warn ("Failed to delete deployment " ++ d.name ++ ": " ++ e.message)])
  | .deleting, .panicked m =>
    return (r.modifyDeployment n ({ · with stage := .crashed }),
      [.warn ("Deployment release task failed: " ++ taskPanicText n m)])
  | _, _ => none

/-- What a `Move` makes of a release, and what is reported. -/
def step (r : Release) : Move → Option (Release × List Notice)
  | .listed n reply => r.listed n reply
  | .fetched n k reply => r.fetched n k reply
  | .reported n k answer => r.reported n k answer
  | .described n k reply => r.described n k reply
  | .disconnected n k answer => r.disconnected n k answer
  | .saved n => r.saved n
  | .deleted n answer => r.deleted n answer

end Release

end DeviceLab.Cluster
