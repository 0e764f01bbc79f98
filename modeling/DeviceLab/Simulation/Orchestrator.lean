import DeviceLab.Cluster

/-!
# Scripted clusters

An `Orchestrator` is a cluster in memory: creating a deployment creates all its pods at once, in one
phase and with addresses counted across the cluster. On top come faults (`FaultyCluster`), by which
requests fail or panic and by which listings show pods otherwise than they are (`Patch`), and a log
reporter that records what it is given.
-/

namespace DeviceLab.Simulation

open Cluster (Pod PodPhase Deployment)

/-! ### The cluster -/

/-- A cluster in memory; deployments and pods are in the order of their names. -/
structure Orchestrator where
  phase : PodPhase := .running
  failLogs : Bool := false
  failDelete : Bool := false
  deployments : List String := []
  /-- Pods with the names of their deployments. -/
  pods : List (String × Pod) := []
  addresses : Nat := 0
  deletedPods : List String := []
  deletedDeployments : List String := []
  deletionAttempts : Nat := 0

namespace Orchestrator

/-- Puts a value into a list in the order of its key, in the place of one with the same key. -/
def place (key : α → String) (a : α) : List α → List α
  | [] => [a]
  | b :: rest =>
    if key a < key b then a :: b :: rest
    else if key a = key b then a :: rest
    else b :: place key a rest

/-- Creates the next pod of a deployment. -/
def createPod (o : Orchestrator) (deployment : String) (replica : Nat) : Orchestrator :=
  let address := o.addresses + 1
  let pod : Pod :=
    ⟨deployment ++ "-" ++ toString replica, o.phase, some ("10.0.0." ++ toString address), none,
      none⟩
  { o with addresses := address, pods := place (·.2.name) (deployment, pod) o.pods }

/-- Creates a deployment with all its pods. -/
def create (o : Orchestrator) (deployment : String) (replicas : UInt32) : Orchestrator :=
  let o := (List.range replicas.toNat).foldl (·.createPod deployment ·) o
  { o with deployments := place id deployment o.deployments }

/-- Deletes a deployment with its pods. -/
def delete (o : Orchestrator) (deployment : String) : Orchestrator × Except LabError Unit :=
  let o := { o with deletionAttempts := o.deletionAttempts + 1 }
  if o.failDelete then (o, .error (.cluster ("deployment " ++ deployment ++ " is protected")))
  else
    ({ o with
        deployments := o.deployments.filter (· ≠ deployment),
        pods := o.pods.filter (·.1 ≠ deployment),
        deletedDeployments := o.deletedDeployments ++ [deployment] }, .ok ())

/-- The pods with a label; only the names of deployments are labels. -/
def list (o : Orchestrator) (label value : String) : List Pod :=
  if label = Cluster.nameLabel then (o.pods.filter (·.1 = value)).map (·.2) else []

/-- The pod with a name. -/
def pod? (o : Orchestrator) (name : String) : Option Pod :=
  (o.pods.find? (·.2.name = name)).map (·.2)

/-- The log of a pod. -/
def log (o : Orchestrator) (name : String) : Except LabError String :=
  if o.failLogs then .error (.cluster ("container of " ++ name ++ " is gone"))
  else .ok ("emulator: " ++ name ++ " boot completed")

/-- Deletes a pod and says whether there was one. -/
def deletePod (o : Orchestrator) (name : String) : Orchestrator × Bool :=
  ({ o with deletedPods := o.deletedPods ++ [name], pods := o.pods.filter (·.2.name ≠ name) },
    (o.pod? name).isSome)

/-- Moves a pod to a phase. -/
def setPhase (o : Orchestrator) (name : String) (phase : PodPhase) : Orchestrator :=
  { o with pods := o.pods.map fun e ↦
      if e.2.name = name then (e.1, { e.2 with phase }) else e }

end Orchestrator

/-! ### Faults -/

/-- How listings show a pod: not at all, or in another phase, with another address, and always with
the messages given here. -/
structure Patch where
  hidden : Bool := false
  phase : Option PodPhase := none
  ip : Option (Option String) := none
  waiting : Option String := none
  terminated : Option String := none

/-- The pod as a listing shows it. -/
def Patch.apply (p : Patch) (pod : Pod) : Option Pod :=
  if p.hidden then none
  else some
    { pod with phase := p.phase.getD pod.phase, ip := p.ip.getD pod.ip, waiting := p.waiting,
               terminated := p.terminated }

/-- What asking for one pod comes to, if not to the truth. -/
inductive PodFault
  | missing
  | failing (message : String)

/-- A cluster with faults and the records of its log reporter. -/
structure FaultyCluster where
  cluster : Orchestrator := {}
  panicDelete : Bool := false
  /-- The names of devices for which no deployment can be created. -/
  failCreate : List String := []
  /-- How many of the next listings fail. -/
  failList : Nat := 0
  failPod : Option PodFault := none
  failDeletePod : Option String := none
  failRedirect : Option String := none
  failReport : Option String := none
  patches : List (String × Patch) := []
  lists : Nat := 0
  redirected : List String := []
  reported : List (String × String) := []

namespace FaultyCluster

/-- The key of the patch for pods that have none of their own. -/
def anyPod : String := "*"

/-- A listed pod as its patch shows it. -/
def show? (f : FaultyCluster) (pod : Pod) : Option Pod :=
  match (f.patches.lookup pod.name).or (f.patches.lookup anyPod) with
  | some p => p.apply pod
  | none => some pod

/-- Puts a patch in the place of an earlier one. -/
def patch (f : FaultyCluster) (name : String) (p : Patch) : FaultyCluster :=
  { f with patches := (name, p) :: f.patches.filter (·.1 ≠ name) }

/-- Creates a deployment, unless the kind of its device is over quota. -/
def create (f : FaultyCluster) (d : Deployment) : FaultyCluster × Except LabError Unit :=
  if d.device.name ∈ f.failCreate then (f, .error (.cluster ("quota exceeded for " ++ d.name)))
  else ({ f with cluster := f.cluster.create d.name d.replicas }, .ok ())

/-- Lists the pods of a deployment, each as its patch shows it (`show?`); the first `failList`
listings fail. -/
def list (f : FaultyCluster) (deployment : String) : FaultyCluster × Except LabError (List Pod) :=
  let f := { f with lists := f.lists + 1 }
  if f.failList = 0 then
    (f, .ok ((f.cluster.list Cluster.nameLabel deployment).filterMap f.show?))
  else ({ f with failList := f.failList - 1 }, .error (.cluster "api server unavailable"))

/-- Answers with the pod of a name, or as `failPod` says. -/
def pod (f : FaultyCluster) (name : String) : Except LabError (Option Pod) :=
  match f.failPod with
  | none => .ok (f.cluster.pod? name)
  | some .missing => .ok none
  | some (.failing m) => .error (.cluster m)

/-- Deletes a pod, unless deletions fail. -/
def deletePod (f : FaultyCluster) (name : String) : FaultyCluster × Except LabError Bool :=
  match f.failDeletePod with
  | some m => (f, .error (.cluster m))
  | none =>
    let (cluster, deleted) := f.cluster.deletePod name
    ({ f with cluster }, .ok deleted)

/-- Deletes a deployment, unless deletions panic. -/
def delete (f : FaultyCluster) (deployment : String) : FaultyCluster × Answer Unit :=
  if f.panicDelete then (f, .panicked (some "delete crashed"))
  else match f.cluster.delete deployment with
    | (cluster, .ok _) => ({ f with cluster }, .returned ())
    | (cluster, .error e) => ({ f with cluster }, .failed e)

/-- Notes the serial whose log is redirected, unless that fails. -/
def redirect (f : FaultyCluster) (serial : String) : FaultyCluster × Except LabError Unit :=
  match f.failRedirect with
  | some m => (f, .error (.device serial m))
  | none => ({ f with redirected := f.redirected ++ [serial] }, .ok ())

/-- Notes the log of a serial, unless that fails. -/
def report (f : FaultyCluster) (serial log : String) : FaultyCluster × Answer Unit :=
  match f.failReport with
  | some m => (f, .failed (.device serial m))
  | none => ({ f with reported := f.reported ++ [(serial, log)] }, .returned ())

end FaultyCluster

end DeviceLab.Simulation
