import DeviceLab.Json.Settings
import DeviceLab.Simulation.Bridge
import DeviceLab.Simulation.Orchestrator

/-!
# Scripts in JSON

How devices, bridges and clusters are scripted in JSON (`Device.ofScript?`, `Bridge.ofScript?`,
`FaultyCluster.ofScript?`), and how what they recorded is written (`callsForm`). All parts of a
script may be left out but the serial of a device.
-/

namespace DeviceLab.Simulation

open Json

/-! ### Devices -/

/-- The scripted result of a test. -/
def scripted? (j : Json) : Option (Except String DeviceLab.Outcome) :=
  match j.field? "err" with
  | some m => (read? m).map .error
  | none => (read? j).map .ok

/-- A time in milliseconds, zero by default. -/
def time? (j : Json) (key : String) : Option Nat :=
  (j.partD key (0 : UInt64)).map UInt64.toNat

/-- A scripted device. -/
def Device.ofScript? (j : Json) : Option Device := do
  let serial : String ← j.required? "serial"
  let pod : Option String ← j.part? "pod"
  let frozen : Option String ← j.part? "frozen"
  let results ← (← j.partList "results").mapM scripted?
  return {
    coordinate := (pod.map (Coordinate.hosted serial)).getD (.attached serial)
    health := (frozen.map Health.frozen).getD .alive
    results
    api := ← j.partD "api" 29
    model := ← j.partD "model" "pixel"
    failInstall := ← j.partD "fail_install" []
    panicInstall := ← j.partD "panic_install" []
    failClear := ← j.partD "fail_clear" false
    boots := ← j.partD "boots" true
    freezeOnRun := ← j.part? "freeze_on_run"
    panicOnRun := ← j.part? "panic_on_run"
    panicAny := ← j.partD "panic_any" false
    panicStatus := ← j.partD "panic_status" false
    panicDisconnect := ← j.partD "panic_disconnect" false
    failDisconnect := ← j.part? "fail_disconnect"
    failLogcat := ← j.part? "fail_logcat"
    runDelay := ← time? j "run_ms"
    bootDelay := ← time? j "boot_ms"
    installDelay := ← time? j "install_ms" }

/-- A recorded call. -/
def Call.form : Call → Json
  | .install p => write ["install", p]
  | .run t => write ["run", t]
  | .clear p => write ["clear", p]
  | .pull a b => write ["pull", a, b]
  | .clearDirectory p => write ["clear_directory", p]
  | .disconnect => write ["disconnect"]

/-- The calls of devices by serial. -/
def callsForm (ds : List (String × Device)) : Json :=
  fields (ds.map fun e ↦ (e.1, .list (e.2.calls.map Call.form)))

/-! ### Bridges -/

/-- How missing devices are made. -/
def Factory.ofScript? (j : Json) : Option Factory := do
  return { api := ← j.partD "api" 29, model := ← j.partD "model" "pixel",
           boots := ← j.partD "boots" true }

/-- A scripted bridge. -/
def Bridge.ofScript? (j : Json) : Option Bridge := do
  let devices ← (← j.partList "devices").mapM Device.ofScript?
  let registered ← (← j.partList "registered").mapM Device.ofScript?
  let factory ← match j.given? "factory" with
    | some f => (Factory.ofScript? f).map some
    | none => some none
  return { Bridge.ofDevices devices registered with
           factory, listing := ← j.part? "listing", listError := ← j.part? "list_error" }

/-! ### Clusters -/

/-- The phase with a name. -/
def phase? (text : String) : Option Cluster.PodPhase :=
  [.pending, .running, .succeeded, .failed, .unknown].find? (·.text = text)

instance : Form Cluster.PodPhase where
  write p := .str p.text
  read? j := (read? j).bind phase?

/-- A listed pod. -/
def podForm (p : Cluster.Pod) : Json := fields
  [("name", write p.name), ("phase", write p.phase), ("ip", write p.ip),
   ("waiting", write p.waiting), ("terminated", write p.terminated)]

/-- A patch; an address that is null is taken away. -/
def Patch.ofScript? (j : Json) : Option Patch := do
  let ip ← match j.field? "ip" with
    | some ip => (read? ip).map some
    | none => some none
  return { ip, hidden := ← j.partD "hidden" false, phase := ← j.part? "phase",
           waiting := ← j.part? "waiting", terminated := ← j.part? "terminated" }

/-- What asking for one pod comes to. -/
def PodFault.ofText (text : String) : PodFault :=
  if text = "missing" then .missing else .failing text

/-- The patches by the names of pods. -/
def patches? : Option Json → Option (List (String × Patch))
  | none => some []
  | some (.object fs) => fs.mapM fun e ↦ do return (← e.1, ← Patch.ofScript? e.2)
  | some _ => none

/-- A scripted cluster. -/
def FaultyCluster.ofScript? (j : Json) : Option FaultyCluster := do
  let failPod : Option String ← j.part? "fail_pod"
  let cluster : Orchestrator := {
    phase := ← j.partD "phase" .running
    failLogs := ← j.partD "fail_logs" false
    failDelete := ← j.partD "fail_delete_deployment" false }
  return {
    cluster
    failPod := failPod.map .ofText
    patches := ← patches? (j.given? "pods")
    panicDelete := ← j.partD "panic_delete_deployment" false
    failCreate := ← j.partD "fail_create" []
    failList := ← j.partD "fail_list" 0
    failDeletePod := ← j.part? "fail_delete_pod"
    failRedirect := ← j.part? "fail_redirect"
    failReport := ← j.part? "fail_report" }

end DeviceLab.Simulation
