import DeviceLab.Worker

/-!
# Scripted devices

A scripted `Device` does what its script says: it fails or panics on certain commands
(`Device.refusal`), takes some time, or freezes. It records the calls that change something
(`Simulation.Call`). A command that takes time has a beginning (`Device.begin`) and an end
(`Device.finish`); what happens at which of them is part of the script.
-/

namespace DeviceLab.Simulation

/-- A call that a scripted device records. -/
inductive Call
  | install (path : String)
  | run (test : String)
  | clear (package : String)
  | pull (source target : String)
  | clearDirectory (path : String)
  | disconnect
  deriving DecidableEq

/-- The script of a device and what it has recorded. Times are in milliseconds. -/
structure Device where
  coordinate : Coordinate
  api : UInt32 := 29
  model : String := "pixel"
  /-- Applications that cannot be installed. -/
  failInstall : List String := []
  /-- Applications on which the package manager crashes. -/
  panicInstall : List String := []
  failClear : Bool := false
  boots : Bool := true
  health : Health := .alive
  /-- Running a test freezes the device with this reason. -/
  freezeOnRun : Option String := none
  /-- The next test panics with this message. -/
  panicOnRun : Option String := none
  /-- Running a test panics without a message. -/
  panicAny : Bool := false
  panicStatus : Bool := false
  panicDisconnect : Bool := false
  failDisconnect : Option String := none
  failLogcat : Option String := none
  /-- The outcomes of the next tests, or the messages with which they fail; later tests pass. -/
  results : List (Except String Outcome) := []
  runDelay : Nat := 0
  bootDelay : Nat := 0
  installDelay : Nat := 0
  calls : List Call := []
  disconnected : Bool := false
  /-- How many tests are running, and how many were at most. -/
  running : Nat := 0
  peak : Nat := 0

namespace Device

/-- The serial under which the bridge knows a device. -/
def serial (d : Device) : String :=
  d.coordinate.serial.value

/-- What results say about a device. -/
def data (d : Device) : DeviceData :=
  ⟨d.coordinate, d.model, d.api⟩

/-- The device with another call recorded. -/
def record (d : Device) (c : Call) : Device :=
  { d with calls := d.calls ++ [c] }

/-- The device with another reason not to answer. -/
def freeze (d : Device) (reason : String) : Device :=
  { d with health := .frozen reason }

/-- The error of a command that a device refuses. -/
def refusal (d : Device) (message : String) : LabError :=
  .device d.serial message

/-! ### Commands of workers -/

/-- How a command begins: it is answered at once or takes some time. -/
inductive Progress
  | answered (reply : Reply)
  | underway (time : Nat)

/-- The end of an installation. -/
def install (d : Device) (path : String) : Device × Answer Installation :=
  let d := d.record (.install path)
  if path ∈ d.panicInstall then
    (d, .panicked (some ("package manager crashed while installing " ++ path)))
  else if path ∈ d.failInstall then
    (d, .failed (.installationFailed d.serial path "INSTALL_FAILED_INSUFFICIENT_STORAGE"))
  else (d, .returned ⟨path, 0, 0⟩)

/-- Clearing the data of a package. -/
def clear (d : Device) (package : String) : Device × Answer Unit :=
  let d := d.record (.clear package)
  (d, if d.failClear then .failed (d.refusal ("can't clear " ++ package)) else .returned ())

/-- The run of a test that had an outcome. -/
def runOf (d : Device) (test : TestCase) (outcome : Outcome) : DeviceRun :=
  ⟨⟨test, outcome, 0, UInt64.ofNat d.runDelay⟩, d.data⟩

/-- The end of a test. -/
def finishRun (d : Device) (test : TestCase) : Device × Answer DeviceRun :=
  let d := { d with running := d.running - 1 }
  match d.freezeOnRun with
  | some reason => (d.freeze reason, .failed (d.refusal reason))
  | none =>
    match d.results with
    | [] => (d, .returned (d.runOf test .passed))
    | .ok outcome :: rest => ({ d with results := rest }, .returned (d.runOf test outcome))
    | .error m :: rest => ({ d with results := rest }, .failed (d.refusal m))

/-- The end of a command. -/
def finish (d : Device) : Command → Device × Reply
  | .status =>
    (d, .status (if d.panicStatus then .panicked (some "status crashed") else .returned d.health))
  | .install path =>
    let (d, answer) := d.install path
    (d, .installed answer)
  | .clear package =>
    let (d, answer) := d.clear package
    (d, .cleared answer)
  | .run action =>
    let (d, answer) := d.finishRun action.test
    (d, .ran answer)

/-- The end of a command after some time, which may be none. -/
def finishAfter (d : Device) (time : Nat) (c : Command) : Device × Progress :=
  if time = 0 then
    let (d, reply) := d.finish c
    (d, .answered reply)
  else (d, .underway time)

/-- The beginning of a test: it may panic, otherwise it counts as running. -/
def beginRun (d : Device) (a : TestAction) : Device × Progress :=
  if d.panicAny then (d, .answered (.ran (.panicked none)))
  else
    let d := d.record (.run a.test.name)
    match d.panicOnRun with
    | some m => ({ d with panicOnRun := none }, .answered (.ran (.panicked (some m))))
    | none =>
      let d := { d with running := d.running + 1, peak := max d.peak (d.running + 1) }
      d.finishAfter d.runDelay (.run a)

/-- The beginning of a command. -/
def begin (d : Device) : Command → Device × Progress
  | .status => d.finishAfter 0 .status
  | .install path => d.finishAfter d.installDelay (.install path)
  | .clear package => d.finishAfter 0 (.clear package)
  | .run action => d.beginRun action

/-- A command with nothing else going on. -/
def perform (d : Device) (c : Command) : Device × Reply :=
  match d.begin c with
  | (d, .answered reply) => (d, reply)
  | (d, .underway _) => d.finish c

/-! ### Reconciling -/

/-- Installs applications in order, up to the first that fails. -/
def installAll (d : Device) : List String → Device × Answer (List Installation)
  | [] => (d, .returned [])
  | path :: rest =>
    match d.install path with
    | (d, .failed e) => (d, .failed e)
    | (d, .panicked m) => (d, .panicked m)
    | (d, .returned x) =>
      match d.installAll rest with
      | (d, .returned xs) => (d, .returned (x :: xs))
      | other => other

/-- Clears packages in order, up to the first that fails. -/
def clearAll (d : Device) : List String → Device × Answer Unit
  | [] => (d, .returned ())
  | package :: rest =>
    match d.clear package with
    | (d, .returned _) => d.clearAll rest
    | other => other

/-! ### Other commands -/

/-- Disconnecting a device from the bridge. -/
def disconnect (d : Device) : Device × Answer Unit :=
  if d.panicDisconnect then (d, .panicked (some "disconnect crashed"))
  else match d.failDisconnect with
    | some m => (d, .failed (d.refusal m))
    | none => ({ d.record .disconnect with disconnected := true }, .returned ())

/-- The dump of the device log. -/
def logcat (d : Device) : Except LabError String :=
  match d.failLogcat with
  | some m => .error (d.refusal m)
  | none => .ok ("--------- beginning of main (" ++ d.serial ++ ")")

end Device

end DeviceLab.Simulation
