import DeviceLab.Event

/-!
# Device workers

A `Worker` owns one device for all its life. It takes intentions one after the other
(`Worker.receive`), brings the device into the state that each asks for (`Worker.prepare`), and runs
the test (`Worker.execute`). It ends when the router is closed and holds nothing more for its
device, or as soon as the device freezes (`Worker.die`, `Worker.dieOn`).

A worker is a machine that waits for one thing at a time, an answer of the router or of its device,
and reports what it does as notices. A command that panics is treated like one that failed
(`Worker.guarded`): a test run becomes an infrastructure failure, an installation is the end of the
worker. Asking for the health of the device has no such protection: a panic there ends the worker on
the spot, in the stage `crashed`.
-/

namespace DeviceLab

/-! ### The machine -/

/-- What a worker waits for. -/
inductive Stage
  /-- The health of the device, before anything else. -/
  | starting
  /-- The next intention. -/
  | seeking
  /-- The health of the device, with an intention in hand. -/
  | checking (intention : Intention)
  /-- The end of clearing a package; others are left. -/
  | clearing (intention : Intention) (package : String) (left : List String)
  /-- The end of an installation; others are left, and some are done. -/
  | installing (intention : Intention) (path : String) (left : List String)
      (done : List Installation)
  /-- The end of the test. -/
  | running (intention : Intention)
  /-- The health of the device, after a test. -/
  | resting
  /-- Nothing: the worker returned. -/
  | ended
  /-- Nothing: asking for the health of the device panicked. -/
  | crashed (message : Option String)
  /-- Nothing: the worker was aborted. -/
  | aborted

/-- A worker: its device, the state that it takes the device to be in, what it waits for
(`Stage`), the phase that it published last, and the phase that it `returned` with once it
has. -/
structure Worker where
  device : DeviceData
  state : DeviceState
  stage : Stage
  phase : Phase
  returned : Option Phase := none

/-- An answer of the device. -/
inductive Reply
  | status (answer : Answer Health)
  | installed (answer : Answer Installation)
  | cleared (answer : Answer Unit)
  | ran (answer : Answer DeviceRun)

namespace Worker

/-- A worker that has not asked its device for anything yet. -/
def new (device : DeviceData) : Worker where
  device := device
  state := .ofDevice device.api device.model
  stage := .starting
  phase := .created

/-- Whether a worker has come to an end of any kind. -/
def isOver (w : Worker) : Bool :=
  match w.stage with
  | .ended => true
  | .crashed _ => true
  | .aborted => true
  | _ => false

/-- Whether a worker waits for an intention. -/
def isSeeking (w : Worker) : Bool :=
  match w.stage with
  | .seeking => true
  | _ => false

/-- The command that the device of a worker is busy with. -/
def command? (w : Worker) : Option Command :=
  match w.stage with
  | .starting => some .status
  | .checking _ => some .status
  | .clearing _ package _ => some (.clear package)
  | .installing _ path _ _ => some (.install path)
  | .running i => some (.run i.action)
  | .resting => some .status
  | _ => none

/-- The intention that a worker took and has not answered. -/
def holding? (w : Worker) : Option Intention :=
  match w.stage with
  | .checking i => some i
  | .clearing i _ _ => some i
  | .installing i _ _ _ => some i
  | .running i => some i
  | _ => none

/-! ### Reporting -/

/-- The message with which a frozen device dies. -/
def freezeMessage : String :=
  "DeviceWorker died. Device status is `Freeze`"

/-- An event of the device of a worker. -/
def say (w : Worker) (e : DeviceEvent) : Notice :=
  .event w.device e

/-- The result of a command with an `Answer`, a panic taken for a failure, and the log line about
the panic. -/
def guarded (w : Worker) : Answer α → Except LabError α × List Notice
  | .returned a => (.ok a, [])
  | .failed e => (.error e, [])
  | .panicked m =>
    (.error (.device w.device.serialText ("panicked: " ++ panicText m)),
      [.error (w.device.coordinate.text ++ ": device command panicked: " ++ panicText m)])

/-- The end of a worker whose device died. -/
def die (w : Worker) (message reason : String) : Worker × List Notice :=
  ({ w with stage := .ended, phase := .dead, returned := some .dead },
    [w.say (.died message reason), .phase w.device .dead])

/-- The end of a worker whose device died with an intention in hand: it is reported as failed
(`intentionFailed`). -/
def dieOn (w : Worker) (i : Intention) (message reason : String) : Worker × List Notice :=
  ({ w with stage := .ended, phase := .dead, returned := some .dead },
    [w.say (.died message reason), w.say (.intentionFailed i reason), .phase w.device .dead])

/-- The end of a worker that could not prepare its device, as in `dieOn`. -/
def giveUp (w : Worker) (i : Intention) (e : LabError) : Worker × List Notice :=
  w.dieOn i ("DeviceWorker died. Can't process intention: " ++ i.text) e.message

/-! ### Steps -/

/-- The device is in the state that the intention asks for: the test starts (`testStarted`). -/
def execute (w : Worker) (i : Intention) : Worker × List Notice :=
  ({ w with state := i.state, stage := .running i, phase := .executing },
    [w.say (.prepared i.state), .phase w.device .executing, w.say (.testStarted i),
     .test w.device (.started i.action.targetPackage i.action.test i.action.execution)])

/-- Goes on to clear packages; after the last one the device is prepared. -/
def clear (w : Worker) (i : Intention) : List String → Worker × List Notice
  | [] => w.execute i
  | package :: left => ({ w with stage := .clearing i package left }, [])

/-- Goes on to install applications; after the last one all installations are reported
(`installed`), and the device is prepared. -/
def install (w : Worker) (i : Intention) (done : List Installation) :
    List String → Worker × List Notice
  | [] =>
    let (w, notices) := w.execute i
    (w, done.map (fun x ↦ w.say (.installed x)) ++ notices)
  | path :: left => ({ w with stage := .installing i path left done }, [])

/-- Brings the device into the state that the intention asks for: a device that is in it already has
its packages cleared (`clear`), any other has all applications installed (`install`). -/
def prepare (w : Worker) (i : Intention) : Worker × List Notice :=
  let begun := { w with phase := .preparing }
  let (w, notices) :=
    if w.state.digest = i.state.digest then begun.clear i (i.state.applications.map (·.2))
    else begun.install i [] (i.state.applications.map (·.1))
  (w, .phase begun.device .preparing :: notices)

/-- The test is over: its run is reported. -/
def complete (w : Worker) (i : Intention) (run : DeviceRun) : Worker × List Notice :=
  ({ w with stage := .resting, phase := .idle },
    [.test w.device (.finished i.action.test i.action.targetPackage run.outcome run.run.duration
      i.action.execution), w.say (.testCompleted i run), .phase w.device .idle])

/-- The router has an intention, or will never have one again. -/
def receive (w : Worker) : Option Intention → Worker × List Notice
  | some i => ({ w with stage := .checking i }, [w.say (.received i)])
  | none =>
    ({ w with stage := .ended, phase := .finished, returned := some .finished },
      [.info (w.device.coordinate.text ++ ": router closed, worker finished"), w.say .finished,
       .phase w.device .finished])

/-- What a worker does on an answer of its device (`Reply`) at a time; an answer to another question
than its own is no step. -/
def resume (w : Worker) (time : UInt64) : Reply → Option (Worker × List Notice)
  | .status (.failed _) => none
  | .status (.panicked m) =>
    match w.stage with
    | .starting | .checking _ | .resting => some ({ w with stage := .crashed m }, [])
    | _ => none
  | .status (.returned health) =>
    match w.stage, health with
    | .starting, .frozen reason => some (w.die freezeMessage reason)
    | .starting, .alive =>
      some ({ w with stage := .seeking, phase := .idle },
        [w.say (.created w.state), .phase w.device .idle])
    | .checking i, .frozen reason => some (w.dieOn i freezeMessage reason)
    | .checking i, .alive => some (w.prepare i)
    | .resting, .frozen reason => some (w.die freezeMessage reason)
    | .resting, .alive => some ({ w with stage := .seeking }, [])
    | _, _ => none
  | .installed answer =>
    match w.stage with
    | .installing i _ left done =>
      match w.guarded answer with
      | (.ok x, notices) =>
        let (w, more) := w.install i (done ++ [x]) left
        some (w, notices ++ more)
      | (.error e, notices) =>
        let (w, more) := w.giveUp i e
        some (w, notices ++ more)
    | _ => none
  | .cleared answer =>
    match w.stage with
    | .clearing i _ left =>
      match w.guarded answer with
      | (.ok _, notices) =>
        let (w, more) := w.clear i left
        some (w, notices ++ more)
      | (.error e, notices) =>
        let (w, more) := w.giveUp i e
        some (w, notices ++ more)
    | _ => none
  | .ran answer =>
    match w.stage with
    | .running i =>
      match w.guarded answer with
      | (.ok run, notices) =>
        let (w, more) := w.complete i run
        some (w, notices ++ more)
      | (.error e, notices) =>
        let (w, more) := w.complete i (.broken i.action.test w.device
          ("Unexpected infrastructure error: " ++ e.message) time)
        some (w, notices ++ more)
    | _ => none

/-- Stops a worker where it stands; one that is over stays as it is. -/
def abort (w : Worker) : Worker :=
  if w.isOver then w else { w with stage := .aborted }

end Worker

end DeviceLab
