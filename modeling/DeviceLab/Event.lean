import DeviceLab.Device.Command

/-!
# What a session reports

Everything that happens to a device and its tests is reported as an event (`DeviceEvent`,
`TestEvent`); the phases that a worker publishes (`Phase`) and log lines (`LogLine`) come on top. A
listener that logs events shows each of them as one line (`Notice.line`). A `Notice` is anything
that a step of a session lets the outside see, the calls to the reservation included.
-/

namespace DeviceLab

/-! ### Log lines -/

/-- How important a log line is. -/
inductive Level
  | debug
  | info
  | warn
  | error
  deriving DecidableEq

/-- A line of the log. -/
structure LogLine where
  level : Level
  text : String
  deriving DecidableEq

/-! ### Events -/

/-- What happens to a device in the hands of its worker. -/
inductive DeviceEvent
  /-- The device is alive; its base state is known. -/
  | created (state : DeviceState)
  /-- An intention was taken from the router. -/
  | received (intention : Intention)
  /-- An application was installed. -/
  | installed (installation : Installation)
  /-- The device is in the state that the intention asks for. -/
  | prepared (state : DeviceState)
  /-- The test is about to run. -/
  | testStarted (intention : Intention)
  /-- The attempt is over. -/
  | testCompleted (intention : Intention) (run : DeviceRun)
  /-- The intention could not be carried out because the device died. -/
  | intentionFailed (intention : Intention) (reason : String)
  /-- The device died; its worker ends. -/
  | died (message reason : String)
  /-- The worker found the router closed and drained; it ends. -/
  | finished
  deriving DecidableEq

/-- What happens to a test on a device. -/
inductive TestEvent
  | started (package : String) (test : TestCase) (execution : UInt32)
  | finished (test : TestCase) (package : String) (outcome : Outcome) (duration : UInt64)
      (execution : UInt32)
  deriving DecidableEq

/-- The log line that shows an event of a device. -/
def DeviceEvent.trace (d : DeviceData) : DeviceEvent → LogLine
  | created state =>
    ⟨.info, "Device " ++ d.coordinate.text ++ " created with state " ++ state.digest⟩
  | received i => ⟨.debug, "Device " ++ d.coordinate.text ++ " received " ++ i.text⟩
  | installed x =>
    let spent := if x.started ≤ x.completed then x.completed - x.started else 0
    ⟨.debug, "Device " ++ d.coordinate.text ++ " installed " ++ x.path ++ " in " ++
      toString spent.toNat ++ "ms"⟩
  | prepared state => ⟨.debug, "Device " ++ d.coordinate.text ++ " prepared state " ++ state.digest⟩
  | testStarted i => ⟨.debug, "Device " ++ d.coordinate.text ++ " started " ++ i.text⟩
  | testCompleted i run =>
    ⟨.debug, "Device " ++ d.coordinate.text ++ " completed " ++ i.text ++ ": " ++
      run.outcome.text⟩
  | intentionFailed i reason =>
    ⟨.warn, "Device " ++ d.coordinate.text ++ " failed " ++ i.text ++ ": " ++ reason⟩
  | died message reason =>
    ⟨.warn, "Device " ++ d.coordinate.text ++ " died. " ++ message ++ ". Reason: " ++ reason⟩
  | finished => ⟨.info, "Device " ++ d.coordinate.text ++ " finished"⟩

/-- The log line that shows an event of a test. -/
def TestEvent.trace (d : DeviceData) : TestEvent → LogLine
  | started package test execution =>
    ⟨.info, "Test " ++ test.text ++ " (" ++ package ++ ") started on " ++ d.coordinate.text ++
      ", execution #" ++ toString execution.toNat⟩
  | finished test _ outcome duration execution =>
    ⟨.info, "Test " ++ test.text ++ " finished on " ++ d.coordinate.text ++ " in " ++
      toString duration.toNat ++ "ms, execution #" ++ toString execution.toNat ++ ": " ++
      outcome.text⟩

/-! ### Phases -/

/-- The phase of a worker, as published to whoever watches it. -/
inductive Phase
  | created
  | idle
  | preparing
  | executing
  | finished
  | dead
  deriving DecidableEq

namespace Phase

/-- Whether a worker in a phase has stopped. -/
def isTerminal : Phase → Bool
  | finished => true
  | dead => true
  | _ => false

/-- How log lines show a phase. -/
def text : Phase → String
  | created => "Created"
  | idle => "Idle"
  | preparing => "Preparing"
  | executing => "Executing"
  | finished => "Finished"
  | dead => "Dead"

end Phase

/-! ### Notices -/

/-- What the outside sees of a step. -/
inductive Notice
  | event (device : DeviceData) (event : DeviceEvent)
  | test (device : DeviceData) (event : TestEvent)
  | phase (device : DeviceData) (phase : Phase)
  | log (line : LogLine)
  deriving DecidableEq

namespace Notice

/-- A log line at level `info`. -/
def info (text : String) : Notice := .log ⟨.info, text⟩

/-- A log line at level `warn`. -/
def warn (text : String) : Notice := .log ⟨.warn, text⟩

/-- A log line at level `error`. -/
def error (text : String) : Notice := .log ⟨.error, text⟩

/-- The log line of a notice, events and phases being logged too (`DeviceEvent.trace`,
`TestEvent.trace`). -/
def line : Notice → LogLine
  | event d e => e.trace d
  | test d e => e.trace d
  | phase d p => ⟨.debug, d.coordinate.text ++ ": " ++ p.text⟩
  | log l => l

/-- The event of a device in a notice. -/
def event? : Notice → Option (DeviceData × DeviceEvent)
  | event d e => some (d, e)
  | _ => none

end Notice

end DeviceLab
