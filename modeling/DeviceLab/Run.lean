import DeviceLab.Device.Coordinate
import DeviceLab.Request
import DeviceLab.Text.Quoted

/-!
# Runs, retries and verdicts

A `TestRun` or a `DeviceRun` is the record of one attempt on one device. An attempt that failed for
reasons unrelated to the test is repeated while the request allows it (`nextAttempt`); any other
attempt settles the request. The verdict over all attempts (`Report.verdict?`) is the last one that
says something about the test, if there is one.
-/

namespace DeviceLab

/-! ### Outcomes -/

/-- Why an attempt failed. -/
inductive Failure
  /-- The test ran and failed. -/
  | inRun (message : String)
  /-- The attempt broke for reasons unrelated to the test. -/
  | infrastructure (message : String)
  deriving DecidableEq

/-- What came of one attempt. -/
inductive Outcome
  | passed
  | ignored
  | failed (why : Failure)
  deriving DecidableEq

namespace Outcome

/-- Whether the test passed. -/
def isPassed : Outcome → Bool
  | passed => true
  | _ => false

/-- Whether the attempt broke for reasons unrelated to the test. -/
def isInfrastructure : Outcome → Bool
  | failed (.infrastructure _) => true
  | _ => false

/-- How log lines show an outcome. -/
def text : Outcome → String
  | passed => "Passed"
  | ignored => "Ignored"
  | failed (.inRun m) => "Failed(InRun \x7b message: " ++ Text.quoted m ++ " \x7d)"
  | failed (.infrastructure m) =>
    "Failed(InfrastructureError \x7b message: " ++ Text.quoted m ++ " \x7d)"

end Outcome

/-! ### Runs -/

/-- The record of one attempt; times are milliseconds since the epoch. -/
structure TestRun where
  test : TestCase
  outcome : Outcome
  started : UInt64
  completed : UInt64
  deriving DecidableEq

/-- The length of an attempt, zero if the clock went back. -/
def TestRun.duration (r : TestRun) : UInt64 :=
  if r.started ≤ r.completed then r.completed - r.started else 0

/-- One attempt and the device that made it. -/
structure DeviceRun where
  run : TestRun
  device : DeviceData
  deriving DecidableEq

namespace DeviceRun

/-- The outcome of the attempt. -/
def outcome (r : DeviceRun) : Outcome :=
  r.run.outcome

/-- Whether the attempt broke for reasons unrelated to the test. -/
def isInfrastructure (r : DeviceRun) : Bool :=
  r.outcome.isInfrastructure

/-- The record of an attempt that the infrastructure failed at one moment. -/
def broken (test : TestCase) (device : DeviceData) (message : String) (time : UInt64) : DeviceRun :=
  ⟨⟨test, .failed (.infrastructure message), time, time⟩, device⟩

end DeviceRun

/-! ### Retries -/

/-- The number of the attempt that follows the given runs of a request, or `none` if they settle it.
The number of runs saturates at the largest number of attempts that can be asked for. -/
def nextAttempt (maxAttempts : UInt32) (runs : List DeviceRun) : Option UInt32 :=
  match runs.getLast? with
  | none => some 1
  | some last =>
    let made := min runs.length (UInt32.size - 1)
    if last.isInfrastructure && made < maxAttempts.toNat then some (UInt32.ofNat (made + 1))
    else none

/-! ### Reports -/

/-- A request with all its attempts in order. -/
structure Report where
  request : Request
  runs : List DeviceRun
  deriving DecidableEq

/-- The last attempt that says something about the test (`DeviceRun.isInfrastructure`), or the last
one if none does. -/
def Report.verdict? (r : Report) : Option DeviceRun :=
  (r.runs.reverse.find? (!·.isInfrastructure)).or r.runs.getLast?

end DeviceLab
