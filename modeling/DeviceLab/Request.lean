import DeviceLab.Device.State
import DeviceLab.Error
import DeviceLab.Params
import DeviceLab.Span
import DeviceLab.Uuid

/-!
# Requests and intentions

A `Request` asks for one test case on a device of some profile, with the applications that the test
needs; a `Draft` is one that may still lack some of them. An `Intention` is one attempt of a
request, the unit of work that devices take: the state that the device has to be in
(`Request.targetState`) and the test action to run in it (`TestAction`).
-/

namespace DeviceLab

/-! ### Parts of a request -/

/-- A test method on a named device configuration. -/
structure TestCase where
  className : String
  methodName : String
  deviceName : String
  deriving DecidableEq

namespace TestCase

/-- The class and the method, as instrumentation names a test. -/
def name (t : TestCase) : String :=
  t.className ++ "#" ++ t.methodName

/-- How log lines show a test case. -/
def text (t : TestCase) : String :=
  t.name ++ " [" ++ t.deviceName ++ "]"

end TestCase

/-- What a device has to be: a named configuration with an API level (`api`) and a model, and the
emulator image that provides it in a cluster. -/
structure DeviceProfile where
  name : String
  api : UInt32
  model : String
  image : Option String
  deriving DecidableEq

/-- An application to install before a test. -/
structure Application where
  path : String
  package : String
  deriving DecidableEq

/-- The layer that asks for an application. -/
def Application.layer (a : Application) : Layer :=
  .application a.path a.package

/-! ### Requests -/

/-- One test case bound to a target. -/
structure Request where
  id : Uuid
  testCase : TestCase
  target : DeviceProfile
  application : Option Application
  testApplication : Application
  params : Params
  maxAttempts : UInt32
  timeout : Span
  deriving DecidableEq

namespace Request

/-- The state that a device has to be in before the test of a request runs on it, made of its layers
(`DeviceState.ofLayers`). -/
def targetState (r : Request) : DeviceState :=
  .ofLayers ([.apiLevel r.target.api, .model r.target.model] ++
    (r.application.map Application.layer).toList ++ [r.testApplication.layer])

/-- The package whose instrumentation runs. -/
def targetPackage (r : Request) : String :=
  (r.application.getD r.testApplication).package

/-- The parts of a request that are known so far. -/
structure Draft where
  testCase : Option TestCase := none
  target : Option DeviceProfile := none
  application : Option Application := none
  testApplication : Option Application := none
  params : Params := .empty
  maxAttempts : UInt32 := 1
  timeout : Span := .ofMillis 600000

/-- The request that a draft describes, or the first part that is missing or out of range. -/
def Draft.build (d : Draft) (id : Uuid) : Except LabError Request := do
  let some testCase := d.testCase | throw (.invalidRequest "Test case not set")
  let some target := d.target | throw (.invalidRequest "Target not set")
  let some testApplication := d.testApplication
    | throw (.invalidRequest "Test application not set")
  if d.maxAttempts = 0 then throw (.invalidRequest "max_attempts must be at least 1")
  return { id, testCase, target, testApplication, application := d.application,
           params := d.params, maxAttempts := d.maxAttempts, timeout := d.timeout }

end Request

/-! ### Intentions -/

/-- The invocation of a test. -/
structure TestAction where
  test : TestCase
  testPackage : String
  targetPackage : String
  params : Params
  execution : UInt32
  timeout : Span
  deriving DecidableEq

/-- One attempt of a request: a target state and a `TestAction`. -/
structure Intention where
  id : Uuid
  state : DeviceState
  action : TestAction
  deriving DecidableEq

namespace Intention

/-- The intention for one attempt of a request. -/
def ofRequest (id : Uuid) (r : Request) (execution : UInt32) : Intention where
  id := id
  state := r.targetState
  action :=
    { test := r.testCase, testPackage := r.testApplication.package,
      targetPackage := r.targetPackage, params := r.params, execution := execution,
      timeout := r.timeout }

/-- How log lines show an intention. -/
def text (i : Intention) : String :=
  "Intention(" ++ i.id.text ++ ", test=" ++ i.action.test.text ++ ", execution=" ++
    toString i.action.execution.toNat ++ ")"

end Intention

end DeviceLab
