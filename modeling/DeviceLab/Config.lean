import DeviceLab.Error
import DeviceLab.Span

/-!
# Configuration

What reservations, the execution service and sessions can be tuned by. Times are in milliseconds;
the `Span` of a time is set and read by its own pair of functions (`Config.withBootTimeout` and
`Config.bootTimeoutSpan`, for one). Every field has a default, and a configuration is valid when its
intervals and capacities can be used (`Config.validate`).
-/

namespace DeviceLab

/-- The settings of a session. -/
structure Config where
  /-- The time between two listings of the pods of a deployment. -/
  podsQueryInterval : UInt64 := 5000
  /-- How long a new deployment may take to list all its replicas. -/
  deploymentCreationTimeout : UInt64 := 300000
  /-- How long a device may take to boot. -/
  bootTimeout : UInt64 := 600000
  /-- What the names of deployments start with. -/
  deploymentPrefix : String := "instrunner"
  /-- The port that the bridge listens on inside emulator pods. -/
  remoteBridgePort : UInt16 := 5555
  /-- How many intentions may be queued. -/
  routerCapacity : UInt64 := 10000
  /-- How long workers may take to finish when the service stops. -/
  workerShutdownTimeout : UInt64 := 60000
  /-- How long a session may take; without one it waits for ever. -/
  sessionTimeout : Option UInt64 := none
  /-- The directory for artifacts and logs. -/
  outputDir : String := "instrunner-output"
  deriving DecidableEq

namespace Config

/-- Says which setting cannot be used (`LabError.invalidConfig`), the first one in the order of the
checks. -/
def validate (c : Config) : Except LabError Unit :=
  if c.podsQueryInterval = 0 then
    .error (.invalidConfig "pods_query_interval_ms must be positive")
  else if c.routerCapacity = 0 then
    .error (.invalidConfig "router_capacity must be positive")
  else if c.deploymentPrefix.isEmpty then
    .error (.invalidConfig "deployment_prefix must not be empty")
  else if c.sessionTimeout = some 0 then
    .error (.invalidConfig "session_timeout_ms must be positive")
  else .ok ()

/-! ### Times as spans -/

/-- Sets the pause between two listings to the milliseconds of a span, as `Span.millis64` takes
them. -/
def withPodsQueryInterval (c : Config) (s : Span) : Config :=
  { c with podsQueryInterval := s.millis64 }

/-- Sets the time for the creation of a deployment to the milliseconds of a span, as `Span.millis64`
takes them. -/
def withDeploymentCreationTimeout (c : Config) (s : Span) : Config :=
  { c with deploymentCreationTimeout := s.millis64 }

/-- Sets the time for the boot of a device to the milliseconds of a span, as `Span.millis64` takes
them. -/
def withBootTimeout (c : Config) (s : Span) : Config :=
  { c with bootTimeout := s.millis64 }

/-- Sets the time for a session to the milliseconds of a span, as `Span.millis64` takes them. -/
def withSessionTimeout (c : Config) (s : Span) : Config :=
  { c with sessionTimeout := some s.millis64 }

/-- Sets the time for workers to finish to the milliseconds of a span, as `Span.millis64` takes
them. -/
def withWorkerShutdownTimeout (c : Config) (s : Span) : Config :=
  { c with workerShutdownTimeout := s.millis64 }

/-- The `podsQueryInterval` as a span. -/
def podsQueryIntervalSpan (c : Config) : Span := .ofMillis c.podsQueryInterval

/-- The `deploymentCreationTimeout` as a span. -/
def deploymentCreationTimeoutSpan (c : Config) : Span := .ofMillis c.deploymentCreationTimeout

/-- The `bootTimeout` as a span. -/
def bootTimeoutSpan (c : Config) : Span := .ofMillis c.bootTimeout

/-- The `sessionTimeout` as a span, if there is one. -/
def sessionTimeoutSpan? (c : Config) : Option Span := c.sessionTimeout.map .ofMillis

/-- The `workerShutdownTimeout` as a span. -/
def workerShutdownTimeoutSpan (c : Config) : Span := .ofMillis c.workerShutdownTimeout

end Config

end DeviceLab
