import DeviceLab.Text.Digits

/-!
# Errors

What can keep a session from making progress (`LabError`). The outcome of a test is never an error:
a device that breaks or a harness that crashes is recorded as an infrastructure failure of the
attempt. What a user reads of an error is its `LabError.message`.
-/

namespace DeviceLab

/-- The causes for which an operation is given up. -/
inductive LabError
  /-- A claim while a reservation is running. -/
  | alreadyReserving
  /-- A release while no reservation is running. -/
  | notReserving
  /-- A command that a device refused. -/
  | device (serial message : String)
  /-- A serial that the bridge cannot resolve. -/
  | deviceNotFound (serial : String)
  /-- An application that could not be installed. -/
  | installationFailed (serial application message : String)
  /-- A request that the cluster refused. -/
  | cluster (message : String)
  /-- A running pod that nothing can connect to. -/
  | podWithoutIp (pod : String)
  /-- A deployment that did not list its replicas in time. -/
  | deploymentNotReady (deployment : String) (seconds : UInt64)
  /-- A device listing that says that the bridge is unreachable. -/
  | listingUnreadable (reason : String)
  /-- A request that cannot be run. -/
  | invalidRequest (reason : String)
  /-- A configuration that cannot be used. -/
  | invalidConfig (reason : String)
  /-- An intention for a closed router. -/
  | routerClosed
  /-- A channel that closed before the session was over. -/
  | channelClosed (channel : String)
  /-- A session that ran out of time. -/
  | sessionTimeout (completed expected : Nat)
  /-- A failure of the file system. -/
  | inputOutput (message : String)
  /-- A configuration document that cannot be parsed. -/
  | configUnreadable (message : String)
  deriving DecidableEq

/-- The text that reports an error. -/
def LabError.message : LabError → String
  | alreadyReserving => "Unable to start reservation job: already started"
  | notReserving => "Unable to stop reservation job: hasn't started yet"
  | device serial m => "Device " ++ serial ++ " command failed: " ++ m
  | deviceNotFound serial => "Device not found: " ++ serial
  | installationFailed serial application m =>
    "Failed to install " ++ application ++ " on " ++ serial ++ ": " ++ m
  | cluster m => "Cluster error: " ++ m
  | podWithoutIp pod => "Pod " ++ pod ++ " must have an IP"
  | deploymentNotReady deployment seconds =>
    "Deployment " ++ deployment ++ " not ready after " ++ toString seconds.toNat ++ "s"
  | listingUnreadable reason => "Unable to parse device list: " ++ reason
  | invalidRequest reason => "Invalid test run request: " ++ reason
  | invalidConfig reason => "Invalid configuration: " ++ reason
  | routerClosed => "Intentions router is closed"
  | channelClosed channel => "Channel closed: " ++ channel
  | sessionTimeout completed expected =>
    "Session timeout: " ++ toString completed ++ "/" ++ toString expected ++ " requests completed"
  | inputOutput m => "I/O error: " ++ m
  | configUnreadable m => "Configuration parse error: " ++ m

end DeviceLab
