import DeviceLab.Alias
import DeviceLab.Error
import DeviceLab.Json.Settings

/-!
# JSON forms of errors

An error is written as the name of its cause (`LabError.cause`) and its message, in which made-up
names are shown by their aliases; the messages of the file system and of parsers are left out, since
they are not this library's. A cause is read from its name and its parts (`error?`).
-/

namespace DeviceLab

/-- The name of the cause of an error. -/
def LabError.cause : LabError → String
  | .alreadyReserving => "AlreadyReserving"
  | .notReserving => "NotReserving"
  | .device .. => "Device"
  | .deviceNotFound .. => "DeviceNotFound"
  | .installationFailed .. => "InstallationFailed"
  | .cluster .. => "Cluster"
  | .podWithoutIp .. => "PodWithoutIp"
  | .deploymentNotReady .. => "DeploymentNotReady"
  | .listingUnreadable .. => "DeviceListParse"
  | .invalidRequest .. => "InvalidRequest"
  | .invalidConfig .. => "InvalidConfig"
  | .routerClosed => "RouterClosed"
  | .channelClosed .. => "ChannelClosed"
  | .sessionTimeout .. => "SessionTimeout"
  | .inputOutput .. => "Io"
  | .configUnreadable .. => "ConfigParse"

namespace Json

/-- The members of the form of an error. -/
def errorMembers (e : LabError) : List (String × Json) :=
  ("error", .str e.cause) ::
    match e with
    | .inputOutput .. | .configUnreadable .. => []
    | _ => [("message", .str (Alias.shown e.message))]

/-- The form of an error. -/
def ofError (e : LabError) : Json :=
  fields (errorMembers e)

/-- The form of a result without a value. -/
def ofResult : Except LabError α → Json
  | .ok _ => .str "ok"
  | .error e => ofError e

/-- The error with a cause and parts; the channel of a closed channel is given. -/
def error? (channel : String) (cause : String) (j : Json) : Option LabError := do
  match cause with
  | "AlreadyReserving" => return .alreadyReserving
  | "NotReserving" => return .notReserving
  | "Device" => return .device (← j.required? "serial") (← j.required? "message")
  | "DeviceNotFound" => return .deviceNotFound (← j.required? "serial")
  | "InstallationFailed" =>
    return .installationFailed (← j.required? "serial") (← j.required? "application")
      (← j.required? "message")
  | "Cluster" => return .cluster (← j.required? "message")
  | "PodWithoutIp" => return .podWithoutIp (← j.required? "pod")
  | "DeploymentNotReady" =>
    return .deploymentNotReady (← j.required? "deployment") (← j.required? "seconds")
  | "DeviceListParse" => return .listingUnreadable (← j.required? "reason")
  | "InvalidRequest" => return .invalidRequest (← j.required? "reason")
  | "InvalidConfig" => return .invalidConfig (← j.required? "reason")
  | "RouterClosed" => return .routerClosed
  | "ChannelClosed" => return .channelClosed channel
  | "SessionTimeout" =>
    return .sessionTimeout (← j.required? "completed") (← j.required? "expected")
  | "Io" => return .inputOutput (← j.required? "message")
  | _ => none

end Json

end DeviceLab
