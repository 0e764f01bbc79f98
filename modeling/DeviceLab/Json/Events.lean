import DeviceLab.Event
import DeviceLab.Json.Settings

/-!
# JSON forms of events

An event is a list of its name and its parts (`ofEvent`, `ofTestEvent`). Events of devices may come
with a device in front of their parts (`ofEventAt`), or in a short form that names tests and
attempts instead of identifiers (`label`).
-/

namespace DeviceLab.Json

/-- An event of a device, with given parts after its name. -/
def ofEvent (device : List Json) : DeviceEvent → Json
  | .created _ => .list (.str "created" :: device)
  | .received i => .list (.str "received" :: device ++ [write i.id])
  | .installed x => .list (.str "installed" :: device ++ [write x.path])
  | .prepared s => .list (.str "prepared" :: device ++ [write s.digest])
  | .testStarted i => .list (.str "test_started" :: device ++ [write i.id])
  | .testCompleted i r => .list (.str "test_completed" :: device ++ [write i.id, write r])
  | .intentionFailed i r => .list (.str "intention_failed" :: device ++ [write i.id, write r])
  | .died m r => .list (.str "died" :: device ++ [write m, write r])
  | .finished => .list (.str "finished" :: device)

/-- The test of an intention and the number of the attempt. -/
def label (i : Intention) : Json :=
  .str (i.action.test.text ++ "/" ++ toString i.action.execution.toNat)

/-- An event of a device at a time in short. -/
def ofEventAt (time : Nat) (e : DeviceEvent) : Json :=
  .list (.nat time :: match e with
    | .created s => [.str "created", write s.digest]
    | .received i => [.str "received", label i]
    | .installed x => [.str "installed", write x.path]
    | .prepared s => [.str "prepared", write s.digest]
    | .testStarted i => [.str "test_started", label i]
    | .testCompleted i r => [.str "test_completed", label i, write r.outcome]
    | .intentionFailed i r => [.str "intention_fail", label i, write r]
    | .died m r => [.str "died", write m, write r]
    | .finished => [.str "finished"])

/-- An event of a test. -/
def ofTestEvent : TestEvent → Json
  | .started package test n => .list [.str "started", write package, write test.text, write n]
  | .finished test package outcome time n =>
    .list [.str "finished", write test.text, write package, write outcome, write time, write n]

/-- The name of a level. -/
def ofLevel : Level → Json
  | .debug => .str "DEBUG"
  | .info => .str "INFO"
  | .warn => .str "WARN"
  | .error => .str "ERROR"

end DeviceLab.Json
