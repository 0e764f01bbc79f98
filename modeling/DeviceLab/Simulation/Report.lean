import DeviceLab.Json.Events
import DeviceLab.Json.Order
import DeviceLab.Json.Strings
import DeviceLab.Simulation.Lab
import DeviceLab.Simulation.Script

/-!
# What a lab reports

The records of a lab in JSON: the events of devices and tests by the serial of the device
(`eventsForm`), the lines of the log in order (`logForm`), and what clusters and devices have
recorded in the end (`summaryForm`). Made-up names are shown by their aliases in all that is put in
order, since the order is that of what is shown.
-/

namespace DeviceLab.Simulation

open Json

/-! ### Records -/

/-- The events of devices on record, with their times. -/
def eventsOf (rs : List Record) : List (Nat × DeviceData × DeviceEvent) :=
  rs.filterMap fun r ↦ (r.notice.event?).map fun e ↦ (r.time, e)

/-- The events of tests by serial. -/
def testsForm (rs : List Record) : Json :=
  grouped (rs.filterMap fun r ↦
    match r.notice with
    | .test d e => some (d.serialText, ofTestEvent e)
    | _ => none)

/-- The events by serial, their times apart from them. -/
def eventsForm (rs : List Record) : List (String × Json) :=
  let es := eventsOf rs
  [("events", grouped (es.map fun e ↦ (e.2.1.serialText, ofEvent [] e.2.2))),
   ("times", grouped (es.map fun e ↦ (e.2.1.serialText, .nat e.1))), ("tests", testsForm rs)]

/-- The events by serial, in short and with their times. -/
def timedEventsForm (rs : List Record) : List (String × Json) :=
  [("events", grouped ((eventsOf rs).map fun e ↦ (e.2.1.serialText, ofEventAt e.1 e.2.2))),
   ("tests", testsForm rs)]

/-- A line of the log as it is shown. -/
def shownLine (l : LogLine) : LogLine :=
  { l with text := Alias.shown l.text }

/-- A line of the log at a time. -/
def lineForm (time : Nat) (l : LogLine) : Json :=
  .list [.nat time, ofLevel l.level, .str l.text]

/-- The order of the log: by time, then by level, then by text. -/
def lineBefore (a b : Nat × LogLine) : Bool :=
  let level (l : LogLine) : String := render (ofLevel l.level)
  if a.1 ≠ b.1 then a.1 < b.1
  else if a.2.level ≠ b.2.level then level a.2 < level b.2
  else !(b.2.text < a.2.text)

/-- The log without details, in order. -/
def logForm (rs : List Record) : Json :=
  let lines := (rs.map fun r ↦ (r.time, shownLine r.notice.line)).filter (·.2.level ≠ .debug)
  .list ((lines.mergeSort lineBefore).map fun l ↦ lineForm l.1 l.2)

/-! ### Clusters -/

/-- How many addresses of pods are looked up in the end. -/
def addressCount : Nat := 20

/-- The devices that the bridge made for the first addresses of a cluster. -/
def madeDevices (l : Lab) : List (String × Device) :=
  (List.range addressCount).filterMap fun k ↦
    let serial := (Serial.ofHost ("10.0.0." ++ toString (k + 1)) l.config.remoteBridgePort).value
    (l.bridge.shelf.lookup serial).map (serial, ·)

/-- The calls of a device that the bridge made, and whether it was disconnected. -/
def madeCalls (d : Device) : Json :=
  .list (d.calls.map Call.form ++ if d.disconnected then [write ["is_disconnected"]] else [])

/-- Values in the order of their texts as they are shown. -/
def inOrder (items : List Json) : Json :=
  sorted (items.map aliased)

/-- Names in order as they are shown. -/
def namesInOrder (names : List String) : Json :=
  write (sortBy id (names.map Alias.shown))

/-- Serials with logs, as they are shown, in order of the serials and then of the logs. -/
def logsInOrder (logs : List (String × String)) : Json :=
  let before (a b : String × String) : Bool := if a.1 = b.1 then !(b.2 < a.2) else a.1 < b.1
  write ((logs.map fun l ↦ (Alias.shown l.1, Alias.shown l.2)).mergeSort before)

/-- What a cluster, its log reporter and the devices have recorded. -/
def summaryForm (l : Lab) : Json :=
  let f := l.cluster
  let given := l.bridge.devices.map fun e ↦ (e.1, Json.list (e.2.calls.map Call.form))
  let made := (madeDevices l).map fun e ↦ (e.1, madeCalls e.2)
  fields
    [("deployments", namesInOrder f.cluster.deployments),
     ("deleted_pods", namesInOrder f.cluster.deletedPods),
     ("deleted_deployments", namesInOrder f.cluster.deletedDeployments),
     ("deletion_attempts", .nat f.cluster.deletionAttempts), ("lists", .nat f.lists),
     ("redirected", namesInOrder f.redirected), ("reported", logsInOrder f.reported),
     ("calls", fields (given ++ made))]

end DeviceLab.Simulation
