import DeviceLab.Text.Digits

/-!
# Addresses of devices

A device is addressed on the bridge by its `Serial`, which says whether it is attached to the host
or reached over the network. A `Coordinate` is the identity of one live device for a session: a
device of a cluster also carries the name of the resource that hosts it (`Coordinate.resource?`).
-/

namespace DeviceLab

/-- The address of a device on the bridge. -/
inductive Serial
  | attached (value : String)
  | remote (value : String)
  deriving DecidableEq

namespace Serial

/-- The text that the bridge knows the device by. -/
def value : Serial → String
  | attached v => v
  | remote v => v

/-- The serial of a device behind a port of a host. -/
def ofHost (host : String) (port : UInt16) : Serial :=
  remote (host ++ ":" ++ String.ofList (Text.decimal port.toNat))

end Serial

/-- The identity of one live device for the length of a session. -/
inductive Coordinate
  | attached (serial : String)
  | hosted (serial : String) (resource : String)
  deriving DecidableEq

namespace Coordinate

/-- The serial to address the device by. -/
def serial : Coordinate → Serial
  | attached s => .attached s
  | hosted s _ => .remote s

/-- The cluster resource that hosts the device. -/
def resource? : Coordinate → Option String
  | attached _ => none
  | hosted _ r => some r

/-- How log lines show a coordinate. -/
def text : Coordinate → String
  | attached s => s
  | hosted s r => s ++ " (" ++ r ++ ")"

end Coordinate

/-- What results say about the device that produced them: its `Coordinate`, its model and its API
level. -/
structure DeviceData where
  coordinate : Coordinate
  model : String
  api : UInt32
  deriving DecidableEq

/-- The text of the serial of a device. -/
def DeviceData.serialText (d : DeviceData) : String :=
  d.coordinate.serial.value

end DeviceLab
