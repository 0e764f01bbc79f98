import DeviceLab.Listing
import DeviceLab.Simulation.Device

/-!
# Scripted bridges

A `Bridge` resolves serials to scripted devices (`Bridge.resolve`). A serial that it does not know
is looked up in a shelf of further devices, which may make the device on demand (`Factory`). The
shelf is also what it lists, if its script has no other output (`Bridge.output`).
-/

namespace DeviceLab.Simulation

/-- How a shelf makes the devices that are missing. -/
structure Factory where
  api : UInt32 := 29
  model : String := "pixel"
  boots : Bool := true

/-- A bridge: devices by serial, a shelf of further ones, and how they are listed. -/
structure Bridge where
  devices : List (String × Device) := []
  shelf : List (String × Device) := []
  factory : Option Factory := none
  listing : Option String := none
  listError : Option String := none

namespace Bridge

/-- Devices with another one, which takes the place of an earlier one with its serial. -/
def put (ds : List (String × Device)) (d : Device) : List (String × Device) :=
  if ds.any (·.1 = d.serial) then ds.map fun e ↦ if e.1 = d.serial then (d.serial, d) else e
  else ds ++ [(d.serial, d)]

/-- The bridge for lists of devices. -/
def ofDevices (devices shelf : List Device) : Bridge :=
  { devices := devices.foldl put [], shelf := shelf.foldl put [] }

/-- The device with a serial, if it exists. -/
def device? (b : Bridge) (serial : String) : Option Device :=
  (b.devices.lookup serial).or (b.shelf.lookup serial)

/-- The bridge with a device changed. -/
def set (b : Bridge) (d : Device) : Bridge :=
  if b.devices.any (·.1 = d.serial) then { b with devices := put b.devices d }
  else { b with shelf := put b.shelf d }

/-- Resolves a coordinate, making the device if need be. -/
def resolve (b : Bridge) (c : Coordinate) : Bridge × Except LabError Device :=
  match b.device? c.serial.value, b.factory with
  | some d, _ => (b, .ok d)
  | none, none => (b, .error (.deviceNotFound c.serial.value))
  | none, some f =>
    let d : Device := { coordinate := c, api := f.api, model := f.model, boots := f.boots }
    ({ b with shelf := put b.shelf d }, .ok d)

/-- What the bridge lists: an error, a given text, or the devices on its shelf. -/
def output (b : Bridge) : Except LabError String :=
  match b.listError, b.listing with
  | some m, _ => .error (.device "bridge" m)
  | none, some text => .ok text
  | none, none => .ok (Listing.render (b.shelf.map fun e ↦ (e.1, e.2.model)))

end Bridge

end DeviceLab.Simulation
