import DeviceLab.Device.Coordinate
import DeviceLab.Error
import DeviceLab.Text.Blank
import DeviceLab.Text.Digits

/-!
# Device listings

The bridge lists its devices one on a line: the serial, the state of the connection (`online?`) and
properties with a tag in front, of which the model is of interest (`entry?`). A listing starts after
a `header`; lines that start with an asterisk are remarks, and devices in other states than
`device`, `online` and `offline` are passed over. `parse` reads the output of a bridge, and `find?`
looks for one serial in it; `render` writes what `parse` reads.
-/

namespace DeviceLab.Listing

open Text

/-- One device of a listing. -/
structure Entry where
  serial : Serial
  model : String
  online : Bool
  deriving DecidableEq

/-- The line in front of the devices. -/
def header : List Char :=
  "List of devices attached".toList

/-- What a listing says when the bridge is unreachable. -/
def unreachable : List Char :=
  "cannot connect to daemon".toList

/-! ### Serials -/

/-- Whether a text is a decimal port number, perhaps with a plus sign. -/
def isPort (cs : List Char) : Bool :=
  let ds := match cs with
    | '+' :: ds => ds
    | ds => ds
  match number? 10 ds with
  | some n => n < UInt16.size
  | none => false

/-- A serial that ends in a colon and a port after a host is a remote one (`isPort`). -/
def classify (raw : String) : Serial :=
  match splitLast? ':' raw.toList with
  | some (host, port) => if !host.isEmpty && isPort port then .remote raw else .attached raw
  | none => .attached raw

/-! ### Reading -/

/-- Whether the devices in a state of connection are taken, and whether they accept commands. -/
def online? (state : String) : Option Bool :=
  if state = "device" || state = "online" then some true
  else if state = "offline" then some false
  else none

/-- The text after a tag. -/
def untag? (tag word : List Char) : Option String :=
  if tag.isPrefixOf word then some (String.ofList (word.drop tag.length)) else none

/-- The device on a line. -/
def entry? (line : List Char) : Option Entry :=
  match words line with
  | raw :: state :: rest => do
    let online ← online? (String.ofList state)
    let model := (rest.findSome? (untag? "model:".toList)).getD ""
    return ⟨classify (String.ofList raw), model, online⟩
  | _ => none

/-- The lines of a listing that may hold a device: those after the `header`, or all if there is
none, without blanks around them, remarks and empty ones. -/
def deviceLines (output : List Char) : List (List Char) :=
  ((lines ((afterFirst? header output).getD output)).map trim).filter fun l ↦
    !l.isEmpty && l.head? ≠ some '*'

/-- Adds an entry unless its serial is listed already. -/
def addNew (known : List Entry) (e : Entry) : List Entry :=
  if known.any (·.serial = e.serial) then known else known ++ [e]

/-- The devices of a listing in order, each serial once (`addNew`). -/
def parse (output : String) : Except LabError (List Entry) :=
  if occursIn unreachable output.toList then
    .error (.listingUnreadable ("Cannot connect to bridge daemon:\n" ++ output))
  else .ok (((deviceLines output.toList).filterMap entry?).foldl addNew [])

/-- The device of a listing (`parse`) with the value of a serial, whatever its kind. -/
def find? (serial : Serial) (output : String) : Except LabError (Option Entry) :=
  (parse output).map fun es ↦ es.find? (·.serial.value = serial.value)

/-! ### Writing -/

/-- The line for a device that accepts commands. -/
def line (serial model : String) : String :=
  serial ++ "\tdevice model:" ++ model ++ "\n"

/-- The listing of devices that accept commands, by serial and model. -/
def render (devices : List (String × String)) : String :=
  devices.foldl (fun text d ↦ text ++ line d.1 d.2) (String.ofList (header ++ ['\n']))

end DeviceLab.Listing
