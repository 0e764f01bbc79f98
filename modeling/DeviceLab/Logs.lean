import DeviceLab.Device.Coordinate
import DeviceLab.Error
import DeviceLab.Text.Blank

/-!
# Log files

A `Reporter` keeps the logs of emulators in one folder, the log of the container (`emulatorFile`)
and the dump of the device log (`logcatFile`) in files named after the serial of the device. Serials
hold characters that file names must not, so each of these is replaced by an underscore
(`sanitized`). A device whose log was asked for (`Reporter.redirect`) is remembered until it is
dumped, together with the log of its container (`Reporter.report`). Below are the folders and files
that this needs (`Files`).
-/

namespace DeviceLab.Logs

/-! ### Places -/

/-- A place as its parts, from the outermost folder inwards; the parts `..` lead out of the root. -/
abbrev Place := List String

/-- The folder around a place. -/
def Place.outer (place : Place) : Place :=
  if place.all (· = "..") then place ++ [".."] else place.dropLast

/-- Why a folder cannot be made or entered. -/
inductive Obstacle
  /-- A folder on the way is missing. -/
  | missing
  /-- There is something already. -/
  | taken
  /-- A name is none, or a plain file is in the way. -/
  | unusable
  deriving DecidableEq

/-! ### Files -/

/-- Plain files and folders under a root, which is a folder itself. -/
structure Files where
  entries : List (Place × String) := []
  folders : List Place := []
  /-- How many bytes the path to the root takes. -/
  rootBytes : Nat := 15

namespace Files

/-- The longest name of a file or folder, in bytes. -/
def maxNameBytes : Nat := 255

/-- The longest path that can be used, in bytes. -/
def maxPathBytes : Nat := 4095

/-- Whether a file or folder may have a name. -/
def isName (name : String) : Bool :=
  name.utf8ByteSize ≤ maxNameBytes && !name.toList.contains '\x00'

/-- Whether a path that is written from the root can be used. -/
def isPath (fs : Files) (path : String) : Bool :=
  fs.rootBytes + 1 + path.utf8ByteSize ≤ maxPathBytes && !path.toList.contains '\x00'

/-- Whether there is a folder at a place. -/
def isFolder (fs : Files) (place : Place) : Bool :=
  place.all (· = "..") || fs.folders.contains place

/-- Whether there is a plain file at a place. -/
def isFile (fs : Files) (place : Place) : Bool :=
  (fs.entries.lookup place).isSome

/-- The files that are under the root. -/
def inside (fs : Files) : List (Place × String) :=
  fs.entries.filter (·.1.head? ≠ some "..")

/-- Whether a part of a path leads nowhere else: an empty part or `.`. -/
def isIdle (part : String) : Bool :=
  part = "" || part = "."

/-- Goes on from a place by a part of a path. -/
def enter (fs : Files) (place : Place) (part : String) : Except Obstacle Place :=
  if isIdle part then .ok place
  else if part = ".." then .ok place.outer
  else if !isName part then .error .unusable
  else if fs.isFolder (place ++ [part]) then .ok (place ++ [part])
  else if fs.isFile (place ++ [part]) then .error .unusable
  else .error .missing

/-- The folder that the parts of a path lead to. -/
def walk (fs : Files) (parts : List String) : Except Obstacle Place :=
  parts.foldlM fs.enter []

/-- The parts of a path without those at the end that a test holds of. -/
def trimEnd (drop : String → Bool) (parts : List String) : List String :=
  (parts.reverse.dropWhile drop).reverse

/-- The parts of a path without the last one that leads somewhere. -/
def outerParts (parts : List String) : List String :=
  trimEnd isIdle (trimEnd isIdle parts).dropLast

/-- Makes a folder at the end of a path; dots name no new folder. -/
def make (fs : Files) (parts : List String) : Except Obstacle Files := do
  let parts := trimEnd (· = "") parts
  let place ← fs.walk parts.dropLast
  match parts.getLast? with
  | none => .error .taken
  | some name =>
    if name = "." || name = ".." then .error .taken
    else if !isName name then .error .unusable
    else if fs.isFolder (place ++ [name]) || fs.isFile (place ++ [name]) then .error .taken
    else .ok { fs with folders := fs.folders ++ [place ++ [name]] }

/-- What comes of an attempt to make a folder that may be there already (`make`). -/
def settled (fs : Files) (parts : List String) : Except Obstacle Files → Files × Bool
  | .ok fs => (fs, true)
  | .error .taken => (fs, (fs.walk parts).isOk)
  | .error _ => (fs, false)

/-- Makes the folder at the end of a path, and if one on the way is missing, that one first
(`outerParts`). -/
def makeAll : Nat → Files → List String → Files × Bool
  | 0, fs, _ => (fs, false)
  | fuel + 1, fs, parts =>
    match fs.make parts with
    | .error .missing =>
      match makeAll fuel fs (outerParts parts) with
      | (fs, true) => fs.settled parts (fs.make parts)
      | (fs, false) => (fs, false)
    | made => fs.settled parts made

/-- The parts of a written path. One that starts with a slash starts outside of the root. -/
def partsOf (path : String) : List String :=
  let parts := (Text.splitWhere (· == '/') path.toList).map String.ofList
  if path.toList.head? = some '/' then ".." :: parts else parts

/-- Makes sure that there is a folder at the end of a written path (`partsOf`, `makeAll`). -/
def reach (fs : Files) (path : String) : Files × Bool :=
  let parts := partsOf path
  if fs.isPath path then makeAll (parts.length + 1) fs parts else (fs, false)

/-- A name behind a written path. One that starts with a slash is a path of its own. -/
def joined (folder name : String) : String :=
  if name.toList.head? = some '/' then name
  else if folder = "" || folder.toList.getLast? = some '/' then folder ++ name
  else folder ++ "/" ++ name

/-- Whether a part of a path names something, and a file may have that name (`isName`). -/
def isFileName (part : String) : Bool :=
  !isIdle part && part ≠ ".." && isName part

/-- Puts a content into the file at the end of a written path; the folder of the file has to be
there. -/
def write (fs : Files) (path content : String) : Except LabError Files :=
  let parts := partsOf path
  match fs.walk parts.dropLast, parts.getLast? with
  | .ok folder, some name =>
    let place := folder ++ [name]
    if isFileName name && fs.isPath path && !fs.isFolder place then
      .ok { fs with entries := fs.entries.filter (·.1 ≠ place) ++ [(place, content)] }
    else .error (.inputOutput "invalid name")
  | _, _ => .error (.inputOutput "no such folder")

end Files

/-! ### Names -/

/-- Whether a character of a serial stays as it is in the name of a file. -/
def isPlain (c : Char) : Bool :=
  c.isAlphanum || c = '-' || c = '.'

/-- A serial as part of the name of a file. -/
def sanitized (serial : Serial) : String :=
  String.ofList (serial.value.toList.map fun c ↦ if isPlain c then c else '_')

/-- The name of the file for the log of a container. -/
def emulatorFile (serial : Serial) : String :=
  "emulator-" ++ sanitized serial ++ ".log"

/-- The name of the file for the dump of a device log, with the `sanitized` serial in it. -/
def logcatFile (serial : Serial) : String :=
  "logcat-" ++ sanitized serial ++ ".txt"

/-! ### The reporter -/

/-- A reporter with the path to its folder and the devices whose logs it was asked for, each under a
serial. -/
structure Reporter (Device : Type) where
  folder : String
  devices : List (Serial × Device) := []

/-- What a `Reporter` leaves behind, and whether all that it was asked for was done. -/
structure Reported (Device : Type) where
  reporter : Reporter Device
  files : Files
  result : Except LabError Unit

variable {Device : Type}

namespace Reporter

/-- The reporter without the device under a serial. -/
def forget (r : Reporter Device) (serial : Serial) : Reporter Device :=
  { r with devices := r.devices.filter (·.1 ≠ serial) }

/-- Goes on in the folder of the reporter, if there is one or can be (`Files.reach`). -/
def inFolder (r : Reporter Device) (fs : Files) (next : Files → Reported Device) :
    Reported Device :=
  match fs.reach r.folder with
  | (fs, true) => next fs
  | (fs, false) => ⟨r, fs, .error (.inputOutput "not a folder")⟩

/-- Asks for the log of a device, which takes the place of an earlier one under its serial. -/
def redirect (r : Reporter Device) (fs : Files) (serial : Serial) (device : Device) :
    Reported Device :=
  r.inFolder fs fun fs ↦
    ⟨{ r with devices := (r.forget serial).devices ++ [(serial, device)] }, fs, .ok ()⟩

/-- Stores the dump of the device under a serial, if its log was asked for. The device is forgotten
(`forget`). -/
def collect (r : Reporter Device) (fs : Files) (dump : Device → Except LabError String)
    (serial : Serial) : Reported Device :=
  match r.devices.lookup serial with
  | none => ⟨r, fs, .ok ()⟩
  | some device =>
    match (dump device).bind (fs.write (Files.joined r.folder (logcatFile serial))) with
    | .error e => ⟨r.forget serial, fs, .error e⟩
    | .ok fs => ⟨r.forget serial, fs, .ok ()⟩

/-- Stores the log of a container in its `emulatorFile`, and after it the dump of the device under
the same serial (`collect`). -/
def report (r : Reporter Device) (fs : Files) (dump : Device → Except LabError String)
    (serial : Serial) (log : String) : Reported Device :=
  r.inFolder fs fun fs ↦
    match fs.write (Files.joined r.folder (emulatorFile serial)) log with
    | .error e => ⟨r, fs, .error e⟩
    | .ok fs => r.collect fs dump serial

end Reporter

end DeviceLab.Logs
