import DeviceLab.Device.Command
import DeviceLab.Json
import DeviceLab.Reservation
import DeviceLab.Run

/-!
# JSON forms

How the values of this library are written as JSON and read back, an instance of `Form` for each
type. A record is an object with one field for each of its parts; it is also read from a list of its
parts in order (`record?`). Fields that nobody asks for are passed over, a repeated field makes a
record unreadable, and a missing one does too (`need`) unless its part is `optional`. A variant
without data is a string with its tag, one with data an object with its tag as only key
(`variant?`). Nothing is checked beyond kinds and ranges (`natBelow?`): a digest is taken as it
comes.
-/

namespace DeviceLab

/-- Types with a JSON form. -/
class Form (α : Type) where
  write : α → Json
  read? : Json → Option α

namespace Json

export Form (write read?)

/-! ### Plain values -/

instance : Form String where
  write s := .text (some s)
  read?
    | .text (some s) => some s
    | _ => none

/-- The natural number that a value is. -/
def nat? : Json → Option Nat
  | .num ⟨false, n, true⟩ => some n
  | _ => none

/-- The natural number below a bound that a value is. -/
def natBelow? (bound : Nat) (j : Json) : Option Nat :=
  (nat? j).filter (· < bound)

instance : Form UInt32 where
  write n := .nat n.toNat
  read? j := (natBelow? UInt32.size j).map UInt32.ofNat

instance : Form UInt64 where
  write n := .nat n.toNat
  read? j := (natBelow? UInt64.size j).map UInt64.ofNat

instance [Form α] : Form (Option α) where
  write
    | none => .null
    | some a => write a
  read?
    | .null => some none
    | j => (read? j).map some

instance [Form α] : Form (List α) where
  write as := .list (as.map write)
  read?
    | .list js => js.mapM read?
    | _ => none

instance : Form Uuid where
  write u := write u.text
  read? j := (read? j).bind Uuid.ofText?

/-- The key and the text of a field of a map. -/
def entry? (f : Option String × Json) : Option (String × String) := do
  return (← f.1, ← read? f.2)

instance : Form Params where
  write ps := fields (ps.entries.map fun e ↦ (e.1, write e.2))
  read?
    | .object fs => (fs.mapM entry?).map Params.ofList
    | _ => none

/-! ### Records and variants -/

/-- The parts of a record, in the order of their names; a part is `none` if its field is missing.
Every key has to be a text, also one that nobody asks for. -/
def record? (names : List String) : Json → Option (List (Option Json))
  | .object fs =>
    if fs.any fun f ↦ f.1.isNone then none
    else names.mapM fun name ↦
      match valuesOf name fs with
      | [] => some none
      | [j] => some (some j)
      | _ => none
  | .list js => if js.length = names.length then some (js.map some) else none
  | _ => none

/-- A part that has to be there. -/
def need [Form α] (part : Option Json) : Option α :=
  part.bind read?

/-- An optional part: missing is the same as absent. -/
def optional [Form α] (part : Option Json) : Option (Option α) :=
  match part with
  | none => some none
  | some j => read? j

/-- The tag of a variant and what comes with it. -/
def variant? : Json → Option (String × Option Json)
  | .text (some tag) => some (tag, none)
  | .object [(some tag, j)] => some (tag, some j)
  | _ => none

/-- Whether what comes with the tag of a variant without data says nothing. -/
def isUnit : Option Json → Bool
  | none => true
  | some .null => true
  | _ => false

instance : Form Span where
  write s := fields [("secs", write s.seconds), ("nanos", .nat s.nanos)]
  read? j := do
    let fits := match j with
      | .object fs => fs.all fun f ↦ f.1 = some "secs" || f.1 = some "nanos"
      | _ => true
    let [secs, nanos] ← record? ["secs", "nanos"] j | none
    let nanos : UInt32 ← need nanos
    if fits then Span.carry? (← need secs) nanos.toNat else none

/-! ### Devices -/

instance : Form Serial where
  write
    | .attached v => tagged "Local" (write v)
    | .remote v => tagged "Remote" (write v)
  read? j := do
    match ← variant? j with
    | ("Local", part) => return .attached (← need part)
    | ("Remote", part) => return .remote (← need part)
    | _ => none

instance : Form Coordinate where
  write
    | .attached s => tagged "Local" (fields [("serial", write s)])
    | .hosted s r => tagged "Cluster" (fields [("serial", write s), ("resource_name", write r)])
  read? j := do
    match ← variant? j with
    | ("Local", some part) =>
      let [s] ← record? ["serial"] part | none
      return .attached (← need s)
    | ("Cluster", some part) =>
      let [s, r] ← record? ["serial", "resource_name"] part | none
      return .hosted (← need s) (← need r)
    | _ => none

instance : Form DeviceData where
  write d := fields
    [("coordinate", write d.coordinate), ("model", write d.model), ("api", write d.api)]
  read? j := do
    let [coordinate, model, api] ← record? ["coordinate", "model", "api"] j | none
    return ⟨← need coordinate, ← need model, ← need api⟩

instance : Form Layer where
  write
    | .apiLevel api => tagged "ApiLevel" (fields [("api", write api)])
    | .model name => tagged "Model" (fields [("model", write name)])
    | .application path package => tagged "InstalledApplication"
        (fields [("application_path", write path), ("application_package", write package)])
  read? j := do
    match ← variant? j with
    | ("ApiLevel", some part) =>
      let [api] ← record? ["api"] part | none
      return .apiLevel (← need api)
    | ("Model", some part) =>
      let [name] ← record? ["model"] part | none
      return .model (← need name)
    | ("InstalledApplication", some part) =>
      let [path, package] ← record? ["application_path", "application_package"] part | none
      return .application (← need path) (← need package)
    | _ => none

instance : Form DeviceState where
  write s := fields [("layers", write s.layers), ("digest", write s.digest)]
  read? j := do
    let [layers, digest] ← record? ["layers", "digest"] j | none
    return ⟨← need layers, ← need digest⟩

instance : Form Installation where
  write i := fields
    [("application_path", write i.path), ("timestamp_started_ms", write i.started),
     ("timestamp_completed_ms", write i.completed)]
  read? j := do
    let [path, started, completed] ←
      record? ["application_path", "timestamp_started_ms", "timestamp_completed_ms"] j | none
    return ⟨← need path, ← need started, ← need completed⟩

/-! ### Requests and intentions -/

instance : Form TestCase where
  write t := fields
    [("class_name", write t.className), ("method_name", write t.methodName),
     ("device_name", write t.deviceName)]
  read? j := do
    let [c, m, d] ← record? ["class_name", "method_name", "device_name"] j | none
    return ⟨← need c, ← need m, ← need d⟩

instance : Form DeviceProfile where
  write p := fields
    [("name", write p.name), ("api", write p.api), ("model", write p.model),
     ("image", write p.image)]
  read? j := do
    let [name, api, model, image] ← record? ["name", "api", "model", "image"] j | none
    return ⟨← need name, ← need api, ← need model, ← optional image⟩

instance : Form Reservation where
  write r := fields [("count", write r.count), ("device", write r.device)]
  read? j := do
    let [count, device] ← record? ["count", "device"] j | none
    return ⟨← need count, ← need device⟩

instance : Form Application where
  write a := fields [("path", write a.path), ("package", write a.package)]
  read? j := do
    let [path, package] ← record? ["path", "package"] j | none
    return ⟨← need path, ← need package⟩

instance : Form Request where
  write r := fields
    [("id", write r.id), ("test_case", write r.testCase), ("target", write r.target),
     ("application", write r.application), ("test_application", write r.testApplication),
     ("instrumentation_params", write r.params), ("max_attempts", write r.maxAttempts),
     ("timeout", write r.timeout)]
  read? j := do
    let [id, testCase, target, application, testApplication, params, maxAttempts, timeout] ←
      record? ["id", "test_case", "target", "application", "test_application",
        "instrumentation_params", "max_attempts", "timeout"] j | none
    return ⟨← need id, ← need testCase, ← need target, ← optional application,
      ← need testApplication, ← need params, ← need maxAttempts, ← need timeout⟩

instance : Form TestAction where
  write a := fields
    [("test", write a.test), ("test_package", write a.testPackage),
     ("target_package", write a.targetPackage), ("instrumentation_params", write a.params),
     ("execution_number", write a.execution), ("timeout", write a.timeout)]
  read? j := do
    let [test, testPackage, targetPackage, params, execution, timeout] ←
      record? ["test", "test_package", "target_package", "instrumentation_params",
        "execution_number", "timeout"] j | none
    return ⟨← need test, ← need testPackage, ← need targetPackage, ← need params,
      ← need execution, ← need timeout⟩

instance : Form Intention where
  write i := fields [("id", write i.id), ("state", write i.state), ("action", write i.action)]
  read? j := do
    let [id, state, action] ← record? ["id", "state", "action"] j | none
    return ⟨← need id, ← need state, ← need action⟩

/-! ### Runs -/

instance : Form Failure where
  write
    | .inRun m => tagged "InRun" (fields [("message", write m)])
    | .infrastructure m => tagged "InfrastructureError" (fields [("message", write m)])
  read? j := do
    let (tag, some part) ← variant? j | none
    let [m] ← record? ["message"] part | none
    if tag = "InRun" then return .inRun (← need m)
    else if tag = "InfrastructureError" then return .infrastructure (← need m)
    else none

instance : Form Outcome where
  write
    | .passed => .str "Passed"
    | .ignored => .str "Ignored"
    | .failed why => tagged "Failed" (write why)
  read? j := do
    match ← variant? j with
    | ("Passed", part) => if isUnit part then some .passed else none
    | ("Ignored", part) => if isUnit part then some .ignored else none
    | ("Failed", part) => return .failed (← need part)
    | _ => none

instance : Form TestRun where
  write r := fields
    [("test", write r.test), ("result", write r.outcome),
     ("timestamp_started_ms", write r.started), ("timestamp_completed_ms", write r.completed)]
  read? j := do
    let [test, outcome, started, completed] ←
      record? ["test", "result", "timestamp_started_ms", "timestamp_completed_ms"] j | none
    return ⟨← need test, ← need outcome, ← need started, ← need completed⟩

instance : Form DeviceRun where
  write r := fields [("test_case_run", write r.run), ("device", write r.device)]
  read? j := do
    let [run, device] ← record? ["test_case_run", "device"] j | none
    return ⟨← need run, ← need device⟩

instance : Form Report where
  write r := fields [("request", write r.request), ("result", write r.runs)]
  read? j := do
    let [request, runs] ← record? ["request", "result"] j | none
    return ⟨← need request, ← need runs⟩

end Json

end DeviceLab
