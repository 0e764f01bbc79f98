import DeviceLab.Config
import DeviceLab.Json.Form

/-!
# Objects with defaults

In settings that are written by hand every part may be left out (`part?`); one that is null counts
as left out too (`given?`). A part that is there has to have its form, and a few have to be there
(`required?`).
-/

namespace DeviceLab.Json

/-! ### More plain values -/

instance : Form Json where
  write := id
  read? := some

instance : Form Bool where
  write := .bool
  read?
    | .bool b => some b
    | _ => none

instance : Form UInt16 where
  write n := .nat n.toNat
  read? j := (natBelow? UInt16.size j).map UInt16.ofNat

/-- Settings are numbers of 64 bits. -/
instance : Form Nat where
  write := .nat
  read? := natBelow? UInt64.size

instance [Form α] [Form β] : Form (α × β) where
  write p := .list [write p.1, write p.2]
  read?
    | .list [a, b] => do return (← read? a, ← read? b)
    | _ => none

/-! ### Parts -/

/-- A part of an object that is neither missing nor null. -/
def given? (j : Json) (key : String) : Option Json :=
  match j.field? key with
  | some .null => none
  | part => part

/-- A part that may be left out. -/
def part? [Form α] (j : Json) (key : String) : Option (Option α) :=
  match j.given? key with
  | none => some none
  | some part => (read? part).map some

/-- A part that stands for a default when it is left out. -/
def partD [Form α] (j : Json) (key : String) (default : α) : Option α :=
  match j.given? key with
  | none => some default
  | some part => read? part

/-- A part that must not be left out. -/
def required? [Form α] (j : Json) (key : String) : Option α :=
  (j.given? key).bind read?

/-- A list that is empty when it is left out. -/
def partList (j : Json) (key : String) : Option (List Json) :=
  j.partD key []

/-! ### Configurations -/

/-- The configuration with some settings in place of the defaults. -/
def config? (j : Json) : Option Config := do
  let d : Config := {}
  return {
    podsQueryInterval := ← j.partD "pods_query_interval_ms" d.podsQueryInterval
    deploymentCreationTimeout :=
      ← j.partD "deployment_creation_timeout_ms" d.deploymentCreationTimeout
    bootTimeout := ← j.partD "boot_timeout_ms" d.bootTimeout
    deploymentPrefix := ← j.partD "deployment_prefix" d.deploymentPrefix
    remoteBridgePort := ← j.partD "remote_bridge_port" d.remoteBridgePort
    routerCapacity := ← j.partD "router_capacity" d.routerCapacity
    workerShutdownTimeout := ← j.partD "worker_shutdown_timeout_ms" d.workerShutdownTimeout
    sessionTimeout := ← j.part? "session_timeout_ms"
    outputDir := ← j.partD "output_dir" d.outputDir }

end DeviceLab.Json
