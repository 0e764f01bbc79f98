import DeviceLab.Config
import DeviceLab.Toml.Reader

/-!
# Configuration documents

A configuration is read from a TOML document (`Config.ofDocument`). A key that the document leaves
out keeps its default, other keys are passed over, and a value of the wrong kind or out of range
makes the document unreadable (`Config.ofEntries?`). What was read is validated (`Config.validate`).
-/

namespace DeviceLab.Config

/-- The value of a setting: what `read` makes of the item under a key, and the default without
it. -/
def setting (read : Toml.Item → Option α) (default : α) (es : Toml.Entries) (key : String) :
    Option α :=
  match es.lookup key with
  | none => some default
  | some item => read item

/-- A natural number below a bound. -/
def below? (bound : Nat) (item : Toml.Item) : Option Nat := do
  let n ← item.integer?
  if 0 ≤ n && n < bound then some n.toNat else none

/-- A count of 64 bits. -/
def count? (item : Toml.Item) : Option UInt64 :=
  (below? UInt64.size item).map UInt64.ofNat

/-- The settings under the top-level keys of a document. -/
def ofEntries? (es : Toml.Entries) : Option Config := do
  let d : Config := {}
  return {
    podsQueryInterval := ← setting count? d.podsQueryInterval es "pods_query_interval_ms"
    deploymentCreationTimeout :=
      ← setting count? d.deploymentCreationTimeout es "deployment_creation_timeout_ms"
    bootTimeout := ← setting count? d.bootTimeout es "boot_timeout_ms"
    deploymentPrefix := ← setting Toml.Item.text? d.deploymentPrefix es "deployment_prefix"
    remoteBridgePort := ← setting (fun i ↦ (below? UInt16.size i).map UInt16.ofNat)
      d.remoteBridgePort es "remote_bridge_port"
    routerCapacity := ← setting count? d.routerCapacity es "router_capacity"
    workerShutdownTimeout :=
      ← setting count? d.workerShutdownTimeout es "worker_shutdown_timeout_ms"
    sessionTimeout := ← setting (fun i ↦ (count? i).map some) d.sessionTimeout es
      "session_timeout_ms"
    outputDir := ← setting Toml.Item.text? d.outputDir es "output_dir" }

/-- The valid configuration that a document describes. -/
def ofDocument (source : String) : Except LabError Config := do
  let some c := (Toml.parse source).bind ofEntries?
    | throw (.configUnreadable "the document does not describe a configuration")
  c.validate
  return c

end DeviceLab.Config
