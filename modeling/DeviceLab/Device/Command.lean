import DeviceLab.Run

/-!
# Device commands

What a worker asks a device to do (`Command`), and what can come of it (`Answer`). A command
returns, fails with an error, or panics; a panic carries a text if the device gave one
(`panicText`).
-/

namespace DeviceLab

/-- Whether a device accepts commands. A frozen device never recovers. -/
inductive Health
  | alive
  | frozen (reason : String)
  deriving DecidableEq

/-- How messages show the health of a device. -/
def Health.text : Health → String
  | alive => "alive"
  | frozen reason => "Freeze. Reason: " ++ reason

/-- A completed installation; times are milliseconds since the epoch. -/
structure Installation where
  path : String
  started : UInt64
  completed : UInt64
  deriving DecidableEq

/-- A command of a worker to its device. -/
inductive Command
  | status
  | install (path : String)
  | clear (package : String)
  | run (action : TestAction)
  deriving DecidableEq

/-- What came of calling a device. -/
inductive Answer (α : Type)
  | returned (a : α)
  | failed (e : LabError)
  | panicked (message : Option String)

/-- The text of a panic. -/
def panicText (message : Option String) : String :=
  message.getD "unknown panic"

/-- How the end of a task by a panic is told. -/
def taskPanicText (task : Nat) (message : Option String) : String :=
  let text := "task " ++ toString task ++ " panicked"
  match message with
  | some m => text ++ " with message " ++ Text.quoted m
  | none => text

end DeviceLab
