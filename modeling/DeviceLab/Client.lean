import DeviceLab.Scheduler

/-!
# The execution client

The client turns attempts into intentions (`Client.take`) and what came of intentions back into
outcomes of requests (`Client.resolve`). It remembers which request every intention in flight is
for; a result for any other intention is dropped. While it waits to hand an intention on, in the
stage `holding`, it reads nothing.
-/

namespace DeviceLab

/-- What came of an intention. -/
structure IntentionResult where
  intention : Intention
  run : DeviceRun

/-- Where the client stands: it is `reading`, or it is `holding` an intention that it cannot hand on
yet. -/
inductive Client.Stage
  | off
  | reading
  | holding (intention : Intention)

/-- The client: where it stands, whether attempts may still come, and the request of every intention
in flight, by its identifier (`inFlight`). -/
structure Client where
  stage : Client.Stage := .off
  attemptsOpen : Bool := true
  inFlight : List (Uuid × Uuid) := []

namespace Client

/-- A client that has just started. -/
def start : Client :=
  { stage := .reading }

/-- Makes an intention out of an attempt. -/
def take (c : Client) (id : Uuid) (a : Attempt) : Client :=
  let i := Intention.ofRequest id a.request a.execution
  { c with stage := .holding i, inFlight := c.inFlight ++ [(i.id, a.request.id)] }

/-- The intention was handed on. -/
def handed (c : Client) : Client :=
  { c with stage := .reading }

/-- No attempts will come any more. -/
def attemptsEnded (c : Client) : Client :=
  { c with attemptsOpen := false }

/-- Finds the request that a result is for. -/
def resolve (c : Client) (r : IntentionResult) : Client × Option AttemptOutcome × List Notice :=
  match c.inFlight.lookup r.intention.id with
  | some request =>
    ({ c with inFlight := c.inFlight.filter (·.1 ≠ r.intention.id) }, some ⟨request, r.run⟩, [])
  | none => (c, none, [.warn ("Result for unknown intention " ++ r.intention.text)])

end Client

end DeviceLab
