import DeviceLab.Event

/-!
# The scheduler

The scheduler submits the first attempt of every request (`submit`), collects what comes of the
attempts, and decides after each whether the request is settled or needs another one (`receive`). It
is a machine that is fed outcomes; what it submits and what it settles are its outputs. When no
outcome can come any more it reports what it has of every request that is pending (`giveUp`).
-/

namespace DeviceLab

/-- An attempt that the scheduler wants made. -/
structure Attempt where
  request : Request
  execution : UInt32

/-- What came of one attempt of a request. -/
structure AttemptOutcome where
  request : Uuid
  run : DeviceRun

/-- A request that is not settled, with the runs so far. -/
structure Pending where
  request : Request
  runs : List DeviceRun

/-- Where the scheduler stands: it still has everything to submit, or it collects what comes of the
`Pending` ones. -/
inductive Scheduler
  | off
  | submitting (requests : List Request)
  | collecting (pending : List Pending)

namespace Scheduler

/-- What a step of the scheduler lets out. -/
structure Output where
  attempts : List Attempt := []
  reports : List Report := []
  notices : List Notice := []

/-- The unsettled request with an identifier. -/
def find? (id : Uuid) (pending : List Pending) : Option Pending :=
  pending.find? (·.request.id = id)

/-- The unsettled requests without the one with an identifier. -/
def erase (id : Uuid) (pending : List Pending) : List Pending :=
  pending.filter (·.request.id ≠ id)

/-- Puts an unsettled request in the place of the one with its identifier. -/
def put (p : Pending) (pending : List Pending) : List Pending :=
  if (find? p.request.id pending).isSome then
    pending.map fun q ↦ if q.request.id = p.request.id then p else q
  else pending ++ [p]

/-- Goes on collecting, unless nothing is left to settle. -/
def collect (pending : List Pending) (o : Output) : Scheduler × Output :=
  if pending.isEmpty then
    (.off, { o with notices := o.notices ++ [.info "All requests resolved"] })
  else (.collecting pending, o)

/-- Submits the first attempts; `open_` says whether somebody takes them. -/
def submit (requests : List Request) (open_ : Bool) : Scheduler × Output :=
  if !open_ && !requests.isEmpty then
    (.off, { notices := [.warn "Client stopped before all requests were submitted"] })
  else collect (requests.foldl (fun ps r ↦ put ⟨r, []⟩ ps) [])
    { attempts := requests.map fun r ↦ ⟨r, 1⟩ }

/-- What comes of an outcome: another attempt (`nextAttempt`), or a settled request. -/
def receive (pending : List Pending) (o : AttemptOutcome) (open_ : Bool) : Scheduler × Output :=
  match find? o.request pending with
  | none => (.collecting pending,
      { notices := [.warn ("Outcome for unknown request " ++ o.request.text)] })
  | some p =>
    let p := { p with runs := p.runs ++ [o.run] }
    match nextAttempt p.request.maxAttempts p.runs with
    | some n =>
      if open_ then (.collecting (put p pending), { attempts := [⟨p.request, n⟩] })
      else (.off,
        { notices := [.warn ("Client stopped, can't retry request " ++ o.request.text)] })
    | none => collect (erase o.request pending) { reports := [⟨p.request, p.runs⟩] }

/-- The end when no outcome will come any more. -/
def giveUp (pending : List Pending) : Scheduler × Output :=
  (.off, { notices :=
    [.warn ("Client closed with " ++ toString pending.length ++ " unresolved requests")] })

end Scheduler

end DeviceLab
