import DeviceLab.Event
import DeviceLab.Listing
import DeviceLab.Reservation

/-!
# Reservation of attached devices

Devices that are attached to the host are matched against reservations by API level and model. The
`Job` of a claim goes through the online devices of one listing in order: a device is given to the
first reservation for its kind that has a slot left (`Job.slotFor`), if the bridge resolves it and
it boots in time. What could not be given is warned about in the end (`Job.shortfall`). Nothing is
created, so there is nothing to delete on release.
-/

namespace DeviceLab.Local

/-! ### The job of a claim -/

/-- What a job waits for. -/
inductive Job.Stage
  /-- The listing of the bridge. -/
  | listing
  /-- The bridge to resolve a device; others follow. -/
  | looking (c : Coordinate) (rest : List Listing.Entry)
  /-- A device to boot that is meant for a reservation; others follow. -/
  | booting (c : Coordinate) (slot : Nat) (rest : List Listing.Entry)
  /-- Nothing: the job is done. -/
  | ended

/-- The job of a claim: the reservations, with the number of devices that each still lacks
(`slots`). -/
structure Job where
  slots : List (Reservation × UInt32)
  stage : Job.Stage := .listing

/-- What a move of a job lets out. -/
structure Job.Output where
  notices : List Notice := []
  handedOut : Option Coordinate := none

/-- The moves of a job. -/
inductive Job.Move
  /-- The bridge lists its devices. -/
  | listed (reply : Except LabError String)
  /-- The bridge resolves a device or not. -/
  | looked (reply : Except LabError DeviceData)
  /-- A device is ready or will not be; `open_` says whether anybody takes its coordinate. -/
  | booted (ready open_ : Bool)

namespace Job

/-- A job that has just started. -/
def start (reservations : List Reservation) : Job :=
  { slots := reservations.map fun r ↦ (r, r.count) }

/-- Whether a job is done. -/
def isOver (j : Job) : Bool :=
  match j.stage with
  | .ended => true
  | _ => false

/-- What is reported of reservations that lack devices in the end. -/
def shortfall (slots : List (Reservation × UInt32)) : List Notice :=
  (slots.filter fun s ↦ 0 < s.2).map fun s ↦
    .warn (toString s.2.toNat ++ " of " ++ toString s.1.count.toNat ++ " devices for " ++
      s.1.device.name ++ " are not available locally")

/-- The end of a job. -/
def finish (j : Job) (o : Output) : Job × Output :=
  ({ j with stage := .ended }, { o with notices := o.notices ++ shortfall j.slots })

/-- Goes on to the next device of the listing. -/
def next (j : Job) (o : Output) : List Listing.Entry → Job × Output
  | [] => j.finish o
  | e :: rest => ({ j with stage := .looking (.attached e.serial.value) rest }, o)

/-- The first reservation that asks for a kind of device and lacks one. -/
def slotFor (d : DeviceData) (slots : List (Reservation × UInt32)) : Option Nat :=
  slots.findIdx? fun s ↦ 0 < s.2 && s.1.device.api = d.api && s.1.device.model = d.model

/-- A device is given to a reservation. -/
def fill (j : Job) (slot : Nat) : Job :=
  { j with slots := j.slots.modify slot fun s ↦ (s.1, s.2 - 1) }

/-- The end of a job that could not list the devices. -/
def fail (j : Job) (e : LabError) : Job × Output :=
  ({ j with stage := .ended }, { notices := [.warn ("Local reservation failed: " ++ e.message)] })

/-- The listing has come, and the job turns to those of its entries that are online; a listing that
failed or that `Listing.parse` rejects ends the job. -/
def listed (j : Job) (reply : Except LabError String) : Option (Job × Output) :=
  match j.stage with
  | .listing =>
    match reply.bind Listing.parse with
    | .ok entries => some (j.next {} (entries.filter (·.online)))
    | .error e => some (j.fail e)
  | _ => none

/-- The bridge has answered for the coordinate that is looked at: a device that a reservation lacks
(`slotFor`) is booted, any other is passed over. -/
def looked (j : Job) (reply : Except LabError DeviceData) : Option (Job × Output) :=
  match j.stage with
  | .looking c rest =>
    match reply with
    | .error e =>
      some (j.next { notices :=
        [.warn ("Can't address local device " ++ c.text ++ ": " ++ e.message)] } rest)
    | .ok d =>
      match slotFor d j.slots with
      | some slot => some ({ j with stage := .booting c slot rest }, {})
      | none => some (j.next {} rest)
  | _ => none

/-- A device that is ready is assigned (`fill`) and handed out, unless nobody receives any more:
then the job finishes with what it has. One that is not ready is skipped. -/
def booted (j : Job) (ready open_ : Bool) : Option (Job × Output) :=
  match j.stage with
  | .booting c slot rest =>
    if !ready then
      some (j.next { notices :=
        [.warn ("Local device " ++ c.text ++ " did not boot, skipping")] } rest)
    else if open_ then some ((j.fill slot).next { handedOut := some c } rest)
    else some ((j.fill slot).finish {})
  | _ => none

/-- What a move makes of a job, and what it lets out. -/
def step (j : Job) : Move → Option (Job × Output)
  | .listed reply => j.listed reply
  | .looked reply => j.looked reply
  | .booted ready open_ => j.booted ready open_

end Job

/-! ### The client -/

/-- A client is idle, or it has the `Job` of one claim, which may be done already. -/
inductive Client
  | idle
  | reserving (job : Job)

namespace Client

/-- Starts a claim. -/
def claim (reservations : List Reservation) : Client → Except LabError Client
  | idle => .ok (reserving (.start reservations))
  | reserving _ => .error .alreadyReserving

/-- Ends a claim; its job is aborted. -/
def release : Client → Except LabError (Client × List Notice)
  | idle => .error .notReserving
  | reserving _ => .ok (idle, [.info "Local reservation released"])

end Client

end DeviceLab.Local
