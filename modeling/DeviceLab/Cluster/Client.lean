import DeviceLab.Cluster.Claim
import DeviceLab.Cluster.Release

/-!
# The client of a cluster

A `Client` runs at most one claim at a time. A release (`Client.release`) first aborts everything
that the claim still does; the client is idle again when all its deployments are wound up
(`Client.settle`). Calls that arrive while a release is under way have to wait for it.
-/

namespace DeviceLab.Cluster

/-- Where a client stands. -/
inductive Client
  | idle
  | reserving (deployments : List String) (claim : Claim)
  | releasing (release : Release)

namespace Client

/-- Deployments for reservations, named after as many identifiers (`Deployment.ofReservation`). -/
def deployments (config : Config) (ids : List Uuid) (reservations : List Reservation) :
    List Deployment :=
  List.zipWith (Deployment.ofReservation config.deploymentPrefix) ids reservations

/-- Starts a claim. -/
def claim (config : Config) (ids : List Uuid) (reservations : List Reservation) :
    Client → Option (Except LabError (Client × List Notice))
  | idle =>
    let ds := deployments config ids reservations
    some (.ok (reserving (ds.map (·.name)) (.start config ds),
      [.info ("Reservation started for " ++ toString reservations.length ++ " deployments")]))
  | reserving _ _ => some (.error .alreadyReserving)
  | releasing _ => none

/-- Starts to release. -/
def release (config : Config) : Client → Option (Except LabError Client)
  | idle => some (.error .notReserving)
  | reserving names _ => some (.ok (releasing (.start config names)))
  | releasing _ => none

/-- A release that is over leaves the client idle. -/
def settle : Client → Option (Client × List Notice)
  | releasing r => if r.isOver then some (idle, [.info "Reservation released"]) else none
  | _ => none

/-- What is reported of a pod that was to be removed. -/
def removalNotices (pod : String) : Except LabError Bool → List Notice
  | .ok _ => []
  | .error e => [.warn ("Failed to delete pod " ++ pod ++ ": " ++ e.message)]

/-- Whether a claim is running. -/
def isReserving : Client → Bool
  | reserving _ _ => true
  | _ => false

end Client

end DeviceLab.Cluster
