import DeviceLab.Channel
import DeviceLab.Device.Coordinate
import DeviceLab.Error

/-!
# Pools

A `Pool` is a reservation client that hands out the coordinates that are pushed into it. Its first
claim gets the stream of all coordinates; later claims get a stream that has ended already
(`Pool.claim`).
-/

namespace DeviceLab.Simulation

/-- Who holds the stream of a claim. -/
inductive Owner
  | session (n : Nat)
  | hand
  | nobody
  deriving DecidableEq

/-- A pool: the verdicts that it has given, the resources that it was asked to remove, and its
stream as long as nobody has claimed it. -/
structure Pool where
  reserving : Bool := false
  claims : Nat := 0
  releases : Nat := 0
  removed : List String := []
  stream : Channel Coordinate := .unbounded
  owner : Option Owner := none

namespace Pool

/-- Claims a pool; the claim comes with its stream, in whose favour the owner gives up the one that
it held. -/
def claim (p : Pool) (owner : Owner) : Except LabError (Pool × Channel Coordinate) :=
  if p.reserving then .error .alreadyReserving
  else
    let q := { p with reserving := true, claims := p.claims + 1 }
    match p.owner with
    | none => .ok ({ q with owner := some owner, stream := {} }, p.stream)
    | some o =>
      .ok ({ q with owner := some (if o = owner then .nobody else o) }, { receiving := true })

/-- Releases a pool. -/
def release (p : Pool) : Except LabError Pool :=
  if p.reserving then .ok { p with reserving := false, releases := p.releases + 1 }
  else .error .notReserving

/-- Takes note of a resource to remove. -/
def remove (p : Pool) (name : String) : Pool :=
  { p with removed := p.removed ++ [name] }

end Pool

end DeviceLab.Simulation
