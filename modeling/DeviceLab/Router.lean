import DeviceLab.Request

/-!
# The intentions router

A bounded queue that workers pull from. A worker takes the oldest intention that its state can reach
(`takeMatching`), so the order of submission is kept among intentions with the same demands on the
device.

Whoever cannot go on *parks*: a sender while the queue is full (`Router.offer`), a taker while the
queue holds nothing for it (`Router.ask`). Parked operations are woken, not served: they try again
(`Router.retrySend`, `Router.retryTake`) and may park again, at the end. Takers are woken all at
once by every intention that joins the queue (`wakeTakes`). Senders are woken one at a time by every
intention that leaves it (`wakeSend`), and a wake-up with nobody to wake is kept as a single
*permit* for the next one that would park. A sender that gives up after it was woken passes the
wake-up on (`Router.abandonSend`). Closing wakes everybody (`Router.close`).
-/

namespace DeviceLab

/-! ### The queue -/

/-- Why a parked sender may try again. -/
inductive Wake
  | asleep
  | alone
  | together
  deriving DecidableEq

/-- A sender that waits for room. -/
structure ParkedSend where
  id : Nat
  intention : Intention
  wake : Wake

/-- A taker that waits for an intention that its state can reach (`DeviceState.canReach`). -/
structure ParkedTake where
  id : Nat
  state : DeviceState
  woken : Bool

/-- The queue with the operations that wait for it. -/
structure Router where
  capacity : Nat
  queue : List Intention := []
  closed : Bool := false
  takes : List ParkedTake := []
  sends : List ParkedSend := []
  permit : Bool := false

/-- What comes of an attempt to send. -/
inductive SendResult
  | accepted
  | refused
  | parked
  deriving DecidableEq

/-- What comes of an attempt to take. -/
inductive TakeResult
  | delivered (intention : Intention)
  | exhausted
  | parked

namespace Router

/-- The oldest intention that a state can reach (`DeviceState.canReach`), and the queue without
it. -/
def takeMatching (state : DeviceState) : List Intention → Option (Intention × List Intention)
  | [] => none
  | i :: rest =>
    if state.canReach i.state then some (i, rest)
    else (takeMatching state rest).map fun r ↦ (r.1, i :: r.2)

/-! ### Waking -/

/-- Lets every parked taker try again. -/
def wakeTakes (r : Router) : Router :=
  { r with takes := r.takes.map fun t ↦ { t with woken := true } }

/-- Wakes the first sender that is asleep. -/
def wakeFirst : List ParkedSend → List ParkedSend
  | [] => []
  | s :: rest =>
    if s.wake = .asleep then { s with wake := .alone } :: rest else s :: wakeFirst rest

/-- Lets one parked sender try again; without one the wake-up is kept as a `permit`. -/
def wakeSend (r : Router) : Router :=
  if r.sends.any (·.wake = .asleep) then { r with sends := wakeFirst r.sends }
  else { r with permit := true }

/-- Lets every parked sender try again. -/
def wakeSends (r : Router) : Router :=
  { r with
    sends := r.sends.map fun s ↦ if s.wake = .asleep then { s with wake := .together } else s }

/-! ### Operations -/

/-- Tries to send: into a closed router nothing goes, into a full one not yet. A sender that parks
uses up the `permit`, since it tried again on its account. -/
def offer (r : Router) (id : Nat) (i : Intention) : SendResult × Router :=
  if r.closed then (.refused, r)
  else if r.queue.length < r.capacity then
    (.accepted, wakeTakes { r with queue := r.queue ++ [i] })
  else (.parked, { r with sends := r.sends ++ [⟨id, i, .asleep⟩], permit := false })

/-- Tries to take what a state can reach (`takeMatching`). A closed router that holds nothing for a
state never will. -/
def ask (r : Router) (id : Nat) (state : DeviceState) : TakeResult × Router :=
  match takeMatching state r.queue with
  | some (i, queue) => (.delivered i, wakeSend { r with queue := queue })
  | none =>
    if r.closed then (.exhausted, r)
    else (.parked, { r with takes := r.takes ++ [⟨id, state, false⟩] })

/-- The parked sender with an identity. -/
def parkedSend? (r : Router) (id : Nat) : Option ParkedSend :=
  r.sends.find? (·.id = id)

/-- The parked taker with an identity. -/
def parkedTake? (r : Router) (id : Nat) : Option ParkedTake :=
  r.takes.find? (·.id = id)

/-- The router without a parked sender. -/
def dropSend (r : Router) (id : Nat) : Router :=
  { r with sends := r.sends.filter (·.id ≠ id) }

/-- The router without a parked taker. -/
def dropTake (r : Router) (id : Nat) : Router :=
  { r with takes := r.takes.filter (·.id ≠ id) }

/-- Lets a sender that was woken try again. -/
def retrySend (r : Router) (id : Nat) : Option (SendResult × Router) :=
  match r.parkedSend? id with
  | some s => if s.wake = .asleep then none else some ((r.dropSend id).offer id s.intention)
  | none => none

/-- Lets a taker that was woken try again. -/
def retryTake (r : Router) (id : Nat) : Option (TakeResult × Router) :=
  match r.parkedTake? id with
  | some t => if t.woken then some ((r.dropTake id).ask id t.state) else none
  | none => none

/-- A parked sender gives up; a wake-up that was meant for one sender goes to the next
(`wakeSend`). -/
def abandonSend (r : Router) (id : Nat) : Router :=
  match r.parkedSend? id with
  | some s => if s.wake = .alone then (r.dropSend id).wakeSend else r.dropSend id
  | none => r

/-- A parked taker gives up. -/
def abandonTake (r : Router) (id : Nat) : Router :=
  r.dropTake id

/-- Refuses further intentions. What is queued can still be taken. -/
def close (r : Router) : Router :=
  ({ r with closed := true }).wakeTakes.wakeSends

end Router

end DeviceLab
