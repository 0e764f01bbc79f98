/-!
# Channels

A `Channel` carries items from its senders to its one receiver, in order. It may be bounded, and
either end may be gone: items for a receiver that is gone are lost (`Channel.push`), and a receiver
finds a channel `drained` when it is empty and no sender is left. Whether there is room is for the
sender to see (`Channel.hasRoom`).
-/

namespace DeviceLab

/-- A queue between two ends. -/
structure Channel (α : Type) where
  items : List α := []
  capacity : Option Nat := none
  sending : Bool := false
  receiving : Bool := false

namespace Channel

/-- The largest bound that a channel may have. -/
def maxCapacity : Nat :=
  Nat.pow 2 61 - 1

/-- Whether a channel may have a bound. -/
def canHold (capacity : Nat) : Bool :=
  0 < capacity && capacity ≤ maxCapacity

/-- A channel with both ends and no bound. -/
def unbounded : Channel α :=
  { sending := true, receiving := true }

/-- A channel with both ends that holds at most `capacity` items. -/
def bounded (capacity : Nat) : Channel α :=
  { capacity := some capacity, sending := true, receiving := true }

/-- Whether another item may be put into a channel. -/
def hasRoom (c : Channel α) : Bool :=
  match c.capacity with
  | none => true
  | some n => c.items.length < n

/-- Puts an item into a channel; it is lost if the receiver is gone (`receiving`). -/
def push (c : Channel α) (a : α) : Channel α :=
  if c.receiving then { c with items := c.items ++ [a] } else c

/-- Whether nothing will ever come out of a channel again. -/
def drained (c : Channel α) : Bool :=
  c.items.isEmpty && !c.sending

/-- The channel without its first item. -/
def rest (c : Channel α) : Channel α :=
  { c with items := c.items.tail }

/-- The channel after its last sender left. -/
def endSending (c : Channel α) : Channel α :=
  { c with sending := false }

/-- The channel after its receiver left. -/
def endReceiving (c : Channel α) : Channel α :=
  { c with items := [], receiving := false }

end Channel

end DeviceLab
