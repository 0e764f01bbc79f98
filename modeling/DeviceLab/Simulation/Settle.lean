import DeviceLab.Simulation.Actor

/-!
# Settling and the passing of time

A lab settles (`settle`) by letting those who are ready act, each until it has to wait, in the order
in which they became ready. A limit is a part of what its actor does: it takes effect when the actor
has to wait after all (`dueLimit?`), so that whatever the actor can do at the same moment comes
before the limit. Time passes from alarm to alarm (`nextAlarm?`), and the lab settles at each;
alarms that go off together wake their actors in the order in which they were set.
-/

namespace DeviceLab.Simulation

/-- The actor that an alarm wakes. -/
def Alarm.actor : Alarm → Actor
  | .command n k => .worker n k
  | .expire n | .overrun n => .caller n
  | .attachedBoot | .attachedBootLimit => .assigner
  | .pause n | .creationLimit n => .listener n
  | .boot n | .bootLimit n => .boot n

/-- Whether an alarm is a limit. -/
def Alarm.isLimit : Alarm → Bool
  | .expire _ | .overrun _ | .attachedBootLimit | .creationLimit _ | .bootLimit _ => true
  | _ => false

namespace Lab

/-! ### Limits -/

/-- What an alarm does that is a limit; others only make somebody ready. -/
def fire (l : Lab) : Alarm → Option Lab
  | .expire n => l.move n .expire
  | .overrun n => l.move n .overrun
  | .attachedBootLimit =>
    match l.provider with
    | .attached (.reserving j) =>
      (j.step (.booted false true)).map (l.clearAlarm .attachedBoot).jobStep
    | _ => none
  | .creationLimit n => do
    let (names, c) ← l.claim?
    return (l.clearAlarm (.pause n)).claimStep names (← c.step (.expire n))
  | .bootLimit n => do
    let (names, c) ← l.claim?
    return (l.clearAlarm (.boot n)).claimStep names (← c.step (.booted n false))
  | _ => none

/-- The limit of an actor that is due. -/
def dueLimit? (l : Lab) (a : Actor) : Option Alarm :=
  (l.alarms.find? fun e ↦ e.2.isLimit && e.1 ≤ l.now && e.2.actor = a).map (·.2)

/-- The next step of an actor: what it does of its own accord, and otherwise what its limit makes it
do when that is due. -/
def turn (l : Lab) (a : Actor) : Option Lab :=
  (l.act a).or do
    let limit ← l.dueLimit? a
    (l.clearAlarm limit).fire limit

/-! ### Settling -/

/-- Adds those who have become ready to those who are. -/
def enqueue (l : Lab) : Lab :=
  let fresh := l.actors.filter fun a ↦ a ∉ l.ready && (l.turn a).isSome
  { l with ready := l.ready ++ fresh }

/-- Lets actors act until all have to wait. -/
def settleActors : Nat → Lab → Lab
  | 0, l => l
  | fuel + 1, l =>
    match l.ready with
    | [] =>
      let l := l.enqueue
      if l.ready.isEmpty then l else settleActors fuel l
    | a :: rest =>
      match l.turn a with
      | some l => settleActors fuel l.enqueue
      | none => settleActors fuel { l with ready := rest }

/-- More steps than a lab takes at one moment. -/
def patience : Nat := 1000000

/-- Lets a lab settle. -/
def settle (l : Lab) : Lab :=
  settleActors patience l

/-! ### Time -/

/-- The time of the next alarm. -/
def nextAlarm? (l : Lab) : Option Nat :=
  ((l.alarms.map (·.1)).filter (l.now < ·)).min?

/-- Lets a lab settle at the moment of the next alarms, those first whom the alarms wake. -/
def wakeAt (l : Lab) (time : Nat) : Lab :=
  let woken := (l.alarms.filter (·.1 ≤ time)).map (·.2.actor)
  { l with now := time, ready := (l.ready ++ woken).eraseDups }.settle

/-- Lets time pass up to a moment; every alarm takes at least one millisecond of the fuel. -/
def passUntil (target : Nat) : Nat → Lab → Lab
  | 0, l => l
  | fuel + 1, l =>
    match l.nextAlarm? with
    | some t =>
      if t ≤ target then passUntil target fuel (l.wakeAt t)
      else { l with now := target }
    | none => { l with now := target }

/-- Lets some time pass. -/
def advance (l : Lab) (time : Nat) : Lab :=
  let time := min time longestWait
  passUntil (l.now + time) (time + 1) l

/-- Lets time pass until a condition holds, at most for as many alarms as the fuel says. -/
def passWhile (waiting : Lab → Bool) : Nat → Lab → Lab
  | 0, l => l
  | fuel + 1, l =>
    if waiting l then
      match l.nextAlarm? with
      | some t => passWhile waiting fuel (l.wakeAt t)
      | none => l
    else l

end Lab

end DeviceLab.Simulation
