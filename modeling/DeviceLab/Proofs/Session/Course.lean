import DeviceLab.Session.Step
import DeviceLab.Proofs.Worker.Holding

/-!
# The course of a session

A *course* takes a session from one state to another by any moves in any order, with the stream of
the reservation in the hands of somebody else who may change it at any time. `Course` remembers its
*turns*: a `Turn` holds the state before a move, the move, and what the outside saw of it.

The turns are the only record that the statements about whole sessions use. From them are read which
intention was made for which attempt (`drawn`), which worker took which intention (`received`), and
which worker reported which result (`reported`); `receivedFor` and `reportedFor` pick out what
belongs to one request, by the identifier that `requestOf` finds.

Concrete courses are made by `Session.follow`, which makes moves one after the other.
`of_follow_all` carries anything that single turns keep over to the moves that were followed, and
`Course.follow` is the case of courses themselves.
-/

namespace DeviceLab

namespace Session

/-! ### Turns -/

/-- The worker that makes a move. -/
def Move.worker? : Move → Option Nat
  | .seek n => some n
  | .answer n _ _ => some n
  | _ => none

/-- Whether a move is the answer of a device whose health could not be asked for without a panic. -/
def Move.isStatusPanic : Move → Bool
  | .answer _ _ (.status (.panicked _)) => true
  | _ => false

/-- One turn of a session: the state before it, the move, and what the outside saw. -/
structure Turn where
  before : Session
  move : Move
  notices : List Notice

namespace Turn

/-- The attempt for which an intention is made in a turn, with the identifier of the intention. -/
def drawn (t : Turn) : List (Uuid × Attempt) :=
  match t.move, t.before.attempts.items with
  | .takeAttempt id, a :: _ => [(id, a)]
  | _, _ => []

/-- The intentions that a worker takes in a turn. -/
def received (t : Turn) : List (Nat × Intention) :=
  match t.move.worker? with
  | some n => (t.notices.filterMap Notice.received?).map (n, ·)
  | none => []

/-- The results that a worker reports in a turn. -/
def reported (t : Turn) : List (Nat × IntentionResult) :=
  match t.move with
  | .answer n time _ => (t.notices.filterMap (Notice.result? time)).map (n, ·)
  | _ => []

end Turn

/-! ### Courses -/

/-- A session went from a first state to another in so many turns, each a `step`. -/
inductive Course (first : Session) : List Turn → Session → Prop
  | start : Course first [] first
  | turn {h : List Turn} {s s' : Session} {ns : List Notice} (m : Move) (hc : Course first h s)
      (hs : s.step m = some (s', ns)) : Course first (h ++ [⟨s, m, ns⟩]) s'
  | feed {h : List Turn} {s : Session} (c : Channel Coordinate) (hc : Course first h s) :
      Course first h { s with stream := c }

/-- The attempts for which intentions were made, in order, with the identifiers of the
intentions. -/
def drawn (h : List Turn) : List (Uuid × Attempt) :=
  h.flatMap Turn.drawn

/-- The intentions that workers took, in order, each with the number of its worker. -/
def received (h : List Turn) : List (Nat × Intention) :=
  h.flatMap Turn.received

/-- The results that workers reported, in order, each with the number of its worker. -/
def reported (h : List Turn) : List (Nat × IntentionResult) :=
  h.flatMap Turn.reported

/-- Whether asking a device for its health ever panicked. -/
def panicked (h : List Turn) : Bool :=
  h.any (·.move.isStatusPanic)

/-- The request for which the intention with an identifier was made, from the `drawn` attempts. -/
def requestOf (drawn : List (Uuid × Attempt)) (id : Uuid) : Option Uuid :=
  (drawn.lookup id).map (·.request.id)

/-- Of the intentions that workers took (`received`), those that were made for one request. -/
def receivedFor (drawn : List (Uuid × Attempt)) (received : List (Nat × Intention)) (q : Uuid) :
    List (Nat × Intention) :=
  received.filter fun p ↦ requestOf drawn p.2.id = some q

/-- Of the results that workers `reported`, those for one request. -/
def reportedFor (drawn : List (Uuid × Attempt)) (reported : List (Nat × IntentionResult))
    (q : Uuid) : List (Nat × IntentionResult) :=
  reported.filter fun p ↦ requestOf drawn p.2.intention.id = some q

@[simp] theorem drawn_append_singleton (h : List Turn) (t : Turn) :
    drawn (h ++ [t]) = drawn h ++ t.drawn := by
  rw [drawn, List.flatMap_append, List.flatMap_singleton, drawn]

@[simp] theorem received_append_singleton (h : List Turn) (t : Turn) :
    received (h ++ [t]) = received h ++ t.received := by
  rw [received, List.flatMap_append, List.flatMap_singleton, received]

@[simp] theorem reported_append_singleton (h : List Turn) (t : Turn) :
    reported (h ++ [t]) = reported h ++ t.reported := by
  rw [reported, List.flatMap_append, List.flatMap_singleton, reported]

/-- Identifiers that were distinct (`drawn`) after a turn were distinct before it. -/
theorem nodup_of_append {h : List Turn} {t : Turn}
    (hd : ((drawn (h ++ [t])).map (·.1)).Nodup) : ((drawn h).map (·.1)).Nodup := by
  rw [drawn_append_singleton, List.map_append] at hd
  exact (List.nodup_append.1 hd).1

/-! ### Looking up requests -/

theorem requestOf_append_of_some {drawn more : List (Uuid × Attempt)} {id q : Uuid}
    (h : requestOf drawn id = some q) : requestOf (drawn ++ more) id = some q := by
  rw [requestOf, Option.map_eq_some_iff] at h ⊢
  obtain ⟨a, ha, hq⟩ := h
  exact ⟨a, by rw [List.lookup_append, ha, Option.some_or], hq⟩

/-! ### Following moves -/

/-- Makes moves one after the other, as long as each is possible (`step`). -/
def follow (s : Session) : List Move → Option (List Turn × Session)
  | [] => some ([], s)
  | m :: ms => do
    let (next, ns) ← s.step m
    let (h, last) ← next.follow ms
    return (⟨s, m, ns⟩ :: h, last)

/-- What every turn with such a move keeps is kept where such moves are followed. -/
theorem of_follow_all {P : List Turn → Session → Prop} {p : Move → Bool}
    (hturn : ∀ {h : List Turn} {s s' : Session} {ns : List Notice} (m : Move), p m = true → P h s →
      s.step m = some (s', ns) → P (h ++ [⟨s, m, ns⟩]) s')
    {s s' : Session} {h more : List Turn} (hs : P h s) (ms : List Move) (hms : ms.all p = true)
    (hf : s.follow ms = some (more, s')) : P (h ++ more) s' := by
  induction ms generalizing h s more with
  | nil =>
    obtain ⟨rfl, rfl⟩ := Prod.mk.inj (Option.some.inj hf)
    rwa [List.append_nil]
  | cons m ms ih =>
    rw [List.all_cons, Bool.and_eq_true] at hms
    simp only [follow, Option.bind_eq_bind, Option.bind_eq_some_iff] at hf
    obtain ⟨⟨next, ns⟩, hstep, ⟨rest, last⟩, hrest, heq⟩ := hf
    obtain ⟨rfl, rfl⟩ := Prod.mk.inj (Option.some.inj heq)
    have hrun := ih (hturn m hms.1 hs hstep) hms.2 hrest
    rwa [List.append_assoc] at hrun

/-- What every turn keeps is kept where moves are followed. -/
theorem of_follow {P : List Turn → Session → Prop}
    (hturn : ∀ {h : List Turn} {s s' : Session} {ns : List Notice} (m : Move), P h s →
      s.step m = some (s', ns) → P (h ++ [⟨s, m, ns⟩]) s')
    {s s' : Session} {h more : List Turn} (hs : P h s) (ms : List Move)
    (hf : s.follow ms = some (more, s')) : P (h ++ more) s' :=
  of_follow_all (p := fun _ ↦ true) (fun m _ ↦ hturn m) hs ms (List.all_eq_true.2 fun _ _ ↦ rfl) hf

/-- Moves that were followed are a course. -/
theorem Course.follow {first s s' : Session} {h more : List Turn} (hc : Course first h s)
    (ms : List Move) (hf : s.follow ms = some (more, s')) : Course first (h ++ more) s' :=
  of_follow (fun m hc hs ↦ hc.turn m hs) hc ms hf

/-! ### A sample

One request and one device that it targets, for the hypotheses of statements about all sessions. -/

/-- An attached pixel at level 29. -/
def sampleDevice : DeviceData :=
  ⟨.attached "emulator-5554", "pixel", 29⟩

/-- A request for `sampleDevice`, with a bound on its attempts. -/
def sampleRequest (maxAttempts : UInt32) : Request where
  id := .numbered 0 1
  testCase := ⟨"LoginTest", "login", "api29"⟩
  target := ⟨"api29", 29, "pixel", none⟩
  application := none
  testApplication := ⟨"test.apk", "com.example.test"⟩
  params := .empty
  maxAttempts := maxAttempts
  timeout := .ofMillis 1000

/-- The request was called for, and the reservation hands out the device. -/
def sample (maxAttempts : UInt32) : Session :=
  { (call 1 [sampleRequest maxAttempts]).1 with
    stream := { items := [sampleDevice.coordinate], sending := true, receiving := true } }

theorem course_sample (maxAttempts : UInt32) :
    Course (call 1 [sampleRequest maxAttempts]).1 [] (sample maxAttempts) :=
  Course.start.feed _

/-- The moves by which the intention of the request comes into the hands of a worker. -/
def sampleMoves : List Move :=
  [.claimed (.ok ()), .schedule, .takeAttempt (.numbered 1 1), .handOn, .forward, .takeCoordinate,
    .deliver, .enlist (.ok sampleDevice), .answer 0 0 (.status (.returned .alive)), .seek 0]

/-- The moves after which the request is resolved, if it has one attempt: its device breaks. -/
def sampleBreak : List Move :=
  sampleMoves ++
    [.answer 0 1 (.status (.returned (.frozen "offline"))), .takeResult, .schedule]

end Session

end DeviceLab
