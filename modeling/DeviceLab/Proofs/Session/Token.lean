import Mathlib.Data.Multiset.Filter
import DeviceLab.Proofs.Session.Course

/-!
# Where attempts are

An attempt that was submitted and that has not been answered for yet is in one of eight places, and
a `Token` names the place and what lies there. Up to the client an attempt is an attempt, from the
client to the workers it is an intention, and behind the workers it is a result and then an outcome.
Only the identifier of its intention ties an attempt to its request on the way, so `Token.request?`
looks the request up among the intentions that were drawn; `Token.request?_append` says that later
intentions do not change the answer.

`Session.tokens` counts the tokens of a state, place by place, with one `each` for every place. One
kind of token never occurs there: an intention whose worker ended by a panic is nowhere any more,
but it remains known from the turns of the session (`dropped`). `dropped_of_not_panicked` says that
without such panics there are none.
-/

namespace DeviceLab

/-! ### Tokens -/

/-- An attempt at the place where it is. -/
inductive Token
  /-- On the way from the scheduler to the client. -/
  | submitted (a : Attempt)
  /-- In the hands of the client, which waits to hand it on. -/
  | held (i : Intention)
  /-- On the way from the client to the forwarder. -/
  | offered (i : Intention)
  /-- In the hands of the forwarder, which waits for the router. -/
  | parked (i : Intention)
  /-- In the queue of the router. -/
  | queued (i : Intention)
  /-- With a worker that took it and has not reported it. -/
  | taken (worker : Nat) (i : Intention)
  /-- Gone, since its worker ended by a panic. -/
  | dropped (worker : Nat) (i : Intention)
  /-- On the way from the service to the client. -/
  | answered (r : IntentionResult)
  /-- On the way from the client to the scheduler. -/
  | returned (o : AttemptOutcome)

namespace Token

/-- The intention of an attempt, from the hands of the client up to the results of the service. -/
def intention? : Token → Option Intention
  | submitted _ => none
  | held i => some i
  | offered i => some i
  | parked i => some i
  | queued i => some i
  | taken _ i => some i
  | dropped _ i => some i
  | answered r => some r.intention
  | returned _ => none

/-- The intention of an attempt that no worker has `taken` yet. -/
def carried? : Token → Option Intention
  | held i => some i
  | offered i => some i
  | parked i => some i
  | queued i => some i
  | _ => none

/-- The request of an attempt, by its identifier. -/
def request? (drawn : List (Uuid × Attempt)) : Token → Option Uuid
  | submitted a => some a.request.id
  | returned o => some o.request
  | x => x.intention?.bind fun i ↦ Session.requestOf drawn i.id

/-- What the client remembers of an attempt in `inFlight`: the identifiers of its intention and of
its request. -/
def flight? (drawn : List (Uuid × Attempt)) (x : Token) : Option (Uuid × Uuid) :=
  x.intention?.bind fun i ↦ (Session.requestOf drawn i.id).map (i.id, ·)

/-- The worker that took an attempt and has not reported it, with the intention. -/
def opening : Token → List (Nat × Intention)
  | taken n i => [(n, i)]
  | dropped n i => [(n, i)]
  | _ => []

/-- The run of an attempt that was made. -/
def run : Token → List DeviceRun
  | answered r => [r.run]
  | returned o => [o.run]
  | _ => []

variable {x y : Token} {drawn more : List (Uuid × Attempt)} {i : Intention} {q : Uuid}

theorem intention?_of_carried? (h : x.carried? = some i) : x.intention? = some i := by
  cases x <;> first | exact h | cases h

theorem opening_of_carried? (h : x.carried? = some i) : x.opening = [] := by
  cases x <;> first | rfl | cases h

theorem run_of_carried? (h : x.carried? = some i) : x.run = [] := by
  cases x <;> first | rfl | cases h

/-- The request of an attempt with an intention is the request of the intention (`intention?`). -/
theorem request?_of_intention? (h : x.intention? = some i) :
    x.request? drawn = Session.requestOf drawn i.id := by
  cases x <;> first | cases h; rfl | cases h

theorem flight?_of_intention? (h : x.intention? = some i) :
    x.flight? drawn = (Session.requestOf drawn i.id).map (i.id, ·) := by
  rw [flight?, h, Option.bind_some]

theorem flight?_of_none (h : x.intention? = none) : x.flight? drawn = none := by
  rw [flight?, h, Option.bind_none]

/-- Intentions that are drawn later do not change the request of an attempt. -/
theorem request?_append (h : x.request? drawn = some q) : x.request? (drawn ++ more) = some q := by
  cases hi : x.intention? with
  | none => cases x <;> first | exact h | cases hi
  | some i =>
    rw [request?_of_intention? hi] at h ⊢
    exact Session.requestOf_append_of_some h

theorem flight?_append (h : x.request? drawn = some q) :
    x.flight? (drawn ++ more) = x.flight? drawn := by
  cases hi : x.intention? with
  | none => rw [flight?_of_none hi, flight?_of_none hi]
  | some i =>
    rw [request?_of_intention? hi] at h
    rw [flight?_of_intention? hi, flight?_of_intention? hi, h, Session.requestOf_append_of_some h]

end Token

namespace Session

/-! ### The tokens of a session -/

/-- One token for each item of a list. -/
def each {α : Type} (f : α → Token) (l : List α) : Multiset Token :=
  (l.map f : List Token)

section Each

variable {α : Type} (f : α → Token) (a : α) (l : List α)

@[simp] theorem each_nil : each f [] = 0 := rfl

@[simp] theorem each_cons : each f (a :: l) = f a ::ₘ each f l := rfl

theorem each_append (l l' : List α) : each f (l ++ l') = each f l + each f l' := by
  rw [each, List.map_append, ← Multiset.coe_add]
  rfl

@[simp] theorem each_concat : each f (l ++ [a]) = f a ::ₘ each f l := by
  rw [each_append, Multiset.add_comm]
  rfl

theorem each_perm {l l' : List α} (h : l.Perm l') : each f l = each f l' :=
  Multiset.coe_eq_coe.2 (h.map f)

end Each

/-- The intention in the hands of a client. -/
def heldBy (c : Client) : List Intention :=
  match c.stage with
  | .holding i => [i]
  | _ => []

/-- The tokens of workers that are numbered from a number on. -/
def takenBy (n : Nat) : List Hired → Multiset Token
  | [] => 0
  | x :: rest => each (.taken n) x.worker.holding?.toList + takenBy (n + 1) rest

/-- All attempts that are alive, place by place. -/
def tokens (s : Session) : Multiset Token :=
  each .submitted s.attempts.items + each .held (heldBy s.client) +
    each .offered s.intentions.items + each (.parked ·.intention) s.router.sends +
    each .queued s.router.queue + takenBy 0 s.workers + each .answered s.results.items +
    each .returned s.outcomes.items

/-- The attempt that is lost in a turn, when asking the device of its worker for its health
panics. -/
def Turn.dropped (t : Turn) : List Token :=
  match t.move with
  | .answer n _ (.status (.panicked _)) =>
    ((t.before.workers[n]?.bind (·.worker.holding?)).map (Token.dropped n)).toList
  | _ => []

/-- The attempts that were lost. -/
def dropped (h : List Turn) : List Token :=
  h.flatMap Turn.dropped

@[simp] theorem dropped_append_singleton (h : List Turn) (t : Turn) :
    dropped (h ++ [t]) = dropped h ++ t.dropped := by
  rw [dropped, List.flatMap_append, List.flatMap_singleton, dropped]

/-- No attempt is lost unless asking a device for its health panics. -/
theorem dropped_of_not_panicked {h : List Turn} (hp : panicked h = false) : dropped h = [] := by
  rw [dropped, List.flatMap_eq_nil_iff]
  intro t ht
  have hpanic : t.move.isStatusPanic = false := by
    rw [panicked, List.any_eq_false] at hp
    simpa using hp t ht
  rw [Turn.dropped]
  split
  · next hmove =>
    rw [hmove] at hpanic
    cases hpanic
  · rfl

end Session

end DeviceLab
