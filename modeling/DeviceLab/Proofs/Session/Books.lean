import Mathlib.Data.Multiset.Filter
import DeviceLab.Proofs.Session.Token

/-!
# The books of a session

`Books` are what a session has to account for, apart from how its parts work: the intentions that
were drawn, what workers received and reported, the tokens of all attempts, what the client
remembers, which requests are pending and which are settled. `Flow` lists what can happen to the
books; each entry takes one token away and puts at most one in its place.

Books that were just opened are `Blank` and are filled by submitting requests. From then on they are
`Sound`, and stay so (`DeviceLab.Proofs.Session.Account`): every request either is `Underway`, with
exactly one token, which carries its next attempt, or is `Resolved`, with no token and one report.
In both cases what workers received and reported for the request is `Told` in full.

That runs are `Final` is what a report has to show for itself: there is at least one and there are
not too many, all but the last broke, and if the last one broke too then no more were allowed.
-/

namespace DeviceLab

open Session (requestOf receivedFor reportedFor)

/-- The books of a session: what its turns have told of attempts so far, and what is there of them
now. -/
structure Books where
  drawn : List (Uuid × Attempt) := []
  received : List (Nat × Intention) := []
  reported : List (Nat × IntentionResult) := []
  tokens : Multiset Token := 0
  inFlight : List (Uuid × Uuid) := []
  pending : List Pending := []
  settled : List Report := []

namespace Books

/-! ### What can happen -/

/-- What can happen to books, an entry for each way in which a `Token` goes on. -/
inductive Flow (b : Books) : Books → Prop
  /-- Nothing. -/
  | still : Flow b b
  /-- The client draws an intention for an attempt. -/
  | draw {id : Uuid} {a : Attempt} {left : Multiset Token} (hnew : id ∉ b.drawn.map (·.1))
      (hb : b.tokens = .submitted a ::ₘ left) :
      Flow b { b with
        drawn := b.drawn ++ [(id, a)]
        tokens := .held (.ofRequest id a.request a.execution) ::ₘ left
        inFlight := b.inFlight ++ [(id, a.request.id)] }
  /-- An intention is passed on towards the workers. -/
  | carry {x y : Token} {i : Intention} {left : Multiset Token} (hx : x.carried? = some i)
      (hy : y.carried? = some i) (hb : b.tokens = x ::ₘ left) :
      Flow b { b with tokens := y ::ₘ left }
  /-- A worker takes an intention. -/
  | take {n : Nat} {i : Intention} {left : Multiset Token} (hb : b.tokens = .queued i ::ₘ left) :
      Flow b { b with tokens := .taken n i ::ₘ left, received := b.received ++ [(n, i)] }
  /-- A worker ends by a panic. -/
  | drop {n : Nat} {i : Intention} {left : Multiset Token} (hb : b.tokens = .taken n i ::ₘ left) :
      Flow b { b with tokens := .dropped n i ::ₘ left }
  /-- A worker reports the intention that it took. -/
  | answer {n : Nat} {r : IntentionResult} {left : Multiset Token}
      (hb : b.tokens = .taken n r.intention ::ₘ left) :
      Flow b { b with tokens := .answered r ::ₘ left, reported := b.reported ++ [(n, r)] }
  /-- The client finds the request of a result. -/
  | bring {r : IntentionResult} {q : Uuid} {left : Multiset Token}
      (hq : b.inFlight.lookup r.intention.id = some q) (hb : b.tokens = .answered r ::ₘ left) :
      Flow b { b with
        tokens := .returned ⟨q, r.run⟩ ::ₘ left
        inFlight := b.inFlight.filter (·.1 ≠ r.intention.id) }
  /-- The client does not know the intention of a result. -/
  | misplace {r : IntentionResult} {left : Multiset Token}
      (hq : b.inFlight.lookup r.intention.id = none) (hb : b.tokens = .answered r ::ₘ left) :
      Flow b { b with tokens := left }
  /-- The scheduler does not know the request of an outcome. -/
  | ignore {o : AttemptOutcome} {left : Multiset Token}
      (hp : Scheduler.find? o.request b.pending = none) (hb : b.tokens = .returned o ::ₘ left) :
      Flow b { b with tokens := left }
  /-- The scheduler has another attempt made. -/
  | retry {o : AttemptOutcome} {p : Pending} {k : UInt32} {left : Multiset Token}
      (hp : Scheduler.find? o.request b.pending = some p)
      (hk : nextAttempt p.request.maxAttempts (p.runs ++ [o.run]) = some k)
      (hb : b.tokens = .returned o ::ₘ left) :
      Flow b { b with
        tokens := .submitted ⟨p.request, k⟩ ::ₘ left
        pending := Scheduler.put ⟨p.request, p.runs ++ [o.run]⟩ b.pending }
  /-- The scheduler settles a request. -/
  | settle {o : AttemptOutcome} {p : Pending} {left : Multiset Token}
      (hp : Scheduler.find? o.request b.pending = some p)
      (hk : nextAttempt p.request.maxAttempts (p.runs ++ [o.run]) = none)
      (hb : b.tokens = .returned o ::ₘ left) :
      Flow b { b with
        tokens := left
        pending := Scheduler.erase o.request b.pending
        settled := b.settled ++ [⟨p.request, p.runs ++ [o.run]⟩] }

/-! ### What books say of one request -/

/-- The tokens of a request. -/
def tokensOf (b : Books) (q : Uuid) : Multiset Token :=
  b.tokens.filter fun x ↦ x.request? b.drawn = some q

/-- The reports of a request. -/
def settledOf (b : Books) (q : Uuid) : List Report :=
  b.settled.filter (·.request.id = q)

/-- What workers received and reported for a request is known in full: every intention that was
`received` was `reported`, in order, except for those that are open; the reports have these runs;
and the numbers of the attempts count up from one. -/
structure Told (b : Books) (q : Uuid) (opening : List (Nat × Intention))
    (runs : List DeviceRun) : Prop where
  received : receivedFor b.drawn b.received q =
    (reportedFor b.drawn b.reported q).map (fun p ↦ (p.1, p.2.intention)) ++ opening
  runs : (reportedFor b.drawn b.reported q).map (·.2.run) = runs
  numbers : (receivedFor b.drawn b.received q).map (·.2.action.execution.toNat) =
    List.range' 1 (receivedFor b.drawn b.received q).length

/-- A `Token` carries the attempt of a request with a number. -/
structure Carries (drawn : List (Uuid × Attempt)) (r : Request) (k : UInt32) (x : Token) :
    Prop where
  attempt : ∀ a, x = .submitted a → a = ⟨r, k⟩
  intention : ∀ i, x.intention? = some i →
    drawn.lookup i.id = some ⟨r, k⟩ ∧ i = .ofRequest i.id r k

/-- A request is under way: after some runs, all of which broke, one token `Carries` its next
attempt. -/
structure Underway (b : Books) (r : Request) (x : Token) (runs : List DeviceRun) : Prop where
  tokens : b.tokensOf r.id = {x}
  pending : Scheduler.find? r.id b.pending = some ⟨r, runs⟩
  settled : b.settledOf r.id = []
  carries : ∃ k : UInt32, k.toNat = runs.length + 1 ∧ Carries b.drawn r k x
  broken : ∀ run ∈ runs, run.isInfrastructure = true
  left : runs.length < max 1 r.maxAttempts.toNat
  told : b.Told r.id x.opening (runs ++ x.run)

/-- Runs that settle a request: there is one at least and not too many, all but the last broke, and
if the last one broke too then no more were allowed. -/
structure Final (r : Request) (runs : List DeviceRun) : Prop where
  nonempty : runs ≠ []
  bounded : runs.length ≤ max 1 r.maxAttempts.toNat
  broken : ∀ run ∈ runs.dropLast, run.isInfrastructure = true
  last : ∀ run ∈ runs.getLast?, run.isInfrastructure = true →
    runs.length = max 1 r.maxAttempts.toNat

/-- A request is resolved: no token of it is left, and its one report has runs that are `Final`. -/
structure Resolved (b : Books) (r : Request) (runs : List DeviceRun) : Prop where
  tokens : b.tokensOf r.id = 0
  pending : Scheduler.find? r.id b.pending = none
  settled : b.settledOf r.id = [⟨r, runs⟩]
  final : Final r runs
  told : b.Told r.id [] runs

/-- Where a request stands: it is `Underway`, or it is `Resolved`. -/
inductive Stands (b : Books) (r : Request) : Prop
  | underway (x : Token) (runs : List DeviceRun) (h : b.Underway r x runs)
  | resolved (runs : List DeviceRun) (h : b.Resolved r runs)

/-! ### Sound books -/

/-- Every request `Stands` somewhere, everything in the books belongs to a request, and the client
remembers exactly the intentions whose tokens are there. -/
structure Sound (rs : List Request) (b : Books) : Prop where
  distinct : (rs.map (·.id)).Nodup
  stands : ∀ r ∈ rs, b.Stands r
  owned : ∀ x ∈ b.tokens, ∃ r ∈ rs, x.request? b.drawn = some r.id
  received : ∀ p ∈ b.received, (requestOf b.drawn p.2.id).isSome
  reported : ∀ p ∈ b.reported, (requestOf b.drawn p.2.intention.id).isSome
  settled : ∀ p ∈ b.settled, ∃ r ∈ rs, p.request.id = r.id
  flights : (b.inFlight : Multiset (Uuid × Uuid)) = b.tokens.filterMap (Token.flight? b.drawn)
  keys : (b.inFlight.map (·.1)).Nodup

/-- Books in which nothing stands. -/
structure Blank (b : Books) : Prop where
  drawn : b.drawn = []
  received : b.received = []
  reported : b.reported = []
  tokens : b.tokens = 0
  inFlight : b.inFlight = []
  pending : b.pending = []
  settled : b.settled = []

end Books

end DeviceLab
