import DeviceLab.Local
import DeviceLab.Simulation.Pool
import DeviceLab.Proofs.Cluster.Life

/-!
# The protocol of reservation clients

To its user a reservation client is in one of two phases (`Phase`): it idles, and then a claim is
accepted and a release rejected, or it reserves, and then it is the other way round. The clients
keep that phase in three different forms, as a job that there is or is not (`attached`), as one of
several states with all that is running in them (`hosted`), and as a flag (`pooled`); and in two of
them something goes on behind the back of the user.

A `Conduct` is what there is to say of a kind of client: the deeds of which its life consists, with
the calls that they begin and the answers that they give. A conduct is `Lawful` if every single deed
keeps to the protocol (`Keeps`); whole histories then do (`Lawful.answers_eq`).

`Conduct.History.keeps_protocol` is the main result, for clients of every `Kind`. It rests on
`Kind.lawful`, that is on one look at every deed of each client; for a cluster also on
`Release.induction_to_end`, by which the user of a release does not wait for ever (`hosted_ends`).
-/

namespace DeviceLab.Protocol

/-! ### The two phases -/

/-- What a user calls a client for. -/
inductive Call
  | claim (reservations : List Reservation)
  | release
  deriving DecidableEq

/-- Where a client stands, as far as its user can tell. `Phase.after` is where a call leads from
there, and `Phase.verdict` the answer to it. -/
inductive Phase
  | idling
  | reserving
  deriving DecidableEq

/-- The answer to a call. -/
def Phase.verdict : Phase → Call → Except LabError Unit
  | idling, .claim _ => .ok ()
  | idling, .release => .error .notReserving
  | reserving, .claim _ => .error .alreadyReserving
  | reserving, .release => .ok ()

/-- The phase after a call. -/
def Phase.after : Phase → Call → Phase
  | idling, .claim _ => reserving
  | reserving, .release => idling
  | p, _ => p

/-- The answers to calls one after the other. -/
def verdicts (p : Phase) : List Call → List (Except LabError Unit)
  | [] => []
  | call :: calls => p.verdict call :: verdicts (p.after call) calls

theorem verdicts_append_singleton (p : Phase) (calls : List Call) (call : Call) :
    verdicts p (calls ++ [call]) = verdicts p calls ++ [(calls.foldl .after p).verdict call] := by
  induction calls generalizing p with
  | nil => rfl
  | cons c calls ih => exact congrArg _ (ih (p.after c))

/-- A call that is rejected leaves the phase as it is. -/
theorem Phase.after_of_rejected {p : Phase} {call : Call} {e : LabError}
    (h : p.verdict call = .error e) : p.after call = p := by
  cases p <;> cases call <;> first | rfl | cases h

/-! ### Conducts -/

/-- A kind of client. A deed may begin a call, and may end with an answer; `waiting` says whether
the user waits for the answer to a call that was accepted. -/
structure Conduct where
  Client : Type
  Deed : Type
  fresh : Client
  act : Client → Deed → Option (Client × Option (Except LabError Unit))
  call? : Deed → Option Call
  phase : Client → Phase
  waiting : Client → Bool

namespace Conduct

variable {k : Conduct}

/-- One turn in the history of a client. -/
structure Turn (k : Conduct) where
  before : k.Client
  deed : k.Deed
  answer : Option (Except LabError Unit)
  after : k.Client

/-- A new client came to a state in so many turns. -/
inductive History (k : Conduct) : List k.Turn → k.Client → Prop
  | start : History k [] k.fresh
  | turn {h : List k.Turn} {c c' : k.Client} {a : Option (Except LabError Unit)} (d : k.Deed)
      (hh : History k h c) (hs : k.act c d = some (c', a)) :
      History k (h ++ [⟨c, d, a, c'⟩]) c'

/-- The calls of the user, in order. -/
def calls (h : List k.Turn) : List Call :=
  h.filterMap fun t ↦ k.call? t.deed

/-- The answers that the user got, in order. -/
def answers (h : List k.Turn) : List (Except LabError Unit) :=
  h.filterMap (·.answer)

/-- The answer that the user waits for. -/
def outstanding (c : k.Client) : List (Except LabError Unit) :=
  if k.waiting c then [.ok ()] else []

/-- Does deeds one after the other, as long as each is possible. -/
def follow (k : Conduct) (c : k.Client) : List k.Deed → Option (List k.Turn × k.Client)
  | [] => some ([], c)
  | d :: ds => do
    let (next, a) ← k.act c d
    let (h, last) ← k.follow next ds
    return (⟨c, d, a, next⟩ :: h, last)

theorem History.follow {h more : List k.Turn} {c c' : k.Client} (hh : k.History h c)
    (ds : List k.Deed) (hf : k.follow c ds = some (more, c')) : k.History (h ++ more) c' := by
  induction ds generalizing h c more with
  | nil =>
    obtain ⟨rfl, rfl⟩ := Prod.mk.inj (Option.some.inj hf)
    rwa [List.append_nil]
  | cons d ds ih =>
    simp only [Conduct.follow, Option.bind_eq_bind, Option.bind_eq_some_iff] at hf
    obtain ⟨⟨next, a⟩, hs, ⟨rest, last⟩, hrest, heq⟩ := hf
    obtain ⟨rfl, rfl⟩ := Prod.mk.inj (Option.some.inj heq)
    have hrun := ih (hh.turn d hs) hrest
    rwa [List.append_assoc] at hrun

/-! ### Keeping to the protocol -/

/-- What a deed does that keeps to the protocol (`Phase.after`). -/
inductive Keeps (k : Conduct) (c : k.Client) (d : k.Deed) :
    Option (Except LabError Unit) → k.Client → Prop
  /-- A call is answered at once; if it is rejected, nothing changes. -/
  | answered {call : Call} {c' : k.Client} (hd : k.call? d = some call) (hw : k.waiting c = false)
      (hw' : k.waiting c' = false) (hp : k.phase c' = (k.phase c).after call)
      (hr : ∀ e, (k.phase c).verdict call = .error e → c' = c) :
      Keeps k c d (some ((k.phase c).verdict call)) c'
  /-- A call is accepted, and its user waits for the answer. -/
  | accepted {call : Call} {c' : k.Client} (hd : k.call? d = some call) (hw : k.waiting c = false)
      (hw' : k.waiting c' = true) (hp : k.phase c' = (k.phase c).after call)
      (hv : (k.phase c).verdict call = .ok ()) : Keeps k c d none c'
  /-- The client goes on by itself. -/
  | aside {c' : k.Client} (hd : k.call? d = none) (hw : k.waiting c' = k.waiting c)
      (hp : k.phase c' = k.phase c) : Keeps k c d none c'
  /-- The call that the user waited for is answered. -/
  | settled {c' : k.Client} (hd : k.call? d = none) (hw : k.waiting c = true)
      (hw' : k.waiting c' = false) (hp : k.phase c' = k.phase c) :
      Keeps k c d (some (.ok ())) c'

/-- Every deed `Keeps` to the protocol; every call can be made, and is taken unless its user still
waits for another; and nobody has to wait for ever. -/
structure Lawful (k : Conduct) : Prop where
  fresh_phase : k.phase k.fresh = .idling
  fresh_waiting : k.waiting k.fresh = false
  keeps : ∀ {c c' : k.Client} {d : k.Deed} {a : Option (Except LabError Unit)},
    k.act c d = some (c', a) → k.Keeps c d a c'
  callable : ∀ call, ∃ d, k.call? d = some call
  takes : ∀ {c : k.Client} {d : k.Deed}, k.waiting c = false → (k.call? d).isSome = true →
    (k.act c d).isSome = true
  ends : ∀ c : k.Client, k.waiting c = true →
    ∃ ds more c', k.follow c ds = some (more, c') ∧ (∀ d ∈ ds, k.call? d = none) ∧
      answers more = [.ok ()] ∧ k.waiting c' = false

section Lawful

variable {h : List k.Turn} {c : k.Client}

theorem calls_append_singleton (h : List k.Turn) (t : k.Turn) :
    calls (h ++ [t]) = calls h ++ (k.call? t.deed).toList := by
  rw [calls, List.filterMap_append, calls]
  cases ht : k.call? t.deed <;> simp [ht]

theorem answers_append_singleton (h : List k.Turn) (t : k.Turn) :
    answers (h ++ [t]) = answers h ++ t.answer.toList := by
  rw [answers, List.filterMap_append, answers]
  cases ht : t.answer <;> simp [ht]

/-- **A lawful client answers like the machine of two phases** (`verdicts`): its answers, with the
one that is outstanding, are those of the machine to the same calls. -/
theorem Lawful.answers_eq (hk : k.Lawful) (hh : k.History h c) :
    answers h ++ outstanding c = verdicts .idling (calls h) ∧
      k.phase c = (calls h).foldl .after .idling := by
  induction hh with
  | start =>
    exact ⟨by simp [answers, calls, verdicts, outstanding, hk.fresh_waiting], hk.fresh_phase⟩
  | @turn h c c' a d hh hs ih =>
    obtain ⟨hanswers, hphase⟩ := ih
    rw [calls_append_singleton, answers_append_singleton]
    cases hk.keeps hs with
    | answered hd hw hw' hp =>
      rw [outstanding, hw, if_neg Bool.false_ne_true, List.append_nil] at hanswers
      rw [hd, outstanding, hw', if_neg Bool.false_ne_true, Option.toList_some, Option.toList_some,
        verdicts_append_singleton, List.foldl_concat, ← hphase, ← hanswers, List.append_nil]
      exact ⟨rfl, hp⟩
    | accepted hd hw hw' hp hv =>
      rw [outstanding, hw, if_neg Bool.false_ne_true, List.append_nil] at hanswers
      rw [hd, outstanding, hw', if_pos rfl, Option.toList_some, verdicts_append_singleton,
        List.foldl_concat, ← hphase, ← hanswers, hv]
      exact ⟨by simp, hp⟩
    | aside hd hw hp =>
      rw [hd, outstanding, hw, hp, Option.toList_none, List.append_nil, Option.toList_none,
        List.append_nil]
      exact ⟨hanswers, hphase⟩
    | settled hd hw hw' hp =>
      rw [outstanding, hw, if_pos rfl] at hanswers
      rw [hd, outstanding, hw', hp, if_neg Bool.false_ne_true, Option.toList_none, List.append_nil,
        List.append_nil]
      exact ⟨hanswers, hphase⟩

/-- **A rejected call leaves a client as it was.** -/
theorem Lawful.after_eq_of_rejected (hk : k.Lawful) (hh : k.History h c) :
    ∀ t ∈ h, ∀ e, t.answer = some (.error e) → t.after = t.before := by
  induction hh with
  | start => exact List.forall_mem_nil _
  | @turn h c c' a d hh hs ih =>
    refine List.forall_mem_append.2 ⟨ih, List.forall_mem_singleton.2 fun e he ↦ ?_⟩
    obtain rfl : a = some (.error e) := he
    generalize hanswer : some (Except.error e) = answer at hs
    cases hk.keeps hs with
    | answered _ _ _ _ hr => exact hr e (Option.some.inj hanswer).symm
    | accepted | aside | settled => cases hanswer

end Lawful

/-! ### Calls that are answered at once -/

/-- What a call that is answered at once makes of a client: one that is rejected leaves it as it
is. -/
def replied {σ : Type} (c : σ) : Except LabError σ → σ × Option (Except LabError Unit)
  | .ok c' => (c', some (.ok ()))
  | .error e => (c, some (.error e))

/-- The reply to a call keeps to the protocol. -/
inductive Replies (k : Conduct) (c : k.Client) (call : Call) : Except LabError k.Client → Prop
  | accepted {c' : k.Client} (hv : (k.phase c).verdict call = .ok ())
      (hp : k.phase c' = (k.phase c).after call) : Replies k c call (.ok c')
  | rejected {e : LabError} (hv : (k.phase c).verdict call = .error e) :
      Replies k c call (.error e)

theorem Replies.keeps {c : k.Client} {d : k.Deed} {call : Call} {reply : Except LabError k.Client}
    (hr : k.Replies c call reply) (hd : k.call? d = some call)
    (hw : ∀ c, k.waiting c = false) :
    k.Keeps c d (replied c reply).2 (replied c reply).1 := by
  cases hr with
  | @accepted c' hv hp =>
    have hrej : ∀ e, (k.phase c).verdict call = .error e → c' = c := by
      intro e he
      rw [hv] at he
      cases he
    have hkeeps := Keeps.answered hd (hw c) (hw _) hp hrej
    rwa [hv] at hkeeps
  | rejected hv =>
    have hkeeps := Keeps.answered hd (hw c) (hw c) (Phase.after_of_rejected hv).symm fun _ _ ↦ rfl
    rwa [hv] at hkeeps

end Conduct

/-! ### Clients of attached devices -/

/-- What can happen to a client of attached devices. -/
inductive AttachedDeed
  | claim (reservations : List Reservation)
  | release
  /-- Attached devices are not removed. -/
  | remove (resource : String)
  /-- Its job goes on. -/
  | work (m : Local.Job.Move)

/-- The client of attached devices: it reserves as long as it has a job, done or not. -/
def attached : Conduct where
  Client := Local.Client
  Deed := AttachedDeed
  fresh := .idle
  act c
    | .claim rs => some (Conduct.replied c (c.claim rs))
    | .release => some (Conduct.replied c (c.release.map (·.1)))
    | .remove _ => some (c, none)
    | .work m =>
      match c with
      | .idle => none
      | .reserving j => (j.step m).map fun r ↦ (.reserving r.1, none)
  call?
    | .claim rs => some (.claim rs)
    | .release => some .release
    | .remove _ => none
    | .work _ => none
  phase
    | .idle => .idling
    | .reserving _ => .reserving
  waiting _ := false

theorem attached_lawful : attached.Lawful where
  fresh_phase := rfl
  fresh_waiting := rfl
  keeps {c c' d a} hs := by
    cases d with
    | claim rs =>
      obtain ⟨rfl, rfl⟩ := Prod.mk.inj (Option.some.inj hs)
      refine Conduct.Replies.keeps (k := attached) (c := c) (d := .claim rs) ?_ rfl fun _ ↦ rfl
      cases c with
      | idle => exact .accepted rfl rfl
      | reserving j => exact .rejected rfl
    | release =>
      obtain ⟨rfl, rfl⟩ := Prod.mk.inj (Option.some.inj hs)
      refine Conduct.Replies.keeps (k := attached) (c := c) (d := .release) ?_ rfl fun _ ↦ rfl
      cases c with
      | idle => exact .rejected rfl
      | reserving j => exact .accepted rfl rfl
    | remove name =>
      obtain ⟨rfl, rfl⟩ := Prod.mk.inj (Option.some.inj hs)
      exact .aside rfl rfl rfl
    | work m =>
      cases c with
      | idle => cases hs
      | reserving j =>
        obtain ⟨r, -, heq⟩ := Option.map_eq_some_iff.1 hs
        obtain ⟨rfl, rfl⟩ := Prod.mk.inj heq
        exact .aside rfl rfl rfl
  callable
    | .claim rs => ⟨.claim rs, rfl⟩
    | .release => ⟨.release, rfl⟩
  takes {c d} _ hd := by
    cases d with
    | claim | release => rfl
    | remove | work => cases hd
  ends _ hw := Bool.noConfusion hw

/-! ### Clients of a cluster -/

/-- The answer of a deed to a call. -/
def verdict? : Cluster.Client.Deed → Cluster.Client.Effect → Option (Except LabError Unit)
  | .remove _ _, _ => none
  | _, e => e.answer

/-- The client of a cluster: it reserves in one of its three states. The user of a release waits
until everything is wound up. -/
def hosted (config : Config) : Conduct where
  Client := Cluster.Client
  Deed := Cluster.Client.Deed
  fresh := .idle
  act c d := (c.act config d).map fun r ↦ (r.1, verdict? d r.2)
  call?
    | .claim demands => some (.claim (demands.map (·.2)))
    | .release => some .release
    | _ => none
  phase c := if c.isReserving then .reserving else .idling
  waiting
    | .releasing _ => true
    | _ => false

theorem hosted_keeps {config : Config} {c c' : Cluster.Client} {d : Cluster.Client.Deed}
    {e : Cluster.Client.Effect} (ha : Cluster.Client.Acted config c d e c') :
    (hosted config).Keeps c d (verdict? d e) c' := by
  cases ha with
  | @claimed demands _ _ =>
    exact .answered (k := hosted config) (d := .claim demands) rfl rfl rfl rfl nofun
  | @taken _ _ demands =>
    exact .answered (k := hosted config) (d := .claim demands) rfl rfl rfl rfl
      fun _ _ ↦ rfl
  | released => exact .accepted (k := hosted config) (d := .release) rfl rfl rfl rfl rfl
  | unclaimed =>
    exact .answered (k := hosted config) (d := .release) rfl rfl rfl rfl fun _ _ ↦ rfl
  | settled => exact .settled rfl rfl rfl rfl
  | removed | worked | woundUp => exact .aside rfl rfl rfl

/-- A release comes to its end without any further call, and is answered. -/
theorem hosted_ends (config : Config) (r : Cluster.Release) :
    ∃ ds more, (hosted config).follow (.releasing r) ds = some (more, .idle) ∧
      (∀ d ∈ ds, (hosted config).call? d = none) ∧ Conduct.answers more = [.ok ()] := by
  induction r using Cluster.Release.induction_to_end with
  | ended r hr =>
    refine ⟨[.settle], [⟨.releasing r, .settle, some (.ok ()), .idle⟩], ?_, ?_, rfl⟩
    · simp [Conduct.follow, hosted, Cluster.Client.act, Cluster.Client.settle, hr, verdict?]
    · exact List.forall_mem_singleton.2 rfl
  | step r m r' notices hs ih =>
    obtain ⟨ds, more, hfollow, hcalls, hanswers⟩ := ih
    refine ⟨.windUp m :: ds, ⟨.releasing r, .windUp m, none, .releasing r'⟩ :: more, ?_, ?_,
      hanswers⟩
    · have hact : (hosted config).act (.releasing r) (.windUp m) = some (.releasing r', none) := by
        simp [hosted, Cluster.Client.act, hs, verdict?]
      simp [Conduct.follow, hact, hfollow]
    · exact List.forall_mem_cons.2 ⟨rfl, hcalls⟩

theorem hosted_lawful (config : Config) : (hosted config).Lawful where
  fresh_phase := rfl
  fresh_waiting := rfl
  keeps hs := by
    obtain ⟨r, hact, heq⟩ := Option.map_eq_some_iff.1 hs
    obtain ⟨rfl, rfl⟩ := Prod.mk.inj heq
    exact hosted_keeps (Cluster.Client.acted_of_act hact)
  callable
    | .claim rs => ⟨.claim (rs.map fun r ↦ (.numbered 0 0, r)), by simp [hosted, Function.comp_def]⟩
    | .release => ⟨.release, rfl⟩
  takes {c d} hw hd := by
    cases c with
    | releasing => cases hw
    | idle | reserving =>
      cases d with
      | claim | release => rfl
      | settle | remove | work | windUp => cases hd
  ends c hw := by
    cases c with
    | releasing r =>
      obtain ⟨ds, more, hfollow, hcalls, hanswers⟩ := hosted_ends config r
      exact ⟨ds, more, .idle, hfollow, hcalls, hanswers, rfl⟩
    | idle | reserving => cases hw

/-! ### Pools -/

/-- What can happen to a pool. -/
inductive PoolDeed
  | claim (owner : Simulation.Owner) (reservations : List Reservation)
  | release
  | remove (resource : String)
  /-- Whoever feeds its stream, or takes from it, leaves it so. -/
  | feed (stream : Channel Coordinate)

/-- The client that hands out what is pushed into it: it reserves if its flag is up. -/
def pooled : Conduct where
  Client := Simulation.Pool
  Deed := PoolDeed
  fresh := {}
  act p
    | .claim owner _ => some (Conduct.replied p ((p.claim owner).map (·.1)))
    | .release => some (Conduct.replied p p.release)
    | .remove name => some (p.remove name, none)
    | .feed stream => some ({ p with stream }, none)
  call?
    | .claim _ rs => some (.claim rs)
    | .release => some .release
    | .remove _ => none
    | .feed _ => none
  phase p := if p.reserving then .reserving else .idling
  waiting _ := false

theorem phase_of_reserving {p : Simulation.Pool} (hr : p.reserving = true) :
    pooled.phase p = .reserving :=
  if_pos hr

theorem phase_of_idling {p : Simulation.Pool} (hr : p.reserving = false) :
    pooled.phase p = .idling :=
  if_neg (by simp [hr])

theorem replies_claim (p : Simulation.Pool) (owner : Simulation.Owner) (rs : List Reservation) :
    pooled.Replies p (.claim rs) ((p.claim owner).map (·.1)) := by
  cases hr : p.reserving with
  | true =>
    rw [Simulation.Pool.claim, if_pos hr]
    exact .rejected (by rw [phase_of_reserving hr]; rfl)
  | false =>
    obtain ⟨x, hx, hx'⟩ : ∃ x, p.claim owner = .ok x ∧ x.1.reserving = true := by
      rw [Simulation.Pool.claim, if_neg (by simp [hr])]
      cases p.owner <;> exact ⟨_, rfl, rfl⟩
    rw [hx]
    refine .accepted ?_ ?_
    · rw [phase_of_idling hr]; rfl
    · rw [phase_of_reserving hx', phase_of_idling hr]; rfl

theorem replies_release (p : Simulation.Pool) : pooled.Replies p .release p.release := by
  cases hr : p.reserving with
  | true =>
    rw [Simulation.Pool.release, if_pos hr]
    refine .accepted ?_ ?_
    · rw [phase_of_reserving hr]; rfl
    · rw [phase_of_idling rfl, phase_of_reserving hr]; rfl
  | false =>
    rw [Simulation.Pool.release, if_neg (by simp [hr])]
    exact .rejected (by rw [phase_of_idling hr]; rfl)

theorem pooled_lawful : pooled.Lawful where
  fresh_phase := rfl
  fresh_waiting := rfl
  keeps {p p' d a} hs := by
    cases d with
    | claim owner rs =>
      obtain ⟨rfl, rfl⟩ := Prod.mk.inj (Option.some.inj hs)
      exact (replies_claim p owner rs).keeps rfl fun _ ↦ rfl
    | release =>
      obtain ⟨rfl, rfl⟩ := Prod.mk.inj (Option.some.inj hs)
      exact (replies_release p).keeps rfl fun _ ↦ rfl
    | remove name =>
      obtain ⟨rfl, rfl⟩ := Prod.mk.inj (Option.some.inj hs)
      exact .aside rfl rfl rfl
    | feed stream =>
      obtain ⟨rfl, rfl⟩ := Prod.mk.inj (Option.some.inj hs)
      exact .aside rfl rfl rfl
  callable
    | .claim rs => ⟨.claim .nobody rs, rfl⟩
    | .release => ⟨.release, rfl⟩
  takes {c d} _ hd := by
    cases d with
    | claim | release => rfl
    | remove | feed => cases hd
  ends _ hw := Bool.noConfusion hw

/-! ### All clients alike -/

/-- The kinds of clients: of attached devices, of a cluster, and pools. `Kind.conduct` is how a
client of a kind goes on. -/
inductive Kind
  | attached
  | hosted (config : Config)
  | pooled

/-- How a client of a kind conducts itself. -/
def Kind.conduct : Kind → Conduct
  | attached => Protocol.attached
  | hosted config => Protocol.hosted config
  | pooled => Protocol.pooled

theorem Kind.lawful (k : Kind) : k.conduct.Lawful := by
  cases k with
  | attached => exact attached_lawful
  | hosted config => exact hosted_lawful config
  | pooled => exact pooled_lawful

open Conduct in
/-- **All clients answer alike**, whatever goes on in them meanwhile. The answers of a client, with
the one that its user still waits for (`outstanding`), are those of the machine of two phases
(`verdicts`) to the same calls, and the client is in the phase of that machine. A rejected call
leaves it as it was. Any call is taken unless the user waits for the answer to another; that call
can always be answered, with success, without any further call. So two clients of any kinds that got
the same calls have given the same answers, up to the one that is outstanding. -/
theorem Conduct.History.keeps_protocol {k : Kind} {h : List k.conduct.Turn} {c : k.conduct.Client}
    (hh : k.conduct.History h c) :
    answers h ++ outstanding c = verdicts .idling (calls h) ∧
      k.conduct.phase c = (calls h).foldl .after .idling ∧
      (∀ t ∈ h, ∀ e, t.answer = some (.error e) → t.after = t.before) ∧
      (k.conduct.waiting c = false → ∀ call, ∃ d x,
        k.conduct.call? d = some call ∧ k.conduct.act c d = some x) ∧
      (k.conduct.waiting c = true → ∃ ds more c', k.conduct.follow c ds = some (more, c') ∧
        (∀ d ∈ ds, k.conduct.call? d = none) ∧ answers more = [.ok ()] ∧
        k.conduct.waiting c' = false) ∧
      ∀ (k' : Kind) (h' : List k'.conduct.Turn) (c' : k'.conduct.Client),
        k'.conduct.History h' c' → calls h' = calls h →
          answers h' ++ outstanding c' = answers h ++ outstanding c := by
  obtain ⟨hanswers, hphase⟩ := k.lawful.answers_eq hh
  refine ⟨hanswers, hphase, k.lawful.after_eq_of_rejected hh, fun hw call ↦ ?_, k.lawful.ends c, ?_⟩
  · obtain ⟨d, hd⟩ := k.lawful.callable call
    obtain ⟨x, hx⟩ := Option.isSome_iff_exists.1 (k.lawful.takes hw (Option.isSome_of_eq_some hd))
    exact ⟨d, x, hd, hx⟩
  · intro k' h' c' hh' hcalls
    rw [(k'.lawful.answers_eq hh').1, hanswers, hcalls]

/-! ### A sample -/

/-- The reservations of `Cluster.Client.sampleDemands`. -/
def sampleReservations : List Reservation :=
  Cluster.Client.sampleDemands.map (·.2)

/-- The host cannot list its devices, and the user claims again and releases twice. -/
def attachedSample : List AttachedDeed :=
  [.claim sampleReservations, .work (.listed (.error (.channelClosed "bridge"))),
    .claim sampleReservations, .release, .remove "pod-1", .release]

/-- The job on the host came to nothing and the cluster had trouble of its own, and yet their users
got the same answers. -/
theorem keeps_protocol_of_failures :
    ∃ (h : List attached.Turn) (h' : List (hosted {}).Turn),
      attached.History h .idle ∧ (hosted {}).History h' .idle ∧
        Conduct.answers h =
          [.ok (), .error .alreadyReserving, .ok (), .error .notReserving] ∧
        Conduct.answers h' = Conduct.answers h := by
  obtain ⟨h, hfollow⟩ : ∃ h, attached.follow .idle attachedSample = some (h, .idle) := ⟨_, rfl⟩
  obtain ⟨h', hfollow'⟩ : ∃ h', (hosted {}).follow .idle Cluster.Client.sampleDeeds =
      some (h', .idle) := ⟨_, rfl⟩
  have hh : attached.History h .idle := Conduct.History.start.follow _ hfollow
  have hh' : (hosted {}).History h' .idle := Conduct.History.start.follow _ hfollow'
  have hcalls : Conduct.calls h =
      [.claim sampleReservations, .claim sampleReservations, .release, .release] := by
    cases hfollow
    rfl
  have hcalls' : Conduct.calls h' = Conduct.calls h := by
    rw [hcalls]
    cases hfollow'
    rfl
  obtain ⟨hanswers, -, -, -, -, halike⟩ := Conduct.History.keeps_protocol (k := .attached) hh
  have htold : Conduct.answers h ++ [] = verdicts .idling (Conduct.calls h) := hanswers
  have hsame : Conduct.answers h' ++ [] = Conduct.answers h ++ [] :=
    halike (.hosted {}) h' .idle hh' hcalls'
  rw [List.append_nil] at htold hsame
  rw [List.append_nil] at hsame
  rw [hcalls] at htold
  exact ⟨h, h', hh, hh', htold, hsame⟩

end DeviceLab.Protocol
