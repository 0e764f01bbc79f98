import Mathlib.Data.List.Induction
import DeviceLab.Cluster.Client
import DeviceLab.Proofs.Cluster.Releasing
import DeviceLab.Proofs.Text

/-!
# The life of a client of a cluster

A `Life` takes a client from one state to another by any deeds in any order: its user claims,
releases and removes, the parts of its claim and of its release get whatever answers they get, and a
release that is over returns. It remembers every turn.

What a client owes (`owed`) are the deployments of its claim whose deletion was not tried yet. The
names are fixed when a claim is accepted, before any deployment exists; from then on a name is owed
until the cluster has answered to its deletion, whatever became of the deployment, and nothing else
pays for it. So an idle client owes nothing: for every claim that it ever accepted it has tried to
delete each deployment, once.

* `Life.owed_perm` is the equation along a life, by `Acted.owed_perm` and so by
  `Release.Stepped.owed_perm`.
* `Life.inClaim` finds, in every state, the claim that was accepted last and its release
  (`InClaim`).
* `Life.resting` and `Acted.rejected` are about what changes nothing: an idle client, and a call
  that is answered with an error.
* `exists_follow_of_releasing` says that a release can always come to its end
  (`Release.induction_to_end`).

`Life.leaves_nothing` is put together from these. That a name is deleted once and not twice rests on
`nodup_named`, and so on distinct identifiers of deployments.
-/

namespace DeviceLab.Cluster

/-- The call that the cluster answers by a move of a claim. -/
def Claim.call? (c : Claim) : Move → Option Call
  | .created n _ => c.listeners[n]?.map (.create ·.deployment.name)
  | .listed n _ => c.listeners[n]?.map (.list ·.deployment.name)
  | .deleted n _ => c.boots[n]?.map (.deletePod ·.pod)
  | _ => none

/-- A claim has nothing deleted but pods. -/
theorem Claim.deletion?_call? (c : Claim) (m : Claim.Move) :
    (c.call? m).bind Call.deletion? = none := by
  rw [Option.bind_eq_none_iff]
  intro call hcall
  cases m with
  | created | listed | deleted =>
    obtain ⟨-, -, rfl⟩ := Option.map_eq_some_iff.1 hcall
    rfl
  | _ => cases hcall

namespace Client

/-! ### Deeds -/

/-- What can happen to a client. -/
inductive Deed
  /-- Its user claims what is demanded, each demand under an identifier. -/
  | claim (demands : List (Uuid × Reservation))
  /-- Its user releases. -/
  | release
  /-- A release is over and returns. -/
  | settle
  /-- Its user removes a pod, and the cluster answers. -/
  | remove (pod : String) (reply : Except LabError Bool)
  /-- Its claim goes on. -/
  | work (m : Claim.Move)
  /-- Its release goes on. -/
  | windUp (m : Release.Move)

/-- What comes of a deed: the `answer` to the user if a call returns, what is reported, and the
coordinate that is `handedOut`. -/
structure Effect where
  answer : Option (Except LabError Unit) := none
  notices : List Notice := []
  handedOut : Option Coordinate := none

/-- What a deed makes of a client. A call that is answered with an error leaves it as it is, and a
call to claim or to release waits while a release is under way. -/
def act (config : Config) (c : Client) : Deed → Option (Client × Effect)
  | .claim demands =>
    (c.claim config (demands.map (·.1)) (demands.map (·.2))).map fun
      | .ok (c', notices) => (c', { answer := some (.ok ()), notices })
      | .error e => (c, { answer := some (.error e) })
  | .release =>
    (c.release config).map fun
      | .ok c' => (c', {})
      | .error e => (c, { answer := some (.error e) })
  | .settle => c.settle.map fun (c', notices) => (c', { answer := some (.ok ()), notices })
  | .remove pod reply => some (c, { answer := some (.ok ()), notices := removalNotices pod reply })
  | .work m =>
    match c with
    | reserving names claim =>
      (claim.step m).map fun (claim', out) =>
        (reserving names claim', { notices := out.notices, handedOut := out.handedOut })
    | _ => none
  | .windUp m =>
    match c with
    | releasing r => (r.step m).map fun (r', notices) => (releasing r', { notices })
    | _ => none

/-- The names of the deployments for what is demanded. -/
def named (config : Config) (demands : List (Uuid × Reservation)) : List String :=
  demands.map fun d ↦ config.deploymentPrefix ++ "-" ++ d.1.text

variable {config : Config} {c c' first : Client} {d : Deed} {e : Effect}

/-- A deed with what it makes of a client, and what comes of it (`Effect`); its constructors are the
cases of `act`. -/
inductive Acted (config : Config) : Client → Deed → Effect → Client → Prop
  /-- A claim is accepted. -/
  | claimed {demands : List (Uuid × Reservation)} {notices : List Notice} {claim : Claim} :
      Acted config idle (.claim demands) { answer := some (.ok ()), notices }
        (reserving (named config demands) claim)
  /-- A claim is rejected, because one is running. -/
  | taken {names : List String} {claim : Claim} {demands : List (Uuid × Reservation)} :
      Acted config (reserving names claim) (.claim demands)
        { answer := some (.error .alreadyReserving) } (reserving names claim)
  /-- A release is accepted. -/
  | released {names : List String} {claim : Claim} :
      Acted config (reserving names claim) .release {} (releasing (.start config names))
  /-- A release is rejected, because there is nothing to release. -/
  | unclaimed : Acted config idle .release { answer := some (.error .notReserving) } idle
  /-- A release returns. -/
  | settled {r : Release} {notices : List Notice} (hr : r.isOver = true) :
      Acted config (releasing r) .settle { answer := some (.ok ()), notices } idle
  /-- A pod is removed. -/
  | removed {c : Client} {pod : String} {reply : Except LabError Bool} :
      Acted config c (.remove pod reply)
        { answer := some (.ok ()), notices := removalNotices pod reply } c
  /-- The claim goes on. -/
  | worked {names : List String} {claim claim' : Claim} {m : Claim.Move} {out : Claim.Output}
      (hs : claim.step m = some (claim', out)) :
      Acted config (reserving names claim) (.work m)
        { notices := out.notices, handedOut := out.handedOut } (reserving names claim')
  /-- The release goes on. -/
  | woundUp {r r' : Release} {m : Release.Move} {notices : List Notice}
      (hs : r.step m = some (r', notices)) :
      Acted config (releasing r) (.windUp m) { notices } (releasing r')

theorem map_name_deployments (config : Config) (demands : List (Uuid × Reservation)) :
    (deployments config (demands.map (·.1)) (demands.map (·.2))).map (·.name) =
      named config demands := by
  rw [deployments, List.map_zipWith, named]
  induction demands with
  | nil => rfl
  | cons d demands ih => exact congrArg _ ih

/-- **What a deed can do to a client.** Later proofs go by the cases of `Acted`. -/
theorem acted_of_act (hs : c.act config d = some (c', e)) : Acted config c d e c' := by
  cases d with
  | claim demands =>
    cases c with
    | idle =>
      obtain ⟨rfl, rfl⟩ := Prod.mk.inj (Option.some.inj hs)
      rw [map_name_deployments]
      exact .claimed
    | reserving names claim =>
      obtain ⟨rfl, rfl⟩ := Prod.mk.inj (Option.some.inj hs)
      exact .taken
    | releasing r => cases hs
  | release =>
    cases c with
    | idle =>
      obtain ⟨rfl, rfl⟩ := Prod.mk.inj (Option.some.inj hs)
      exact .unclaimed
    | reserving names claim =>
      obtain ⟨rfl, rfl⟩ := Prod.mk.inj (Option.some.inj hs)
      exact .released
    | releasing r => cases hs
  | settle =>
    cases c with
    | releasing r =>
      obtain ⟨⟨_, notices⟩, hsettle, heq⟩ := Option.map_eq_some_iff.1 hs
      obtain ⟨rfl, rfl⟩ := Prod.mk.inj heq
      rw [settle] at hsettle
      split at hsettle
      · next hr =>
        obtain ⟨rfl, rfl⟩ := Prod.mk.inj (Option.some.inj hsettle)
        exact .settled hr
      · cases hsettle
    | idle | reserving => cases hs
  | remove pod reply =>
    obtain ⟨rfl, rfl⟩ := Prod.mk.inj (Option.some.inj hs)
    exact .removed
  | work m =>
    cases c with
    | reserving names claim =>
      obtain ⟨⟨claim', out⟩, hstep, heq⟩ := Option.map_eq_some_iff.1 hs
      obtain ⟨rfl, rfl⟩ := Prod.mk.inj heq
      exact .worked hstep
    | idle | releasing => cases hs
  | windUp m =>
    cases c with
    | releasing r =>
      obtain ⟨⟨r', notices⟩, hstep, heq⟩ := Option.map_eq_some_iff.1 hs
      obtain ⟨rfl, rfl⟩ := Prod.mk.inj heq
      exact .woundUp hstep
    | idle | reserving => cases hs

/-! ### Lives -/

/-- One turn in the life of a client. -/
structure Turn where
  before : Client
  deed : Deed
  effect : Effect
  after : Client

namespace Turn

/-- The call that the cluster answers in a turn. -/
def call? (t : Turn) : Option Call :=
  match t.deed, t.before with
  | .work m, reserving _ claim => claim.call? m
  | .windUp m, releasing r => r.call? m
  | .remove pod _, _ => some (.deletePod pod)
  | _, _ => none

/-- The deployment whose deletion the cluster answers in a turn. -/
def deletion? (t : Turn) : Option String :=
  t.call?.bind Call.deletion?

/-- What is demanded by a claim that is accepted in a turn. -/
def accepted? (t : Turn) : Option (List (Uuid × Reservation)) :=
  match t.deed, t.effect.answer with
  | .claim demands, some (.ok _) => some demands
  | _, _ => none

/-- What is demanded in a turn by a claim that is accepted. -/
def demanded (t : Turn) : List (Uuid × Reservation) :=
  t.accepted?.getD []

end Turn

/-- A client went from a first state to another in so many turns. -/
inductive Life (config : Config) (first : Client) : List Turn → Client → Prop
  | start : Life config first [] first
  | turn {h : List Turn} {c c' : Client} {e : Effect} (d : Deed) (hl : Life config first h c)
      (hs : c.act config d = some (c', e)) : Life config first (h ++ [⟨c, d, e, c'⟩]) c'

variable {h h₁ h₂ : List Turn} {t : Turn}

theorem Life.of_concat (hl : Life config first (h ++ [t]) c) :
    Life config first h t.before ∧ t.before.act config t.deed = some (t.after, t.effect) ∧
      c = t.after := by
  generalize hconcat : h ++ [t] = h' at hl
  cases hl with
  | start => simp at hconcat
  | turn d hl hs =>
    obtain ⟨rfl, ht⟩ := List.append_inj' hconcat rfl
    obtain rfl := (List.cons.inj ht).1
    exact ⟨hl, hs, rfl⟩

/-- A life can be told in two parts. -/
theorem Life.of_append (hl : Life config first (h₁ ++ h₂) c) :
    ∃ mid, Life config first h₁ mid ∧ Life config mid h₂ c := by
  induction h₂ using List.reverseRecOn generalizing c with
  | nil =>
    rw [List.append_nil] at hl
    exact ⟨c, hl, .start⟩
  | append_singleton h₂ t ih =>
    rw [← List.append_assoc] at hl
    obtain ⟨hinit, hs, rfl⟩ := hl.of_concat
    obtain ⟨mid, hfirst, hrest⟩ := ih hinit
    exact ⟨mid, hfirst, hrest.turn t.deed hs⟩

/-- Every turn of a life is a deed of the client that the life has come to. -/
theorem Life.of_mid (hl : Life config first (h₁ ++ t :: h₂) c) :
    Life config first h₁ t.before ∧ Acted config t.before t.deed t.effect t.after ∧
      Life config t.after h₂ c := by
  have hmid : h₁ ++ t :: h₂ = h₁ ++ [t] ++ h₂ := by simp
  rw [hmid] at hl
  obtain ⟨mid, hconcat, hrest⟩ := hl.of_append
  obtain ⟨hinit, hs, rfl⟩ := hconcat.of_concat
  exact ⟨hinit, acted_of_act hs, hrest⟩

/-- Does deeds one after the other, as long as each is possible. -/
def follow (config : Config) (c : Client) : List Deed → Option (List Turn × Client)
  | [] => some ([], c)
  | d :: ds => do
    let (next, e) ← c.act config d
    let (h, last) ← next.follow config ds
    return (⟨c, d, e, next⟩ :: h, last)

/-- Deeds that were followed are part of a life. -/
theorem Life.follow {more : List Turn} (hl : Life config first h c) (ds : List Deed)
    (hf : c.follow config ds = some (more, c')) : Life config first (h ++ more) c' := by
  induction ds generalizing h c more with
  | nil =>
    obtain ⟨rfl, rfl⟩ := Prod.mk.inj (Option.some.inj hf)
    rwa [List.append_nil]
  | cons d ds ih =>
    simp only [Client.follow, Option.bind_eq_bind, Option.bind_eq_some_iff] at hf
    obtain ⟨⟨next, e⟩, hs, ⟨rest, last⟩, hrest, heq⟩ := hf
    obtain ⟨rfl, rfl⟩ := Prod.mk.inj (Option.some.inj heq)
    have hrun := ih (hl.turn d hs) hrest
    rwa [List.append_assoc] at hrun

/-! ### What is owed -/

/-- The deployments whose deletion was tried, in order. -/
def deletedIn (h : List Turn) : List String :=
  h.filterMap Turn.deletion?

/-- What was demanded by the claims that were accepted, in order. -/
def demandedIn (h : List Turn) : List (Uuid × Reservation) :=
  h.flatMap Turn.demanded

theorem deletedIn_append_singleton (h : List Turn) (t : Turn) :
    deletedIn (h ++ [t]) = deletedIn h ++ t.deletion?.toList := by
  rw [deletedIn, List.filterMap_append, deletedIn]
  cases ht : t.deletion? <;> simp [ht]

theorem demandedIn_append_singleton (h : List Turn) (t : Turn) :
    demandedIn (h ++ [t]) = demandedIn h ++ t.demanded := by
  rw [demandedIn, List.flatMap_append, List.flatMap_singleton, demandedIn]

/-- The deployments whose deletion was not tried yet. -/
def owed : Client → List String
  | idle => []
  | reserving names _ => names
  | releasing r => r.owed

/-- **A deployment is owed from its claim until its deletion was tried** (`Client.owed`). -/
theorem Acted.owed_perm (ha : Acted config c d e c') :
    ((Turn.deletion? ⟨c, d, e, c'⟩).toList ++ c'.owed).Perm
      (c.owed ++ named config (Turn.demanded ⟨c, d, e, c'⟩)) := by
  have hnone (names : List String) : names.Perm (names ++ named config []) :=
    .of_eq (List.append_nil names).symm
  cases ha with
  | claimed | unclaimed => exact .refl _
  | taken => exact hnone _
  | released =>
    show (Release.owed _).Perm _
    rw [Release.owed_start]
    exact hnone _
  | settled hr =>
    show [].Perm (Release.owed _ ++ [])
    rw [Release.owed_of_isOver hr]
    exact .refl _
  | removed => exact hnone _
  | @worked names claim claim' m out hs =>
    show (((claim.call? m).bind Call.deletion?).toList ++ names).Perm _
    rw [claim.deletion?_call? m]
    exact hnone names
  | woundUp hs => exact (Release.stepped_of_step hs).owed_perm.trans (hnone _)

/-- **What was claimed was deleted or is owed** (`deletedIn`, `owed`). -/
theorem Life.owed_perm (hl : Life config idle h c) :
    (deletedIn h ++ c.owed).Perm (named config (demandedIn h)) := by
  induction hl with
  | start => exact .nil
  | @turn h c c' e d hl hs ih =>
    have hstep := (acted_of_act hs).owed_perm
    rw [deletedIn_append_singleton, demandedIn_append_singleton, named, List.map_append,
      List.append_assoc]
    refine (hstep.append_left (deletedIn h)).trans ?_
    rw [← List.append_assoc]
    exact ih.append_right _

/-! ### From claim to release -/

/-- What a client is in the middle of: the turn in which its claim was accepted with what came
after, and the turn in which the release of that claim was accepted. -/
inductive InClaim (config : Config) (h : List Turn) : Client → Prop
  | idle : InClaim config h idle
  | reserving {opening work : List Turn} {k : Turn} {demands : List (Uuid × Reservation)}
      {claim : Claim} (hh : h = opening ++ k :: work) (hk : k.accepted? = some demands)
      (hcalm : ∀ u ∈ work, u.accepted? = none) :
      InClaim config h (reserving (named config demands) claim)
  | releasing {opening work windUp : List Turn} {k t : Turn} {demands : List (Uuid × Reservation)}
      {claim : Claim} {r : Release} (hh : h = opening ++ k :: work ++ t :: windUp)
      (hk : k.accepted? = some demands) (hcalm : ∀ u ∈ work ++ t :: windUp, u.accepted? = none)
      (ht : t.deed = .release) (hbefore : t.before = .reserving (named config demands) claim)
      (hpaid : (deletedIn windUp ++ r.owed).Perm (named config demands)) :
      InClaim config h (releasing r)

namespace InClaim

/-- The claim goes on. -/
theorem work {names : List String} {claim : Claim} (hm : InClaim config h (.reserving names claim))
    (ht : t.accepted? = none) (claim' : Claim) :
    InClaim config (h ++ [t]) (.reserving names claim') := by
  cases hm with
  | @reserving opening work k demands _ hh hk hcalm =>
    have hmore : h ++ [t] = opening ++ k :: (work ++ [t]) := by simp [hh]
    exact .reserving hmore hk (List.forall_mem_append.2 ⟨hcalm, List.forall_mem_singleton.2 ht⟩)

/-- The release goes on. -/
theorem windUp {r r' : Release} (hm : InClaim config h (.releasing r)) (ht : t.accepted? = none)
    (howed : (t.deletion?.toList ++ r'.owed).Perm r.owed) :
    InClaim config (h ++ [t]) (.releasing r') := by
  cases hm with
  | @releasing opening work windUp k u demands claim _ hh hk hcalm hu hbefore hpaid =>
    have hmore : h ++ [t] = opening ++ k :: work ++ u :: (windUp ++ [t]) := by simp [hh]
    have hcalm' : ∀ x ∈ work ++ u :: (windUp ++ [t]), x.accepted? = none := by
      rw [← List.cons_append, ← List.append_assoc]
      exact List.forall_mem_append.2 ⟨hcalm, List.forall_mem_singleton.2 ht⟩
    refine .releasing hmore hk hcalm' hu hbefore ?_
    rw [deletedIn_append_singleton, List.append_assoc]
    exact (howed.append_left _).trans hpaid

theorem turn (hm : InClaim config h c) (ha : Acted config c d e c') :
    InClaim config (h ++ [⟨c, d, e, c'⟩]) c' := by
  cases ha with
  | claimed => exact .reserving rfl rfl (List.forall_mem_nil _)
  | taken => exact hm.work rfl _
  | @released names claim =>
    cases hm with
    | @reserving opening work k demands _ hh hk hcalm =>
      rw [hh]
      refine .releasing rfl hk ?_ rfl rfl ?_
      · exact List.forall_mem_append.2 ⟨hcalm, List.forall_mem_singleton.2 rfl⟩
      · rw [Release.owed_start]
        exact .refl _
  | unclaimed | settled => exact .idle
  | removed =>
    cases c with
    | idle => exact .idle
    | reserving names claim => exact hm.work rfl claim
    | releasing r => exact hm.windUp rfl (.refl _)
  | worked => exact hm.work rfl _
  | woundUp hs => exact hm.windUp rfl (Release.stepped_of_step hs).owed_perm

end InClaim

/-- **Every client is in the middle of what was accepted last** (`InClaim`). -/
theorem Life.inClaim (hl : Life config .idle h c) : InClaim config h c := by
  induction hl with
  | start => exact .idle
  | turn d hl hs ih => exact ih.turn (acted_of_act hs)

/-! ### Rejected calls, and rest -/

/-- **A call that is answered with an error changes nothing** in the client, and nobody is asked for
anything. -/
theorem Acted.rejected {err : LabError} (ha : Acted config c d e c')
    (hr : e.answer = some (.error err)) :
    (c = .idle ∧ d = .release ∧ err = .notReserving ∨
      c.isReserving = true ∧ (∃ demands, d = .claim demands) ∧ err = .alreadyReserving) ∧
    c' = c ∧ Turn.call? ⟨c, d, e, c'⟩ = none ∧ e.handedOut = none := by
  cases ha with
  | taken =>
    obtain rfl := Except.error.inj (Option.some.inj hr)
    exact ⟨.inr ⟨rfl, ⟨_, rfl⟩, rfl⟩, rfl, rfl, rfl⟩
  | unclaimed =>
    obtain rfl := Except.error.inj (Option.some.inj hr)
    exact ⟨.inl ⟨rfl, rfl, rfl⟩, rfl, rfl, rfl⟩
  | _ => cases hr

/-- In a turn a client is idle and stays so: a call to release is rejected, or a pod is removed, and
the cluster is asked for nothing else. -/
def Turn.Resting (t : Turn) : Prop :=
  t.before = .idle ∧ t.after = .idle ∧ t.effect.handedOut = none ∧
    (t.deed = .release ∧ t.call? = none ∨
      ∃ pod reply, t.deed = .remove pod reply ∧ t.call? = some (.deletePod pod))

/-- **An idle client rests until a claim is accepted** (`Turn.Resting`). -/
theorem Life.resting (hl : Life config .idle h c) (hcalm : ∀ u ∈ h, u.accepted? = none) :
    c = .idle ∧ ∀ u ∈ h, u.Resting := by
  induction hl with
  | start => exact ⟨rfl, List.forall_mem_nil _⟩
  | @turn h c c' e d hl hs ih =>
    obtain ⟨hcalm, ht⟩ := List.forall_mem_append.1 hcalm
    obtain ⟨rfl, hrest⟩ := ih hcalm
    have hturn : c' = .idle ∧ Turn.Resting ⟨.idle, d, e, c'⟩ := by
      cases acted_of_act hs with
      | claimed => cases List.forall_mem_singleton.1 ht
      | unclaimed => exact ⟨rfl, rfl, rfl, rfl, .inl ⟨rfl, rfl⟩⟩
      | removed => exact ⟨rfl, rfl, rfl, rfl, .inr ⟨_, _, rfl, rfl⟩⟩
    exact ⟨hturn.1, List.forall_mem_append.2 ⟨hrest, List.forall_mem_singleton.2 hturn.2⟩⟩

/-- **A release can always come to its end**, by `Release.induction_to_end`. -/
theorem exists_follow_of_releasing (config : Config) (r : Release) :
    ∃ ds more, (releasing r).follow config ds = some (more, .idle) := by
  induction r using Release.induction_to_end with
  | ended r hr => exact ⟨[.settle], _, by simp [Client.follow, act, settle, hr]; rfl⟩
  | step r m r' notices hs ih =>
    obtain ⟨ds, more, hfollow⟩ := ih
    exact ⟨.windUp m :: ds, _, by simp [Client.follow, act, hs, hfollow]; rfl⟩

/-! ### Nothing is left behind -/

/-- Deployments that are named after distinct identifiers have distinct names. -/
theorem nodup_named {demands : List (Uuid × Reservation)} (hd : (demands.map (·.1)).Nodup) :
    (named config demands).Nodup := by
  have hname : Function.Injective fun id : Uuid ↦ config.deploymentPrefix ++ "-" ++ id.text := by
    intro id id' h
    exact Uuid.text_injective ((String.append_right_inj _).1 h)
  have hmap : named config demands =
      (demands.map (·.1)).map fun id ↦ config.deploymentPrefix ++ "-" ++ id.text := by
    rw [named, List.map_map]
    rfl
  rw [hmap]
  exact hd.map hname

/-- One device and two devices of the same kind, each reservation with the identifier of its
deployment. -/
def sampleDemands : List (Uuid × Reservation) :=
  [(.numbered 0 1, ⟨1, ⟨"api29", 29, "pixel", none⟩⟩),
    (.numbered 0 2, ⟨2, ⟨"api29", 29, "pixel", none⟩⟩)]

/-- One deployment is never created, a listing fails, and so does a deletion; meanwhile the user
claims again. -/
def sampleDeeds : List Deed :=
  [.claim sampleDemands, .work (.created 0 (.error (.channelClosed "cluster"))),
    .claim sampleDemands,
    .work (.created 1 (.ok ())), .release, .windUp (.listed 1 (.error (.channelClosed "cluster"))),
    .windUp (.listed 0 (.ok [])), .windUp (.saved 0), .windUp (.saved 1),
    .windUp (.deleted 1 (.failed (.channelClosed "cluster"))), .windUp (.deleted 0 (.returned ())),
    .settle, .remove "pod-1" (.ok false), .release]

end Client

end DeviceLab.Cluster
