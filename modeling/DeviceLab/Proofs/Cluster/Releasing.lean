import Mathlib.Data.Option.Basic
import Mathlib.Data.Prod.Lex
import DeviceLab.Cluster.Release
import DeviceLab.Proofs.Distinct

/-!
# The course of a release

`stepped_of_step` says once what a move of a release can do (`Stepped`). From it follow what a
release still owes (`owed`), the deletions of deployments that are not over, and that it always
comes to an end.

* `Stepped.owed_perm`: a deployment is owed until its deletion is answered, and no other is paid by
  that.
* `exists_step`: as long as a release is not over, it waits for some answer.
* `Stepped.nearer`: whatever the answer is, it brings the release nearer to its end (`Nearer`). A
  listing brings more to do, so the order is by listings first (`unlisted`) and then by the answers
  that are due.

`induction_to_end` rests on the last two and is the form in which they are used.
-/

namespace DeviceLab.Cluster

/-! ### What a move can do -/

/-- A call to the cluster. -/
inductive Call
  | create (deployment : String)
  | list (deployment : String)
  | delete (deployment : String)
  | deletePod (pod : String)
  | log (pod : String)
  | describe (pod : String)
  deriving DecidableEq

/-- The deployment that a call is to delete. -/
def Call.deletion? : Call → Option String
  | .delete deployment => some deployment
  | _ => none

/-- How many answers the care for a pod waits for at most. -/
def PodRelease.Stage.due : PodRelease.Stage → Nat
  | .fetching => 4
  | .reporting _ => 3
  | .describing _ => 2
  | .disconnecting => 1
  | .ended => 0
  | .crashed _ => 0

/-- How many listings the release of a deployment waits for. -/
def DeploymentRelease.Stage.unlisted : DeploymentRelease.Stage → Nat
  | .listing => 1
  | _ => 0

/-- How many answers the release of a deployment waits for at most besides the care for its pods,
once they are listed. -/
def DeploymentRelease.Stage.due : DeploymentRelease.Stage → Nat
  | .saving => 2
  | .deleting => 1
  | _ => 0

/-- How many answers the release of a deployment waits for at most, once its pods are listed. -/
def DeploymentRelease.due (d : DeploymentRelease) : Nat :=
  d.stage.due + (d.pods.map (·.stage.due)).sum

namespace Release

variable {r r' : Release} {m : Move} {ns : List Notice}

/-- The call that the cluster answers by a move. -/
def call? (r : Release) : Move → Option Call
  | .listed n _ => r.deployments[n]?.map (.list ·.name)
  | .fetched n k _ => (r.pod? n k).map (.log ·.pod)
  | .described n k _ => (r.pod? n k).map (.describe ·.pod)
  | .deleted n _ => r.deployments[n]?.map (.delete ·.name)
  | _ => none

/-- The deployment whose deletion the cluster answers by a move. -/
def deletion? (r : Release) (m : Move) : Option String :=
  (r.call? m).bind Call.deletion?

/-- A move of a release with what comes of it; its constructors are the cases of `step`. -/
inductive Stepped (r : Release) : Move → Release → Prop
  /-- The pods of a deployment are listed. -/
  | listed {n : Nat} {d : DeploymentRelease} {reply : Except LabError (List Pod)}
      {pods : List PodRelease} (hd : r.deployments[n]? = some d) (hstage : d.stage = .listing) :
      Stepped r (.listed n reply)
        (r.modifyDeployment n fun d ↦ { d with stage := .saving, pods := pods })
  /-- The care for a pod goes on. -/
  | called {m : Move} {n k : Nat} {p : PodRelease} {stage : PodRelease.Stage}
      (hp : r.pod? n k = some p) (hm : r.deletion? m = none) (hdue : stage.due < p.stage.due) :
      Stepped r m (r.setPod n k stage)
  /-- All pods of a deployment are taken care of. -/
  | saved {n : Nat} {d : DeploymentRelease} (hd : r.deployments[n]? = some d)
      (hstage : d.stage = .saving) :
      Stepped r (.saved n) (r.modifyDeployment n ({ · with stage := .deleting }))
  /-- The deletion of a deployment was tried, and came to whatever end. -/
  | deleted {n : Nat} {d : DeploymentRelease} {answer : Answer Unit}
      {stage : DeploymentRelease.Stage} (hd : r.deployments[n]? = some d)
      (hstage : d.stage = .deleting) (hover : stage = .ended ∨ stage = .crashed) :
      Stepped r (.deleted n answer) (r.modifyDeployment n ({ · with stage := stage }))

theorem stepped_of_listed {n : Nat} {reply : Except LabError (List Pod)}
    (hs : r.listed n reply = some (r', ns)) : Stepped r (.listed n reply) r' := by
  simp only [listed, Option.bind_eq_bind, Option.bind_eq_some_iff] at hs
  obtain ⟨d, hd, hs⟩ := hs
  split at hs
  · next hstage =>
    obtain ⟨rfl, rfl⟩ := Prod.mk.inj (Option.some.inj hs)
    exact .listed hd hstage
  · cases hs

/-- Only the deletion of a deployment deletes one. -/
theorem deletion?_eq_none (hm : ∀ n answer, m ≠ .deleted n answer) : r.deletion? m = none := by
  rw [deletion?, Option.bind_eq_none_iff]
  intro call hcall
  cases m with
  | deleted n answer => exact absurd rfl (hm n answer)
  | reported | disconnected | saved => cases hcall
  | listed | fetched | described =>
    obtain ⟨-, -, rfl⟩ := Option.map_eq_some_iff.1 hcall
    rfl

theorem stepped_of_fetched {n k : Nat} {reply : Except LabError String}
    (hs : r.fetched n k reply = some (r', ns)) : Stepped r (.fetched n k reply) r' := by
  simp only [fetched, Option.bind_eq_bind, Option.bind_eq_some_iff] at hs
  obtain ⟨p, hp, hs⟩ := hs
  split at hs
  case h_3 => cases hs
  all_goals
    next hstage =>
    obtain ⟨rfl, rfl⟩ := Prod.mk.inj (Option.some.inj hs)
    exact .called hp (deletion?_eq_none nofun) (by simp [hstage, PodRelease.Stage.due])

theorem stepped_of_reported {n k : Nat} {answer : Answer Unit}
    (hs : r.reported n k answer = some (r', ns)) : Stepped r (.reported n k answer) r' := by
  simp only [reported, Option.bind_eq_bind, Option.bind_eq_some_iff] at hs
  obtain ⟨p, hp, hs⟩ := hs
  split at hs
  case h_4 => cases hs
  all_goals
    next hstage =>
    obtain ⟨rfl, rfl⟩ := Prod.mk.inj (Option.some.inj hs)
    exact .called hp (deletion?_eq_none nofun) (by simp [hstage, PodRelease.Stage.due])

theorem stepped_of_described {n k : Nat} {reply : Except LabError (Option Pod)}
    (hs : r.described n k reply = some (r', ns)) : Stepped r (.described n k reply) r' := by
  simp only [described, Option.bind_eq_bind, Option.bind_eq_some_iff] at hs
  obtain ⟨p, hp, hs⟩ := hs
  split at hs
  · next hstage =>
    obtain ⟨rfl, rfl⟩ := Prod.mk.inj (Option.some.inj hs)
    exact .called hp (deletion?_eq_none nofun) (by simp [hstage, PodRelease.Stage.due])
  · cases hs

theorem stepped_of_disconnected {n k : Nat} {answer : Answer Unit}
    (hs : r.disconnected n k answer = some (r', ns)) : Stepped r (.disconnected n k answer) r' := by
  simp only [disconnected, Option.bind_eq_bind, Option.bind_eq_some_iff] at hs
  obtain ⟨p, hp, hs⟩ := hs
  split at hs
  case h_4 => cases hs
  all_goals
    next hstage =>
    obtain ⟨rfl, rfl⟩ := Prod.mk.inj (Option.some.inj hs)
    exact .called hp (deletion?_eq_none nofun) (by simp [hstage, PodRelease.Stage.due])

theorem stepped_of_saved {n : Nat} (hs : r.saved n = some (r', ns)) : Stepped r (.saved n) r' := by
  simp only [saved, Option.bind_eq_bind, Option.bind_eq_some_iff] at hs
  obtain ⟨d, hd, hs⟩ := hs
  split at hs
  · next hstage =>
    obtain ⟨-, -, hs⟩ := Option.bind_eq_some_iff.1 hs
    obtain ⟨rfl, rfl⟩ := Prod.mk.inj (Option.some.inj hs)
    exact .saved hd hstage
  · cases hs

theorem stepped_of_deleted {n : Nat} {answer : Answer Unit}
    (hs : r.deleted n answer = some (r', ns)) : Stepped r (.deleted n answer) r' := by
  simp only [deleted, Option.bind_eq_bind, Option.bind_eq_some_iff] at hs
  obtain ⟨d, hd, hs⟩ := hs
  split at hs
  case h_4 => cases hs
  all_goals
    next hstage =>
    obtain ⟨rfl, rfl⟩ := Prod.mk.inj (Option.some.inj hs)
    exact .deleted hd hstage (by simp)

/-- **What a move of a release can do.** Later proofs go by the cases of `Stepped`. -/
theorem stepped_of_step (hs : r.step m = some (r', ns)) : Stepped r m r' := by
  cases m with
  | listed n reply => exact stepped_of_listed hs
  | fetched n k reply => exact stepped_of_fetched hs
  | reported n k answer => exact stepped_of_reported hs
  | described n k reply => exact stepped_of_described hs
  | disconnected n k answer => exact stepped_of_disconnected hs
  | saved n => exact stepped_of_saved hs
  | deleted n answer => exact stepped_of_deleted hs

/-! ### What is owed -/

/-- The deployments whose deletion was not answered yet. -/
def owed (r : Release) : List String :=
  r.deployments.filterMap fun d ↦ if d.isOver = true then none else some d.name

theorem owed_start (config : Config) (names : List String) : (start config names).owed = names := by
  simp [owed, start, DeploymentRelease.isOver]

theorem owed_of_isOver (hr : r.isOver = true) : r.owed = [] := by
  rw [owed, List.filterMap_eq_nil_iff]
  intro d hd
  rw [if_pos (List.all_eq_true.1 hr d hd)]

/-- A deployment that is not over before or after it changes is owed as it was. -/
theorem owed_modifyDeployment {n : Nat} {d : DeploymentRelease}
    {f : DeploymentRelease → DeploymentRelease} (hd : r.deployments[n]? = some d)
    (hname : (f d).name = d.name) (hover : (f d).isOver = d.isOver) :
    (r.modifyDeployment n f).owed = r.owed := by
  refine filterMap_modify_of_eq hd ?_
  rw [hname, hover]

/-- **A deployment is owed until its deletion is answered** (`unlisted`, `deletion?`), and no other
is paid by that. -/
theorem Stepped.owed_perm (hs : Stepped r m r') :
    ((r.deletion? m).toList ++ r'.owed).Perm r.owed := by
  cases hs with
  | listed hd hstage =>
    rw [deletion?_eq_none (m := .listed _ _) nofun, owed_modifyDeployment hd rfl]
    · rfl
    · rw [DeploymentRelease.isOver, DeploymentRelease.isOver, hstage]
  | called hp hm =>
    obtain ⟨d, hd, -⟩ := Option.bind_eq_some_iff.1 hp
    rw [hm, setPod, owed_modifyDeployment hd rfl rfl]
    rfl
  | saved hd hstage =>
    rw [deletion?_eq_none (m := .saved _) nofun, owed_modifyDeployment hd rfl]
    · rfl
    · rw [DeploymentRelease.isOver, DeploymentRelease.isOver, hstage]
  | @deleted n d answer stage hd hstage hover =>
    have hname : r.deletion? (.deleted n answer) = some d.name := by
      rw [deletion?, call?, hd]
      rfl
    rw [hname]
    refine perm_cons_filterMap_modify hd ?_ ?_
    · rw [if_neg]
      simp [DeploymentRelease.isOver, hstage]
    · rcases hover with rfl | rfl <;> rfl

/-! ### The end of a release -/

/-- How many listings a release waits for. -/
def unlisted (r : Release) : Nat :=
  (r.deployments.map (·.stage.unlisted)).sum

/-- How many answers a release waits for at most besides listings and what comes of them. -/
def due (r : Release) : Nat :=
  (r.deployments.map (·.due)).sum

section Modify

variable {n : Nat} {d : DeploymentRelease} (f : DeploymentRelease → DeploymentRelease)
  (hd : r.deployments[n]? = some d)

include hd

theorem unlisted_modifyDeployment :
    (r.modifyDeployment n f).unlisted + d.stage.unlisted = r.unlisted + (f d).stage.unlisted :=
  sum_map_modify hd

theorem due_modifyDeployment : (r.modifyDeployment n f).due + d.due = r.due + (f d).due :=
  sum_map_modify hd

end Modify

/-- One release is nearer to its end than another. A listing brings more to do, but there is only
one for each deployment. -/
def Nearer (r' r : Release) : Prop :=
  Prod.Lex (· < ·) (· < ·) (r'.unlisted, r'.due) (r.unlisted, r.due)

theorem wellFounded_nearer : WellFounded Nearer :=
  InvImage.wf (fun r : Release ↦ (r.unlisted, r.due))
    (WellFounded.prod_lex Nat.lt_wfRel.wf Nat.lt_wfRel.wf)

/-- The release of one deployment goes on, without a listing. -/
theorem nearer_of_due_lt {n : Nat} {d : DeploymentRelease}
    {f : DeploymentRelease → DeploymentRelease} (hd : r.deployments[n]? = some d)
    (hunlisted : (f d).stage.unlisted = d.stage.unlisted) (hdue : (f d).due < d.due) :
    Nearer (r.modifyDeployment n f) r := by
  have hlists := unlisted_modifyDeployment f hd
  have hsum := due_modifyDeployment f hd
  rw [Nearer, Prod.lex_iff]
  exact .inr ⟨by show _ = r.unlisted; omega, by show _ < r.due; omega⟩

/-- **Every answer brings a release nearer to its end** (`Nearer`). -/
theorem Stepped.nearer (hs : Stepped r m r') : Nearer r' r := by
  cases hs with
  | @listed n d reply pods hd hstage =>
    have hlists := unlisted_modifyDeployment (fun d ↦ { d with stage := .saving, pods := pods }) hd
    rw [hstage] at hlists
    exact Prod.Lex.left _ _ (Nat.lt_of_succ_le hlists.le)
  | @called _ n k p stage hp hm hdue =>
    obtain ⟨d, hd, hp⟩ := Option.bind_eq_some_iff.1 hp
    refine nearer_of_due_lt hd rfl (Nat.add_lt_add_left ?_ _)
    have hsum := sum_map_modify (w := fun p : PodRelease ↦ p.stage.due)
      (h := fun p ↦ { p with stage := stage }) hp
    exact Nat.lt_of_add_lt_add_right (hsum.trans_lt (Nat.add_lt_add_left hdue _))
  | saved hd hstage =>
    refine nearer_of_due_lt hd (by rw [hstage]; rfl) ?_
    simp [DeploymentRelease.due, hstage, DeploymentRelease.Stage.due]
  | @deleted n d answer stage hd hstage hover =>
    have hends : stage.unlisted = 0 ∧ stage.due = 0 := by
      rcases hover with rfl | rfl <;> exact ⟨rfl, rfl⟩
    refine nearer_of_due_lt hd (by rw [hstage]; exact hends.1) ?_
    rw [DeploymentRelease.due, DeploymentRelease.due, hends.2, hstage]
    exact Nat.add_lt_add_right Nat.one_pos _

/-- The pods of a deployment are taken care of once the care for each of them is over. -/
theorem step_saved {n : Nat} {d : DeploymentRelease} (hd : r.deployments[n]? = some d)
    (hstage : d.stage = .saving) (hpods : d.pods.all PodRelease.isOver = true) :
    r.step (.saved n) = some (r.modifyDeployment n ({ · with stage := .deleting }), []) := by
  have hguard : (guard (d.pods.all PodRelease.isOver = true) : Option Unit) = some () :=
    if_pos hpods
  rw [step, saved, hd, Option.bind_eq_bind, Option.bind_some, hstage]
  show Option.bind (guard (d.pods.all PodRelease.isOver = true)) _ = _
  rw [hguard]
  rfl

/-- **As long as a release is not over, it waits for some answer.** -/
theorem exists_step (hr : r.isOver = false) : ∃ m x, r.step m = some x := by
  obtain ⟨d, hmem, hover⟩ := List.all_eq_false.1 hr
  obtain ⟨n, hd⟩ := List.mem_iff_getElem?.1 hmem
  cases hstage : d.stage with
  | listing => exact ⟨.listed n (.ok []), _, by simp [step, listed, hd, hstage]; rfl⟩
  | deleting => exact ⟨.deleted n (.returned ()), _, by simp [step, deleted, hd, hstage]; rfl⟩
  | ended | crashed => simp [DeploymentRelease.isOver, hstage] at hover
  | saving =>
    by_cases hpods : d.pods.all PodRelease.isOver = true
    · exact ⟨.saved n, _, step_saved hd hstage hpods⟩
    · obtain ⟨p, hmem, hover⟩ := List.all_eq_false.1 (Bool.eq_false_iff.2 hpods)
      obtain ⟨k, hk⟩ := List.mem_iff_getElem?.1 hmem
      have hp : r.pod? n k = some p := by rw [pod?, hd]; exact hk
      cases hstage : p.stage with
      | fetching => exact ⟨.fetched n k (.ok ""), _, by simp [step, fetched, hp, hstage]; rfl⟩
      | reporting =>
        exact ⟨.reported n k (.returned ()), _, by simp [step, reported, hp, hstage]; rfl⟩
      | describing =>
        exact ⟨.described n k (.ok none), _, by simp [step, described, hp, hstage]; rfl⟩
      | disconnecting =>
        exact ⟨.disconnected n k (.returned ()), _, by simp [step, disconnected, hp, hstage]; rfl⟩
      | ended | crashed => simp [PodRelease.isOver, hstage] at hover

/-- What holds of a release that is over, and before a step of any release if it holds after it,
holds of every release. -/
theorem induction_to_end {P : Release → Prop} (ended : ∀ r, r.isOver = true → P r)
    (step : ∀ r m r' ns, r.step m = some (r', ns) → P r' → P r) (r : Release) : P r := by
  induction r using wellFounded_nearer.induction with
  | h r ih =>
    cases hr : r.isOver with
    | true => exact ended r hr
    | false =>
      obtain ⟨m, ⟨r', ns⟩, hs⟩ := exists_step hr
      exact step r m r' ns hs (ih r' (stepped_of_step hs).nearer)

end Release

end DeviceLab.Cluster
