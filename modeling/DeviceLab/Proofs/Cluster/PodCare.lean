import Mathlib.Order.WellFounded
import DeviceLab.Proofs.Cluster.Releasing
import DeviceLab.Proofs.Text

/-!
# What is done for the pods of a release

The pods of a deployment are cared for side by side, each by a chain of calls (`PodCall`) of which
any may fail and some may panic. A `ReleaseCourse` tells every call with its answer, in the order in
which the answers came in; the calls of one pod are a word of its own (`CareDone`), and the words of
the pods of a deployment are shuffled in any way between its listing and its deletion
(`DeploymentReleased`).

All answers are in the hands of others: the cluster, the log reporter, the bridge and the devices
may answer whatever they like to a call that the release waits for (`exists_deedStep`), and nothing
else is taken (`exists_answers`).

`ReleaseCourse.cares_for_pods` states what a release owes to its deployments (`ReleaseContract`). It
rests on `ReleaseCourse.standing`, which says where each deployment stands (`ReleaseAt`), and this
on `CareAt.step`, by which every answer makes the word of its pod longer, and on `Standing.modify`,
by which a deed for one deployment changes nothing for the others. That a release ends is
`exists_step` and `wellFounded_nearer` from `DeviceLab.Proofs.Cluster.Releasing`.
-/

namespace DeviceLab.Cluster

/-! ### The word of a pod -/

/-- A call about a pod, with its answer. A device is disconnected if the bridge resolves it. -/
inductive PodCall
  | fetched (pod : String) (reply : Except LabError String)
  | reported (serial : Serial) (log : String) (answer : Answer Unit)
  | described (pod : String) (reply : Except LabError (Option Pod))
  | unresolved (c : Coordinate) (e : LabError)
  | disconnected (c : Coordinate) (answer : Answer Unit)

/-- The move by which a release takes the answer. -/
def PodCall.move (n k : Nat) : PodCall → Release.Move
  | fetched _ reply => .fetched n k reply
  | reported _ _ answer => .reported n k answer
  | described _ reply => .described n k reply
  | unresolved _ e => .disconnected n k (.failed e)
  | disconnected _ answer => .disconnected n k answer

/-- Whether the care for a pod waits for a call, whatever its answer is. -/
def PodCall.Answers (p : PodRelease) : PodCall → Prop
  | fetched pod _ => pod = p.pod ∧ p.stage = .fetching
  | reported serial log _ => serial = p.serial ∧ p.stage = .reporting log
  | described pod _ => pod = p.pod ∧ ∃ e, p.stage = .describing e
  | unresolved c _ => c = p.coordinate ∧ p.stage = .disconnecting
  | disconnected c _ => c = p.coordinate ∧ p.stage = .disconnecting

namespace PodRelease

/-- The care for a pod as it was when it started. -/
def fresh (p : PodRelease) : PodRelease :=
  { p with stage := .fetching }

/-- How the log of a pod is saved by calls (`PodCall`), or a description of the pod in its place. -/
inductive LogSaved (p : PodRelease) : List PodCall → Prop
  | stored (log : String) :
      p.LogSaved [.fetched p.pod (.ok log), .reported p.serial log (.returned ())]
  | refused (log : String) (e : LabError) (reply : Except LabError (Option Pod)) :
      p.LogSaved [.fetched p.pod (.ok log), .reported p.serial log (.failed e),
        .described p.pod reply]
  | unfetched (e : LabError) (reply : Except LabError (Option Pod)) :
      p.LogSaved [.fetched p.pod (.error e), .described p.pod reply]

/-- All that is done for a pod: its log is fetched once (`LogSaved`) and reported once if it was
fetched, and then, whatever came of that, its device is disconnected once if the bridge resolves it.
Only a panic of the log reporter leaves the device as it is. -/
inductive CareDone (p : PodRelease) : List PodCall → Prop
  | deserted (log : String) (m : Option String) :
      p.CareDone [.fetched p.pod (.ok log), .reported p.serial log (.panicked m)]
  | unresolved {word : List PodCall} (e : LabError) (h : p.LogSaved word) :
      p.CareDone (word ++ [.unresolved p.coordinate e])
  | disconnected {word : List PodCall} (answer : Answer Unit) (h : p.LogSaved word) :
      p.CareDone (word ++ [.disconnected p.coordinate answer])

/-- What was done for a pod when the care for it is in some `PodRelease.Stage`; at the end it is
`CareDone`. -/
inductive CareAt (p : PodRelease) : PodRelease.Stage → List PodCall → Prop
  | asked : p.CareAt .fetching []
  | fetched (log : String) : p.CareAt (.reporting log) [.fetched p.pod (.ok log)]
  | unfetched (e : LabError) : p.CareAt (.describing e) [.fetched p.pod (.error e)]
  | refused (log : String) (e : LabError) :
      p.CareAt (.describing e) [.fetched p.pod (.ok log), .reported p.serial log (.failed e)]
  | saved {word : List PodCall} (h : p.LogSaved word) : p.CareAt .disconnecting word
  | ended {word : List PodCall} (h : p.CareDone word) : p.CareAt .ended word
  | crashed {word : List PodCall} (m : Option String) (h : p.CareDone word) :
      p.CareAt (.crashed m) word

/-- What an answer makes of the care for a pod: the call that was answered (`PodCall`), and the
stage after it. -/
inductive CareStep (p : PodRelease) : PodRelease.Stage → PodCall → PodRelease.Stage → Prop
  | fetched (log : String) : p.CareStep .fetching (.fetched p.pod (.ok log)) (.reporting log)
  | unfetched (e : LabError) : p.CareStep .fetching (.fetched p.pod (.error e)) (.describing e)
  | stored (log : String) :
      p.CareStep (.reporting log) (.reported p.serial log (.returned ())) .disconnecting
  | refused (log : String) (e : LabError) :
      p.CareStep (.reporting log) (.reported p.serial log (.failed e)) (.describing e)
  | deserted (log : String) (m : Option String) :
      p.CareStep (.reporting log) (.reported p.serial log (.panicked m)) (.crashed m)
  | described (e : LabError) (reply : Except LabError (Option Pod)) :
      p.CareStep (.describing e) (.described p.pod reply) .disconnecting
  | unresolved (e : LabError) : p.CareStep .disconnecting (.unresolved p.coordinate e) .ended
  | disconnected : p.CareStep .disconnecting (.disconnected p.coordinate (.returned ())) .ended
  | stuck (e : LabError) : p.CareStep .disconnecting (.disconnected p.coordinate (.failed e)) .ended
  | broken (m : Option String) :
      p.CareStep .disconnecting (.disconnected p.coordinate (.panicked m)) (.crashed m)

variable {p : PodRelease} {stage stage' : PodRelease.Stage} {word : List PodCall} {t : PodCall}

/-- **Every answer makes the word of a pod longer by itself**: the calls of `CareAt` go on with the
call of a `CareStep`. -/
theorem CareAt.step (hw : p.CareAt stage word) (ht : p.CareStep stage t stage') :
    p.CareAt stage' (word ++ [t]) := by
  cases ht with
  | fetched log => cases hw; exact .fetched log
  | unfetched e => cases hw; exact .unfetched e
  | stored log => cases hw; exact .saved (.stored log)
  | refused log e => cases hw; exact .refused log e
  | deserted log m => cases hw; exact .crashed m (.deserted log m)
  | described e reply =>
    cases hw with
    | unfetched => exact .saved (.unfetched e reply)
    | refused log => exact .saved (.refused log e reply)
  | unresolved e =>
    cases hw with
    | saved h => exact .ended (.unresolved e h)
  | disconnected =>
    cases hw with
    | saved h => exact .ended (.disconnected _ h)
  | stuck e =>
    cases hw with
    | saved h => exact .ended (.disconnected _ h)
  | broken m =>
    cases hw with
    | saved h => exact .crashed m (.disconnected _ h)

/-- A call about a pod is answered as long as the care for it is not over. -/
theorem CareStep.isOver_eq_false {q : PodRelease} (ht : p.CareStep q.stage t stage') :
    q.isOver = false := by
  rw [isOver]
  generalize q.stage = stage at ht
  cases ht <;> rfl

/-- The word of a pod is whole when the care for it is over. -/
theorem CareAt.careDone (hw : p.fresh.CareAt p.stage word) (hp : p.isOver = true) :
    p.fresh.CareDone word := by
  rw [isOver] at hp
  generalize p.stage = stage at hw hp
  cases hw with
  | ended h => exact h
  | crashed m h => exact h
  | _ => cases hp

end PodRelease

namespace Release

variable {r r' : Release} {n k : Nat}

/-- A call about a pod that the release waits for may be answered in any way. -/
theorem exists_careStep {p : PodRelease} {t : PodCall} (hp : r.pod? n k = some p)
    (ht : t.Answers p) :
    ∃ stage ns, p.fresh.CareStep p.stage t stage ∧
      r.step (t.move n k) = some (r.setPod n k stage, ns) := by
  cases t with
  | fetched pod reply =>
    obtain ⟨rfl, hstage⟩ := ht
    rw [hstage]
    cases reply with
    | ok log => exact ⟨_, _, .fetched log, by simp [PodCall.move, step, fetched, hp, hstage]; rfl⟩
    | error e => exact ⟨_, _, .unfetched e, by simp [PodCall.move, step, fetched, hp, hstage]; rfl⟩
  | reported serial log answer =>
    obtain ⟨rfl, hstage⟩ := ht
    rw [hstage]
    cases answer with
    | returned => exact ⟨_, _, .stored log, by simp [PodCall.move, step, reported, hp, hstage]; rfl⟩
    | failed e =>
      exact ⟨_, _, .refused log e, by simp [PodCall.move, step, reported, hp, hstage]; rfl⟩
    | panicked m =>
      exact ⟨_, _, .deserted log m, by simp [PodCall.move, step, reported, hp, hstage]; rfl⟩
  | described pod reply =>
    obtain ⟨rfl, e, hstage⟩ := ht
    rw [hstage]
    exact ⟨_, _, .described e reply, by simp [PodCall.move, step, described, hp, hstage]; rfl⟩
  | unresolved c e =>
    obtain ⟨rfl, hstage⟩ := ht
    rw [hstage]
    exact ⟨_, _, .unresolved e, by simp [PodCall.move, step, disconnected, hp, hstage]; rfl⟩
  | disconnected c answer =>
    obtain ⟨rfl, hstage⟩ := ht
    rw [hstage]
    cases answer with
    | returned =>
      exact ⟨_, _, .disconnected, by simp [PodCall.move, step, disconnected, hp, hstage]; rfl⟩
    | failed e =>
      exact ⟨_, _, .stuck e, by simp [PodCall.move, step, disconnected, hp, hstage]; rfl⟩
    | panicked m =>
      exact ⟨_, _, .broken m, by simp [PodCall.move, step, disconnected, hp, hstage]; rfl⟩

/-! ### Records -/

/-- What is done in a release. -/
inductive Deed
  /-- The pods of a deployment are listed. -/
  | listed (deployment : Nat) (name : String) (reply : Except LabError (List Pod))
  /-- A call about a pod is answered. -/
  | called (deployment pod : Nat) (t : PodCall)
  /-- All pods of a deployment are cared for. -/
  | saved (deployment : Nat)
  /-- The deletion of a deployment is answered. -/
  | deleted (deployment : Nat) (name : String) (answer : Answer Unit)

namespace Deed

/-- The move by which a release takes what is done. -/
def move : Deed → Move
  | listed n _ reply => .listed n reply
  | called n k t => t.move n k
  | saved n => .saved n
  | deleted n _ answer => .deleted n answer

/-- The deployment for which something is done. -/
def deployment : Deed → Nat
  | listed n _ _ => n
  | called n _ _ => n
  | saved n => n
  | deleted n _ _ => n

/-- Whether a release waits for a deed, whatever its answer is. -/
def Answers (r : Release) : Deed → Prop
  | listed n name _ => ∃ d, r.deployments[n]? = some d ∧ name = d.name ∧ d.stage = .listing
  | called n k t => ∃ p, r.pod? n k = some p ∧ t.Answers p
  | saved n => ∃ d, r.deployments[n]? = some d ∧ d.stage = .saving ∧ d.pods.all PodRelease.isOver
  | deleted n name _ => ∃ d, r.deployments[n]? = some d ∧ name = d.name ∧ d.stage = .deleting

end Deed

/-- All this was done in a release of deployments with names, and the state has come of it. -/
inductive ReleaseCourse (config : Config) (names : List String) : List Deed → Release → Prop
  | start : ReleaseCourse config names [] (start config names)
  | deed {ds : List Deed} {r r' : Release} {ns : List Notice} (d : Deed)
      (ht : ReleaseCourse config names ds r) (ha : d.Answers r)
      (hs : r.step d.move = some (r', ns)) :
      ReleaseCourse config names (ds ++ [d]) r'

/-- What is done for a deployment. -/
def doneFor (n : Nat) (ds : List Deed) : List Deed :=
  ds.filter (·.deployment = n)

/-- The pods of a listing that are cared for, those that run and have an address, in the order in
which they are listed. The device of a pod is at the address of the pod, a colon and the port. -/
def caresFor (port : UInt16) : Except LabError (List Pod) → List PodRelease
  | .ok pods => pods.filterMap fun p ↦
      if p.phase = .running then
        p.ip.map fun ip ↦
          { pod := p.name, serial := .remote (ip ++ ":" ++ toString port.toNat),
            coordinate := .hosted (ip ++ ":" ++ toString port.toNat) p.name }
      else none
  | .error _ => []

/-- A deployment was wound up: its pods were listed once, those that run and have an address were
cared for, each as it should and no other, and then the deployment was deleted, as far as the
cluster let it be. -/
def DeploymentReleased (port : UInt16) (n : Nat) (name : String) (ds : List Deed) : Prop :=
  ∃ (reply : Except LabError (List Pod)) (calls : List (Nat × PodCall)) (answer : Answer Unit),
    doneFor n ds = .listed n name reply ::
      calls.map (fun x ↦ .called n x.1 x.2) ++ [.saved n, .deleted n name answer] ∧
    (∀ x ∈ calls, x.1 < (caresFor port reply).length) ∧
    ∀ (k : Nat) (p : PodRelease), (caresFor port reply)[k]? = some p → p.CareDone (valuesOf k calls)

/-! ### What a deed does -/

theorem caresFor_eq (port : UInt16) (name : String) (reply : Except LabError (List Pod)) :
    ((received name reply).1.map (careFor port)).filterMap (·.1) = caresFor port reply := by
  cases reply with
  | error e => rfl
  | ok pods =>
    rw [List.filterMap_map]
    refine List.filterMap_congr fun p _ ↦ ?_
    rw [Function.comp_apply, careFor, ite_not]
    split
    · cases p.ip with
      | none => rfl
      | some ip =>
        show some _ = some _
        rw [coordinate, Serial.value_ofHost]
        rfl
    · rfl

/-- A deed with what comes of it, if the release waits for it (`exists_deedStep`). -/
inductive DeedStep (r : Release) : Deed → Release → Prop
  | listed {n : Nat} {d : DeploymentRelease} (reply : Except LabError (List Pod))
      (hd : r.deployments[n]? = some d) (hstage : d.stage = .listing) :
      DeedStep r (.listed n d.name reply) (r.modifyDeployment n fun d ↦
        { d with stage := .saving, pods := caresFor r.port reply })
  | called {n k : Nat} {p : PodRelease} {t : PodCall} {stage : PodRelease.Stage}
      (hp : r.pod? n k = some p) (ht : p.fresh.CareStep p.stage t stage) :
      DeedStep r (.called n k t) (r.setPod n k stage)
  | saved {n : Nat} {d : DeploymentRelease} (hd : r.deployments[n]? = some d)
      (hstage : d.stage = .saving) (hover : d.pods.all PodRelease.isOver = true) :
      DeedStep r (.saved n) (r.modifyDeployment n ({ · with stage := .deleting }))
  | deleted {n : Nat} {d : DeploymentRelease} {stage : DeploymentRelease.Stage}
      (answer : Answer Unit) (hd : r.deployments[n]? = some d) (hstage : d.stage = .deleting)
      (hover : stage = .ended ∨ stage = .crashed) :
      DeedStep r (.deleted n d.name answer) (r.modifyDeployment n ({ · with stage := stage }))

/-- **A release takes whatever it waits for** (`Deed.Answers`). -/
theorem exists_deedStep {d : Deed} (ha : d.Answers r) :
    ∃ r' ns, DeedStep r d r' ∧ r.step d.move = some (r', ns) := by
  cases d with
  | listed n name reply =>
    obtain ⟨d, hd, rfl, hstage⟩ := ha
    exact ⟨_, _, .listed reply hd hstage, by
      simp [Deed.move, step, listed, hd, hstage, ← caresFor_eq r.port d.name]
      rfl⟩
  | called n k t =>
    obtain ⟨p, hp, ht⟩ := ha
    obtain ⟨stage, ns, hcare, hs⟩ := exists_careStep hp ht
    exact ⟨_, ns, .called hp hcare, hs⟩
  | saved n =>
    obtain ⟨d, hd, hstage, hover⟩ := ha
    exact ⟨_, _, .saved hd hstage hover, step_saved hd hstage hover⟩
  | deleted n name answer =>
    obtain ⟨d, hd, rfl, hstage⟩ := ha
    cases answer with
    | returned =>
      exact ⟨_, _, .deleted _ hd hstage (.inl rfl), by
        simp [Deed.move, step, deleted, hd, hstage]
        rfl⟩
    | failed e =>
      exact ⟨_, _, .deleted _ hd hstage (.inl rfl), by
        simp [Deed.move, step, deleted, hd, hstage]
        rfl⟩
    | panicked m =>
      exact ⟨_, _, .deleted _ hd hstage (.inr rfl), by
        simp [Deed.move, step, deleted, hd, hstage]
        rfl⟩

/-- A release waits for whatever it takes. -/
theorem exists_answers {m : Move} {x : Release × List Notice} (hs : r.step m = some x) :
    ∃ d : Deed, d.move = m ∧ d.Answers r := by
  cases m with
  | listed n reply =>
    simp only [step, listed, Option.bind_eq_bind, Option.bind_eq_some_iff] at hs
    obtain ⟨d, hd, hs⟩ := hs
    split at hs
    · next hstage => exact ⟨.listed n d.name reply, rfl, d, hd, rfl, hstage⟩
    · cases hs
  | fetched n k reply =>
    simp only [step, fetched, Option.bind_eq_bind, Option.bind_eq_some_iff] at hs
    obtain ⟨p, hp, hs⟩ := hs
    refine ⟨.called n k (.fetched p.pod reply), rfl, p, hp, rfl, ?_⟩
    split at hs <;> first | assumption | cases hs
  | reported n k answer =>
    simp only [step, reported, Option.bind_eq_bind, Option.bind_eq_some_iff] at hs
    obtain ⟨p, hp, hs⟩ := hs
    cases hstage : p.stage with
    | reporting log => exact ⟨.called n k (.reported p.serial log answer), rfl, p, hp, rfl, hstage⟩
    | _ => simp [hstage] at hs
  | described n k reply =>
    simp only [step, described, Option.bind_eq_bind, Option.bind_eq_some_iff] at hs
    obtain ⟨p, hp, hs⟩ := hs
    cases hstage : p.stage with
    | describing e => exact ⟨.called n k (.described p.pod reply), rfl, p, hp, rfl, e, hstage⟩
    | _ => simp [hstage] at hs
  | disconnected n k answer =>
    simp only [step, disconnected, Option.bind_eq_bind, Option.bind_eq_some_iff] at hs
    obtain ⟨p, hp, hs⟩ := hs
    cases hstage : p.stage with
    | disconnecting =>
      exact ⟨.called n k (.disconnected p.coordinate answer), rfl, p, hp, rfl, hstage⟩
    | _ => simp [hstage] at hs
  | saved n =>
    simp only [step, saved, Option.bind_eq_bind, Option.bind_eq_some_iff] at hs
    obtain ⟨d, hd, hs⟩ := hs
    split at hs
    · next hstage =>
      obtain ⟨_, hover, -⟩ := Option.bind_eq_some_iff.1 hs
      exact ⟨.saved n, rfl, d, hd, hstage, by simpa [guard] using hover⟩
    · cases hs
  | deleted n answer =>
    simp only [step, deleted, Option.bind_eq_bind, Option.bind_eq_some_iff] at hs
    obtain ⟨d, hd, hs⟩ := hs
    refine ⟨.deleted n d.name answer, rfl, d, hd, rfl, ?_⟩
    split at hs <;> first | assumption | cases hs

/-! ### Deployment by deployment -/

/-- What was done for pods (`CareAt`) that are cared for, call by call, each with the number of its
pod. -/
structure CareRecord (cares pods : List PodRelease) (calls : List (Nat × PodCall)) : Prop where
  fresh : pods.map PodRelease.fresh = cares
  told : ∀ (k : Nat) (p : PodRelease), pods[k]? = some p → p.fresh.CareAt p.stage (valuesOf k calls)
  within : ∀ x ∈ calls, x.1 < pods.length

/-- The record of a deployment so far, up to the care for its pods. -/
def recordSoFar (n : Nat) (name : String) (reply : Except LabError (List Pod))
    (calls : List (Nat × PodCall)) :
    List Deed :=
  .listed n name reply :: calls.map fun x ↦ .called n x.1 x.2

/-- What was done for a deployment when its release is in some `DeploymentRelease.Stage`, with its
pods (`CareRecord`). -/
inductive ReleaseAt (port : UInt16) (n : Nat) (name : String) :
    DeploymentRelease.Stage → List PodRelease → List Deed → Prop
  | listing : ReleaseAt port n name .listing [] []
  | saving {pods : List PodRelease} {reply : Except LabError (List Pod)}
      {calls : List (Nat × PodCall)} (ht : CareRecord (caresFor port reply) pods calls) :
      ReleaseAt port n name .saving pods (recordSoFar n name reply calls)
  | deleting {pods : List PodRelease} {reply : Except LabError (List Pod)}
      {calls : List (Nat × PodCall)} (ht : CareRecord (caresFor port reply) pods calls)
      (hover : pods.all PodRelease.isOver = true) :
      ReleaseAt port n name .deleting pods (recordSoFar n name reply calls ++ [.saved n])
  | ended {pods : List PodRelease} {reply : Except LabError (List Pod)}
      {calls : List (Nat × PodCall)} (answer : Answer Unit)
      (ht : CareRecord (caresFor port reply) pods calls)
      (hover : pods.all PodRelease.isOver = true) :
      ReleaseAt port n name .ended pods
        (recordSoFar n name reply calls ++ [.saved n, .deleted n name answer])
  | crashed {pods : List PodRelease} {reply : Except LabError (List Pod)}
      {calls : List (Nat × PodCall)} (answer : Answer Unit)
      (ht : CareRecord (caresFor port reply) pods calls)
      (hover : pods.all PodRelease.isOver = true) :
      ReleaseAt port n name .crashed pods
        (recordSoFar n name reply calls ++ [.saved n, .deleted n name answer])

/-- The care for pods that were just listed. -/
theorem careRecord_listed (port : UInt16) (reply : Except LabError (List Pod)) :
    CareRecord (caresFor port reply) (caresFor port reply) [] := by
  have hfresh : ∀ p ∈ caresFor port reply, p.fresh = p ∧ p.stage = .fetching := by
    intro p hp
    cases reply with
    | error e => cases hp
    | ok pods =>
      obtain ⟨q, -, hq⟩ := List.mem_filterMap.1 hp
      split at hq
      · obtain ⟨ip, -, rfl⟩ := Option.map_eq_some_iff.1 hq
        exact ⟨rfl, rfl⟩
      · cases hq
  refine ⟨?_, ?_, List.forall_mem_nil _⟩
  · exact (List.map_congr_left fun p hp ↦ (hfresh p hp).1).trans (List.map_id _)
  · intro k p hp
    rw [(hfresh p (List.mem_of_getElem? hp)).2]
    exact .asked

/-- One more answer to the care for a pod. -/
theorem CareRecord.step {cares pods : List PodRelease} {calls : List (Nat × PodCall)}
    {p : PodRelease} {t : PodCall} {stage : PodRelease.Stage} (ht : CareRecord cares pods calls)
    (hp : pods[k]? = some p) (hs : p.fresh.CareStep p.stage t stage) :
    CareRecord cares (pods.modify k fun p ↦ { p with stage }) (calls ++ [(k, t)]) := by
  constructor
  case fresh =>
    rw [← ht.fresh]
    exact map_modify_of_key (g := fun p : PodRelease ↦ { p with stage }) (fun _ ↦ rfl) pods k
  case told =>
    intro j q' hq'
    rw [List.getElem?_modify] at hq'
    obtain ⟨q, hq, rfl⟩ := Option.map_eq_some_iff.1 hq'
    by_cases hj : k = j
    · subst hj
      obtain rfl := Option.some.inj (hp.symm.trans hq)
      rw [valuesOf_concat_self, if_pos rfl]
      exact (ht.told k p hp).step hs
    · rw [valuesOf_concat_of_ne hj, if_neg hj]
      exact ht.told j q hq
  case within =>
    rw [List.length_modify]
    intro x hx
    rcases List.mem_append.1 hx with hx | hx
    · exact ht.within x hx
    · rw [List.mem_singleton.1 hx]
      exact (List.getElem?_eq_some_iff.1 hp).1

/-- A call about a pod is answered while the pods of its deployment are cared for. -/
theorem ReleaseAt.step {port : UInt16} {name : String} {stage : DeploymentRelease.Stage}
    {pods : List PodRelease} {record : List Deed} {p : PodRelease} {t : PodCall}
    {stage' : PodRelease.Stage} (hw : ReleaseAt port n name stage pods record)
    (hp : pods[k]? = some p) (ht : p.fresh.CareStep p.stage t stage') :
    ReleaseAt port n name stage (pods.modify k fun p ↦ { p with stage := stage' })
      (record ++ [.called n k t]) := by
  have hopen : pods.all PodRelease.isOver = false :=
    List.all_eq_false.2 ⟨p, List.mem_of_getElem? hp, by simp [ht.isOver_eq_false]⟩
  cases hw with
  | listing => cases hp
  | @saving _ reply calls hcalls =>
    have hrecord : recordSoFar n name reply calls ++ [.called n k t] =
        recordSoFar n name reply (calls ++ [(k, t)]) := by
      rw [recordSoFar, recordSoFar, List.map_append]
      rfl
    rw [hrecord]
    exact .saving (hcalls.step hp ht)
  | deleting _ hover | ended _ _ hover | crashed _ _ hover =>
    rw [hopen] at hover
    cases hover

/-- A deployment whose release is over was wound up. -/
theorem ReleaseAt.deploymentReleased {port : UInt16} {d : DeploymentRelease} {ds : List Deed}
    (hw : ReleaseAt port n d.name d.stage d.pods (doneFor n ds)) (hd : d.isOver = true) :
    DeploymentReleased port n d.name ds := by
  rw [DeploymentRelease.isOver] at hd
  generalize d.stage = stage at hw hd
  generalize d.pods = pods at hw
  generalize hrecord : doneFor n ds = record at hw
  cases hw with
  | listing | saving | deleting => cases hd
  | @ended _ reply calls answer ht hover | @crashed _ reply calls answer ht hover =>
    refine ⟨reply, calls, answer, hrecord, ?_, fun k q hq ↦ ?_⟩
    · rw [← ht.fresh, List.length_map]
      exact ht.within
    · rw [← ht.fresh, List.getElem?_map] at hq
      obtain ⟨p, hp, rfl⟩ := Option.map_eq_some_iff.1 hq
      exact (ht.told k p hp).careDone (List.all_eq_true.1 hover p (List.mem_of_getElem? hp))

/-- Where a whole release stands: `ReleaseAt` for each of its deployments. -/
structure Standing (config : Config) (names : List String) (ds : List Deed) (r : Release) :
    Prop where
  port : r.port = config.remoteBridgePort
  named : r.deployments.map (·.name) = names
  releaseAt : ∀ (n : Nat) (d : DeploymentRelease), r.deployments[n]? = some d →
    ReleaseAt r.port n d.name d.stage d.pods (doneFor n ds)
  within : ∀ x ∈ ds, x.deployment < names.length

variable {config : Config} {names : List String} {ds : List Deed}

theorem doneFor_concat_self {x : Deed} (hx : x.deployment = n) :
    doneFor n (ds ++ [x]) = doneFor n ds ++ [x] :=
  filter_concat_of_pos ds (decide_eq_true hx)

theorem doneFor_concat_of_ne {x : Deed} (hx : x.deployment ≠ n) :
    doneFor n (ds ++ [x]) = doneFor n ds :=
  filter_concat_of_neg ds fun h ↦ hx (of_decide_eq_true h)

/-- A deed for one deployment changes nothing for the others. -/
theorem Standing.modify {x : Deed} {d : DeploymentRelease}
    {f : DeploymentRelease → DeploymentRelease} (hs : Standing config names ds r)
    (hd : r.deployments[x.deployment]? = some d)
    (hname : ∀ d, (f d).name = d.name)
    (hw : ReleaseAt r.port x.deployment d.name d.stage d.pods (doneFor x.deployment ds) →
      ReleaseAt r.port x.deployment d.name (f d).stage (f d).pods
        (doneFor x.deployment ds ++ [x])) :
    Standing config names (ds ++ [x]) (r.modifyDeployment x.deployment f) := by
  constructor
  case port => exact hs.port
  case named => exact (map_modify_of_key hname _ _).trans hs.named
  case releaseAt =>
    intro n e hmodified
    obtain ⟨d', hd', rfl⟩ :=
      Option.map_eq_some_iff.1 ((List.getElem?_modify ..).symm.trans hmodified)
    by_cases hn : x.deployment = n
    · subst hn
      obtain rfl := Option.some.inj (hd.symm.trans hd')
      rw [doneFor_concat_self rfl, if_pos rfl, hname]
      exact hw (hs.releaseAt _ _ hd)
    · rw [doneFor_concat_of_ne hn, if_neg hn]
      exact hs.releaseAt n d' hd'
  case within =>
    intro y hy
    rcases List.mem_append.1 hy with hy | hy
    · exact hs.within y hy
    · rw [List.mem_singleton.1 hy, ← hs.named, List.length_map]
      exact (List.getElem?_eq_some_iff.1 hd).1

/-- **Every deed leaves each deployment where it should stand** (`Standing`). -/
theorem Standing.deedStep {x : Deed} (hs : Standing config names ds r) (hm : DeedStep r x r') :
    Standing config names (ds ++ [x]) r' := by
  cases hm with
  | @listed n d reply hd hstage =>
    refine hs.modify (x := .listed n d.name reply) hd (fun _ ↦ rfl) fun hw ↦ ?_
    rw [hstage] at hw
    generalize doneFor _ ds = record at hw
    generalize d.pods = pods at hw
    cases hw
    exact .saving (careRecord_listed r.port reply)
  | @called n k p t stage hp ht =>
    obtain ⟨d, hd, hp⟩ := Option.bind_eq_some_iff.1 hp
    refine hs.modify (x := .called n k t) hd (fun _ ↦ rfl) fun hw ↦ ?_
    exact hw.step hp ht
  | @saved n d hd hstage hover =>
    refine hs.modify (x := .saved n) hd (fun _ ↦ rfl) fun hw ↦ ?_
    rw [hstage] at hw
    generalize doneFor _ ds = record at hw
    cases hw with
    | saving ht => exact .deleting ht hover
  | @deleted n d stage answer hd hstage hover =>
    refine hs.modify (x := .deleted n d.name answer) hd (fun _ ↦ rfl) fun hw ↦ ?_
    rw [hstage] at hw
    generalize doneFor _ ds = record at hw
    cases hw with
    | deleting ht hpods =>
      rw [List.append_assoc]
      rcases hover with rfl | rfl
      · exact .ended answer ht hpods
      · exact .crashed answer ht hpods

/-- **A release stands where it should all the time.** -/
theorem ReleaseCourse.standing (ht : ReleaseCourse config names ds r) :
    Standing config names ds r := by
  induction ht with
  | start =>
    refine ⟨rfl, ?_, ?_, List.forall_mem_nil _⟩
    · exact List.map_map.trans (List.map_id names)
    · intro n d hd
      obtain ⟨name, -, rfl⟩ := Option.map_eq_some_iff.1 (List.getElem?_map.symm.trans hd)
      exact .listing
  | deed d ht ha hs ih =>
    obtain ⟨r', ns, hm, hs'⟩ := exists_deedStep ha
    obtain ⟨rfl, -⟩ := Prod.mk.inj (Option.some.inj (hs'.symm.trans hs))
    exact ih.deedStep hm

/-! ### The whole release -/

/-- No release goes on for ever. -/
theorem not_endless (f : Nat → Release) :
    ¬ ∀ i, ∃ m ns, (f i).step m = some (f (i + 1), ns) := by
  intro hf
  refine (acc_iff_isEmpty_descending_chain.1 (wellFounded_nearer.apply (f 0))).false ⟨f, rfl, ?_⟩
  intro i
  obtain ⟨m, ns, hs⟩ := hf i
  exact (stepped_of_step hs).nearer

/-- What a release owes to the deployments that it was started with, whatever is answered to it.
What is done for each of them is `DeploymentReleased`. -/
structure ReleaseContract (config : Config) (names : List String) (ds : List Deed) (r : Release) :
    Prop where
  /-- Once everything is over, each of them was wound up. -/
  released : r.isOver = true → ∀ n name, names[n]? = some name →
    DeploymentReleased config.remoteBridgePort n name ds
  /-- Nothing was done for any others. -/
  within : ∀ d ∈ ds, d.deployment < names.length
  /-- The release takes exactly the answers to what it waits for, and these may be any. -/
  takes_any : ∀ m, (r.step m).isSome = true ↔ ∃ d : Deed, d.move = m ∧ d.Answers r
  /-- As long as it is not over, it waits for some answer. -/
  waits : r.isOver = false → ∃ m, (r.step m).isSome = true
  /-- It does not wait for ever more answers. -/
  ends : ∀ f : Nat → Release, f 0 = r → ¬ ∀ i, ∃ m ns, (f i).step m = some (f (i + 1), ns)

/-- **Whatever fails or panics, every pod that runs gets its care and every deployment is deleted
after that**, and nothing keeps a release from coming to its end (`ReleaseContract`). -/
theorem ReleaseCourse.cares_for_pods (ht : ReleaseCourse config names ds r) :
    ReleaseContract config names ds r := by
  have hs := ht.standing
  exact
    { released := by
        intro hr n name hn
        rw [← hs.named, List.getElem?_map] at hn
        obtain ⟨d, hd, rfl⟩ := Option.map_eq_some_iff.1 hn
        rw [← hs.port]
        exact (hs.releaseAt n d hd).deploymentReleased
          (List.all_eq_true.1 hr d (List.mem_of_getElem? hd))
      within := hs.within
      takes_any := by
        intro m
        constructor
        · intro hsome
          obtain ⟨x, hx⟩ := Option.isSome_iff_exists.1 hsome
          exact exists_answers hx
        · rintro ⟨d, rfl, ha⟩
          obtain ⟨r', ns, -, hstep⟩ := exists_deedStep ha
          rw [hstep]
          rfl
      waits := by
        intro hr
        obtain ⟨m, x, hstep⟩ := exists_step hr
        exact ⟨m, by rw [hstep]; rfl⟩
      ends := fun f _ ↦ not_endless f }

/-! ### A sample -/

/-- Three pods that run and have an address, one that does not run, and one without an address. -/
def samplePods : List Pod :=
  [⟨"pod-1", .running, some "10.0.0.1", none, none⟩, ⟨"pod-2", .pending, none, none, none⟩,
    ⟨"pod-3", .running, none, none, none⟩, ⟨"pod-4", .running, some "10.0.0.4", none, none⟩,
    ⟨"pod-5", .running, some "10.0.0.5", none, none⟩]

/-- The log of the first pod cannot be fetched nor its device be found, the log reporter panics at
the second one, the device of the third one panics, and the deployment cannot be deleted. All the
same, each of them got its care, and the deletion was tried. -/
theorem cares_for_pods_of_failures :
    ∃ ds r, ReleaseCourse {} ["lab"] ds r ∧ r.isOver = true ∧
      DeploymentReleased 5555 0 "lab" ds := by
  have hstart : ReleaseCourse {} ["lab"] [] _ := .start
  have hlisted := hstart.deed (.listed 0 "lab" (.ok samplePods)) ⟨_, rfl, rfl, rfl⟩ rfl
  have hthird := hlisted.deed (.called 0 2 (.fetched "pod-5" (.ok "log"))) ⟨_, rfl, rfl, rfl⟩ rfl
  have hfirst := hthird.deed (.called 0 0 (.fetched "pod-1" (.error (.channelClosed "cluster"))))
    ⟨_, rfl, rfl, rfl⟩ rfl
  have hdescribed := hfirst.deed (.called 0 0 (.described "pod-1" (.ok none)))
    ⟨_, rfl, rfl, _, rfl⟩ rfl
  have hsecond := hdescribed.deed (.called 0 1 (.fetched "pod-4" (.ok "log")))
    ⟨_, rfl, rfl, rfl⟩ rfl
  have hdeserted := hsecond.deed
    (.called 0 1 (.reported (coordinate 5555 "pod-4" "10.0.0.4").serial "log" (.panicked none)))
    ⟨_, rfl, rfl, rfl⟩ rfl
  have hreported := hdeserted.deed
    (.called 0 2 (.reported (coordinate 5555 "pod-5" "10.0.0.5").serial "log" (.returned ())))
    ⟨_, rfl, rfl, rfl⟩ rfl
  have hbroken := hreported.deed
    (.called 0 2 (.disconnected (coordinate 5555 "pod-5" "10.0.0.5") (.panicked none)))
    ⟨_, rfl, rfl, rfl⟩ rfl
  have hunresolved := hbroken.deed
    (.called 0 0 (.unresolved (coordinate 5555 "pod-1" "10.0.0.1") (.channelClosed "bridge")))
    ⟨_, rfl, rfl, rfl⟩ rfl
  have hsaved := hunresolved.deed (.saved 0) ⟨_, rfl, rfl, rfl⟩ (step_saved rfl rfl rfl)
  have hdone := hsaved.deed (.deleted 0 "lab" (.failed (.channelClosed "cluster")))
    ⟨_, rfl, rfl, rfl⟩ rfl
  exact ⟨_, _, hdone, rfl, hdone.cares_for_pods.released rfl 0 "lab" rfl⟩

end Release

end DeviceLab.Cluster
