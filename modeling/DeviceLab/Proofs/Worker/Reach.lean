import DeviceLab.Proofs.Device.Reaching
import DeviceLab.Proofs.Worker.Diary
import DeviceLab.Proofs.Router

/-!
# What a worker can still reach

A worker asks the router in the state in which the last intention left its device, and the router
hands out what can be reached from there. A target may leave out the API level or the model, and
then it can be reached from any state. Whoever carries it out takes such a target for the state of
the device, and has forgotten from then on what the target left out.

So a worker loses its device group for good as soon as it carries out one intention that declares
less than the group. `Diary.keeps_group_iff` says exactly when: it can reach what its device could
be brought to from the start as long as every intention that it was given has declared both
(`DeviceState.DeclaresGroup`). It rests on `Routed.meets_iff`, which is about one part at a time,
and on `Diary.state_eq`, by which what the worker remembers is what its chapters left.

`loses_group_of_no_layers` is a worker that passes over an intention which it would have taken at
first.
-/

namespace DeviceLab

/-- A state declares the API level and the model of the device. -/
def DeviceState.DeclaresGroup (s : DeviceState) : Prop :=
  s.api?.isSome = true ∧ s.model?.isSome = true

open DeviceState (Meets DeclaresGroup canReach_iff_meets)

/-- States that reach the same targets (`canReach`) take the same intentions. -/
theorem Router.takeMatching_congr {s t : DeviceState}
    (h : ∀ target, s.canReach target = t.canReach target) (queue : List Intention) :
    takeMatching s queue = takeMatching t queue := by
  induction queue with
  | nil => rfl
  | cons i queue ih => rw [takeMatching, takeMatching, h, ih]

namespace Worker

variable {d : DeviceData} {w : Worker} {cs : List Chapter}

/-! ### Intentions that come from a router -/

/-- Each intention was taken from a router (`Router.takeMatching`) in the state in which the ones
before it left the device, whatever else was queued there. -/
inductive Routed (d : DeviceData) : List Chapter → Prop
  | none : Routed d []
  | cons {earlier : List Chapter} {c : Chapter} (queue rest : List Intention) (h : Routed d earlier)
      (ht : Router.takeMatching (stateAfter d earlier) queue = some (c.intention, rest)) :
      Routed d (c :: earlier)

/-- A worker that asks a router asks in the state in which its chapters left the device
(`stateAfter`). -/
theorem Diary.state_eq (h : Diary d w cs) (hs : w.isSeeking = true) :
    w.state = stateAfter d cs := by
  have hdiaryAt := h.diaryAt
  rw [DiaryAt, stage_of_isSeeking hs] at hdiaryAt
  exact hdiaryAt.1

/-- What a worker takes next is routed. -/
theorem Routed.take (hr : Routed d cs) (h : Diary d w cs) (hs : w.isSeeking = true)
    (queue : List Intention) {rest : List Intention} {i : Intention} (es : List Entry)
    (ht : Router.takeMatching w.state queue = some (i, rest)) : Routed d (⟨i, es⟩ :: cs) :=
  .cons queue rest hr (h.state_eq hs ▸ ht)

section Parts

variable {α : Type} {part : DeviceState → Option α}
  (hpart : ∀ {s target : DeviceState}, s.canReach target = true → Meets part s target)
include hpart

/-- What is known of a part is what was known at first. -/
theorem Routed.meets (hr : Routed d cs) : Meets part (stateAfter d []) (stateAfter d cs) := by
  induction hr with
  | none => exact fun _ hx ↦ hx
  | cons queue rest _ ht ih =>
    intro x hx
    exact ih x (hpart (Router.canReach_of_takeMatching ht) x hx)

/-- A part is still known exactly if every intention has declared it (`Routed`). -/
theorem Routed.isSome_iff (hr : Routed d cs) (hbase : (part (stateAfter d [])).isSome = true) :
    (part (stateAfter d cs)).isSome = true ↔
      ∀ c ∈ cs, (part c.intention.state).isSome = true := by
  induction hr with
  | none => exact ⟨fun _ ↦ List.forall_mem_nil _, fun _ ↦ hbase⟩
  | @cons earlier c queue rest _ ht ih =>
    rw [List.forall_mem_cons]
    refine ⟨fun hc ↦ ⟨hc, ih.1 ?_⟩, fun hc ↦ hc.1⟩
    -- A part that the latest intention declared was known before.
    obtain ⟨x, hx⟩ := Option.isSome_iff_exists.1 hc
    rw [hpart (Router.canReach_of_takeMatching ht) x hx]
    rfl

/-- A target is still met in a part if it was at first, and if it leaves that part out or no
intention has. -/
theorem Routed.meets_iff (hr : Routed d cs) (hbase : (part (stateAfter d [])).isSome = true)
    (target : DeviceState) :
    Meets part (stateAfter d cs) target ↔ Meets part (stateAfter d []) target ∧
      ((part target).isSome = true → ∀ c ∈ cs, (part c.intention.state).isSome = true) := by
  rw [← hr.isSome_iff hpart hbase]
  constructor
  · intro hmeets
    refine ⟨fun x hx ↦ hr.meets hpart x (hmeets x hx), fun ht ↦ ?_⟩
    obtain ⟨x, hx⟩ := Option.isSome_iff_exists.1 ht
    rw [hmeets x hx]
    rfl
  · rintro ⟨hmeets, hknown⟩ x hx
    obtain ⟨y, hy⟩ := Option.isSome_iff_exists.1 (hknown (by rw [hx]; rfl))
    have hxy : some x = some y := (hmeets x hx).symm.trans (hr.meets hpart y hy)
    rw [hy, hxy]

end Parts

/-! ### The theorem -/

/-- What can be reached after these chapters. -/
theorem Routed.canReach_iff (hr : Routed d cs) (target : DeviceState) :
    (stateAfter d cs).canReach target = true ↔
      (DeviceState.ofDevice d.api d.model).canReach target = true ∧
        (target.api?.isSome = true → ∀ c ∈ cs, c.intention.state.api?.isSome = true) ∧
        (target.model?.isSome = true → ∀ c ∈ cs, c.intention.state.model?.isSome = true) := by
  rw [canReach_iff_meets, canReach_iff_meets,
    hr.meets_iff (fun h ↦ (canReach_iff_meets.1 h).1) rfl target,
    hr.meets_iff (fun h ↦ (canReach_iff_meets.1 h).2) rfl target]
  exact and_and_and_comm

/-- **When a worker keeps its device group.** A live worker that was given its intentions by a
router (`Routed`) and asks for another one can reach a target (`canReach`) exactly if its device
could be brought to it from the start, and each of the two parts is left out by the target or was
declared by every intention so far.

So it can reach the very targets that its device could be brought to, and takes from every queue
what a worker takes that has done nothing, exactly if every intention has declared both parts
(`DeclaresGroup`). -/
theorem Diary.keeps_group_iff (h : Diary d w cs) (hr : Routed d cs) (hs : w.isSeeking = true) :
    let base := DeviceState.ofDevice d.api d.model
    (∀ target, w.state.canReach target = true ↔ base.canReach target = true ∧
        (target.api?.isSome = true → ∀ c ∈ cs, c.intention.state.api?.isSome = true) ∧
        (target.model?.isSome = true → ∀ c ∈ cs, c.intention.state.model?.isSome = true)) ∧
      ((∀ target, w.state.canReach target = base.canReach target) ↔
        ∀ c ∈ cs, c.intention.state.DeclaresGroup) ∧
      ((∀ queue, Router.takeMatching w.state queue = Router.takeMatching base queue) ↔
        ∀ c ∈ cs, c.intention.state.DeclaresGroup) := by
  intro base
  have hreach := hr.canReach_iff
  rw [← h.state_eq hs] at hreach
  have hself : base.canReach base = true := canReach_iff_meets.2 ⟨fun _ hx ↦ hx, fun _ hx ↦ hx⟩
  have hdeclared (hbase : w.state.canReach base = true) :
      ∀ c ∈ cs, c.intention.state.DeclaresGroup := by
    obtain ⟨-, hapi, hmodel⟩ := (hreach base).1 hbase
    exact fun c hc ↦ ⟨hapi rfl c hc, hmodel rfl c hc⟩
  have hsame (hall : ∀ c ∈ cs, c.intention.state.DeclaresGroup) (target : DeviceState) :
      w.state.canReach target = base.canReach target := by
    rw [Bool.eq_iff_iff, hreach target]
    exact and_iff_left ⟨fun _ c hc ↦ (hall c hc).1, fun _ c hc ↦ (hall c hc).2⟩
  refine ⟨hreach, ⟨fun heq ↦ hdeclared ((heq base).trans hself), hsame⟩,
    fun heq c hc ↦ ?_, fun hall ↦ Router.takeMatching_congr (hsame hall)⟩
  -- Any intention for the base state of the device tells the two apart.
  let i : Intention := { c.intention with state := base }
  have htake : Router.takeMatching base [i] = some (i, []) := by
    rw [Router.takeMatching]
    exact if_pos hself
  exact hdeclared (Router.canReach_of_takeMatching ((heq [i]).trans htake)) c hc

/-! ### A worker that loses its group -/

/-- A device without applications to install or packages to clear is prepared at once (`prepare`),
and the test is run next (`execute`). -/
theorem prepare_of_applications_eq_nil {i : Intention} (h : i.state.applications = []) :
    let begun : Worker := { w with phase := .preparing }
    w.prepare i = ((begun.execute i).1, .phase w.device .preparing :: (begun.execute i).2) := by
  by_cases hg : w.state.digest = i.state.digest
  · rw [prepare_of_digest_eq hg, h]
    rfl
  · rw [prepare_of_digest_ne hg, h]
    rfl

/-- A device that stays alive and runs tests carries out whatever asks for no applications. -/
theorem Diary.carry (h : Diary d w cs) (hs : w.isSeeking = true) {i : Intention}
    (hi : i.state.applications = []) (run : DeviceRun) :
    ∃ w' es, Diary d w' (⟨i, es⟩ :: cs) ∧ w'.isSeeking = true ∧ w'.state = i.state := by
  have hbegun := (h.receive i hs).resume 0 (.status (.returned .alive))
    (congrArg some (prepare_of_applications_eq_nil hi))
  have htested := hbegun.resume 0 (.ran (.returned run)) rfl
  exact ⟨_, _, htested.resume 0 (.status (.returned .alive)) rfl, rfl, rfl⟩

/-- A device of the group that the intentions below are about. -/
def bareDevice : DeviceData :=
  ⟨.attached "emulator-5554", "pixel", 29⟩

/-- An intention with the given layers as its target. -/
def bareIntention (layers : List Layer) : Intention where
  id := .numbered 0 1
  state := .ofLayers layers
  action :=
    ⟨⟨"LoginTest", "login", "api29"⟩, "com.example", "com.example", .empty, 1, .ofMillis 1000⟩

/-- What a device answers that ran a test. -/
def bareRun : DeviceRun :=
  ⟨⟨⟨"LoginTest", "login", "api29"⟩, .passed, 5, 9⟩, bareDevice⟩

/-- A worker that carried out an intention for its whole group still has the group
(`DeclaresGroup`). -/
theorem keeps_group_iff_of_whole_group :
    ∃ (w : Worker) (c : Chapter), c.intention = bareIntention [.apiLevel 29, .model "pixel"] ∧
      Diary bareDevice w [c] ∧ Routed bareDevice [c] ∧ w.isSeeking = true ∧
      ∀ target, w.state.canReach target = (DeviceState.ofDevice 29 "pixel").canReach target := by
  have hnew := (Diary.new (d := bareDevice)).resume 0 (.status (.returned .alive)) rfl
  obtain ⟨w, es, h, hs, -⟩ :=
    hnew.carry rfl (i := bareIntention [.apiLevel 29, .model "pixel"]) rfl bareRun
  have hr : Routed bareDevice [⟨bareIntention [.apiLevel 29, .model "pixel"], es⟩] :=
    Routed.none.take hnew rfl [bareIntention [.apiLevel 29, .model "pixel"]] es rfl
  have hall : ∀ c ∈ [(⟨bareIntention [.apiLevel 29, .model "pixel"], es⟩ : Chapter)],
      c.intention.state.DeclaresGroup := List.forall_mem_singleton.2 ⟨rfl, rfl⟩
  exact ⟨w, _, rfl, h, hr, hs, (h.keeps_group_iff hr hs).2.1.2 hall⟩

/-- A worker that carried out an intention without any layers passes over one for its group, which
it would have taken at the start. -/
theorem loses_group_of_no_layers :
    ∃ (w : Worker) (c : Chapter), c.intention = bareIntention [] ∧
      Diary bareDevice w [c] ∧ Routed bareDevice [c] ∧ w.isSeeking = true ∧
      let next := bareIntention [.apiLevel 29, .model "pixel"]
      Router.takeMatching (.ofDevice 29 "pixel") [next] = some (next, []) ∧
        Router.takeMatching w.state [next] = none ∧
        (DeviceState.ofDevice 29 "pixel").canReach next.state = true ∧
        w.state.canReach next.state = false := by
  have hnew := (Diary.new (d := bareDevice)).resume 0 (.status (.returned .alive)) rfl
  obtain ⟨w, es, h, hs, hstate⟩ := hnew.carry rfl (i := bareIntention []) rfl bareRun
  have hr : Routed bareDevice [⟨bareIntention [], es⟩] :=
    Routed.none.take hnew rfl [bareIntention []] es rfl
  refine ⟨w, _, rfl, h, hr, hs, rfl, ?_, rfl, ?_⟩
  · rw [hstate]
    rfl
  · rw [hstate]
    rfl

end Worker

end DeviceLab
