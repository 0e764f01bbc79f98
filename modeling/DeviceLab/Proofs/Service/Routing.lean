import DeviceLab.Proofs.Service.Operation
import DeviceLab.Proofs.Session.Containment
import DeviceLab.Proofs.Session.Exclusive
import DeviceLab.Proofs.Worker.Reach

/-!
# No worker is given what its device cannot be

A worker asks the router in the state that it takes its device to be in, and after every intention
it takes the target of that intention for it. A target may leave out the API level or the model, so
what the worker remembers is not what its device is. But it never remembers anything wrong
(`Worker.Routed.suits_stateAfter`): what it can reach declares of the device itself only what it
remembers already, and at first it remembers what its device is. So whatever is routed to a device
`Suits` it (`Worker.Routed.suits`).

The service on its own has any devices and any intentions, the targets of which declare what they
like, more than once or not at all. `Operation.journal` says that each of its workers keeps a diary
in which all intentions are routed (`Journal`). It rests on `workerChange_of_step` for what concerns
the worker, and on `ServiceInvariant.takeMatching_of_seek` for what a worker takes that was parked
before. `Operation.suits_device` puts the two together.
-/

namespace DeviceLab

/-! ### States that suit a device -/

/-- What a state declares of the device itself is true of a device. -/
structure DeviceState.Suits (s : DeviceState) (d : DeviceData) : Prop where
  api : ∀ api, s.api? = some api → api = d.api
  model : ∀ model, s.model? = some model → model = d.model

/-- A state suits a device if the device can be brought to it from the start. -/
theorem DeviceState.suits_iff {s : DeviceState} {d : DeviceData} :
    s.Suits d ↔ (DeviceState.ofDevice d.api d.model).canReach s = true := by
  have hapi : (DeviceState.ofDevice d.api d.model).api? = some d.api := rfl
  have hmodel : (DeviceState.ofDevice d.api d.model).model? = some d.model := rfl
  rw [canReach_iff_meets, Meets, Meets, hapi, hmodel]
  constructor
  · exact fun h ↦ ⟨fun x hx ↦ congrArg some (h.api x hx).symm,
      fun x hx ↦ congrArg some (h.model x hx).symm⟩
  · exact fun h ↦ ⟨fun x hx ↦ (Option.some.inj (h.1 x hx)).symm,
      fun x hx ↦ (Option.some.inj (h.2 x hx)).symm⟩

instance (s : DeviceState) (d : DeviceData) : Decidable (s.Suits d) :=
  decidable_of_iff _ DeviceState.suits_iff.symm

namespace Worker

variable {d : DeviceData} {cs : List Chapter}

/-- What a worker remembers suits its device, however often it was replaced. -/
theorem Routed.suits_stateAfter (hr : Routed d cs) : (stateAfter d cs).Suits d := by
  refine DeviceState.suits_iff.2 (DeviceState.canReach_iff_meets.2 ⟨?_, ?_⟩)
  · exact hr.meets fun h ↦ (DeviceState.canReach_iff_meets.1 h).1
  · exact hr.meets fun h ↦ (DeviceState.canReach_iff_meets.1 h).2

/-- **What is routed to a device `Suits` it.** -/
theorem Routed.suits (hr : Routed d cs) : ∀ c ∈ cs, c.intention.state.Suits d := by
  induction hr with
  | none => exact List.forall_mem_nil _
  | cons queue rest h ht ih =>
    exact List.forall_mem_cons.2 ⟨(h.cons queue rest ht).suits_stateAfter, ih⟩

/-- What is noted on an intention does not change it. -/
theorem map_intention_note (es : List Entry) (cs : List Chapter) :
    (note es cs).map (·.intention) = cs.map (·.intention) := by
  cases cs <;> rfl

theorem Routed.note (hr : Routed d cs) (es : List Entry) : Routed d (note es cs) := by
  cases hr with
  | none => exact .none
  | cons queue rest h ht => exact h.cons queue rest ht

/-- The test that a device runs is that of the intention of the latest chapter. -/
theorem Diary.command_run {w : Worker} {a : TestAction} (h : Diary d w cs)
    (hc : w.command? = some (.run a)) : ∃ c ∈ cs, c.intention.action = a := by
  have hdiaryAt := h.diaryAt
  rw [command?] at hc
  split at hc <;> cases hc
  next i hs =>
  rw [DiaryAt, hs] at hdiaryAt
  obtain ⟨earlier, -, -, rfl⟩ := hdiaryAt
  exact ⟨_, List.mem_cons_self, rfl⟩

end Worker

namespace Session

open Worker (Diary Routed Chapter Entry)

variable {capacity : Nat} {first s s' : Session} {h : List Turn} {t : Turn} {m : Move}
  {ns : List Notice} {n : Nat} {w w' : Worker} {i : Intention} {cs : List Chapter}

/-! ### The diary of a hired worker -/

/-- The diary of a worker in which all intentions are `Routed`, and they are those that the turns
tell (`takenOf`). -/
structure Journal (n : Nat) (h : List Turn) (w : Worker) (cs : List Chapter) : Prop where
  diary : Diary w.device w cs
  routed : Routed w.device cs
  taken : (cs.map (·.intention)).reverse = takenOf n h

theorem journal_new (n : Nat) (d : DeviceData) : Journal n [] (.new d) [] :=
  ⟨.new, .none, rfl⟩

/-- A worker that takes nothing keeps its journal, whatever it notes. -/
theorem Journal.mute (hj : Journal n h w cs) (ht : valuesOf n t.received = [])
    (hdevice : w'.device = w.device) (es : List Entry)
    (hdiary : Diary w.device w' (Worker.note es cs)) :
    Journal n (h ++ [t]) w' (Worker.note es cs) := by
  refine ⟨hdevice ▸ hdiary, hdevice ▸ hj.routed.note es, ?_⟩
  rw [takenOf_append_singleton, ht, List.append_nil, Worker.map_intention_note]
  exact hj.taken

/-- A turn that does not concern a worker keeps its journal. -/
theorem Journal.skip (hj : Journal n h w cs) (ht : valuesOf n t.received = []) :
    Journal n (h ++ [t]) w cs := by
  refine ⟨hj.diary, hj.routed, ?_⟩
  rw [takenOf_append_singleton, ht, List.append_nil]
  exact hj.taken

/-- What a worker takes when it asks is what it can reach. -/
theorem ServiceInvariant.takeMatching_of_seek (ho : s.ServiceInvariant)
    (hs : s.step (.seek n) = some (s', ns)) (hw : s.crew[n]? = some w)
    (hi : i ∈ ns.filterMap Notice.received?) :
    ∃ rest, Router.takeMatching w.state s.router.queue = some (i, rest) := by
  cases ho.serviceStep_of_step hs with
  | waited => cases hi
  | finished => cases hi
  | took hx hseeking hq =>
    rw [crew_getElem?, hx] at hw
    obtain rfl := Option.some.inj hw
    obtain rfl := List.mem_singleton.1 hi
    exact ⟨_, hq⟩

/-- **Every worker of a service keeps a `Journal`.** One that is not hired yet has an empty one. -/
theorem Operation.journal (ho : Operation (started capacity) h s) (n : Nat) (d : DeviceData) :
    ∃ cs, Journal n h (s.crew[n]?.getD (.new d)) cs := by
  induction ho generalizing d with
  | start => exact ⟨[], journal_new n d⟩
  | outside _ _ _ _ _ ih => exact ih d
  | @stop h s _ ih =>
    rw [stopService_crew]
    exact ih d
  | @turn h s s' ns m ho hs ih =>
    have hchange := workerChange_of_step hs n
    have hseek (w : Worker) (i : Intention) (hw : s.crew[n]? = some w) (hm : m = .seek n)
        (hi : i ∈ ns.filterMap Notice.received?) :=
      (ho.serviceInvariant (serviceInvariant_started capacity)).takeMatching_of_seek (hm ▸ hs) hw hi
    generalize hcrew : s.crew[n]? = before at ih hchange
    generalize s'.crew[n]? = after at hchange ⊢
    cases hchange with
    | apart hm hover =>
      obtain ⟨cs, hj⟩ := ih d
      exact ⟨cs, hj.skip (tells_of_apart hm hover).taken⟩
    | @hired found ns d' =>
      obtain ⟨cs, hj⟩ := ih d'
      have hm : (Move.enlist found).worker? ≠ some n := (Option.some_ne_none n).symm
      exact ⟨cs, hj.skip (tells_of_apart hm Move.noConfusion).taken⟩
    | waited =>
      obtain ⟨cs, hj⟩ := ih d
      exact ⟨cs, hj.skip tells_of_seek.taken⟩
    | @received w offer hseeking =>
      obtain ⟨cs, hj⟩ := ih d
      cases offer with
      | none =>
        refine ⟨cs, hj.diary.finish hseeking, hj.routed, ?_⟩
        rw [takenOf_append_singleton, tells_of_seek.taken, hj.taken]
        exact (List.append_nil _).symm
      | some i =>
        obtain ⟨rest, hq⟩ := hseek w i hcrew rfl (List.mem_singleton_self i)
        refine ⟨_, hj.diary.receive i hseeking, hj.routed.take hj.diary hseeking _ _ hq, ?_⟩
        rw [takenOf_append_singleton, tells_of_seek.taken, List.map_cons, List.reverse_cons,
          hj.taken]
        rfl
    | @resumed w w' time reply ns hr =>
      obtain ⟨cs, hj⟩ := ih d
      have hresumed := Worker.resumed_of_resume hr
      refine ⟨_, hj.mute ?_ hresumed.device_eq _ (hj.diary.resume time reply hr)⟩
      rw [(tells_of_answer hcrew time reply).taken]
      exact hresumed.held.received_eq_nil
    | overran =>
      obtain ⟨cs, hj⟩ := ih d
      cases before with
      | none => exact ⟨cs, hj.skip (tells_of_overrun hcrew _).taken⟩
      | some w =>
        refine ⟨cs, ?_, ?_, ?_⟩
        · exact w.abort_device ▸ hj.diary.abort
        · exact w.abort_device ▸ hj.routed
        · exact (hj.skip (tells_of_overrun hcrew _).taken).taken

/-! ### The theorem -/

/-- **Routing is sound.** Whatever a service of its own does (`Operation`), with any devices and any
intentions, and however often a worker has replaced what it remembers: the target of every intention
that the worker has ever been given (`takenOf`) suits its device (`DeviceState.Suits`), a test that
its device runs is the test of such an intention, and what the worker asks with suits its device. -/
theorem Operation.suits_device (ho : Operation (started capacity) h s) (hw : s.crew[n]? = some w) :
    (∀ i ∈ takenOf n h, i.state.Suits w.device) ∧
      (∀ a, w.command? = some (.run a) →
        ∃ i ∈ takenOf n h, i.action = a ∧ i.state.Suits w.device) ∧
      (w.isSeeking = true → w.state.Suits w.device) := by
  obtain ⟨cs, hj⟩ := ho.journal n w.device
  rw [hw, Option.getD_some] at hj
  have hmem {i : Intention} : i ∈ takenOf n h ↔ ∃ c ∈ cs, c.intention = i := by
    rw [← hj.taken, List.mem_reverse, List.mem_map]
  have hsuits := hj.routed.suits
  refine ⟨fun i hi ↦ ?_, fun a ha ↦ ?_, fun hs ↦ ?_⟩
  · obtain ⟨c, hc, rfl⟩ := hmem.1 hi
    exact hsuits c hc
  · obtain ⟨c, hc, haction⟩ := hj.diary.command_run ha
    exact ⟨c.intention, hmem.2 ⟨c, hc, rfl⟩, haction, hsuits c hc⟩
  · rw [hj.diary.state_eq hs]
    exact hj.routed.suits_stateAfter

/-! ### A sample -/

/-- A device that is alive goes on to the test at once if there is nothing to install or to
clear. -/
theorem step_answer_alive (hw : s.crew[n]? = some w) (hs : w.stage = .checking i)
    (hi : i.state.applications = []) :
    let begun := ({ w with phase := .preparing } : Worker).execute i
    s.step (.answer n 0 (.status (.returned .alive))) =
      some (s.setWorker n begun.1, .phase w.device .preparing :: begun.2) := by
  have hresume : w.resume 0 (.status (.returned .alive)) = some (w.prepare i) := by
    simp only [Worker.resume, hs]
  rw [answer_eq hw, hresume, Worker.prepare_of_applications_eq_nil hi]
  rfl

open Worker (bareDevice bareIntention bareRun) in
/-- A worker is given an intention that leaves out the API level and another one that declares
nothing, and passes over one that declares two levels, neither of which it remembers by then. -/
theorem suits_device_of_partial :
    ∃ h s w, Operation (started 3) h s ∧ s.crew[0]? = some w ∧ w.device = bareDevice ∧
      takenOf 0 h = [bareIntention [.model "pixel"], bareIntention []] ∧
      s.router.queue = [bareIntention [.apiLevel 30, .apiLevel 29]] ∧
      w.command? = some (.run (bareIntention []).action) ∧
      (∀ i ∈ [bareIntention [.model "pixel"], bareIntention []], i.state.Suits bareDevice) ∧
      ¬ (bareIntention [.apiLevel 30, .apiLevel 29]).state.Suits bareDevice := by
  have hfilled : Operation (started 3) [] _ :=
    Operation.start.outside
      ⟨[bareIntention [.model "pixel"], bareIntention [.apiLevel 30, .apiLevel 29],
        bareIntention []], some 3, true, true⟩
      ⟨[bareDevice.coordinate], some 64, true, true⟩ .unbounded .unbounded
  have htaken := hfilled.follow
    [.enlist (.ok bareDevice), .answer 0 0 (.status (.returned .alive)), .forward, .forward,
      .forward, .seek 0] rfl
  have hbegun := htaken.turn (.answer 0 0 (.status (.returned .alive)))
    (step_answer_alive (n := 0) (i := bareIntention [.model "pixel"]) rfl rfl rfl)
  have hdone := hbegun.follow
    [.answer 0 1 (.ran (.returned bareRun)), .answer 0 1 (.status (.returned .alive)), .seek 0] rfl
  have hagain := hdone.turn (.answer 0 0 (.status (.returned .alive)))
    (step_answer_alive (n := 0) (i := bareIntention []) rfl rfl rfl)
  have hsuits := (hagain.suits_device (n := 0) rfl).1
  exact ⟨_, _, _, hagain, rfl, rfl, rfl, rfl, rfl, hsuits, by decide⟩

end Session

end DeviceLab
