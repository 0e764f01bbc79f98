import DeviceLab.Proofs.Worker.Holding

/-!
# States that fit a device

What a worker takes for the state of its device always declares the API level and the model of the
device (`Fitted`), since it only takes intentions that its device can be brought to. So a worker can
be given an attempt of a request exactly if its device is what the request targets
(`DeviceState.Fits.canReach_iff`).

`Resumed.fitted` is the step, and `Fitted.receive` is where something has to be known of the
intentions: their states have to declare both parts. The intentions of a session do
(`DeviceState.Fits.targetState`); those of a service on its own need not, and
`DeviceLab.Proofs.Service.Routing` says what holds then.
-/

namespace DeviceLab

/-! ### States and devices -/

/-- A state declares the API level and the model of a device. -/
structure DeviceState.Fits (state : DeviceState) (d : DeviceData) : Prop where
  api : state.api? = some d.api
  model : state.model? = some d.model

section Reaching

variable {state : DeviceState} {d : DeviceData} {r : Request}

/-- A device can be brought to the state of a request exactly if it has its API level and model. -/
theorem DeviceState.Fits.canReach_iff (h : state.Fits d) :
    state.canReach r.targetState = true ↔ d.api = r.target.api ∧ d.model = r.target.model := by
  have hapi : r.targetState.api? = some r.target.api := rfl
  have hmodel : r.targetState.model? = some r.target.model := rfl
  rw [DeviceState.canReach, hapi, hmodel, h.api, h.model]
  simp

/-- The state of a request fits the devices that can be brought to it. -/
theorem DeviceState.Fits.targetState (h : state.Fits d)
    (hreach : state.canReach r.targetState = true) : r.targetState.Fits d := by
  obtain ⟨hapi, hmodel⟩ := h.canReach_iff.1 hreach
  refine ⟨?_, ?_⟩
  · rw [hapi]
    rfl
  · rw [hmodel]
    rfl

end Reaching

/-! ### Workers -/

namespace Worker

/-- The state that a worker takes its device to be in `Fits` the device, and so does the state that
the intention in its hands asks for. -/
structure Fitted (w : Worker) : Prop where
  state : w.state.Fits w.device
  holding : ∀ i, w.holding? = some i → i.state.Fits w.device

variable {w w' : Worker} {time : UInt64} {reply : Reply} {ns : List Notice} {i : Intention}

theorem fitted_new (d : DeviceData) : (Worker.new d).Fitted :=
  ⟨⟨rfl, rfl⟩, fun _ hi ↦ by cases hi⟩

/-- A worker is fitted if what it holds asks for a state that fits. -/
theorem fitted_of_holding (hw : w.state.Fits w.device) (hi : i.state.Fits w.device)
    (hh : w.holding? = some i) : w.Fitted := by
  refine ⟨hw, fun j hj ↦ ?_⟩
  rw [hh] at hj
  obtain rfl : i = j := Option.some.inj hj
  exact hi

/-- A worker that lets go of what it held, with its device in the state that it was in. -/
theorem Fitted.letGo (hw : w.Fitted) (stage : Stage) (phase : Phase) (returned : Option Phase)
    (hn : ({ w with stage, phase, returned } : Worker).holding? = none) :
    ({ w with stage, phase, returned } : Worker).Fitted := by
  refine ⟨hw.state, fun i hi ↦ ?_⟩
  rw [hn] at hi
  cases hi

theorem Fitted.receive (hw : w.Fitted) (hi : i.state.Fits w.device) :
    (w.receive (some i)).1.Fitted :=
  fitted_of_holding hw.state hi rfl

theorem fitted_clear (hw : w.state.Fits w.device) (hi : i.state.Fits w.device)
    (left : List String) : (w.clear i left).1.Fitted := by
  cases left with
  | nil => exact fitted_of_holding hi hi rfl
  | cons package left => exact fitted_of_holding hw hi rfl

theorem fitted_install (hw : w.state.Fits w.device) (hi : i.state.Fits w.device)
    (done : List Installation) (left : List String) : (w.install i done left).1.Fitted := by
  cases left with
  | nil => exact fitted_of_holding hi hi rfl
  | cons path left => exact fitted_of_holding hw hi rfl

theorem fitted_prepare (hw : w.state.Fits w.device) (hi : i.state.Fits w.device) :
    (w.prepare i).1.Fitted := by
  by_cases hg : w.state.digest = i.state.digest
  · rw [prepare_of_digest_eq hg]
    exact fitted_clear (w := { w with phase := .preparing }) hw hi _
  · rw [prepare_of_digest_ne hg]
    exact fitted_install (w := { w with phase := .preparing }) hw hi [] _

/-- **Whatever its device answers, a worker stays `Fitted`.** -/
theorem Resumed.fitted (h : Resumed w time reply w' ns) (hw : w.Fitted) : w'.Fitted := by
  have hheld {i : Intention} (hi : w.holding? = some i) : i.state.Fits w.device := hw.holding i hi
  cases h with
  | begun h => exact fitted_prepare hw.state (hheld (by rw [holding?, h]))
  | installed h => exact fitted_install hw.state (hheld (by rw [holding?, h])) _ _
  | cleared h => exact fitted_clear hw.state (hheld (by rw [holding?, h])) _
  | crashed => exact hw.letGo _ w.phase w.returned rfl
  | created => exact hw.letGo _ _ w.returned rfl
  | rested => exact hw.letGo _ w.phase w.returned rfl
  | ran => exact hw.letGo _ _ w.returned rfl
  | broke => exact hw.letGo _ _ w.returned rfl
  | stillborn => exact hw.letGo _ _ _ rfl
  | frozenOn => exact hw.letGo _ _ _ rfl
  | frozen => exact hw.letGo _ _ _ rfl
  | uninstalled => exact hw.letGo _ _ _ rfl
  | uncleared => exact hw.letGo _ _ _ rfl

/-- A worker whose device is not busy and that is not over waits for an intention. -/
theorem isSeeking_of_command?_eq_none (hc : w.command? = none) (ho : w.isOver = false) :
    w.isSeeking = true := by
  rw [isSeeking]
  cases hs : w.stage with
  | seeking => rfl
  | ended | crashed | aborted => simp [isOver, hs] at ho
  | _ => simp [command?, hs] at hc

/-- A worker that waits for its device does not wait for an intention. -/
theorem isSeeking_eq_false_of_resume {r : Worker × List Notice}
    (h : w.resume time reply = some r) : w.isSeeking = false := by
  refine Bool.eq_false_iff.2 fun hs ↦ ?_
  have hnone : w.resume time reply = none := by
    rcases reply with (- | - | -) | - | - | - <;> simp [resume, stage_of_isSeeking hs]
  rw [hnone] at h
  cases h

end Worker

end DeviceLab
