import DeviceLab.Device.State
import Mathlib.Data.List.Basic

/-!
# What a device can be brought to

No installation changes the API level or the model of a device, so all that a target declares of the
device itself should hold already (`Provides`). `DeviceState.canReach` compares the first API level
and the first model of a target. Nothing keeps a target from declaring several of them, and those
behind the first are passed over.

A device has one of each (`IsDevice`). So the two readings differ only on targets that contradict
themselves: `IsDevice.provides_iff` says that a device provides a target exactly if it can reach it
and the target is `Coherent`. It rests on `subset_singleton_iff`, by which all of a list is one
value exactly if the first is and all are the same. `IsDevice.provides_iff_forall_perm` says the
same without the word: what is provided is what can be reached in every order of the layers.

`IsDevice.canReach_iff_provides` is the theorem, and `reaches_contradiction` the target of two
levels.
-/

namespace DeviceLab

namespace DeviceState

/-! ### Parts of a state -/

/-- What a state demands of the device itself. -/
def demands (s : DeviceState) : Option UInt32 × Option String :=
  (s.api?, s.model?)

/-- What can be reached is decided by the demands alone. -/
theorem canReach_congr {state s t : DeviceState} (h : s.demands = t.demands) :
    state.canReach s = state.canReach t := by
  obtain ⟨hapi, hmodel⟩ := Prod.mk.inj h
  rw [canReach, canReach, hapi, hmodel]

/-- What a target says about some part of a state holds already. -/
def Meets {α : Type} (part : DeviceState → Option α) (s target : DeviceState) : Prop :=
  ∀ x, part target = some x → part s = some x

/-- A target is reached if it is met (`Meets`) in its two parts. -/
theorem canReach_iff_meets {s target : DeviceState} :
    s.canReach target = true ↔ Meets api? s target ∧ Meets model? s target := by
  rw [canReach, Bool.and_eq_true]
  refine and_congr ?_ ?_
  · cases h : target.api? <;> simp [Meets, h]
  · cases h : target.model? <;> simp [Meets, h]

variable {s target : DeviceState}

/-- All API levels that a state declares, in order. -/
def apis (s : DeviceState) : List UInt32 :=
  s.layers.filterMap Layer.api?

/-- All models that a state declares, in order. -/
def models (s : DeviceState) : List String :=
  s.layers.filterMap Layer.model?

theorem head?_apis : s.apis.head? = s.api? :=
  List.head?_filterMap

theorem head?_models : s.models.head? = s.model? :=
  List.head?_filterMap

theorem mem_apis {api : UInt32} : api ∈ s.apis ↔ .apiLevel api ∈ s.layers := by
  rw [apis, List.mem_filterMap]
  constructor
  · rintro ⟨l, hl, hapi⟩
    cases l <;> cases hapi
    exact hl
  · exact fun h ↦ ⟨_, h, rfl⟩

theorem mem_models {name : String} : name ∈ s.models ↔ .model name ∈ s.layers := by
  rw [models, List.mem_filterMap]
  constructor
  · rintro ⟨l, hl, hname⟩
    cases l <;> cases hname
    exact hl
  · exact fun h ↦ ⟨_, h, rfl⟩

/-- Leaving out the applications changes no part that they do not have. -/
theorem filterMap_filter_isBase {α : Type} {part : Layer → Option α}
    (h : ∀ path package, part (.application path package) = none) (layers : List Layer) :
    (layers.filter Layer.isBase).filterMap part = layers.filterMap part := by
  rw [List.filterMap_filter]
  refine List.filterMap_congr fun l _ ↦ ?_
  cases l with
  | application path package => exact (h path package).symm
  | _ => rfl

/-! ### Devices and targets -/

/-- A state is that of a device: its base layers (`isBase`) are one API level and one model. -/
def IsDevice (s : DeviceState) (api : UInt32) (model : String) : Prop :=
  (s.layers.filter Layer.isBase).Perm [.apiLevel api, .model model]

/-- Every base layer of a target is a layer of the state. -/
def Provides (s target : DeviceState) : Prop :=
  ∀ l ∈ target.layers, l.isBase = true → l ∈ s.layers

/-- A list has no two different members. -/
def Uniform {α : Type} (xs : List α) : Prop :=
  ∀ x ∈ xs, ∀ y ∈ xs, x = y

/-- A state does not contradict itself: it declares no two API levels and no two models. -/
structure Coherent (s : DeviceState) : Prop where
  api : Uniform s.apis
  model : Uniform s.models

instance (s : DeviceState) (api : UInt32) (model : String) : Decidable (s.IsDevice api model) :=
  inferInstanceAs (Decidable (List.Perm _ _))

instance {α : Type} [DecidableEq α] (xs : List α) : Decidable (Uniform xs) :=
  haveI (x : α) : Decidable (∀ y ∈ xs, x = y) := List.decidableBAll _ xs
  List.decidableBAll _ xs

instance (s target : DeviceState) : Decidable (s.Provides target) :=
  List.decidableBAll _ target.layers

instance (s : DeviceState) : Decidable s.Coherent :=
  decidable_of_iff (Uniform s.apis ∧ Uniform s.models)
    ⟨fun h ↦ ⟨h.1, h.2⟩, fun h ↦ ⟨h.api, h.model⟩⟩

/-- A target is provided if its API levels and its models are. -/
theorem provides_iff : s.Provides target ↔ target.apis ⊆ s.apis ∧ target.models ⊆ s.models := by
  constructor
  · exact fun h ↦ ⟨fun _ hx ↦ mem_apis.2 (h _ (mem_apis.1 hx) rfl),
      fun _ hx ↦ mem_models.2 (h _ (mem_models.1 hx) rfl)⟩
  · rintro ⟨hapis, hmodels⟩ l hl hbase
    cases l with
    | apiLevel api => exact mem_apis.1 (hapis (mem_apis.2 hl))
    | model name => exact mem_models.1 (hmodels (mem_models.2 hl))
    | application path package => cases hbase

section Device

variable {api : UInt32} {model : String} (h : s.IsDevice api model)
include h

/-- A device has one API level. -/
theorem IsDevice.apis_eq : s.apis = [api] := by
  have hperm := h.filterMap Layer.api?
  rw [filterMap_filter_isBase fun _ _ ↦ rfl] at hperm
  exact List.perm_singleton.1 hperm

/-- A device has one model. -/
theorem IsDevice.models_eq : s.models = [model] := by
  have hperm := h.filterMap Layer.model?
  rw [filterMap_filter_isBase fun _ _ ↦ rfl] at hperm
  exact List.perm_singleton.1 hperm

end Device

/-! ### The first of a kind, and all of a kind -/

/-- All of a list is one value exactly if the first is and all are the same. -/
theorem subset_singleton_iff {α : Type} {v : α} {xs : List α} :
    xs ⊆ [v] ↔ (∀ x, xs.head? = some x → [v].head? = some x) ∧ Uniform xs := by
  cases xs with
  | nil => simp [Uniform]
  | cons x xs =>
    constructor
    · intro h
      have hv : ∀ y ∈ x :: xs, y = v := fun y hy ↦ List.mem_singleton.1 (h hy)
      refine ⟨fun y hy ↦ ?_, fun y hy z hz ↦ (hv y hy).trans (hv z hz).symm⟩
      rw [hv y (List.mem_of_mem_head? hy)]
      rfl
    · rintro ⟨hfirst, hsame⟩ y hy
      have hx : v = x := Option.some.inj (hfirst x rfl)
      rw [hsame y hy x List.mem_cons_self, hx]
      exact List.mem_singleton_self x

/-- **What a device `Provides` can be reached and is `Coherent`**, and the other way round. -/
theorem IsDevice.provides_iff {api : UInt32} {model : String} (h : s.IsDevice api model) :
    s.Provides target ↔ s.canReach target = true ∧ target.Coherent := by
  have hparts : s.Provides target ↔
      (Meets api? s target ∧ Uniform target.apis) ∧
        Meets model? s target ∧ Uniform target.models := by
    rw [DeviceState.provides_iff, h.apis_eq, h.models_eq, subset_singleton_iff,
      subset_singleton_iff, ← h.apis_eq, ← h.models_eq, head?_apis, head?_apis, head?_models,
      head?_models]
    rfl
  rw [hparts, canReach_iff_meets, and_and_and_comm]
  exact and_congr_right fun _ ↦ ⟨fun hc ↦ ⟨hc.1, hc.2⟩, fun hc ↦ ⟨hc.api, hc.model⟩⟩

/-! ### Other lists of layers -/

section Layers

variable {layers others : List Layer}

/-- The base layers alone tell a part that applications do not have. -/
theorem filterMap_eq_of_filter_isBase {α : Type} {part : Layer → Option α}
    (hpart : ∀ path package, part (.application path package) = none)
    (h : others.filter Layer.isBase = layers.filter Layer.isBase) :
    others.filterMap part = layers.filterMap part := by
  rw [← filterMap_filter_isBase hpart, h, filterMap_filter_isBase hpart]

/-- The applications of a target add nothing to its demands. -/
theorem demands_congr (h : others.filter Layer.isBase = layers.filter Layer.isBase) :
    (ofLayers others).demands = (ofLayers layers).demands := by
  rw [demands, demands, ← head?_apis, ← head?_apis, ← head?_models, ← head?_models]
  exact Prod.ext (congrArg List.head? (filterMap_eq_of_filter_isBase (fun _ _ ↦ rfl) h))
    (congrArg List.head? (filterMap_eq_of_filter_isBase (fun _ _ ↦ rfl) h))

/-- What is provided depends only on which base layers there are. -/
theorem provides_congr (h : ∀ l, l.isBase = true → (l ∈ others ↔ l ∈ layers)) :
    s.Provides (ofLayers others) ↔ s.Provides (ofLayers layers) :=
  ⟨fun hp l hl hbase ↦ hp l ((h l hbase).2 hl) hbase,
    fun hp l hl hbase ↦ hp l ((h l hbase).1 hl) hbase⟩

/-- So does whether a target contradicts itself. -/
theorem Coherent.congr (hc : (ofLayers layers).Coherent)
    (h : ∀ l, l.isBase = true → (l ∈ others ↔ l ∈ layers)) : (ofLayers others).Coherent where
  api x hx y hy := hc.api x (mem_apis.2 ((h _ rfl).1 (mem_apis.1 hx)))
    y (mem_apis.2 ((h _ rfl).1 (mem_apis.1 hy)))
  model x hx y hy := hc.model x (mem_models.2 ((h _ rfl).1 (mem_models.1 hx)))
    y (mem_models.2 ((h _ rfl).1 (mem_models.1 hy)))

/-- A base layer that comes first has to hold. -/
theorem mem_layers_of_canReach_cons {l : Layer} (hbase : l.isBase = true)
    (h : s.canReach (ofLayers (l :: layers)) = true) : l ∈ s.layers := by
  obtain ⟨hapi, hmodel⟩ := canReach_iff_meets.1 h
  cases l with
  | apiLevel api =>
    have hfirst : s.apis.head? = some api := head?_apis.trans (hapi api rfl)
    exact mem_apis.1 (List.mem_of_mem_head? hfirst)
  | model name =>
    have hfirst : s.models.head? = some name := head?_models.trans (hmodel name rfl)
    exact mem_models.1 (List.mem_of_mem_head? hfirst)
  | application path package => cases hbase

/-- **A device provides what it can reach in every order** of its layers (`canReach`). -/
theorem IsDevice.provides_iff_forall_perm {api : UInt32} {model : String}
    (h : s.IsDevice api model) :
    s.Provides (ofLayers layers) ↔
      ∀ others, others.Perm layers → s.canReach (ofLayers others) = true := by
  constructor
  · intro hp others hperm
    exact (h.provides_iff.1 ((provides_congr fun l _ ↦ hperm.mem_iff).2 hp)).1
  · -- Each base layer has its turn to be the first of its kind.
    intro hall l hl hbase
    exact mem_layers_of_canReach_cons hbase (hall _ (List.perm_cons_erase hl).symm)

end Layers

/-! ### The theorem -/

/-- **What a device can reach.** Let a state have one API level and one model, and applications as
it may, and let a target be made from any list of layers.

Every base layer of the target is one of the device exactly if the target can be reached and does
not contradict itself, and exactly if the target can be reached in every order of its layers. So
`canReach` tells whether all base layers are there unless the target contradicts itself and can be
reached nevertheless. It never depends on the applications of a target; and if the target does not
contradict itself, neither on the order and the number of its base layers. -/
theorem IsDevice.canReach_iff_provides {api : UInt32} {model : String} (h : s.IsDevice api model)
    (layers : List Layer) :
    let target := ofLayers layers
    (s.Provides target ↔ s.canReach target = true ∧ target.Coherent) ∧
      (s.Provides target ↔
        ∀ others, others.Perm layers → s.canReach (ofLayers others) = true) ∧
      ((s.canReach target = true ↔ s.Provides target) ↔
        target.Coherent ∨ s.canReach target = false) ∧
      (∀ others, others.filter Layer.isBase = layers.filter Layer.isBase →
        s.canReach (ofLayers others) = s.canReach target) ∧
      (target.Coherent → ∀ others, (∀ l, l.isBase = true → (l ∈ others ↔ l ∈ layers)) →
        s.canReach (ofLayers others) = s.canReach target) := by
  intro target
  have hprovides : s.Provides target ↔ s.canReach target = true ∧ target.Coherent := h.provides_iff
  refine ⟨hprovides, h.provides_iff_forall_perm, ?_,
    fun others hbase ↦ canReach_congr (demands_congr hbase), ?_⟩
  · rw [hprovides, ← Bool.not_eq_true]
    tauto
  · intro hc others hsame
    have hother := h.provides_iff.symm.trans ((provides_congr hsame).trans hprovides)
    rw [Bool.eq_iff_iff]
    exact ((and_iff_left (hc.congr hsame)).symm.trans hother).trans (and_iff_left hc)

/-- A device with an application reaches (`canReach`) a target that says twice what it is, and
reaches it also if it is said once and in another order, with other applications. -/
theorem canReach_iff_provides_of_repeated :
    let s := ofLayers [.model "pixel", .application "app.apk" "com.example", .apiLevel 29]
    let layers : List Layer := [.apiLevel 29, .application "a.apk" "a", .apiLevel 29]
    s.IsDevice 29 "pixel" ∧ (ofLayers layers).Coherent ∧ s.Provides (ofLayers layers) ∧
      s.canReach (ofLayers layers) = true ∧
      s.canReach (ofLayers [.application "b.apk" "b", .apiLevel 29]) = true := by
  intro s layers
  have hs : s.IsDevice 29 "pixel" := by decide
  have hc : (ofLayers layers).Coherent := by decide
  have hp : s.Provides (ofLayers layers) := by decide
  obtain ⟨hprovides, -, -, -, hsame⟩ := hs.canReach_iff_provides layers
  have hreach := (hprovides.1 hp).1
  refine ⟨hs, hc, hp, hreach, (hsame hc _ fun l hbase ↦ ?_).trans hreach⟩
  cases l with
  | application path package => cases hbase
  | _ => simp [layers]

/-- A device of API level 29 passes for one that is of 29 and of 30; the other way round it does
not. -/
theorem reaches_contradiction :
    let s := ofDevice 29 "pixel"
    let layers : List Layer := [.apiLevel 29, .apiLevel 30]
    s.IsDevice 29 "pixel" ∧ s.canReach (ofLayers layers) = true ∧ ¬ s.Provides (ofLayers layers) ∧
      s.canReach (ofLayers layers.reverse) = false := by
  decide

end DeviceState

end DeviceLab
