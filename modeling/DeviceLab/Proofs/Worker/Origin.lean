import DeviceLab.Proofs.Device.Digest
import DeviceLab.Proofs.Json.Form
import DeviceLab.Proofs.Worker.Diary

/-!
# Where states come from

A state is made from its layers, directly or for a device, a request or an intention, or it is read
from a document, alone or as a part of an intention (`Origin`). A state that was made is `Sound`:
its digest is the one that belongs to its layers. A document tells the digest beside the layers, and
reading takes it as it comes (`toldDigest?_of_read?`), so a state that was read is sound exactly if
the document told the right digest.

Of sound states equal digests mean equal layers (`DeviceState.Sound.digest_eq_iff`), and then a
worker that compares digests installs what it has to install (`Worker.reconciliation_of_sound`). Any
state at all can be read from some document (`state?_intentionDocument`), so nothing of the kind
holds of states in general. `sound_iff_told` says all of this, and `unsound_of_forged_document` is
the document that lies.
-/

namespace DeviceLab

open Json (need record? read?_write need_write record?_fields)

/-! ### Sound states -/

namespace DeviceState

/-- The digest of a state is the one that belongs to its layers. -/
def Sound (s : DeviceState) : Prop :=
  s.digest = digestOf s.layers

instance (s : DeviceState) : Decidable s.Sound :=
  inferInstanceAs (Decidable (s.digest = digestOf s.layers))

theorem sound_ofLayers (layers : List Layer) : (ofLayers layers).Sound :=
  rfl

/-- Sound states have equal digests only if their layers are equal. -/
theorem Sound.digest_eq_iff {s t : DeviceState} (hs : s.Sound) (ht : t.Sound)
    (h : Separated s.layers t.layers) : s.digest = t.digest ↔ s.layers = t.layers := by
  rw [hs, ht]
  exact h.digestOf_inj

end DeviceState

/-- A worker that brings a device from one sound state to another only clears packages if the layers
are the same, and otherwise installs all applications. -/
theorem Worker.reconciliation_of_sound {s t : DeviceState} (hs : s.Sound) (ht : t.Sound)
    (h : DeviceState.Separated s.layers t.layers) :
    Worker.reconciliation s t =
      if s.layers = t.layers then t.applications.map (.clear ·.2)
      else t.applications.map (.install ·.1) := by
  rw [Worker.reconciliation, if_congr (hs.digest_eq_iff ht h) rfl rfl]

/-! ### Documents -/

/-- The digest that the document of a state tells. -/
def toldDigest? (j : Json) : Option String := do
  let [_, digest] ← record? ["layers", "digest"] j | none
  need digest

/-- The document of the state within the document of an intention. -/
def toldState? (j : Json) : Option Json := do
  let [_, state, _] ← record? ["id", "state", "action"] j | none
  state

/-- **The digest of a state that was read is the one that the document tells.** -/
theorem toldDigest?_of_read? {j : Json} {s : DeviceState} (h : Json.read? j = some s) :
    toldDigest? j = some s.digest := by
  simp only [Json.read?, Option.bind_eq_bind, Option.bind_eq_some_iff] at h
  obtain ⟨parts, hparts, h⟩ := h
  rw [toldDigest?, hparts]
  split at h
  · rename_i layers digest
    simp only [Option.bind_eq_some_iff] at h
    obtain ⟨ls, -, d, hd, heq⟩ := h
    cases heq
    exact hd
  · cases h

/-- The state of an intention that was read is read from the document of the state within. -/
theorem toldState?_of_read? {j : Json} {i : Intention} (h : Json.read? j = some i) :
    ∃ part, toldState? j = some part ∧ Json.read? part = some i.state := by
  simp only [Json.read?, Option.bind_eq_bind, Option.bind_eq_some_iff] at h
  obtain ⟨parts, hparts, h⟩ := h
  rw [toldState?, hparts]
  split at h
  · rename_i id state action
    simp only [Option.bind_eq_some_iff] at h
    obtain ⟨u, -, s, hs, a, -, heq⟩ := h
    cases heq
    exact Option.bind_eq_some_iff.1 hs
  · cases h

/-- The document of an intention with a given document in the place of its state. -/
def Intention.documentWith (i : Intention) (state : Json) : Json :=
  .fields [("id", Json.write i.id), ("state", state), ("action", Json.write i.action)]

/-! ### Origins -/

/-- A way in which a state comes about (`Origin.state?`). -/
inductive Origin
  | layers (layers : List Layer)
  | device (api : UInt32) (model : String)
  | request (r : Request)
  | intention (id : Uuid) (r : Request) (execution : UInt32)
  | copy (o : Origin)
  | document (j : Json)
  | intentionDocument (j : Json)

namespace Origin

/-- The state that comes about; a document may be unreadable. -/
def state? : Origin → Option DeviceState
  | layers ls => some (.ofLayers ls)
  | device api model => some (.ofDevice api model)
  | request r => some r.targetState
  | intention id r execution => some (Intention.ofRequest id r execution).state
  | copy o => o.state?
  | document j => Json.read? j
  | intentionDocument j => (Json.read? j : Option Intention).map Intention.state

/-- The digest that was told, if the state was read from a document. -/
def told? : Origin → Option String
  | layers _ => none
  | device _ _ => none
  | request _ => none
  | intention _ _ _ => none
  | copy o => o.told?
  | document j => toldDigest? j
  | intentionDocument j => (toldState? j).bind toldDigest?

/-- A state was made from its layers, or its digest was told. -/
theorem sound_or_told {o : Origin} {s : DeviceState} (h : o.state? = some s) :
    o.told? = none ∧ s.Sound ∨ o.told? = some s.digest := by
  induction o with
  | layers ls =>
    obtain rfl := Option.some.inj h
    exact .inl ⟨rfl, DeviceState.sound_ofLayers _⟩
  | device api model =>
    obtain rfl := Option.some.inj h
    exact .inl ⟨rfl, DeviceState.sound_ofLayers _⟩
  | request r =>
    obtain rfl := Option.some.inj h
    exact .inl ⟨rfl, DeviceState.sound_ofLayers _⟩
  | intention id r execution =>
    obtain rfl := Option.some.inj h
    exact .inl ⟨rfl, DeviceState.sound_ofLayers _⟩
  | copy o ih => exact ih h
  | document j => exact .inr (toldDigest?_of_read? h)
  | intentionDocument j =>
    obtain ⟨i, hi, rfl⟩ := Option.map_eq_some_iff.1 h
    obtain ⟨part, hpart, hstate⟩ := toldState?_of_read? hi
    refine .inr ?_
    rw [told?, hpart]
    exact toldDigest?_of_read? hstate

/-- An intention whose state is yet to be filled in. -/
def blank : Intention where
  id := .numbered 0 1
  state := .ofLayers []
  action :=
    { test := ⟨"LoginTest", "login", "api29"⟩, testPackage := "com.example.test",
      targetPackage := "com.example", params := .empty, execution := 1, timeout := .ofMillis 1000 }

/-- Every state is the state of an intention that can be read. -/
theorem state?_intentionDocument (s : DeviceState) :
    (intentionDocument (blank.documentWith (Json.write s))).state? = some s := by
  have hid : need (some (Json.write blank.id)) = some blank.id := by decide
  have haction : need (some (Json.write blank.action)) = some blank.action := by decide
  have hparts : record? ["id", "state", "action"]
        (blank.documentWith (Json.write s)) =
      some [some (Json.write blank.id), some (Json.write s), some (Json.write blank.action)] :=
    record?_fields rfl (by decide)
  have hread : Json.read? (blank.documentWith (Json.write s)) =
      some { blank with state := s } := by
    show (record? ["id", "state", "action"] _).bind _ = _
    rw [hparts]
    simp [hid, haction]
  rw [state?, hread]
  rfl

/-- **A state is `Sound` exactly if it was made from its layers or the right digest was told.** For
sound states, if the hash does not collide on them (`DeviceState.Separated`), equal digests mean
equal layers, and a worker that compares digests (`Worker.reconciliation`) installs the applications
of its target unless the layers are the same. But every state, sound or not, is read from some
document, alone and as a part of an intention. -/
theorem sound_iff_told {o : Origin} {s : DeviceState} (h : o.state? = some s) :
    (s.Sound ↔ ∀ d, o.told? = some d → d = DeviceState.digestOf s.layers) ∧
      (∀ t : DeviceState, s.Sound → t.Sound → DeviceState.Separated s.layers t.layers →
        (s.digest = t.digest ↔ s.layers = t.layers) ∧
          Worker.reconciliation s t =
            if s.layers = t.layers then t.applications.map (.clear ·.2)
            else t.applications.map (.install ·.1)) ∧
      ∀ t : DeviceState, (∃ j, (document j).state? = some t) ∧
        ∃ j, (intentionDocument j).state? = some t := by
  refine ⟨?_, ?_, ?_⟩
  · rcases sound_or_told h with ⟨htold, hs⟩ | htold
    · simp [htold, hs]
    · simp [htold, DeviceState.Sound]
  · intro t hs ht hsep
    exact ⟨hs.digest_eq_iff ht hsep, Worker.reconciliation_of_sound hs ht hsep⟩
  · intro t
    exact ⟨⟨_, read?_write t⟩, _, state?_intentionDocument t⟩

/-- The state of a device, and one read from the document of a sound state with an application: both
are sound, their digests differ, and the worker installs the application. -/
theorem sound_iff_told_of_written :
    let bare := DeviceState.ofDevice 29 "pixel"
    let full := DeviceState.ofLayers
      [.apiLevel 29, .model "pixel", .application "app.apk" "com.example"]
    (copy (.device 29 "pixel")).state? = some bare ∧ bare.Sound ∧
      (document (Json.write full)).state? = some full ∧ full.Sound ∧
      DeviceState.Separated bare.layers full.layers ∧ bare.digest ≠ full.digest ∧
      Worker.reconciliation bare full = [.install "app.apk"] := by
  intro bare full
  have hbare : (copy (.device 29 "pixel")).state? = some bare := rfl
  have hfull : (document (Json.write full)).state? = some full := read?_write full
  have hsound : bare.Sound := by
    refine (sound_iff_told hbare).1.2 fun d hd ↦ ?_
    cases hd
  have hsound' : full.Sound := by
    refine (sound_iff_told hfull).1.2 fun d hd ↦ ?_
    rw [told?, toldDigest?_of_read? hfull] at hd
    exact (Option.some.inj hd).symm
  have hsep : DeviceState.Separated bare.layers full.layers :=
    fun h ↦ absurd h (by decide +kernel)
  obtain ⟨hdigest, hplan⟩ := (sound_iff_told hbare).2.1 full hsound hsound' hsep
  refine ⟨hbare, hsound, hfull, hsound', hsep, ?_, ?_⟩
  · rw [Ne, hdigest]
    decide
  · rw [hplan, if_neg (by decide)]
    rfl

/-- **Not every state is sound**: documents tell any digest. Here two tell the same one, of the
layers of a device and of no layers; it belongs to neither. -/
theorem unsound_of_forged_document :
    let forge (layers : List Json) : Json :=
      .fields [("layers", .list layers), ("digest", .str "00")]
    let forged : DeviceState := ⟨[.apiLevel 29, .model "pixel"], "00"⟩
    let empty : DeviceState := ⟨[], "00"⟩
    (document (forge [.tagged "ApiLevel" (.fields [("api", .nat 29)]),
        .tagged "Model" (.fields [("model", .str "pixel")])])).state? = some forged ∧
      (document (forge [])).state? = some empty ∧ ¬forged.Sound ∧ ¬empty.Sound ∧
        forged.digest = empty.digest ∧ forged.layers ≠ empty.layers := by
  intro forge forged empty
  exact ⟨by decide, by decide, by decide +kernel, by decide +kernel, rfl, by decide⟩

end Origin

end DeviceLab
