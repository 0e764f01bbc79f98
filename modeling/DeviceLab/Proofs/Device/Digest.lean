import DeviceLab.Proofs.Text
import DeviceLab.Request

/-!
# What a digest stands for

The canonical text of a layer is self-delimiting, whatever characters its strings are made of
(`Layer.selfDelimiting_canonical`): the tag tells the kind of the layer, and every string is
preceded by its length in bytes, which tells where it ends (`Layer.selfDelimiting_measured`). So a
list of layers is known from its canonical text (`canonical_injective`). This needs nothing of the
hash.

If the hash does not collide on two such texts (`Separated`), the digests of two states are equal
exactly if their layers are (`Separated.digestOf_inj`). `digest_eq_iff_layers_eq` says both, and
what it comes to for requests, with `Request.layers_targetState_inj`.
-/

namespace DeviceLab

/-- The hash does not collide on two texts. -/
def Sha256.Separates (s t : String) : Prop :=
  digest s.toUTF8.toList = digest t.toUTF8.toList → s = t

/-- Hexadecimal digests are equal only if the digests are. -/
theorem Sha256.Separates.eq_of_hexOfText {s t : String} (h : Sha256.Separates s t)
    (heq : hexOfText s = hexOfText t) : s = t := by
  have hhex := String.ofList_injective heq
  exact h (Text.selfDelimiting_hexByte.flatMap_injective (fun _ ↦ List.cons_ne_nil _ _) hhex)

/-! ### Layers -/

namespace Layer

/-- A string is as long as a part of it only if nothing else is in it. -/
theorem eq_nil_of_utf8ByteSize_append {s t : String} {more : List Char}
    (hsize : s.utf8ByteSize = t.utf8ByteSize) (h : t.toList = s.toList ++ more) : more = [] := by
  have ht : t = s ++ String.ofList more := by
    rw [← String.toList_inj, String.toList_append, String.toList_ofList, h]
  rw [ht, String.utf8ByteSize_append] at hsize
  have hmore : (String.ofList more).utf8ByteSize = 0 := by omega
  rw [String.utf8ByteSize_eq_zero_iff] at hmore
  simpa using congrArg String.toList hmore

/-- **A string with its length before it (`measured`) is self-delimiting**, whatever is in the
string. -/
theorem selfDelimiting_measured : Text.SelfDelimiting measured := by
  intro s t xs ys h
  rw [measured, measured, List.append_assoc, List.append_assoc] at h
  obtain ⟨hsize, hchars⟩ := Text.decimal_append_cons_inj (by decide) (by decide) h
  have htail : s.toList ++ xs = t.toList ++ ys := (List.cons.inj hchars).2
  -- One of the two strings begins with the other, and they are equally long.
  rcases List.append_eq_append_iff.1 htail with ⟨more, ht, hxs⟩ | ⟨more, hs, hys⟩
  · have hmore := eq_nil_of_utf8ByteSize_append hsize ht
    subst hmore
    rw [List.append_nil] at ht
    exact ⟨String.toList_inj.1 ht.symm, hxs⟩
  · have hmore := eq_nil_of_utf8ByteSize_append hsize.symm hs
    subst hmore
    rw [List.append_nil] at hs
    exact ⟨String.toList_inj.1 hs, hys.symm⟩

section Canonical

variable (xs : List Char)

theorem canonical_apiLevel_append (api : UInt32) :
    (apiLevel api).canonical ++ xs = "api:".toList ++ (Text.decimal api.toNat ++ ';' :: xs) := by
  show "api:".toList ++ Text.decimal api.toNat ++ [';'] ++ xs = _
  simp

theorem canonical_model_append (name : String) :
    (model name).canonical ++ xs = "model:".toList ++ (measured name ++ ';' :: xs) := by
  show "model:".toList ++ measured name ++ [';'] ++ xs = _
  simp

theorem canonical_application_append (path package : String) :
    (application path package).canonical ++ xs =
      "app:".toList ++ (measured path ++ ':' :: (measured package ++ ';' :: xs)) := by
  show "app:".toList ++ measured path ++ ':' :: (measured package ++ [';']) ++ xs = _
  simp

end Canonical

theorem canonical_ne_nil (l : Layer) : l.canonical ≠ [] := by
  cases l <;> exact List.cons_ne_nil _ _

/-- **The canonical text of a layer is self-delimiting**, since its tag is and its strings are
`measured`. -/
theorem selfDelimiting_canonical : Text.SelfDelimiting canonical := by
  intro a b xs ys h
  -- Layers of different kinds differ in their tags, within the first three characters.
  cases a with
  | apiLevel api =>
    rw [canonical_apiLevel_append] at h
    cases b with
    | apiLevel api' =>
      rw [canonical_apiLevel_append] at h
      obtain ⟨hapi, hrest⟩ := Text.decimal_append_cons_inj (by decide) (by decide)
        (List.append_cancel_left h)
      obtain rfl : api = api' := UInt32.toNat_inj.1 hapi
      exact ⟨rfl, (List.cons.inj hrest).2⟩
    | model name =>
      rw [canonical_model_append] at h
      simp at h
    | application path package =>
      rw [canonical_application_append] at h
      simp at h
  | model name =>
    rw [canonical_model_append] at h
    cases b with
    | apiLevel api =>
      rw [canonical_apiLevel_append] at h
      simp at h
    | model name' =>
      rw [canonical_model_append] at h
      obtain ⟨rfl, hrest⟩ := selfDelimiting_measured (List.append_cancel_left h)
      exact ⟨rfl, (List.cons.inj hrest).2⟩
    | application path package =>
      rw [canonical_application_append] at h
      simp at h
  | application path package =>
    rw [canonical_application_append] at h
    cases b with
    | apiLevel api =>
      rw [canonical_apiLevel_append] at h
      simp at h
    | model name =>
      rw [canonical_model_append] at h
      simp at h
    | application path' package' =>
      rw [canonical_application_append] at h
      obtain ⟨rfl, hmiddle⟩ := selfDelimiting_measured (List.append_cancel_left h)
      obtain ⟨rfl, hrest⟩ := selfDelimiting_measured (List.cons.inj hmiddle).2
      exact ⟨rfl, (List.cons.inj hrest).2⟩

end Layer

/-! ### States -/

namespace DeviceState

/-- **A list of layers is known from its canonical text**, by `SelfDelimiting.flatMap_injective`. -/
theorem canonical_injective : Function.Injective canonical :=
  Layer.selfDelimiting_canonical.flatMap_injective Layer.canonical_ne_nil

/-- The hash does not collide on the canonical texts of two lists of layers. -/
def Separated (xs ys : List Layer) : Prop :=
  Sha256.Separates (String.ofList (canonical xs)) (String.ofList (canonical ys))

theorem Separated.refl (xs : List Layer) : Separated xs xs :=
  fun _ ↦ rfl

/-- Lists of layers with different digests do not collide. -/
theorem Separated.of_digestOf_ne {xs ys : List Layer} (h : digestOf xs ≠ digestOf ys) :
    Separated xs ys := by
  intro heq
  have hhex : digestOf xs = digestOf ys := by
    rw [digestOf, digestOf, Sha256.hexOfText, Sha256.hexOfText, heq]
  exact absurd hhex h

/-- States whose canonical texts do not collide have equal digests only if they are equal. -/
theorem Separated.digestOf_inj {xs ys : List Layer} (h : Separated xs ys) :
    digestOf xs = digestOf ys ↔ xs = ys := by
  constructor
  · intro heq
    exact canonical_injective (String.ofList_injective (h.eq_of_hexOfText heq))
  · rintro rfl
    rfl

end DeviceState

/-! ### Requests -/

theorem Application.layer_injective : Function.Injective Application.layer := by
  rintro ⟨path, package⟩ ⟨path', package'⟩ h
  obtain ⟨rfl, rfl⟩ := Layer.application.inj h
  rfl

/-- The layers of the state that a request asks for. -/
theorem Request.layers_targetState (r : Request) :
    r.targetState.layers = [.apiLevel r.target.api, .model r.target.model] ++
      (r.application.map Application.layer).toList ++ [r.testApplication.layer] := rfl

/-- Two requests ask for the same layers exactly if they agree on device and applications. -/
theorem Request.layers_targetState_inj {r r' : Request} :
    r.targetState.layers = r'.targetState.layers ↔
      r.target.api = r'.target.api ∧ r.target.model = r'.target.model ∧
        r.application = r'.application ∧ r.testApplication = r'.testApplication := by
  have hlayer {a b : Application} : a.layer = b.layer ↔ a = b := Application.layer_injective.eq_iff
  rw [layers_targetState, layers_targetState]
  -- With an application the list is longer by one than without.
  cases r.application with
  | none =>
    cases r'.application with
    | none => simp [hlayer]
    | some b => simp
  | some a =>
    cases r'.application with
    | none => simp
    | some b => simp [hlayer]

/-! ### The theorem -/

/-- **What a digest stands for.** The canonical texts of two lists of layers are equal exactly if
the lists are. If the hash does not collide on them (`DeviceState.Separated`), the same holds of the
digests of the states with these layers; and the states that two requests ask for
(`Request.targetState`) have equal digests exactly if the requests agree on API level, model,
application, if there is one, and test application. -/
theorem digest_eq_iff_layers_eq :
    (∀ xs ys : List Layer, DeviceState.canonical xs = DeviceState.canonical ys ↔ xs = ys) ∧
      (∀ xs ys : List Layer, DeviceState.Separated xs ys →
        ((DeviceState.ofLayers xs).digest = (DeviceState.ofLayers ys).digest ↔ xs = ys)) ∧
      ∀ r r' : Request, DeviceState.Separated r.targetState.layers r'.targetState.layers →
        (r.targetState.digest = r'.targetState.digest ↔
          r.target.api = r'.target.api ∧ r.target.model = r'.target.model ∧
            r.application = r'.application ∧ r.testApplication = r'.testApplication) := by
  refine ⟨?_, ?_, ?_⟩
  · intro xs ys
    exact DeviceState.canonical_injective.eq_iff
  · intro xs ys h
    exact h.digestOf_inj
  · intro r r' h
    rw [← Request.layers_targetState_inj]
    exact h.digestOf_inj

/-- A colon that moves from one string into the next makes another digest, and so does an
application that a request asks for beside its test application. -/
theorem digest_eq_iff_layers_eq_of_colon :
    let xs : List Layer := [.model "é", .application "a:1" "b"]
    let ys : List Layer := [.model "é", .application "a" "1:b"]
    let bare : Request :=
      { id := .numbered 0 1, testCase := ⟨"LoginTest", "login", "api29"⟩,
        target := ⟨"api29", 29, "pixel", none⟩, application := none,
        testApplication := ⟨"test.apk", "com.example.test"⟩, params := .empty, maxAttempts := 1,
        timeout := .ofMillis 1000 }
    let full : Request := { bare with application := some ⟨"app.apk", "com.example"⟩ }
    (DeviceState.Separated xs ys ∧
        (DeviceState.ofLayers xs).digest ≠ (DeviceState.ofLayers ys).digest) ∧
      DeviceState.Separated bare.targetState.layers full.targetState.layers ∧
        bare.targetState.digest ≠ full.targetState.digest := by
  intro xs ys bare full
  have hlayers : DeviceState.Separated xs ys := fun h ↦ absurd h (by decide +kernel)
  have hrequests : DeviceState.Separated bare.targetState.layers full.targetState.layers :=
    fun h ↦ absurd h (by decide +kernel)
  refine ⟨⟨hlayers, ?_⟩, hrequests, ?_⟩
  · rw [Ne, digest_eq_iff_layers_eq.2.1 xs ys hlayers]
    decide
  · rw [Ne, digest_eq_iff_layers_eq.2.2 bare full hrequests]
    decide

end DeviceLab
