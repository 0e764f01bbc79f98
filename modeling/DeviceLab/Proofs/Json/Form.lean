import DeviceLab.Json.Form
import DeviceLab.Proofs.Distinct

/-!
# What was written is read back

A form is a `FaithfulForm` if reading undoes writing. Lists are faithful when their items are
(`mapM_map_eq_some`), and a record whose fields have different names is read part by part as it was
written, whatever its parts are (`record?_fields`). The strings of a value are any strings, and its
numbers all that fit their type (`natBelow?_nat`). The instances here are those that a `DeviceState`
needs; the other ones are in the module on round trips.
-/

namespace DeviceLab.Json

/-- A form from which every value is read back as it was written. -/
class FaithfulForm (α : Type) [Form α] : Prop where
  read?_write : ∀ a : α, read? (write a) = some a

export FaithfulForm (read?_write)

attribute [simp] read?_write

section Parts

variable {α : Type} [Form α] [FaithfulForm α]

@[simp]
theorem need_write (a : α) : need (some (write a)) = some a := by
  show read? (write a) = some a
  rw [read?_write]

end Parts

/-! ### Plain values -/

instance : FaithfulForm String where
  read?_write _ := rfl

theorem natBelow?_nat {bound n : Nat} (h : n < bound) : natBelow? bound (.nat n) = some n := by
  show (some n).filter (· < bound) = some n
  rw [Option.filter_some, if_pos (decide_eq_true h)]

instance : FaithfulForm UInt32 where
  read?_write n := by
    show (natBelow? UInt32.size (.nat n.toNat)).map UInt32.ofNat = some n
    rw [natBelow?_nat n.toNat_lt_size, Option.map_some, UInt32.ofNat_toNat]

/-- What is read from every item on its own is read from the list. -/
theorem mapM_map_eq_some {α β γ : Type} {f : α → β} {g : β → Option γ} {k : α → γ} {l : List α}
    (h : ∀ a ∈ l, g (f a) = some (k a)) : (l.map f).mapM g = some (l.map k) := by
  induction l with
  | nil => rfl
  | cons a l ih =>
    have hhead : g (f a) = some (k a) := h a List.mem_cons_self
    have htail : (l.map f).mapM g = some (l.map k) := ih fun b hb ↦ h b (List.mem_cons_of_mem a hb)
    rw [List.map_cons, List.mapM_cons, hhead, htail]
    rfl

instance [Form α] [FaithfulForm α] : FaithfulForm (List α) where
  read?_write as := by
    show (as.map write).mapM read? = some as
    have hitems : ∀ a ∈ as, read? (write a) = some (id a) := fun a _ ↦ read?_write a
    rw [mapM_map_eq_some hitems, List.map_id]

/-! ### Records -/

theorem valuesOf_map_some (key : String) (fs : List (String × Json)) :
    valuesOf key (fs.map fun f ↦ (some f.1, f.2)) = (fs.filter (·.1 = key)).map (·.2) := by
  simp only [valuesOf, List.filterMap_map, Function.comp_def, Option.some.injEq]
  induction fs with
  | nil => rfl
  | cons f fs ih =>
    by_cases hf : f.1 = key
    · simp [hf, ih]
    · simp [hf, ih]

/-- **A record is read (`record?`) part by part as it was written**, if its fields have different
names. -/
theorem record?_fields {names : List String} {fs : List (String × Json)}
    (hnames : fs.map (·.1) = names) (hd : names.Nodup) :
    record? names (fields fs) = some (fs.map fun f ↦ some f.2) := by
  subst hnames
  have hkeys : (fs.map fun f ↦ (some f.1, f.2)).any (fun f ↦ f.1.isNone) = false := by
    simp
  simp only [record?, fields, hkeys, if_neg Bool.false_ne_true]
  refine mapM_map_eq_some fun f hf ↦ ?_
  rw [valuesOf_map_some, filter_key_eq_singleton hd hf, List.map_singleton]

theorem variant?_tagged (tag : String) (j : Json) : variant? (tagged tag j) = some (tag, some j) :=
  rfl

/-! ### Device states -/

instance : FaithfulForm Layer where
  read?_write l := by
    cases l with
    | apiLevel api =>
      show read? (tagged "ApiLevel" (fields [("api", write api)])) = some (Layer.apiLevel api)
      simp [read?, variant?_tagged, record?_fields]
    | model name =>
      show read? (tagged "Model" (fields [("model", write name)])) = some (Layer.model name)
      simp [read?, variant?_tagged, record?_fields]
    | application path package =>
      show read? (tagged "InstalledApplication" (fields [("application_path", write path),
        ("application_package", write package)])) = some (Layer.application path package)
      simp [read?, variant?_tagged, record?_fields]

instance : FaithfulForm DeviceState where
  read?_write s := by
    show read? (fields [("layers", write s.layers), ("digest", write s.digest)]) = some s
    simp [read?, record?_fields]

end DeviceLab.Json
