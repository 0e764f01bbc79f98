import DeviceLab.Listing
import DeviceLab.Proofs.Text
import DeviceLab.Proofs.Text.Cutting
import Mathlib.Data.List.Nodup

/-!
# Serials of a listing

A listing tells serials by their values only, and it is the value that says of which kind a serial
is: a host with a port behind a colon is remote (`classify_eq_remote_iff`), anything else is
attached to the host (`classify_eq_attached_iff`). What passes for a port is what `SpellsPort`
describes (`isPort_iff`).

So a serial is known by its value, and no value is listed twice: a listing that was read is `Proper`
(`proper_of_parse`), since `addNew` keeps that (`Proper.addNew`).
-/

namespace DeviceLab.Listing

open Text (decimal number? splitLast?)

/-! ### Hosts and ports -/

/-- A text is the number of a port: decimal digits, perhaps with zeros or a plus sign in front. -/
inductive SpellsPort (port : UInt16) : List Char → Prop
  | plain (zeros : Nat) : SpellsPort port (List.replicate zeros '0' ++ decimal port.toNat)
  | signed (zeros : Nat) : SpellsPort port ('+' :: (List.replicate zeros '0' ++ decimal port.toNat))

/-- A serial is a host and a port with a colon in between. -/
def IsHostPort (raw : String) : Prop :=
  ∃ (host text : String) (port : UInt16),
    raw = host ++ ":" ++ text ∧ host ≠ "" ∧ SpellsPort port text.toList

section Port

variable {cs : List Char} {port : UInt16} {raw : String}

/-- The digits of ports are those of the numbers that are small enough. -/
theorem any_number?_iff : (number? 10 cs).any (· < UInt16.size) = true ↔
    ∃ (port : UInt16) (zeros : Nat), cs = List.replicate zeros '0' ++ decimal port.toNat := by
  constructor
  · intro h
    obtain ⟨n, hn, hlt⟩ := (Option.any_eq_true _ _).1 h
    obtain ⟨zeros, rfl⟩ := Text.eq_of_number? hn
    have hport : (UInt16.ofNat n).toNat = n := UInt16.toNat_ofNat_of_lt' (of_decide_eq_true hlt)
    exact ⟨.ofNat n, zeros, by rw [hport]⟩
  · rintro ⟨port, zeros, rfl⟩
    rw [Text.number?_replicate_append]
    exact decide_eq_true port.toNat_lt

theorem isDigit_of_mem_digits {zeros n : Nat} {c : Char}
    (h : c ∈ List.replicate zeros '0' ++ decimal n) : Text.isDigit c = true := by
  rcases List.mem_append.1 h with h | h
  · rw [List.eq_of_mem_replicate h]
    rfl
  · exact Text.isDigit_of_mem_decimal h

/-- A sign is passed over. -/
theorem isPort_cons (cs : List Char) :
    isPort ('+' :: cs) = (number? 10 cs).any (· < UInt16.size) := by
  rw [isPort]
  cases number? 10 cs <;> rfl

theorem isPort_of_head?_ne (h : cs.head? ≠ some '+') :
    isPort cs = (number? 10 cs).any (· < UInt16.size) := by
  unfold isPort
  split
  · exact absurd rfl h
  · dsimp only
    cases number? 10 cs <;> rfl

/-- **What passes for a port is the spelling of one** (`SpellsPort`). -/
theorem isPort_iff : isPort cs = true ↔ ∃ port, SpellsPort port cs := by
  constructor
  · intro h
    by_cases hsign : cs.head? = some '+'
    · obtain ⟨ds, rfl⟩ := List.head?_eq_some_iff.1 hsign
      rw [isPort_cons] at h
      obtain ⟨port, zeros, rfl⟩ := any_number?_iff.1 h
      exact ⟨port, .signed zeros⟩
    · rw [isPort_of_head?_ne hsign] at h
      obtain ⟨port, zeros, rfl⟩ := any_number?_iff.1 h
      exact ⟨port, .plain zeros⟩
  · rintro ⟨port, hspells⟩
    cases hspells with
    | signed zeros => rw [isPort_cons, any_number?_iff.2 ⟨port, zeros, rfl⟩]
    | plain zeros =>
      rw [isPort_of_head?_ne, any_number?_iff.2 ⟨port, zeros, rfl⟩]
      -- No digit is a plus sign.
      exact fun hsign ↦ absurd (isDigit_of_mem_digits (List.mem_of_head? hsign)) (by decide)

theorem SpellsPort.colon_notMem (h : SpellsPort port cs) : ':' ∉ cs := by
  have hdigits {zeros n : Nat} : ':' ∉ List.replicate zeros '0' ++ decimal n := fun hmem ↦
    absurd (isDigit_of_mem_digits hmem) (by decide)
  cases h with
  | plain zeros => exact hdigits
  | signed zeros =>
    rw [List.mem_cons, not_or]
    exact ⟨by decide, hdigits⟩

end Port

/-! ### Classification -/

theorem value_classify (raw : String) : (classify raw).value = raw := by
  rw [classify]
  split
  · split <;> rfl
  · rfl

/-- **A serial is remote exactly if its value is a host and a port** (`IsHostPort`). -/
theorem classify_eq_remote_iff {raw : String} : classify raw = .remote raw ↔ IsHostPort raw := by
  constructor
  · intro h
    rw [classify] at h
    split at h
    · next host port hs =>
      split at h
      · next hcond =>
        rw [Bool.and_eq_true, Bool.not_eq_true', List.isEmpty_eq_false_iff] at hcond
        obtain ⟨n, hn⟩ := isPort_iff.1 hcond.2
        refine ⟨.ofList host, .ofList port, n, ?_, ?_, by rwa [String.toList_ofList]⟩
        · rw [← String.toList_inj, Text.eq_of_splitLast? hs]
          simp
        · simpa using hcond.1
      · cases h
    · cases h
  · rintro ⟨host, text, port, rfl, hhost, hport⟩
    -- The text of a port has no colon, so the one in front of it is the last.
    have hs : splitLast? ':' (host ++ ":" ++ text).toList = some (host.toList, text.toList) := by
      rw [String.toList_append, String.toList_append, List.append_assoc]
      exact Text.splitLast?_append_cons hport.colon_notMem host.toList
    have hne : host.toList.isEmpty = false := by simpa using hhost
    rw [classify, hs]
    simp [hne, isPort_iff.2 ⟨port, hport⟩]

/-- Any other serial is attached to the host. -/
theorem classify_eq_attached_iff {raw : String} :
    classify raw = .attached raw ↔ ¬ IsHostPort raw := by
  have hkind : classify raw = .attached raw ∨ classify raw = .remote raw := by
    have hvalue := value_classify raw
    cases h : classify raw with
    | attached v => exact .inl (by rw [← hvalue, h, Serial.value])
    | remote v => exact .inr (by rw [← hvalue, h, Serial.value])
  rw [← classify_eq_remote_iff]
  constructor
  · intro h h'
    rw [h] at h'
    cases h'
  · exact hkind.resolve_right

/-- **The serial of a device behind a port of a host is read back from its value**: `classify`
undoes `Serial.ofHost`. -/
theorem classify_ofHost {host : String} (h : host ≠ "") (port : UInt16) :
    classify (Serial.ofHost host port).value = Serial.ofHost host port := by
  refine classify_eq_remote_iff.2 ⟨host, _, port, rfl, h, ?_⟩
  rw [String.toList_ofList]
  exact .plain 0

/-! ### Serials that were read -/

theorem serial_eq_classify {line : List Char} {e : Entry} (h : entry? line = some e) :
    e.serial = classify e.serial.value := by
  unfold entry? at h
  split at h
  · obtain ⟨online, -, h⟩ := Option.bind_eq_some_iff.1 h
    obtain rfl := Option.some.inj h
    rw [value_classify]
  · cases h

/-- A serial is known by its value, and no serial is listed twice. -/
structure Proper (es : List Entry) : Prop where
  nodup : (es.map (·.serial)).Nodup
  classified : ∀ e ∈ es, e.serial = classify e.serial.value

theorem Proper.addNew {es : List Entry} {e : Entry} (h : Proper es)
    (he : e.serial = classify e.serial.value) : Proper (addNew es e) := by
  rw [Listing.addNew]
  split
  · exact h
  · next hnew =>
    constructor
    · rw [List.map_append, List.nodup_append]
      refine ⟨h.nodup, List.nodup_singleton _, ?_⟩
      intro a ha b hb hab
      obtain ⟨e', he', rfl⟩ := List.mem_map.1 ha
      obtain rfl := List.mem_singleton.1 hb
      exact hnew (List.any_eq_true.2 ⟨e', he', decide_eq_true hab⟩)
    · intro e' he'
      rcases List.mem_append.1 he' with he' | he'
      · exact h.classified e' he'
      · rwa [List.mem_singleton.1 he']

theorem proper_of_parse {output : String} {es : List Entry} (h : parse output = .ok es) :
    Proper es := by
  rw [parse] at h
  split at h
  · cases h
  obtain rfl := Except.ok.inj h
  have hfold (new : List Entry) (hnew : ∀ e ∈ new, e.serial = classify e.serial.value)
      (known : List Entry) (hknown : Proper known) : Proper (new.foldl addNew known) := by
    induction new generalizing known with
    | nil => exact hknown
    | cons e new ih =>
      exact ih (fun e' he' ↦ hnew e' (List.mem_cons_of_mem e he')) _
        (hknown.addNew (hnew e List.mem_cons_self))
  refine hfold _ (fun e he ↦ ?_) [] ⟨List.nodup_nil, List.forall_mem_nil _⟩
  obtain ⟨line, -, hline⟩ := List.mem_filterMap.1 he
  exact serial_eq_classify hline

/-- **No value is listed twice** in a `Proper` listing. -/
theorem Proper.nodup_values {es : List Entry} (h : Proper es) :
    (es.map (·.serial.value)).Nodup := by
  rw [← Function.comp_def, ← List.map_map]
  refine h.nodup.map_on fun a ha b hb hab ↦ ?_
  obtain ⟨x, hx, rfl⟩ := List.mem_map.1 ha
  obtain ⟨y, hy, rfl⟩ := List.mem_map.1 hb
  rw [h.classified x hx, h.classified y hy, hab]

end DeviceLab.Listing
