import DeviceLab.Device.Coordinate
import DeviceLab.Uuid
import Mathlib.Data.List.Induction
import Mathlib.Tactic.IntervalCases

/-!
# Texts that tell where they end

A way of writing values down is `SelfDelimiting` if the text of a value cannot be mistaken for that
of another one, whatever follows. Values that are written so can be written one after the other
(`SelfDelimiting.flatMap_injective`).

* Decimal digits alone are not self-delimiting, since more digits may follow; with a foreign
  character behind them they are (`decimal_append_cons_inj`). `number?_decimal` and `eq_of_number?`
  say that `number?` reads the decimal texts and no others; both go by the last digit
  (`decimal_mul_add`, `addDigit_eq_some`).
* The two hexadecimal digits of a byte are self-delimiting (`selfDelimiting_hexByte`), since a digit
  is known from its character (`hexDigit_injective`).
* An identifier is known from its text (`Uuid.text_injective`). Its digits stand in groups with
  hyphens between them, and `unhyphenate?_hyphenate` reads them back.
-/

namespace DeviceLab

namespace Text

/-! ### Self-delimiting texts -/

section Delimiting

variable {α β : Type} {f : α → List β}

/-- What was written is known from any text that begins with it, and so is what follows. -/
def SelfDelimiting (f : α → List β) : Prop :=
  ∀ ⦃a b : α⦄ ⦃xs ys : List β⦄, f a ++ xs = f b ++ ys → a = b ∧ xs = ys

/-- Self-delimiting texts, none of them empty, can be written one after the other. -/
theorem SelfDelimiting.flatMap_injective (hf : SelfDelimiting f) (hne : ∀ a, f a ≠ []) :
    Function.Injective fun as : List α ↦ as.flatMap f := by
  intro as
  induction as with
  | nil =>
    intro bs h
    cases bs with
    | nil => rfl
    | cons b bs =>
      have hb : f b = [] := (List.append_eq_nil_iff.1 h.symm).1
      exact absurd hb (hne b)
  | cons a as ih =>
    intro bs h
    cases bs with
    | nil =>
      have ha : f a = [] := (List.append_eq_nil_iff.1 h).1
      exact absurd ha (hne a)
    | cons b bs =>
      obtain ⟨rfl, hrest⟩ := hf h
      rw [ih hrest]

/-- A run of characters of one kind ends where another kind begins. -/
theorem takeWhile_append_cons {p : β → Bool} {as : List β} {c : β} (ha : ∀ x ∈ as, p x = true)
    (hc : p c = false) (xs : List β) : (as ++ c :: xs).takeWhile p = as := by
  rw [List.takeWhile_append_of_pos ha, List.takeWhile_cons_of_neg (by simp [hc]), List.append_nil]

/-- Two runs of characters of one kind, each with a character of another kind behind it. -/
theorem run_append_cons_inj {p : β → Bool} {as bs xs ys : List β} {c d : β}
    (ha : ∀ x ∈ as, p x = true) (hb : ∀ x ∈ bs, p x = true) (hc : p c = false)
    (hd : p d = false) (h : as ++ c :: xs = bs ++ d :: ys) : as = bs ∧ c :: xs = d :: ys := by
  have hab : as = bs := by
    rw [← takeWhile_append_cons ha hc xs, h, takeWhile_append_cons hb hd ys]
  rw [hab] at h
  exact ⟨hab, List.append_cancel_left h⟩

end Delimiting

/-! ### Decimal digits -/

/-- The character of a decimal digit. -/
theorem hexValue?_ofNat {d : Nat} (h : d < 10) :
    isDigit (Char.ofNat (48 + d)) = true ∧
      (hexValue? (Char.ofNat (48 + d))).map Fin.val = some d := by
  interval_cases d <;> decide

theorem decimal_ne_nil (n : Nat) : decimal n ≠ [] := by
  rw [decimal]
  split
  · exact List.cons_ne_nil _ _
  · exact List.append_ne_nil_of_right_ne_nil _ (List.cons_ne_nil _ _)

/-- A number is written in digits only. -/
theorem isDigit_of_mem_decimal {n : Nat} {c : Char} (h : c ∈ decimal n) : isDigit c = true := by
  induction n using decimal.induct with
  | case1 n hn =>
    rw [decimal, if_pos hn] at h
    rw [List.mem_singleton.1 h]
    exact (hexValue?_ofNat hn).1
  | case2 n hn ih =>
    rw [decimal, if_neg hn] at h
    rcases List.mem_append.1 h with h | h
    · exact ih h
    · rw [List.mem_singleton.1 h]
      exact (hexValue?_ofNat (Nat.mod_lt n (by decide))).1

/-- The decimal text of a number is the one that the library writes. -/
theorem decimal_eq_toDigits (n : Nat) : decimal n = Nat.toDigits 10 n := by
  have hdigit {d : Nat} (hd : d < 10) : Char.ofNat (48 + d) = d.digitChar := by
    interval_cases d <;> rfl
  induction n using decimal.induct with
  | case1 n hn => rw [decimal, if_pos hn, hdigit hn, Nat.toDigits_of_lt_base hn]
  | case2 n hn ih =>
    rw [decimal, if_neg hn, ih, hdigit (Nat.mod_lt n (by decide)),
      Nat.toDigits_of_base_le (by decide) (Nat.le_of_not_lt hn)]

theorem ofList_decimal (n : Nat) : String.ofList (decimal n) = toString n := by
  rw [decimal_eq_toDigits, Nat.toString_eq_ofList_toDigits]

/-- **A number is read back from its decimal text**: `number?` undoes `decimal`. -/
theorem number?_decimal (n : Nat) : number? 10 (decimal n) = some n := by
  rw [number?, if_neg (by simpa using decimal_ne_nil n)]
  induction n using decimal.induct with
  | case1 n hn =>
    obtain ⟨d, hd, hval⟩ := Option.map_eq_some_iff.1 (hexValue?_ofNat hn).2
    rw [decimal, if_pos hn]
    simp [hd, hval, hn]
  | case2 n hn ih =>
    have hlt : n % 10 < 10 := Nat.mod_lt n (by decide)
    obtain ⟨d, hd, hval⟩ := Option.map_eq_some_iff.1 (hexValue?_ofNat hlt).2
    rw [decimal, if_neg hn, List.foldl_append, ih]
    simp only [List.foldl_cons, List.foldl_nil, hd, Option.bind_eq_bind, Option.bind_some, hval,
      if_pos hlt]
    rw [Nat.div_add_mod' n 10]

/-- One more digit of a number. -/
def addDigit (acc : Option Nat) (c : Char) : Option Nat := do
  let n ← acc
  let d ← hexValue? c
  if d.val < 10 then some (n * 10 + d.val) else none

theorem number?_of_ne_nil {cs : List Char} (h : cs ≠ []) :
    number? 10 cs = cs.foldl addDigit (some 0) := by
  rw [number?, if_neg (by simpa using h)]
  rfl

/-- Zeros in front do not change a number. -/
theorem number?_replicate_append (zeros n : Nat) :
    number? 10 (List.replicate zeros '0' ++ decimal n) = some n := by
  have hzeros : (List.replicate zeros '0').foldl addDigit (some 0) = some 0 := by
    induction zeros with
    | zero => rfl
    | succ zeros ih => exact ih
  rw [number?_of_ne_nil (List.append_ne_nil_of_right_ne_nil _ (decimal_ne_nil n)),
    List.foldl_append, hzeros, ← number?_of_ne_nil (decimal_ne_nil n), number?_decimal]

/-- A digit is known from its value. -/
theorem eq_ofNat_of_hexValue? {c : Char} {d : Fin 16} (h : hexValue? c = some d) (hd : d.val < 10) :
    c = Char.ofNat (48 + d.val) := by
  rw [hexValue?] at h
  split at h
  · obtain rfl := Option.some.inj h
    have hval : 48 + (c.toNat - 48) = c.toNat := by omega
    show c = Char.ofNat (48 + (c.toNat - 48))
    rw [hval, Char.ofNat_toNat]
  · -- A letter is worth ten or more.
    split at h
    · obtain rfl := Option.some.inj h
      change c.toNat - 87 < 10 at hd
      omega
    · split at h
      · obtain rfl := Option.some.inj h
        change c.toNat - 55 < 10 at hd
        omega
      · cases h

/-- What can be read of a number and one more digit. -/
theorem addDigit_eq_some {acc : Option Nat} {c : Char} {n : Nat} (h : addDigit acc c = some n) :
    ∃ m d, acc = some m ∧ d < 10 ∧ c = Char.ofNat (48 + d) ∧ n = m * 10 + d := by
  obtain ⟨m, hm, h⟩ := Option.bind_eq_some_iff.1 h
  obtain ⟨d, hd, h⟩ := Option.bind_eq_some_iff.1 h
  rw [Option.ite_none_right_eq_some] at h
  obtain ⟨hlt, heq⟩ := h
  exact ⟨m, d.val, hm, hlt, eq_ofNat_of_hexValue? hd hlt, (Option.some.inj heq).symm⟩

/-- The decimal text of a number with one more digit. -/
theorem decimal_mul_add {m d : Nat} (hm : m ≠ 0) (hd : d < 10) :
    decimal (m * 10 + d) = decimal m ++ [Char.ofNat (48 + d)] := by
  have hdiv : (m * 10 + d) / 10 = m := by omega
  have hmod : (m * 10 + d) % 10 = d := by omega
  rw [decimal, if_neg (by omega), hdiv, hmod]

/-- **Only decimal texts are read as numbers** (`number?`), perhaps with zeros in front. -/
theorem eq_of_number? {cs : List Char} {n : Nat} (h : number? 10 cs = some n) :
    ∃ zeros, cs = List.replicate zeros '0' ++ decimal n := by
  have hne : cs ≠ [] := by
    rintro rfl
    cases h
  rw [number?_of_ne_nil hne] at h
  -- Digits that so far make up zero are zeros, and no digits of the number itself.
  have hdigits : ∃ zeros, cs = List.replicate zeros '0' ++ if n = 0 then [] else decimal n := by
    clear hne
    induction cs using List.reverseRecOn generalizing n with
    | nil =>
      obtain rfl := Option.some.inj h
      exact ⟨0, rfl⟩
    | append_singleton cs c ih =>
      rw [List.foldl_append, List.foldl_cons, List.foldl_nil] at h
      obtain ⟨m, d, hm, hd, rfl, rfl⟩ := addDigit_eq_some h
      obtain ⟨zeros, rfl⟩ := ih hm
      by_cases hm0 : m = 0
      · by_cases hd0 : d = 0
        · exact ⟨zeros + 1, by simp [hm0, hd0, List.replicate_succ']⟩
        · exact ⟨zeros, by simp [hm0, hd0, decimal, hd]⟩
      · refine ⟨zeros, ?_⟩
        rw [if_neg hm0, if_neg (by omega), decimal_mul_add hm0 hd, List.append_assoc]
  obtain ⟨zeros, rfl⟩ := hdigits
  by_cases hn : n = 0
  · -- Of the zeros that make up zero, the last one is its decimal text.
    cases zeros with
    | zero => simp [hn] at hne
    | succ zeros => exact ⟨zeros, by simp [hn, decimal, List.replicate_succ']⟩
  · exact ⟨zeros, by rw [if_neg hn]⟩

theorem decimal_injective : Function.Injective decimal := by
  intro m n h
  have hread : some m = some n := by
    rw [← number?_decimal m, h, number?_decimal]
  exact Option.some.inj hread

/-- A number is known from any text that begins with it and goes on with a foreign character. -/
theorem decimal_append_cons_inj {m n : Nat} {c d : Char} {xs ys : List Char}
    (hc : isDigit c = false) (hd : isDigit d = false)
    (h : decimal m ++ c :: xs = decimal n ++ d :: ys) : m = n ∧ c :: xs = d :: ys := by
  obtain ⟨hmn, hrest⟩ := run_append_cons_inj (fun _ ↦ isDigit_of_mem_decimal)
    (fun _ ↦ isDigit_of_mem_decimal) hc hd h
  exact ⟨decimal_injective hmn, hrest⟩

/-! ### Hexadecimal digits -/

/-- **A hexadecimal digit is read back**: `hexValue?` undoes `hexDigit`. -/
theorem hexValue?_hexDigit (d : Fin 16) : hexValue? (hexDigit d) = some d := by
  revert d
  decide

theorem hexDigit_injective : Function.Injective hexDigit := by
  intro d e h
  have hread : some d = some e := by
    rw [← hexValue?_hexDigit d, h, hexValue?_hexDigit]
  exact Option.some.inj hread

/-- **The digits of bytes are `SelfDelimiting`**, since every byte has two. -/
theorem selfDelimiting_hexByte : SelfDelimiting hexByte := by
  intro a b xs ys h
  obtain ⟨hhigh, hlow, hrest⟩ : _ ∧ _ ∧ xs = ys := by
    simpa only [hexByte, List.cons_append, List.nil_append, List.cons.injEq] using h
  have hdiv : a.toNat / 16 = b.toNat / 16 := congrArg Fin.val (hexDigit_injective hhigh)
  have hmod : a.toNat % 16 = b.toNat % 16 := congrArg Fin.val (hexDigit_injective hlow)
  have hab : a.toNat = b.toNat := by omega
  exact ⟨UInt8.toNat_inj.1 hab, hrest⟩

end Text

/-- The serial of a device behind a port of a host, with the port in decimal digits. -/
theorem Serial.value_ofHost (host : String) (port : UInt16) :
    (Serial.ofHost host port).value = host ++ ":" ++ toString port.toNat := by
  rw [Serial.ofHost, Text.ofList_decimal, Serial.value]

/-! ### Identifiers -/

namespace Uuid

open Text (hexDigit)

theorem length_hyphenate_groups {cs : List Char} (h : cs.length = groups.sum) :
    (hyphenate groups cs).length = 36 := by
  have hlength : cs.length = 32 := h
  simp [hyphenate, groups, hlength]

/-- Characters that stand in groups are read back from the text with hyphens between the groups. -/
theorem unhyphenate?_hyphenate {ns : List Nat} {cs : List Char} (h : cs.length = ns.sum) :
    unhyphenate? ns (hyphenate ns cs) = some cs := by
  induction ns generalizing cs with
  | nil =>
    rw [List.length_eq_zero_iff.1 h]
    rfl
  | cons n ns ih =>
    cases ns with
    | nil =>
      rw [List.sum_singleton] at h
      rw [hyphenate, List.take_of_length_le h.le, unhyphenate?, if_pos h]
    | cons m ns =>
      rw [List.sum_cons] at h
      have hn : (cs.take n).length = n := by
        rw [List.length_take]
        omega
      have hrest : unhyphenate? (m :: ns) (hyphenate (m :: ns) (cs.drop n)) = some (cs.drop n) :=
        ih (by rw [List.length_drop]; omega)
      have hne : m :: ns = [] → False := List.cons_ne_nil m ns
      rw [hyphenate, unhyphenate?, List.drop_left' hn, List.take_left' hn]
      · simp only [hrest, Option.map_some, List.take_append_drop]
      · exact hne
      · exact hne

theorem digits?_map_hexDigit (ds : List (Fin 16)) :
    digits? (ds.map hexDigit) = some ds := by
  induction ds with
  | nil => rfl
  | cons d ds ih =>
    rw [digits?] at ih ⊢
    rw [List.map_cons, List.mapM_cons, Text.hexValue?_hexDigit, ih]
    rfl

/-- A hyphenated text stands in no braces and has no scheme in front of it. -/
theorem core_of_length {cs : List Char} (h : cs.length = 36) : core cs = cs := by
  unfold core
  split
  · rw [if_neg (by simp [h])]
  · rw [if_neg (by simp [h])]

/-- **An identifier is read back from its text**: `ofText?` undoes `text`. -/
theorem ofText?_text (u : Uuid) : ofText? u.text = some u := by
  have hdigits : (u.digits.toList.map hexDigit).length = groups.sum := by simp [groups]
  have hlength := length_hyphenate_groups hdigits
  rw [ofText?, text, String.toList_ofList, if_neg (by simp [hlength]), core_of_length hlength,
    unhyphenate?_hyphenate hdigits]
  obtain ⟨⟨digits, hsize⟩⟩ := u
  simp [digits?_map_hexDigit, exactly?, Vector.toList, hsize]

/-- **An identifier is known from its text.** -/
theorem text_injective : Function.Injective text := by
  intro u v h
  have hread : some u = some v := by
    rw [← ofText?_text u, h, ofText?_text]
  exact Option.some.inj hread

end Uuid

end DeviceLab
