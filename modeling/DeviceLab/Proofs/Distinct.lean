import Mathlib.Algebra.GroupWithZero.Nat
import Mathlib.Data.List.Nodup

/-!
# Lists with keys

Where no two entries of a list have the same key, an entry is found by its key
(`find?_key_eq_some_iff`), and the list consists of that entry and of those with other keys
(`perm_cons_filter_key_ne`). These laws serve the books of a session, where requests and intentions
are known by their identifiers, and workers, which are known by their numbers and change one at a
time (`forall_mem_modify`).

A list of pairs of a key and a value is read key by key (`valuesOf`). Records grow at their end, so
there are laws for one more entry (`filter_concat_of_pos`, `valuesOf_concat_self` and so on).
-/

namespace DeviceLab

variable {α β : Type} [DecidableEq β] {f : α → β} {l : List α} {a : α}

/-- Of entries with distinct keys only one has the key of a given one. -/
theorem filter_key_eq_singleton (hd : (l.map f).Nodup) (ha : a ∈ l) :
    l.filter (f · = f a) = [a] := by
  induction l with
  | nil => cases ha
  | cons b l ih =>
    rw [List.map_cons, List.nodup_cons] at hd
    rcases List.mem_cons.1 ha with rfl | ha
    · have hrest : l.filter (f · = f a) = [] := by
        rw [List.filter_eq_nil_iff]
        intro b hb hkey
        exact hd.1 (List.mem_map.2 ⟨b, hb, of_decide_eq_true hkey⟩)
      rw [List.filter_cons, if_pos (decide_eq_true rfl), hrest]
    · have hne : f b ≠ f a := fun hkey ↦ hd.1 (List.mem_map.2 ⟨a, ha, hkey.symm⟩)
      rw [List.filter_cons_of_neg (by simpa using hne), ih hd.2 ha]

/-- An entry is found by its key. -/
theorem find?_key_eq (hd : (l.map f).Nodup) (ha : a ∈ l) : l.find? (f · = f a) = some a := by
  rw [← List.head?_filter, filter_key_eq_singleton hd ha, List.head?_cons]

/-- What is found for a key is the entry with that key. -/
theorem find?_key_eq_some_iff (hd : (l.map f).Nodup) (k : β) :
    l.find? (f · = k) = some a ↔ a ∈ l ∧ f a = k := by
  constructor
  · intro h
    exact ⟨List.mem_of_find?_eq_some h, by simpa using List.find?_some h⟩
  · rintro ⟨ha, rfl⟩
    exact find?_key_eq hd ha

/-- The entry with a key, and the entries with other keys. -/
theorem perm_cons_filter_key_ne (hd : (l.map f).Nodup) (ha : a ∈ l) :
    l.Perm (a :: l.filter (f · ≠ f a)) := by
  have hperm := List.filter_append_perm (f · = f a) l
  rw [filter_key_eq_singleton hd ha] at hperm
  simpa using hperm.symm

/-- An entry that replaces those with its key. -/
theorem nodup_map_concat (hd : (l.map f).Nodup) (a : α) :
    ((l.filter (f · ≠ f a) ++ [a]).map f).Nodup := by
  rw [List.map_append, List.map_singleton, List.nodup_append]
  refine ⟨hd.sublist (List.filter_sublist.map f), List.nodup_singleton _, ?_⟩
  intro k hk k' hk'
  obtain ⟨b, hb, rfl⟩ := List.mem_map.1 hk
  rw [List.mem_singleton.1 hk']
  exact of_decide_eq_true (List.mem_filter.1 hb).2

omit [DecidableEq β] in
/-- An entry that changes and keeps its key. -/
theorem map_modify_of_key {g : α → α} (hkey : ∀ a, f (g a) = f a) (l : List α) (n : Nat) :
    (l.modify n g).map f = l.map f := by
  induction l generalizing n with
  | nil => cases n <;> rfl
  | cons a l ih =>
    cases n with
    | zero => exact congrArg (· :: l.map f) (hkey a)
    | succ n => exact congrArg (f a :: ·) (ih n)

omit [DecidableEq β] in
/-- Where one entry changed, any other was there before. -/
theorem mem_or_eq_of_mem_modify {g : α → α} {n : Nat} (h : a ∈ l.modify n g) :
    a ∈ l ∨ ∃ b, l[n]? = some b ∧ a = g b := by
  obtain ⟨k, hk, rfl⟩ := List.mem_iff_getElem.1 h
  have hk' : k < l.length := by simpa using hk
  rw [List.getElem_modify]
  split
  · next heq =>
    subst heq
    exact .inr ⟨l[n], List.getElem?_eq_getElem hk', rfl⟩
  · exact .inl (List.getElem_mem hk')

omit [DecidableEq β] in
/-- What holds of all entries still does where one changed, if it holds of that one. -/
theorem forall_mem_modify {P : α → Prop} {g : α → α} {n : Nat} (h : ∀ a ∈ l, P a)
    (hg : ∀ b, l[n]? = some b → P (g b)) : ∀ a ∈ l.modify n g, P a := by
  intro a ha
  rcases mem_or_eq_of_mem_modify ha with ha | ⟨b, hb, rfl⟩
  · exact h a ha
  · exact hg b hb

omit [DecidableEq β] in
/-- An entry that is replaced by one with its key. -/
theorem map_set_of_key {n : Nat} {b : α} (ha : l[n]? = some a) (hkey : f b = f a) :
    (l.set n b).map f = l.map f := by
  induction l generalizing n with
  | nil => rfl
  | cons c l ih =>
    cases n with
    | zero =>
      obtain rfl := Option.some.inj ha
      exact congrArg (· :: l.map f) hkey
    | succ n => exact congrArg (f c :: ·) (ih ha)

/-- An entry without a value that is replaced. -/
theorem filterMap_set_perm {γ : Type} {g : α → Option γ} {n : Nat} (ha : l[n]? = some a)
    (hnone : g a = none) (b : α) :
    ((l.set n b).filterMap g).Perm (l.filterMap g ++ (g b).toList) := by
  induction l generalizing n with
  | nil => cases ha
  | cons c l ih =>
    cases n with
    | zero =>
      obtain rfl := Option.some.inj ha
      rw [List.set_cons_zero, List.filterMap_cons_none hnone]
      cases hb : g b with
      | none => simp [hb]
      | some x => simpa [hb] using (List.perm_append_singleton x (l.filterMap g)).symm
    | succ n =>
      rw [List.set_cons_succ]
      cases hc : g c with
      | none => simpa [hc] using ih ha
      | some x => simpa [hc] using (ih ha).cons x

omit [DecidableEq β] in
/-- An entry that changes and keeps its value. -/
theorem filterMap_modify_of_eq {γ : Type} {g : α → Option γ} {h : α → α} {n : Nat}
    (ha : l[n]? = some a) (hg : g (h a) = g a) : (l.modify n h).filterMap g = l.filterMap g := by
  induction l generalizing n with
  | nil => cases ha
  | cons c l ih =>
    cases n with
    | zero =>
      obtain rfl := Option.some.inj ha
      simp [List.filterMap_cons, hg]
    | succ n => simp [List.filterMap_cons, ih ha]

omit [DecidableEq β] in
/-- An entry that changes and loses its value. -/
theorem perm_cons_filterMap_modify {γ : Type} {g : α → Option γ} {h : α → α} {n : Nat} {x : γ}
    (ha : l[n]? = some a) (hg : g a = some x) (hnone : g (h a) = none) :
    (x :: (l.modify n h).filterMap g).Perm (l.filterMap g) := by
  induction l generalizing n with
  | nil => cases ha
  | cons c l ih =>
    cases n with
    | zero =>
      obtain rfl := Option.some.inj ha
      simp [hg, hnone]
    | succ n =>
      rw [List.modify_succ_cons]
      cases hc : g c with
      | none => simpa [hc] using ih ha
      | some y => simpa [hc] using (List.Perm.swap y x _).trans ((ih ha).cons y)

omit [DecidableEq β] in
/-- A sum in which one entry changes. -/
theorem sum_map_modify {w : α → Nat} {h : α → α} {n : Nat} (ha : l[n]? = some a) :
    ((l.modify n h).map w).sum + w a = (l.map w).sum + w (h a) := by
  induction l generalizing n with
  | nil => cases ha
  | cons c l ih =>
    cases n with
    | zero =>
      obtain rfl := Option.some.inj ha
      rw [List.modify_zero_cons, List.map_cons, List.map_cons, List.sum_cons, List.sum_cons]
      omega
    | succ n =>
      rw [List.modify_succ_cons, List.map_cons, List.map_cons, List.sum_cons, List.sum_cons,
        Nat.add_assoc, ih ha, Nat.add_assoc]

omit [DecidableEq β] in
/-- A sum without the entries that add nothing to it. -/
theorem sum_map_filter_pos (w : α → Nat) (l : List α) :
    ((l.filter (0 < w ·)).map w).sum = (l.map w).sum := by
  induction l with
  | nil => rfl
  | cons a l ih =>
    rw [List.map_cons, List.sum_cons, ← ih]
    by_cases ha : 0 < w a
    · rw [List.filter_cons, if_pos (decide_eq_true ha), List.map_cons, List.sum_cons]
    · rw [List.filter_cons, if_neg (by simpa using ha), Nat.eq_zero_of_not_pos ha, Nat.zero_add]

/-- Values that carry the keys of their entries are found by these keys. -/
theorem filter_filterMap_of_key {γ : Type} {g : α → Option γ} {k : γ → β} (b : β)
    (hkey : ∀ a ∈ l, ∀ c, g a = some c → k c = f a) :
    (l.filterMap g).filter (k · = b) = (l.filter (f · = b)).filterMap g := by
  induction l with
  | nil => rfl
  | cons a l ih =>
    have hrest := ih fun a' ha' ↦ hkey a' (List.mem_cons_of_mem a ha')
    cases hg : g a with
    | none => by_cases hb : f a = b <;> simp [hg, hb, hrest]
    | some c =>
      have hk : k c = f a := hkey a List.mem_cons_self c hg
      by_cases hb : f a = b <;> simp [hg, hk, hb, hrest]

omit [DecidableEq β] in
theorem map_filterMap_of_key {γ : Type} {g : α → Option γ} {k : γ → β}
    (hkey : ∀ a ∈ l, ∀ c, g a = some c → k c = f a) :
    (l.filterMap g).map k = (l.filter (fun a ↦ (g a).isSome)).map f := by
  induction l with
  | nil => rfl
  | cons a l ih =>
    have hrest := ih fun a' ha' ↦ hkey a' (List.mem_cons_of_mem a ha')
    cases hg : g a with
    | none => simpa [hg] using hrest
    | some c => simpa [hg] using ⟨hkey a List.mem_cons_self c hg, hrest⟩

/-! ### One more entry -/

theorem filter_concat_of_pos {p : α → Bool} (l : List α) (ha : p a = true) :
    (l ++ [a]).filter p = l.filter p ++ [a] := by
  rw [List.filter_append, List.filter_cons_of_pos ha, List.filter_nil]

theorem filter_concat_of_neg {p : α → Bool} (l : List α) (ha : ¬ p a = true) :
    (l ++ [a]).filter p = l.filter p := by
  rw [List.filter_append, List.filter_cons_of_neg ha, List.filter_nil, List.append_nil]

theorem filterMap_concat {γ : Type} (g : α → Option γ) (l : List α) (a : α) :
    (l ++ [a]).filterMap g = l.filterMap g ++ (g a).toList := by
  rw [List.filterMap_append]
  cases h : g a <;> simp [h]

/-! ### The values of one key -/

/-- The values that stand with a key, in order. -/
def valuesOf (k : β) (l : List (β × α)) : List α :=
  l.filterMap fun p ↦ if p.1 = k then some p.2 else none

theorem valuesOf_append (k : β) (l more : List (β × α)) :
    valuesOf k (l ++ more) = valuesOf k l ++ valuesOf k more :=
  List.filterMap_append

theorem mem_valuesOf {k : β} {l : List (β × α)} : a ∈ valuesOf k l ↔ (k, a) ∈ l := by
  simp only [valuesOf, List.mem_filterMap, Option.ite_none_right_eq_some, Option.some.injEq]
  constructor
  · rintro ⟨⟨k', a'⟩, hp, rfl, rfl⟩
    exact hp
  · exact fun hp ↦ ⟨_, hp, rfl, rfl⟩

theorem valuesOf_map_self (k : β) (as : List α) : valuesOf k (as.map (k, ·)) = as := by
  have hself : ((fun p : β × α ↦ if p.1 = k then some p.2 else none) ∘ (k, ·)) = some :=
    funext fun _ ↦ if_pos rfl
  rw [valuesOf, List.filterMap_map, hself, List.filterMap_some]

theorem valuesOf_map_of_ne {k k' : β} (hk : k' ≠ k) (as : List α) :
    valuesOf k (as.map (k', ·)) = [] := by
  rw [valuesOf, List.filterMap_eq_nil_iff]
  intro p hp
  obtain ⟨a, -, rfl⟩ := List.mem_map.1 hp
  exact if_neg hk

theorem valuesOf_concat_self (k : β) (l : List (β × α)) (a : α) :
    valuesOf k (l ++ [(k, a)]) = valuesOf k l ++ [a] := by
  rw [valuesOf_append]
  exact congrArg _ (valuesOf_map_self k [a])

theorem valuesOf_concat_of_ne {k k' : β} (hk : k' ≠ k) (l : List (β × α)) (a : α) :
    valuesOf k (l ++ [(k', a)]) = valuesOf k l := by
  have hlast : valuesOf k [(k', a)] = [] := valuesOf_map_of_ne hk [a]
  rw [valuesOf_append, hlast, List.append_nil]

theorem valuesOf_sublist (k : β) (l : List (β × α)) : (valuesOf k l).Sublist (l.map (·.2)) := by
  induction l with
  | nil => exact .slnil
  | cons p l ih =>
    by_cases hp : p.1 = k
    · simpa [valuesOf, hp] using ih
    · simpa [valuesOf, hp] using ih.cons p.2

/-- Where all entries with certain values have one key, these are the values of that key. -/
theorem map_filter_of_key {k : β} {l : List (β × α)} {p : α → Bool}
    (h : ∀ x ∈ l, p x.2 = true → x.1 = k) :
    (l.filter fun x ↦ p x.2).map (·.2) = (valuesOf k l).filter p := by
  induction l with
  | nil => rfl
  | cons x l ih =>
    have hrest := ih fun y hy ↦ h y (List.mem_cons_of_mem x hy)
    rw [valuesOf] at hrest
    cases hp : p x.2 with
    | true => simp [valuesOf, hp, h x List.mem_cons_self hp, hrest]
    | false => by_cases hk : x.1 = k <;> simp [valuesOf, hp, hk, hrest]

/-- What is found under a key after a key was taken out. -/
theorem lookup_filter_key_ne [BEq β] [LawfulBEq β] (l : List (β × α)) (k k' : β) :
    (l.filter (·.1 ≠ k)).lookup k' = if k' = k then none else l.lookup k' := by
  induction l with
  | nil => rw [List.filter_nil, List.lookup_nil, ite_self]
  | cons p l ih =>
    obtain ⟨x, a⟩ := p
    by_cases hx : x = k
    · rw [List.filter_cons_of_neg (by simpa using hx), ih]
      split
      · rfl
      · next hne => rw [List.lookup_cons, beq_false_of_ne fun h ↦ hne (h.trans hx)]
    · rw [List.filter_cons_of_pos (by simpa using hx), List.lookup_cons, List.lookup_cons]
      by_cases hk' : k' = x
      · subst hk'
        rw [if_neg hx, beq_self_eq_true]
      · rw [beq_false_of_ne hk']
        exact ih

/-- What is found under a key after a value took the place of those under a key. -/
theorem lookup_filter_key_ne_concat [BEq β] [LawfulBEq β] (l : List (β × α)) (k k' : β) (a : α) :
    (l.filter (·.1 ≠ k) ++ [(k, a)]).lookup k' = if k' = k then some a else l.lookup k' := by
  rw [List.lookup_append, lookup_filter_key_ne, List.lookup_cons, List.lookup_nil]
  by_cases h : k' = k
  · rw [if_pos h, if_pos h, Option.none_or, beq_iff_eq.2 h]
  · rw [if_neg h, if_neg h, beq_false_of_ne h, Option.or_none]

end DeviceLab
