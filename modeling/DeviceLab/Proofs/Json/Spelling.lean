import DeviceLab.Json.Printer
import DeviceLab.Json.Reader
import DeviceLab.Proofs.Text

/-!
# Every value is read back from its text

The text of a value is read as that value, whatever stands behind it, unless the text ends in a
number and what follows could belong to that number (`Bounded`). No value is an exception: numbers
that are no integers are spelled with a point, and strings without a text as a lone surrogate, which
is how they were read.

`Reads` says of an amount of fuel that it is enough to read back all texts that are not longer, one
field for each of the mutually recursive readers. `reads` is the induction on the fuel; its
step is one lemma for each field (`Reads.value_succ`, `Reads.items_succ` and so on), which rests on
`string?_spellText` for strings and on `numeral?_spell` for numbers. `parse_render` is the case of a
text that stands alone.
-/

namespace DeviceLab.Json

open Text

/-! ### Runs of characters -/

section Runs

variable {p : Char → Bool} {as r : List Char}

/-- A text does not begin with a character of a kind. -/
def Parted (p : Char → Bool) (r : List Char) : Prop :=
  ∀ c ∈ r.head?, p c = false

theorem parted_cons {c : Char} : Parted p (c :: r) ↔ p c = false := by
  simp [Parted]

theorem takeWhile_append_of_parted (ha : ∀ c ∈ as, p c = true) (hr : Parted p r) :
    (as ++ r).takeWhile p = as := by
  cases r with
  | nil => rw [List.takeWhile_append_of_pos ha, List.takeWhile_nil, List.append_nil]
  | cons c r => exact takeWhile_append_cons ha (parted_cons.1 hr) r

theorem dropWhile_of_parted (hr : Parted p r) : r.dropWhile p = r := by
  cases r with
  | nil => rfl
  | cons c r => exact List.dropWhile_cons_of_neg (by simp [parted_cons.1 hr])

theorem dropWhile_append_of_parted (ha : ∀ c ∈ as, p c = true) (hr : Parted p r) :
    (as ++ r).dropWhile p = r := by
  rw [List.dropWhile_append_of_pos ha, dropWhile_of_parted hr]

end Runs

/-! ### Strings -/

theorem unit?_hexDigits {n : Nat} (h : n < 0x20) :
    ∃ a b d e, (hexDigits 4 n).map hexDigit = [a, b, d, e] ∧ unit? a b d e = some n := by
  interval_cases n <;> exact ⟨_, _, _, _, rfl, by decide⟩

/-- A character inside a string is read back from its spelling. -/
theorem stringBody?_spellChar (fuel : Nat) (c : Char) (cs : List Char) :
    stringBody? (fuel + 1) (spellChar c ++ cs) =
      (stringBody? fuel cs).map fun r ↦ (consChar c r.1, r.2) := by
  unfold spellChar
  split_ifs with hquote hslash hb hf hn hr ht hcontrol
  · simp [stringBody?, plainEscape?, hquote]
  · simp [stringBody?, plainEscape?, hslash]
  · simp [stringBody?, plainEscape?, hb]
  · simp [stringBody?, plainEscape?, hf]
  · simp [stringBody?, plainEscape?, hn]
  · simp [stringBody?, plainEscape?, hr]
  · simp [stringBody?, plainEscape?, ht]
  · obtain ⟨a, b, d, e, hdigits, hunit⟩ := unit?_hexDigits hcontrol
    have hhigh : isHigh c.toNat = false := by simp [isHigh]; omega
    have hlow : isLow c.toNat = false := by simp [isLow]; omega
    simp [hdigits, stringBody?, hunit, hhigh, hlow]
  · simp [stringBody?, hquote, hslash, hcontrol]

theorem stringBody?_spelled (cs r : List Char) {fuel : Nat} (h : cs.length < fuel) :
    stringBody? fuel (cs.flatMap spellChar ++ '"' :: r) = some (some cs, r) := by
  induction cs generalizing fuel with
  | nil =>
    obtain ⟨fuel, rfl⟩ := Nat.exists_eq_succ_of_ne_zero (Nat.ne_zero_of_lt h)
    simp [stringBody?]
  | cons c cs ih =>
    obtain ⟨fuel, rfl⟩ := Nat.exists_eq_succ_of_ne_zero (Nat.ne_zero_of_lt h)
    rw [List.flatMap_cons, List.append_assoc, stringBody?_spellChar,
      ih (by simpa using Nat.lt_of_succ_lt_succ h)]
    rfl

theorem spellChar_ne_nil (c : Char) : spellChar c ≠ [] := by
  unfold spellChar
  split_ifs <;> simp

theorem length_le_length_spelled (cs : List Char) :
    cs.length ≤ (cs.flatMap spellChar).length := by
  induction cs with
  | nil => exact Nat.le_refl _
  | cons c cs ih =>
    have hc : 0 < (spellChar c).length := List.length_pos_iff.2 (spellChar_ne_nil c)
    rw [List.flatMap_cons, List.length_append, List.length_cons]
    omega

/-- **A string is read back from its spelling** (`spellText`), also one that has no text. -/
theorem string?_spellText (s : Option String) (r : List Char) :
    ∃ cs, (spellText s).toList = '"' :: cs ∧ string? (cs ++ r) = some (s, r) := by
  cases s with
  | none =>
    refine ⟨['\\', 'u', 'd', '8', '0', '0', '"'], by rw [spellText]; decide, ?_⟩
    have hunit : unit? 'd' '8' '0' '0' = some 0xD800 := by decide
    simp [string?, stringBody?, hunit, isHigh]
  | some s =>
    refine ⟨s.toList.flatMap spellChar ++ ['"'], String.toList_ofList, ?_⟩
    have hfuel : s.toList.length < (s.toList.flatMap spellChar ++ '"' :: r).length := by
      have hlength := length_le_length_spelled s.toList
      rw [List.length_append, List.length_cons]
      omega
    rw [List.append_assoc, List.singleton_append, string?, stringBody?_spelled _ _ hfuel]
    simp

/-! ### Numbers -/

/-- What a number could go on with. -/
def goesOn (c : Char) : Bool :=
  isDigit c || c = '.' || c = 'e' || c = 'E'

/-- A text that no number goes on with. -/
def Bounded (r : List Char) : Prop :=
  Parted goesOn r

/-- Only zero is written with a zero in front. -/
theorem eq_zero_of_head?_decimal {n : Nat} (h : (decimal n).head? = some '0') : n = 0 := by
  induction n using decimal.induct with
  | case1 n hn =>
    rw [decimal, if_pos hn] at h
    interval_cases n <;> first | rfl | exact absurd h (by decide)
  | case2 n hn ih =>
    obtain ⟨c, cs, hcs⟩ := List.exists_cons_of_ne_nil (decimal_ne_nil (n / 10))
    rw [decimal, if_neg hn, hcs] at h
    have hzero : n / 10 = 0 := ih (by rw [hcs]; exact h)
    omega

theorem fraction?_of_bounded {r : List Char} (hr : Bounded r) : fraction? r = some (false, r) := by
  unfold fraction?
  split
  · have hpoint : goesOn '.' = false := parted_cons.1 hr
    exact absurd hpoint (by decide)
  · rfl

theorem exponent?_of_bounded {r : List Char} (hr : Bounded r) : exponent? r = some (false, r) := by
  cases r with
  | nil => rfl
  | cons c r =>
    have hc : goesOn c = false := parted_cons.1 hr
    simp only [goesOn, Bool.or_eq_false_iff, decide_eq_false_iff_not] at hc
    simp [exponent?, hc]

/-- What stands behind the digits of a number tells whether it is an integer. -/
theorem tail_of_bounded (integral : Bool) {r : List Char} (hr : Bounded r) :
    ∃ tail, (if integral then [] else ['.', '0']) ++ r = tail ∧ Parted isDigit tail ∧
      ∃ cs, fraction? tail = some (!integral, cs) ∧ exponent? cs = some (false, r) := by
  have hdigit : Parted isDigit r := by
    intro c hc
    have hgoes := hr c hc
    simp only [goesOn, Bool.or_eq_false_iff] at hgoes
    exact hgoes.1.1.1
  cases integral with
  | true => exact ⟨r, rfl, hdigit, r, fraction?_of_bounded hr, exponent?_of_bounded hr⟩
  | false =>
    refine ⟨'.' :: '0' :: r, rfl, parted_cons.2 (by decide), r, ?_, exponent?_of_bounded hr⟩
    have hzero : isDigit '0' = true := rfl
    simp [fraction?, hzero, dropWhile_of_parted hdigit]

/-- **A number is read back from its spelling**, if what follows is `Bounded`. -/
theorem numeral?_spell (n : Numeral) {r : List Char} (hr : Bounded r) :
    numeral? (n.spell.toList ++ r) = some (n, r) := by
  obtain ⟨negative, magnitude, integral⟩ := n
  obtain ⟨tail, htail, hparted, cs, hfraction, hexponent⟩ := tail_of_bounded integral hr
  have hrun : (decimal magnitude ++ tail).takeWhile isDigit = decimal magnitude :=
    takeWhile_append_of_parted (fun _ ↦ isDigit_of_mem_decimal) hparted
  have hrest : (decimal magnitude ++ tail).dropWhile isDigit = tail :=
    dropWhile_append_of_parted (fun _ ↦ isDigit_of_mem_decimal) hparted
  have hzeros : ¬ (1 < (decimal magnitude).length ∧ (decimal magnitude).head? = some '0') := by
    rintro ⟨hlength, hhead⟩
    rw [eq_zero_of_head?_decimal hhead] at hlength
    simp [decimal] at hlength
  rw [Numeral.spell, String.toList_ofList, List.append_assoc, List.append_assoc, htail]
  cases negative with
  | true =>
    simp [numeral?, hrun, hrest, hzeros, number?_decimal, hfraction, hexponent]
  | false =>
    have hsign : ∀ ds, decimal magnitude ++ tail = '-' :: ds → False := by
      intro ds heq
      obtain ⟨c, cs, hcs⟩ := List.exists_cons_of_ne_nil (decimal_ne_nil magnitude)
      have hc : isDigit c = true := isDigit_of_mem_decimal (hcs ▸ List.mem_cons_self)
      rw [hcs] at heq
      rw [(List.cons.inj heq).1] at hc
      exact absurd hc (by decide)
    unfold numeral?
    split
    next heq =>
      split at heq
      · next hds => exact (hsign _ hds).elim
      · obtain ⟨rfl, rfl⟩ := Prod.mk.inj heq
        simp [hrun, hrest, hzeros, number?_decimal, hfraction, hexponent]

/-! ### Values -/

theorem skip_of_parted {cs : List Char} (h : Parted isSpace cs) : skip cs = cs :=
  dropWhile_of_parted h

theorem bounded_cons {c : Char} {r : List Char} (h : goesOn c = false) : Bounded (c :: r) :=
  parted_cons.2 h

/-- The first character of a number is its sign or a digit. -/
theorem spell_eq_cons (n : Numeral) :
    ∃ c cs, n.spell.toList = c :: cs ∧ (c = '-' ∨ isDigit c = true) := by
  obtain ⟨negative, magnitude, integral⟩ := n
  rw [Numeral.spell, String.toList_ofList]
  cases negative with
  | true => exact ⟨_, _, rfl, .inl rfl⟩
  | false =>
    obtain ⟨c, cs, hcs⟩ := List.exists_cons_of_ne_nil (decimal_ne_nil magnitude)
    have hc : isDigit c = true := isDigit_of_mem_decimal (hcs ▸ List.mem_cons_self)
    simp only [hcs]
    exact ⟨c, _, rfl, .inr hc⟩

/-- The first character of a value is no blank and closes nothing. -/
theorem render_eq_cons (j : Json) :
    ∃ c cs, (render j).toList = c :: cs ∧ isSpace c = false ∧ c ≠ ']' := by
  cases j with
  | null | list | object => simp [render, isSpace]
  | bool b => cases b <;> simp [render, isSpace]
  | text s =>
    obtain ⟨cs, hcs, -⟩ := string?_spellText s []
    exact ⟨'"', cs, by rw [render, hcs], by decide⟩
  | num n =>
    obtain ⟨c, cs, hcs, hc⟩ := spell_eq_cons n
    refine ⟨c, cs, by rw [render, hcs], ?_⟩
    rcases hc with rfl | hc
    · decide
    · constructor
      · by_contra hspace
        simp only [isSpace, Bool.not_eq_false, Bool.or_eq_true, decide_eq_true_eq] at hspace
        rcases hspace with ((rfl | rfl) | rfl) | rfl <;> exact absurd hc (by decide)
      · rintro rfl
        exact absurd hc (by decide)

theorem value?_spell (fuel : Nat) (n : Numeral) {r : List Char} (hr : Bounded r) :
    value? (fuel + 1) (n.spell.toList ++ r) = some (.num n, r) := by
  obtain ⟨c, cs, hcs, hc⟩ := spell_eq_cons n
  have hnone : c ∉ ['n', 't', 'f', '"', '[', '\x7b'] := by
    intro hmem
    simp only [List.mem_cons, List.not_mem_nil, or_false] at hmem
    rcases hmem with rfl | rfl | rfl | rfl | rfl | rfl <;> revert hc <;> decide
  simp only [List.mem_cons, List.not_mem_nil, or_false, not_or] at hnone
  have hread : numeral? (c :: (cs ++ r)) = some (n, r) := by
    rw [← List.cons_append, ← hcs, numeral?_spell n hr]
  rw [hcs, List.cons_append, value?]
  · rw [hread]
    rfl
  all_goals
    intro rest heq
    simp [(List.cons.inj heq).1] at hnone

theorem word?_append (w : String) (r : List Char) : word? w (w.toList ++ r) = some r := by
  have hprefix : w.toList.isPrefixOf (w.toList ++ r) = true :=
    List.isPrefixOf_iff_prefix.2 (List.prefix_append _ _)
  rw [word?, if_pos hprefix, ← String.length_toList, List.drop_left]

theorem parted_render (j : Json) (r : List Char) : Parted isSpace ((render j).toList ++ r) := by
  obtain ⟨c, cs, hcs, hspace, -⟩ := render_eq_cons j
  rw [hcs]
  exact parted_cons.2 hspace

/-- The items of a list begin with the first of them. -/
theorem renderItems_eq_append (j : Json) (js : List Json) :
    ∃ cs, (renderItems (j :: js)).toList = (render j).toList ++ cs := by
  cases js with
  | nil => exact ⟨[], (List.append_nil _).symm⟩
  | cons j' js => exact ⟨',' :: (renderItems (j' :: js)).toList, by simp [renderItems]⟩

/-- The members of an object begin with the first key. -/
theorem renderMembers_eq_append (k : Option String) (j : Json)
    (fs : List (Option String × Json)) :
    ∃ cs, (renderMembers ((k, j) :: fs)).toList = (spellText k).toList ++ cs := by
  cases fs with
  | nil => exact ⟨':' :: (render j).toList, by simp [renderMembers]⟩
  | cons f fs =>
    exact ⟨':' :: ((render j).toList ++ ',' :: (renderMembers (f :: fs)).toList),
      by simp [renderMembers]⟩

theorem parted_renderItems (j : Json) (js : List Json) (r : List Char) :
    Parted isSpace ((renderItems (j :: js)).toList ++ r) := by
  obtain ⟨cs, hcs⟩ := renderItems_eq_append j js
  rw [hcs, List.append_assoc]
  exact parted_render j _

theorem parted_renderMembers (k : Option String) (j : Json) (fs : List (Option String × Json))
    (r : List Char) : Parted isSpace ((renderMembers ((k, j) :: fs)).toList ++ r) := by
  obtain ⟨cs, hcs⟩ := renderMembers_eq_append k j fs
  obtain ⟨ds, hds, -⟩ := string?_spellText k []
  rw [hcs, hds]
  exact parted_cons.2 (by decide)

/-! ### Reading them back -/

/-- With so much fuel, shorter texts are read back. -/
structure Reads (fuel : Nat) : Prop where
  value : ∀ {j : Json} {r : List Char}, Bounded r → (render j).toList.length < fuel →
    value? fuel ((render j).toList ++ r) = some (j, r)
  items : ∀ {j : Json} {js : List Json} {r : List Char},
    (renderItems (j :: js)).toList.length + 1 < fuel →
      items? fuel ((renderItems (j :: js)).toList ++ ']' :: r) = some (j :: js, r)
  members : ∀ {k : Option String} {j : Json} {fs : List (Option String × Json)} {r : List Char},
    (renderMembers ((k, j) :: fs)).toList.length + 1 < fuel →
      members? fuel ((renderMembers ((k, j) :: fs)).toList ++ '\x7d' :: r) =
        some ((k, j) :: fs, r)

namespace Reads

variable {fuel : Nat}

theorem list_succ (h : Reads fuel) {items : List Json} {r : List Char}
    (hf : (render (.list items)).toList.length < fuel + 1) :
    value? (fuel + 1) ((render (.list items)).toList ++ r) = some (.list items, r) := by
  cases items with
  | nil => simp [render, renderItems, value?, skip, isSpace]
  | cons j js =>
    have htext : (render (.list (j :: js))).toList ++ r =
        '[' :: ((renderItems (j :: js)).toList ++ ']' :: r) := by simp [render]
    have hlength : (renderItems (j :: js)).toList.length + 1 < fuel := by
      simp [render] at hf
      omega
    obtain ⟨c, cs, hcs, -, hclose⟩ := render_eq_cons j
    obtain ⟨ds, hds⟩ := renderItems_eq_append j js
    rw [htext, value?, skip_of_parted (parted_renderItems j js _)]
    split
    · next heq =>
      rw [hds, hcs] at heq
      exact absurd (List.cons.inj heq).1 hclose
    · rw [h.items hlength]
      rfl

theorem object_succ (h : Reads fuel) {fs : List (Option String × Json)} {r : List Char}
    (hf : (render (.object fs)).toList.length < fuel + 1) :
    value? (fuel + 1) ((render (.object fs)).toList ++ r) = some (.object fs, r) := by
  cases fs with
  | nil => simp [render, renderMembers, value?, skip, isSpace]
  | cons f fs =>
    obtain ⟨k, j⟩ := f
    have htext : (render (.object ((k, j) :: fs))).toList ++ r =
        '\x7b' :: ((renderMembers ((k, j) :: fs)).toList ++ '\x7d' :: r) := by simp [render]
    have hlength : (renderMembers ((k, j) :: fs)).toList.length + 1 < fuel := by
      simp [render] at hf
      omega
    obtain ⟨cs, hcs, -⟩ := string?_spellText k []
    obtain ⟨ds, hds⟩ := renderMembers_eq_append k j fs
    rw [htext, value?, skip_of_parted (parted_renderMembers k j fs _)]
    split
    · next heq =>
      rw [hds, hcs] at heq
      exact absurd (List.cons.inj heq).1 (by decide)
    · rw [h.members hlength]
      rfl

theorem value_succ (h : Reads fuel) {j : Json} {r : List Char} (hr : Bounded r)
    (hf : (render j).toList.length < fuel + 1) :
    value? (fuel + 1) ((render j).toList ++ r) = some (j, r) := by
  cases j with
  | null =>
    show (word? "null" ("null".toList ++ r)).map _ = _
    rw [word?_append]
    rfl
  | bool b =>
    cases b with
    | true =>
      show (word? "true" ("true".toList ++ r)).map _ = _
      rw [word?_append]
      rfl
    | false =>
      show (word? "false" ("false".toList ++ r)).map _ = _
      rw [word?_append]
      rfl
  | num n => exact value?_spell fuel n hr
  | text s =>
    obtain ⟨cs, hcs, hread⟩ := string?_spellText s r
    rw [render, hcs, List.cons_append, value?, hread]
    rfl
  | list items => exact h.list_succ hf
  | object fs => exact h.object_succ hf

theorem items_succ (h : Reads fuel) {j : Json} {js : List Json} {r : List Char}
    (hf : (renderItems (j :: js)).toList.length + 1 < fuel + 1) :
    items? (fuel + 1) ((renderItems (j :: js)).toList ++ ']' :: r) = some (j :: js, r) := by
  cases js with
  | nil =>
    have hitem : value? fuel ((render j).toList ++ ']' :: r) = some (j, ']' :: r) :=
      h.value (bounded_cons rfl) (Nat.lt_of_succ_lt_succ hf)
    rw [renderItems, items?, hitem]
    simp [skip_of_parted, parted_cons, isSpace]
  | cons j' js =>
    obtain ⟨rest, hdef⟩ : ∃ rest, (renderItems (j' :: js)).toList ++ ']' :: r = rest := ⟨_, rfl⟩
    have htext : (renderItems (j :: j' :: js)).toList ++ ']' :: r =
        (render j).toList ++ ',' :: rest := by
      simp [renderItems, ← hdef]
    have hlength : (renderItems (j :: j' :: js)).toList.length =
        (render j).toList.length + 1 + (renderItems (j' :: js)).toList.length := by
      simp [renderItems]
      omega
    have hitem : value? fuel ((render j).toList ++ ',' :: rest) = some (j, ',' :: rest) :=
      h.value (bounded_cons rfl) (by omega)
    have hrest : items? fuel rest = some (j' :: js, r) := hdef ▸ h.items (by omega)
    have hskip : skip rest = rest := hdef ▸ skip_of_parted (parted_renderItems j' js _)
    rw [htext, items?, hitem]
    simp [skip_of_parted, parted_cons, isSpace, hskip, hrest]

theorem members_succ (h : Reads fuel) {k : Option String} {j : Json}
    {fs : List (Option String × Json)} {r : List Char}
    (hf : (renderMembers ((k, j) :: fs)).toList.length + 1 < fuel + 1) :
    members? (fuel + 1) ((renderMembers ((k, j) :: fs)).toList ++ '\x7d' :: r) =
      some ((k, j) :: fs, r) := by
  cases fs with
  | nil =>
    have htext : (renderMembers [(k, j)]).toList ++ '\x7d' :: r =
        (spellText k).toList ++ ':' :: ((render j).toList ++ '\x7d' :: r) := by
      simp [renderMembers]
    have hlength : (renderMembers [(k, j)]).toList.length =
        (spellText k).toList.length + 1 + (render j).toList.length := by
      simp [renderMembers]
      omega
    obtain ⟨cs, hcs, hkey⟩ := string?_spellText k (':' :: ((render j).toList ++ '\x7d' :: r))
    have hitem : value? fuel ((render j).toList ++ '\x7d' :: r) = some (j, '\x7d' :: r) :=
      h.value (bounded_cons rfl) (by omega)
    rw [htext, hcs, List.cons_append, members?, hkey]
    simp [skip_of_parted, parted_cons, parted_render, isSpace, hitem]
  | cons f fs =>
    obtain ⟨k', j'⟩ := f
    obtain ⟨rest, hdef⟩ : ∃ rest, (renderMembers ((k', j') :: fs)).toList ++ '\x7d' :: r = rest :=
      ⟨_, rfl⟩
    have htext : (renderMembers ((k, j) :: (k', j') :: fs)).toList ++ '\x7d' :: r =
        (spellText k).toList ++ ':' :: ((render j).toList ++ ',' :: rest) := by
      simp [renderMembers, ← hdef]
    have hlength : (renderMembers ((k, j) :: (k', j') :: fs)).toList.length =
        (spellText k).toList.length + 1 + (render j).toList.length + 1 +
          (renderMembers ((k', j') :: fs)).toList.length := by
      simp [renderMembers]
      omega
    obtain ⟨cs, hcs, hkey⟩ := string?_spellText k (':' :: ((render j).toList ++ ',' :: rest))
    have hitem : value? fuel ((render j).toList ++ ',' :: rest) = some (j, ',' :: rest) :=
      h.value (bounded_cons rfl) (by omega)
    have hrest : members? fuel rest = some ((k', j') :: fs, r) := hdef ▸ h.members (by omega)
    have hskip : skip rest = rest := hdef ▸ skip_of_parted (parted_renderMembers k' j' fs _)
    rw [htext, hcs, List.cons_append, members?, hkey]
    simp [skip_of_parted, parted_cons, parted_render, isSpace, hitem, hskip, hrest]

end Reads

/-- The reader has enough fuel for whatever is not longer than its fuel. -/
theorem reads (fuel : Nat) : Reads fuel := by
  induction fuel with
  | zero => exact ⟨fun _ hf ↦ absurd hf (Nat.not_lt_zero _), fun hf ↦ absurd hf (Nat.not_lt_zero _),
      fun hf ↦ absurd hf (Nat.not_lt_zero _)⟩
  | succ fuel ih => exact ⟨ih.value_succ, ih.items_succ, ih.members_succ⟩

/-- **Every value is read back from its text**: `parse` undoes `render`. -/
theorem parse_render (j : Json) : parse (render j) = some j := by
  have hskip : skip (render j).toList = (render j).toList := by
    rw [← List.append_nil (render j).toList]
    exact skip_of_parted (parted_render j [])
  have hread : value? ((render j).toList.length + 1) (render j).toList = some (j, []) := by
    have hvalue := (reads _).value (j := j) (r := []) nofun (Nat.lt_succ_self _)
    rwa [List.append_nil] at hvalue
  rw [parse, hskip, hread]
  rfl

end DeviceLab.Json
