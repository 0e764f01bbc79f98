import DeviceLab.Text.Blank
import Mathlib.Data.List.DropRight

/-!
# Laws of cutting and searching

A text is cut at separators, and cutting it in two places is the same as cutting its parts
(`lines_append_cons`). The `words` of a text are told from the runs of white space between them,
whatever their lengths (`words_append_gap`). Cutting is what the standard library does
(`splitWhere_eq_splitOnP`), so its lemmas are used.

Searching respects the seams of a text. A needle without a given character lies on one side of it
(`infix_append_cons_iff`); and a needle whose first character does not come again in it cannot begin
within itself, so that it is found where it was put, unless it occurred before
(`afterFirst?_append`).
-/

namespace DeviceLab.Text

variable {cs xs ys : List Char} {needle : List Char} {c : Char}

/-! ### Cutting -/

/-- Cutting a text is what the standard library does. -/
theorem splitWhere_eq_splitOnP (separates : Char → Bool) (cs : List Char) :
    splitWhere separates cs = cs.splitOnP separates := by
  induction cs with
  | nil => rfl
  | cons c cs ih =>
    rw [splitWhere, ih, List.splitOnP_cons_eq_if_modifyHead]
    split
    · rfl
    · obtain ⟨piece, pieces, hp⟩ :=
        List.exists_cons_of_ne_nil (List.splitOnP_ne_nil (p := separates) cs)
      rw [hp]
      rfl

/-- A text is cut at each line feed. -/
theorem lines_append_cons (xs ys : List Char) :
    lines (xs ++ '\n' :: ys) = lines xs ++ lines ys := by
  rw [lines, lines, lines, splitWhere_eq_splitOnP, splitWhere_eq_splitOnP, splitWhere_eq_splitOnP]
  exact List.splitOnP_append_cons xs ys rfl

/-- A text without a line feed is one line. -/
theorem lines_of_notMem (h : '\n' ∉ cs) : lines cs = [cs] := by
  rw [lines, splitWhere_eq_splitOnP]
  refine List.splitOnP_eq_singleton fun c hc ↦ ?_
  exact beq_false_of_ne fun he ↦ h (he ▸ hc)

/-- White space ends a word. -/
theorem words_append_cons (hc : isBlank c = true) (xs ys : List Char) :
    words (xs ++ c :: ys) = words xs ++ words ys := by
  rw [words, words, words, splitWhere_eq_splitOnP, splitWhere_eq_splitOnP, splitWhere_eq_splitOnP,
    List.splitOnP_append_cons xs ys hc, List.filter_append]

/-- White space at the front belongs to no word. -/
theorem words_append_of_blank (h : ∀ c ∈ xs, isBlank c = true) (ys : List Char) :
    words (xs ++ ys) = words ys := by
  induction xs with
  | nil => rfl
  | cons c xs ih =>
    have hc : words ([] ++ c :: (xs ++ ys)) = words [] ++ words (xs ++ ys) :=
      words_append_cons (h c List.mem_cons_self) [] (xs ++ ys)
    exact hc.trans (ih fun c' hc' ↦ h c' (List.mem_cons_of_mem c hc'))

/-- A text without white space is one word. -/
theorem words_of_unbroken (hne : cs ≠ []) (h : ∀ c ∈ cs, isBlank c = false) : words cs = [cs] := by
  rw [words, splitWhere_eq_splitOnP, List.splitOnP_eq_singleton h]
  exact List.filter_cons_of_pos (by simpa using hne)

/-- A word is followed by the words behind the white space that ends it. -/
theorem words_append_gap {gap : List Char} (hne : cs ≠ []) (h : ∀ c ∈ cs, isBlank c = false)
    (hgne : gap ≠ []) (hg : ∀ c ∈ gap, isBlank c = true) (ys : List Char) :
    words (cs ++ (gap ++ ys)) = cs :: words ys := by
  obtain ⟨c, gap, rfl⟩ := List.exists_cons_of_ne_nil hgne
  rw [List.cons_append, words_append_cons (hg c List.mem_cons_self), words_of_unbroken hne h,
    words_append_of_blank fun c' hc' ↦ hg c' (List.mem_cons_of_mem c hc')]
  rfl

/-- A text that neither begins nor ends with white space is trimmed. -/
theorem trim_eq_self (hhead : ∀ c ∈ cs.head?, isBlank c = false)
    (hlast : ∀ c ∈ cs.getLast?, isBlank c = false) : trim cs = cs := by
  have hfront : cs.dropWhile isBlank = cs := by
    cases cs with
    | nil => rfl
    | cons c cs => exact List.dropWhile_cons_of_neg (by simp [hhead c rfl])
  rw [trim, hfront]
  refine List.rdropWhile_eq_self_iff.2 fun hne ↦ ?_
  simp [hlast _ (List.getLast?_eq_getLast_of_ne_nil hne)]

/-! ### Searching -/

/-- A text begins with the needle, or the search goes on behind its first character. -/
theorem afterFirst?_cons (x : Char) (cs : List Char) :
    afterFirst? needle (x :: cs) =
      if needle <+: x :: cs then some ((x :: cs).drop needle.length)
      else afterFirst? needle cs := by
  rw [afterFirst?]
  exact if_congr List.isPrefixOf_iff_prefix rfl rfl

/-- A search succeeds exactly on texts with the needle in them. -/
theorem occursIn_iff : occursIn needle cs = true ↔ needle <:+: cs := by
  induction cs with
  | nil => simp [occursIn, afterFirst?]
  | cons c cs ih =>
    rw [occursIn, afterFirst?_cons, List.infix_cons_iff, ← ih]
    split
    · next h => simp [h]
    · next h => simp [h, occursIn]

/-- A needle is a part of a text up to a character that it does not have, or of the text behind. -/
theorem infix_append_cons_iff (hc : c ∉ needle) :
    needle <:+: xs ++ c :: ys ↔ needle <:+: xs ∨ needle <:+: ys := by
  have hseam (xs : List Char) (h : needle <+: xs ++ c :: ys) : needle <+: xs := by
    refine List.prefix_of_prefix_length_le h (List.prefix_append _ _) (not_lt.1 fun hlt ↦ hc ?_)
    -- A longer needle would go beyond the character.
    have hlonger : xs ++ [c] <+: needle := by
      refine List.prefix_of_prefix_length_le ⟨ys, by simp⟩ h ?_
      rw [List.length_append, List.length_singleton]
      omega
    exact hlonger.subset (List.mem_append_right _ List.mem_cons_self)
  constructor
  · intro h
    induction xs with
    | nil =>
      rw [List.nil_append, List.infix_cons_iff] at h
      exact h.imp_left fun hp ↦ (hseam [] hp).isInfix
    | cons x xs ih =>
      rw [List.cons_append, List.infix_cons_iff] at h
      rcases h with h | h
      · exact .inl (hseam (x :: xs) h).isInfix
      · exact (ih h).imp_left fun hi ↦ hi.trans (List.suffix_cons x xs).isInfix
  · rintro (h | h)
    · exact h.trans (List.prefix_append _ _).isInfix
    · exact h.trans ((List.suffix_cons c ys).trans (List.suffix_append _ _)).isInfix

/-- **A needle that cannot begin within itself is found (`afterFirst?`) where it was put**, unless
it occurs before. -/
theorem afterFirst?_append (hc : c ∉ needle) (h : ¬ c :: needle <:+: xs) (ys : List Char) :
    afterFirst? (c :: needle) (xs ++ (c :: needle ++ ys)) = some ys := by
  induction xs with
  | nil =>
    have hp : c :: needle <+: c :: (needle ++ ys) := List.prefix_append (c :: needle) ys
    rw [List.nil_append, List.cons_append, afterFirst?_cons, if_pos hp, ← List.cons_append,
      List.drop_left]
  | cons x xs ih =>
    have hnone : ¬ c :: needle <+: x :: (xs ++ (c :: needle ++ ys)) := by
      intro hp
      rw [← List.cons_append] at hp
      by_cases hle : (c :: needle).length ≤ (x :: xs).length
      · exact h (List.prefix_of_prefix_length_le hp (List.prefix_append _ _) hle).isInfix
      · -- The needle that was put there begins within the one found, behind its first character.
        have hput : x :: xs ++ [c] <+: c :: needle := by
          refine List.prefix_of_prefix_length_le ⟨needle ++ ys, by simp⟩ hp ?_
          rw [List.length_append, List.length_singleton]
          omega
        exact hc ((List.cons_prefix_cons.1 hput).2.subset
          (List.mem_append_right _ List.mem_cons_self))
    rw [List.cons_append, afterFirst?_cons, if_neg hnone]
    exact ih fun hi ↦ h (hi.trans (List.suffix_cons x xs).isInfix)

/-! ### The last separator -/

/-- A text is put together from what precedes and what follows its last separator. -/
theorem eq_of_splitLast? (h : splitLast? c cs = some (xs, ys)) : cs = xs ++ c :: ys := by
  induction cs generalizing xs with
  | nil => cases h
  | cons x cs ih =>
    rw [splitLast?] at h
    split at h
    · next before after hs =>
      obtain ⟨rfl, rfl⟩ := Prod.mk.inj (Option.some.inj h)
      rw [ih hs, List.cons_append]
    · split at h
      · next he =>
        obtain ⟨rfl, rfl⟩ := Prod.mk.inj (Option.some.inj h)
        rw [he, List.nil_append]
      · cases h

/-- A separator with none behind it is the last one. -/
theorem splitLast?_append_cons (h : c ∉ ys) (xs : List Char) :
    splitLast? c (xs ++ c :: ys) = some (xs, ys) := by
  have hnone : splitLast? c ys = none := by
    cases hs : splitLast? c ys with
    | none => rfl
    | some p => exact absurd (eq_of_splitLast? hs ▸ List.mem_append_right _ List.mem_cons_self) h
  induction xs with
  | nil => rw [List.nil_append, splitLast?, hnone, if_pos rfl]
  | cons x xs ih => rw [List.cons_append, splitLast?, ih]

end DeviceLab.Text
