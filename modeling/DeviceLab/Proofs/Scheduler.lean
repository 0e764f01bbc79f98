import DeviceLab.Scheduler

/-!
# Laws of the scheduler

What the scheduler finds among its pending requests after one of them was put back
(`find?_put_self`, `find?_put_of_ne`) or erased (`find?_erase_self`, `find?_erase_of_ne`), and what
`nextAttempt` answers for a request that has had one more run (`nextAttempt_eq_some`,
`nextAttempt_eq_none`). The latter hold for as long as the runs before it stayed below the number of
attempts that are allowed, which is `max 1` of what was asked for, since one attempt is always made.
Below that bound the number of runs never saturates.
-/

namespace DeviceLab

namespace Scheduler

variable {p : Pending} {ps : List Pending} {id q : Uuid}

/-! ### Pending requests -/

theorem find?_cons (p : Pending) (ps : List Pending) :
    find? id (p :: ps) = if p.request.id = id then some p else find? id ps := by
  rw [find?, List.find?_cons]
  by_cases h : p.request.id = id
  · rw [if_pos h, decide_eq_true h]
  · rw [if_neg h, decide_eq_false h]
    rfl

/-- A request is found in the place where it was put. -/
theorem find?_put_self (h : (find? p.request.id ps).isSome) :
    find? p.request.id (put p ps) = some p := by
  rw [put, if_pos h]
  induction ps with
  | nil => cases h
  | cons a ps ih =>
    rw [List.map_cons, find?_cons]
    by_cases ha : a.request.id = p.request.id
    · rw [if_pos ha, if_pos rfl]
    · rw [find?_cons, if_neg ha] at h
      rw [if_neg ha, if_neg ha, ih h]

/-- Putting a request back changes nothing for the others. -/
theorem find?_put_of_ne (h : (find? p.request.id ps).isSome) (hq : q ≠ p.request.id) :
    find? q (put p ps) = find? q ps := by
  rw [put, if_pos h]
  clear h
  induction ps with
  | nil => rfl
  | cons a ps ih =>
    rw [List.map_cons, find?_cons, find?_cons, ih]
    by_cases ha : a.request.id = p.request.id
    · rw [if_pos ha, if_neg hq.symm, if_neg (ha ▸ hq.symm)]
    · rw [if_neg ha]

theorem find?_erase_self (id : Uuid) (ps : List Pending) : find? id (erase id ps) = none := by
  rw [find?, erase, List.find?_eq_none]
  intro p hp hid
  exact of_decide_eq_true (List.mem_filter.1 hp).2 (of_decide_eq_true hid)

theorem find?_erase_of_ne (hq : q ≠ id) (ps : List Pending) :
    find? q (erase id ps) = find? q ps := by
  induction ps with
  | nil => rfl
  | cons a ps ih =>
    rw [erase, List.filter_cons, find?_cons]
    by_cases ha : a.request.id = id
    · rw [if_neg (by simpa using ha), if_neg (ha ▸ hq.symm)]
      exact ih
    · rw [if_pos (by simpa using ha), find?_cons]
      rw [erase] at ih
      rw [ih]

theorem mem_of_find? (h : find? id ps = some p) : p ∈ ps :=
  List.mem_of_find?_eq_some h

theorem eq_or_mem_of_mem_put {q : Pending} (h : q ∈ put p ps) : q = p ∨ q ∈ ps := by
  rw [put] at h
  split at h
  · obtain ⟨a, ha, rfl⟩ := List.mem_map.1 h
    split
    · exact .inl rfl
    · exact .inr ha
  · rcases List.mem_append.1 h with h | h
    · exact .inr h
    · exact .inl (List.mem_singleton.1 h)

/-- Requests with distinct identifiers all become pending, in their order. -/
theorem foldl_put (ps : List Pending) {rs : List Request}
    (h : (ps.map (·.request.id) ++ rs.map (·.id)).Nodup) :
    rs.foldl (fun ps r ↦ put ⟨r, []⟩ ps) ps = ps ++ rs.map fun r ↦ ⟨r, []⟩ := by
  induction rs generalizing ps with
  | nil => rw [List.foldl_nil, List.map_nil, List.append_nil]
  | cons r rs ih =>
    have hnew : r.id ∉ ps.map (·.request.id) := fun hr ↦
      (List.nodup_append.1 h).2.2 _ hr _ (List.mem_cons_self ..) rfl
    have hput : put ⟨r, []⟩ ps = ps ++ [⟨r, []⟩] := by
      rw [put, if_neg]
      intro hfound
      rw [find?, List.find?_isSome] at hfound
      obtain ⟨p, hp, hid⟩ := hfound
      exact hnew (List.mem_map.2 ⟨p, hp, of_decide_eq_true hid⟩)
    have hrest := ih (ps ++ [⟨r, []⟩]) (by simpa using h)
    rw [List.foldl_cons, hput, hrest, List.append_assoc]
    rfl

end Scheduler

/-! ### When an attempt is repeated -/

section Retry

variable {maxAttempts : UInt32} {runs : List DeviceRun} {run : DeviceRun}

/-- Another attempt is made after a run that broke, below the bound, and it has the next number. -/
theorem nextAttempt_eq_some {k : UInt32} (h : nextAttempt maxAttempts (runs ++ [run]) = some k) :
    run.isInfrastructure = true ∧ runs.length + 1 < maxAttempts.toNat ∧
      k.toNat = runs.length + 2 := by
  simp only [nextAttempt, List.getLast?_concat, List.length_append, List.length_singleton] at h
  split at h
  case isFalse => cases h
  next hmore =>
  rw [Bool.and_eq_true, decide_eq_true_iff] at hmore
  obtain ⟨hbroken, hless⟩ := hmore
  have hmax : maxAttempts.toNat < UInt32.size := UInt32.toNat_lt_size maxAttempts
  have hlen : runs.length + 1 < maxAttempts.toNat := by omega
  have hmade : min (runs.length + 1) (UInt32.size - 1) = runs.length + 1 := by omega
  rw [hmade] at h
  obtain rfl := Option.some.inj h
  refine ⟨hbroken, hlen, ?_⟩
  rw [UInt32.toNat_ofNat_of_lt' (by omega)]

/-- A request is settled by a run that did not break, or when the bound is reached. -/
theorem nextAttempt_eq_none (h : nextAttempt maxAttempts (runs ++ [run]) = none)
    (hlen : runs.length < max 1 maxAttempts.toNat) (hbroken : run.isInfrastructure = true) :
    runs.length + 1 = max 1 maxAttempts.toNat := by
  simp only [nextAttempt, List.getLast?_concat, List.length_append, List.length_singleton,
    hbroken, Bool.true_and] at h
  split at h
  case isTrue => cases h
  next hmore =>
  rw [decide_eq_true_iff] at hmore
  have hmax : maxAttempts.toNat < UInt32.size := UInt32.toNat_lt_size maxAttempts
  have hsize : UInt32.size = 4294967296 := rfl
  omega

end Retry

end DeviceLab
