/-!
# Instrumentation parameters

`Params` is a finite map from names to values, kept as a list in ascending order of the names
(`Params.insert`), so that equal maps are equal lists. The order of strings is that of their code
points, which is also the order of their bytes in UTF-8.
-/

namespace DeviceLab

/-- A map from names to values. -/
structure Params where
  entries : List (String × String)
  sorted : entries.Pairwise fun a b ↦ a.1 < b.1
  deriving DecidableEq

namespace Params

/-- The map without entries. -/
def empty : Params :=
  ⟨[], .nil⟩

/-- Puts an entry where it belongs; a name that is there already gets the new value. -/
def place (k v : String) : List (String × String) → List (String × String)
  | [] => [(k, v)]
  | (k', v') :: rest =>
    if k < k' then (k, v) :: (k', v') :: rest
    else if k = k' then (k, v) :: rest
    else (k', v') :: place k v rest

theorem fst_mem_place {k v : String} {es : List (String × String)} {e : String × String}
    (h : e ∈ place k v es) : e.1 = k ∨ e ∈ es := by
  induction es with
  | nil => simp_all [place]
  | cons e' rest ih =>
    simp only [place] at h
    split at h
    · rcases List.mem_cons.1 h with rfl | h
      · exact .inl rfl
      · exact .inr h
    · split at h
      · rcases List.mem_cons.1 h with rfl | h
        · exact .inl rfl
        · exact .inr (List.mem_cons_of_mem _ h)
      · rcases List.mem_cons.1 h with rfl | h
        · exact .inr List.mem_cons_self
        · exact (ih h).imp id (List.mem_cons_of_mem _)

theorem place_sorted {k v : String} {es : List (String × String)}
    (h : es.Pairwise fun a b ↦ a.1 < b.1) : (place k v es).Pairwise fun a b ↦ a.1 < b.1 := by
  induction es with
  | nil => simp [place]
  | cons e rest ih =>
    obtain ⟨he, hrest⟩ := List.pairwise_cons.1 h
    simp only [place]
    split
    · rename_i hk
      refine List.pairwise_cons.2 ⟨fun x hx ↦ ?_, h⟩
      rcases List.mem_cons.1 hx with rfl | hx
      · exact hk
      · exact String.lt_trans hk (he x hx)
    · rename_i hk
      split
      · rename_i heq
        exact List.pairwise_cons.2 ⟨fun x hx ↦ heq ▸ he x hx, hrest⟩
      · rename_i hne
        refine List.pairwise_cons.2 ⟨fun x hx ↦ ?_, ih hrest⟩
        rcases fst_mem_place hx with hx | hx
        · rw [hx]
          exact Decidable.byContradiction fun hlt ↦
            hne (String.le_antisymm (String.not_lt.1 hlt) (String.not_lt.1 hk))
        · exact he x hx

/-- The map with one more entry. -/
def insert (ps : Params) (k v : String) : Params :=
  ⟨place k v ps.entries, place_sorted ps.sorted⟩

/-- The map with the given entries; of entries with one name the last counts. -/
def ofList (es : List (String × String)) : Params :=
  es.foldl (fun ps e ↦ ps.insert e.1 e.2) empty

end Params

end DeviceLab
