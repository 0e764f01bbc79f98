import Mathlib.Data.List.Induction
import DeviceLab.Proofs.Session.Stages

/-!
# What the caller has collected

The caller takes one report after the other, and a report replaces an earlier one of its request. So
what it has is one report for each request of which it took any (`length_gatherAll`); and since the
scheduler settles no request but those of the session (`Known`), there are as many of them as there
are requests of the session of which a report was taken (`Collected.length_eq`).

`Course.collected` says so of every session that collects. Unlike `Course.atWork` it does not depend
on which attempts the reports came of, and so not on distinct identifiers of intentions either: it
rests on the cases of `Working` for the scheduler and the caller.
-/

namespace DeviceLab

namespace Session

variable {h : List Turn} {s s' : Session} {m : Move} {ns : List Notice} {capacity : Nat}
  {requests : List Request}

/-! ### Gathering reports -/

section Gather

variable (r : Report) (rs : List Report)

/-- A report brings its request in (`gather`), unless an earlier one has. -/
theorem map_id_gather : (gather r rs).map (·.request.id) =
    if r.request.id ∈ rs.map (·.request.id) then rs.map (·.request.id)
    else rs.map (·.request.id) ++ [r.request.id] := by
  have hmem : rs.any (·.request.id = r.request.id) = true ↔
      r.request.id ∈ rs.map (·.request.id) := by
    rw [List.any_eq_true, List.mem_map]
    exact exists_congr fun q ↦ and_congr_right fun _ ↦ decide_eq_true_iff
  by_cases hr : r.request.id ∈ rs.map (·.request.id)
  · rw [gather, if_pos (hmem.2 hr), if_pos hr, List.map_map]
    refine List.map_congr_left fun q _ ↦ ?_
    show (if q.request.id = r.request.id then r else q).request.id = q.request.id
    split
    · next hq => exact hq.symm
    · rfl
  · rw [gather, if_neg fun hany ↦ hr (hmem.1 hany), if_neg hr, List.map_append,
      List.map_singleton]

/-- What is left of reports that were taken one after the other (`gather`). -/
def gatherAll : List Report → List Report :=
  List.foldl (fun taken r ↦ gather r taken) []

theorem gatherAll_append_singleton : gatherAll (rs ++ [r]) = gather r (gatherAll rs) := by
  rw [gatherAll, List.foldl_append]
  rfl

/-- Of reports that were taken one after the other, each request keeps one. -/
theorem nodup_gatherAll : ((gatherAll rs).map (·.request.id)).Nodup ∧
    ∀ id, id ∈ (gatherAll rs).map (·.request.id) ↔ id ∈ rs.map (·.request.id) := by
  induction rs using List.reverseRecOn with
  | nil => exact ⟨List.nodup_nil, fun _ ↦ Iff.rfl⟩
  | append_singleton rs r ih =>
    obtain ⟨hd, hmem⟩ := ih
    rw [gatherAll_append_singleton, map_id_gather]
    split
    · next hr =>
      refine ⟨hd, fun id ↦ ?_⟩
      rw [hmem] at hr ⊢
      simp only [List.map_append, List.mem_append, List.map_singleton, List.mem_singleton]
      constructor
      · exact .inl
      · rintro (hid | rfl)
        · exact hid
        · exact hr
    · next hr =>
      refine ⟨by simpa only [List.concat_eq_append] using hd.concat hr, fun id ↦ ?_⟩
      rw [List.map_append, List.mem_append, List.mem_append, hmem, List.map_singleton]

end Gather

/-- There is one report for each request of which any was taken. -/
theorem length_gatherAll {rs : List Report} (hd : (requests.map (·.id)).Nodup)
    (hsub : ∀ r ∈ rs, r.request ∈ requests) :
    (gatherAll rs).length = (requests.filter fun q ↦ rs.any (·.request.id = q.id)).length := by
  obtain ⟨hnodup, hmem⟩ := nodup_gatherAll rs
  have hfilter : ((requests.filter fun q ↦ rs.any (·.request.id = q.id)).map (·.id)).Nodup :=
    hd.sublist (List.filter_sublist.map _)
  have hperm : ((gatherAll rs).map (·.request.id)).Perm
      ((requests.filter fun q ↦ rs.any (·.request.id = q.id)).map (·.id)) := by
    rw [List.perm_ext_iff_of_nodup hnodup hfilter]
    intro id
    rw [hmem]
    simp only [List.mem_map, List.mem_filter, List.any_eq_true, decide_eq_true_eq]
    constructor
    · rintro ⟨r, hr, rfl⟩
      exact ⟨r.request, ⟨hsub r hr, r, hr, rfl⟩, rfl⟩
    · rintro ⟨q, ⟨-, r, hr, hid⟩, rfl⟩
      exact ⟨r, hr, hid⟩
  have hlength := hperm.length_eq
  rwa [List.length_map, List.length_map] at hlength

/-! ### What the turns tell -/

/-- The report that the caller takes in a turn. -/
def Turn.collected (t : Turn) : List Report :=
  match t.move, t.before.reports.items with
  | .collect, r :: _ => [r]
  | _, _ => []

/-- The reports that the caller took, in order. -/
def collectedIn (h : List Turn) : List Report :=
  h.flatMap Turn.collected

theorem collectedIn_append_singleton (h : List Turn) (t : Turn) :
    collectedIn (h ++ [t]) = collectedIn h ++ t.collected := by
  rw [collectedIn, List.flatMap_append, List.flatMap_singleton, collectedIn]

/-- A move that is not made to take a report takes none. -/
theorem Turn.collected_eq_nil (hm : m ≠ .collect) : Turn.collected ⟨s, m, ns⟩ = [] := by
  unfold Turn.collected
  split
  · next hcollect _ => exact absurd hcollect hm
  · rfl

/-! ### Requests of the session -/

/-- The `scheduler` collects for requests of the session, and its reports are of such requests. -/
structure Known (s : Session) : Prop where
  pending : ∀ ps, s.scheduler = .collecting ps → ∀ p ∈ ps, p.request ∈ s.requests
  reports : ∀ r ∈ s.reports.items, r.request ∈ s.requests

/-- What the scheduler takes in and lets out is of requests that it knows (`Known`). -/
theorem Known.working (hk : Known s) (hw : s.Wired) (h : Working s m s' ns) : Known s' := by
  cases h with
  | submit hs =>
    obtain rfl := hw.submitting _ hs
    refine { hk with pending := fun ps hps p hp ↦ ?_ }
    obtain rfl := Scheduler.collecting.inj hps
    obtain ⟨r, hr, rfl⟩ := List.mem_map.1 hp
    exact hr
  | ignore hs =>
    refine { hk with pending := fun ps hps p hp ↦ ?_ }
    obtain rfl := Scheduler.collecting.inj hps
    exact hk.pending _ hs p hp
  | retry hs _ hfound =>
    refine { hk with pending := fun ps hps p hp ↦ ?_ }
    obtain rfl := Scheduler.collecting.inj hps
    rcases Scheduler.eq_or_mem_of_mem_put hp with rfl | hp
    · have hknown := hk.pending _ hs _ (Scheduler.mem_of_find? hfound)
      exact hknown
    · exact hk.pending _ hs p hp
  | settle hs _ hfound =>
    refine ⟨fun ps hps p hp ↦ ?_, fun r hr ↦ ?_⟩
    · obtain rfl := Scheduler.collecting.inj hps
      exact hk.pending _ hs p (List.mem_filter.1 hp).1
    · rcases List.mem_append.1 hr with hr | hr
      · exact hk.reports r hr
      · rw [List.mem_singleton.1 hr]
        exact hk.pending _ hs _ (Scheduler.mem_of_find? hfound)
  | finish hs _ hfound =>
    refine ⟨(fun ps hps ↦ by cases hps), fun r hr ↦ ?_⟩
    rcases List.mem_append.1 hr with hr | hr
    · exact hk.reports r hr
    · rw [List.mem_singleton.1 hr]
      exact hk.pending _ hs _ (Scheduler.mem_of_find? hfound)
  | gather => exact { hk with reports := fun r hr ↦ hk.reports r (List.mem_of_mem_tail hr) }
  | _ => exact { hk with }

/-- What the caller has is what is left (`gatherAll`) of the reports that it took (`collectedIn`),
all of them of requests of the session. -/
structure Collected (requests : List Request) (h : List Turn) (s : Session) : Prop where
  collected : s.collected = gatherAll (collectedIn h)
  known : ∀ r ∈ collectedIn h, r.request ∈ requests

theorem Collected.length_eq (hc : Collected requests h s) (hd : (requests.map (·.id)).Nodup) :
    s.collected.length =
      (requests.filter fun q ↦ (collectedIn h).any (·.request.id = q.id)).length := by
  rw [hc.collected, length_gatherAll hd hc.known]

/-- A turn in which nothing is taken and nothing dropped. -/
theorem Collected.turn (hc : Collected requests h s) (hm : m ≠ .collect)
    (hs : s'.collected = s.collected) : Collected requests (h ++ [⟨s, m, ns⟩]) s' := by
  have hsame : collectedIn (h ++ [⟨s, m, ns⟩]) = collectedIn h := by
    rw [collectedIn_append_singleton, Turn.collected_eq_nil hm, List.append_nil]
  refine ⟨?_, ?_⟩
  · rw [hsame, hs]
    exact hc.collected
  · rw [hsame]
    exact hc.known

/-- While a session is at work, every report that the caller takes is of a request of the
session. -/
theorem Collected.working (hc : Collected s.requests h s) (hk : Known s)
    (hwk : Working s m s' ns) : Collected s.requests (h ++ [⟨s, m, ns⟩]) s' := by
  by_cases hm : m = .collect
  · subst hm
    cases hwk with
    | errand hm => cases hm
    | @gather r rest hr =>
      have htaken : Turn.collected ⟨s, .collect, []⟩ = [r] := by
        simp [Turn.collected, hr]
      refine ⟨?_, ?_⟩
      · rw [collectedIn_append_singleton, htaken, gatherAll_append_singleton, ← hc.collected]
      · intro q hq
        rw [collectedIn_append_singleton, htaken] at hq
        rcases List.mem_append.1 hq with hq | hq
        · exact hc.known q hq
        · obtain rfl := List.mem_singleton.1 hq
          exact hk.reports q (by rw [hr]; exact List.mem_cons_self)
  · refine hc.turn hm ?_
    cases hwk with
    | gather => exact absurd rfl hm
    | _ => rfl

/-- **What the caller of a session at work has collected** (`Collected`). -/
theorem Course.collected (hc : Course (call capacity requests).1 h s)
    (hs : s.stage = .collecting) : Known s ∧ Collected requests h s := by
  induction hc with
  | start =>
    rcases call_cases capacity requests with ⟨-, h⟩ | ⟨e, h⟩ | h | ⟨-, -, -, h⟩
    all_goals rw [h] at hs; cases hs
  | @turn h s s' ns m hc hstep ih =>
    rcases (stageChange_of_step hstep).before_collecting hs with hbefore | ⟨hbefore, rfl⟩
    · obtain ⟨hk, hcollected⟩ := ih hbefore
      obtain ⟨rfl, hw⟩ := hc.wired hbefore
      have hwk := hw.working_of_step hstep hs
      exact ⟨hk.working hw hwk, hcollected.working hk hwk⟩
    · obtain ⟨rfl, -, -, -, c, rfl⟩ := hc.claiming hbefore
      obtain ⟨rfl, rfl⟩ := Prod.mk.inj (Option.some.inj hstep).symm
      exact ⟨⟨(fun ps hps ↦ by cases hps), fun r hr ↦ by cases hr⟩, rfl, fun r hr ↦ by cases hr⟩
  | feed c hc ih =>
    obtain ⟨hk, hcollected⟩ := ih hs
    exact ⟨{ hk with }, { hcollected with }⟩

end Session

end DeviceLab
