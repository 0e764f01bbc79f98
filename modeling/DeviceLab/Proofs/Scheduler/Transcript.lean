import Mathlib.Data.List.Induction
import DeviceLab.Proofs.Distinct
import DeviceLab.Proofs.Scheduler

/-!
# What a scheduler makes of a stream of outcomes

A scheduler is given requests and then reads outcomes, of any requests and in any order, until
nothing is left to settle. Its `transcript` is everything that it lets out on the way. All that the
transcript says about one request is decided by the outcomes of that request alone (`runsFor`): the
runs so far settle it (`Settles`) as soon as the last one says something about the test, or as soon
as there are as many as are allowed.

`Standing` says how a request stands after some of its runs, and what the transcript has about it.
`Standing.fed` says that every outcome keeps the standing of every request, since it is an outcome
of at most one of them; it rests on the cases of `Fed` for what the scheduler does, and on
`Unsettled.nextAttempt_eq` for what it should do. `standing_transcript` follows the whole stream.

`transcript_eq` reads the result off `Standing`. That two schedulers agree on a request whenever its
own outcomes agree rests on `Standing.unique`, and the verdict on `SettledBy.verdict?`.
-/

namespace DeviceLab

namespace Scheduler

/-! ### Transcripts -/

/-- Everything that two steps let out. -/
def Output.andThen (a b : Output) : Output where
  attempts := a.attempts ++ b.attempts
  reports := a.reports ++ b.reports
  notices := a.notices ++ b.notices

/-- Feeds one outcome to a scheduler whose attempts are taken. One that is off reads nothing. -/
def feed (s : Scheduler) (o : AttemptOutcome) : Scheduler × Output :=
  match s with
  | .collecting ps => receive ps o true
  | s => (s, {})

/-- Feeds a stream of outcomes (`feed`) to a scheduler that has let something out before. -/
def feedAll (s : Scheduler × Output) (stream : List AttemptOutcome) : Scheduler × Output :=
  stream.foldl (fun s o ↦ ((s.1.feed o).1, s.2.andThen (s.1.feed o).2)) s

/-- What a scheduler lets out when no outcome will come any more. -/
def atEnd (s : Scheduler) : Output :=
  match s with
  | .collecting ps => (giveUp ps).2
  | _ => {}

/-- Everything that a scheduler lets out (`feedAll`, `atEnd`) that submits requests and reads a
whole stream of outcomes. -/
def transcript (rs : List Request) (stream : List AttemptOutcome) : Output :=
  let last := feedAll (submit rs true) stream
  last.2.andThen last.1.atEnd

/-- The attempts of one request, in order. -/
def attemptsFor (id : Uuid) (out : Output) : List Attempt :=
  out.attempts.filter (·.request.id = id)

/-- The reports about one request, in order. -/
def reportsFor (id : Uuid) (out : Output) : List Report :=
  out.reports.filter (·.request.id = id)

/-- The runs of one request, in order. -/
def runsFor (id : Uuid) (stream : List AttemptOutcome) : List DeviceRun :=
  (stream.filter (·.request = id)).map (·.run)

section Append

variable (id : Uuid)

theorem attemptsFor_andThen (a b : Output) :
    attemptsFor id (a.andThen b) = attemptsFor id a ++ attemptsFor id b :=
  List.filter_append ..

theorem reportsFor_andThen (a b : Output) :
    reportsFor id (a.andThen b) = reportsFor id a ++ reportsFor id b :=
  List.filter_append ..

theorem attemptsFor_transcript (rs : List Request) (stream : List AttemptOutcome) :
    attemptsFor id (transcript rs stream) =
      attemptsFor id (feedAll (submit rs true) stream).2 := by
  rw [transcript, attemptsFor_andThen]
  cases (feedAll (submit rs true) stream).1 <;> exact List.append_nil _

theorem reportsFor_transcript (rs : List Request) (stream : List AttemptOutcome) :
    reportsFor id (transcript rs stream) =
      reportsFor id (feedAll (submit rs true) stream).2 := by
  rw [transcript, reportsFor_andThen]
  cases (feedAll (submit rs true) stream).1 <;> exact List.append_nil _

theorem runsFor_concat (stream : List AttemptOutcome) (o : AttemptOutcome) :
    runsFor id (stream ++ [o]) =
      runsFor id stream ++ if o.request = id then [o.run] else [] := by
  rw [runsFor, List.filter_append, List.map_append, runsFor]
  by_cases h : o.request = id <;> simp [h]

end Append

theorem feedAll_concat (s : Scheduler × Output) (stream : List AttemptOutcome)
    (o : AttemptOutcome) :
    feedAll s (stream ++ [o]) =
      (((feedAll s stream).1.feed o).1,
        (feedAll s stream).2.andThen ((feedAll s stream).1.feed o).2) := by
  rw [feedAll, List.foldl_concat, ← feedAll]

/-! ### What settles a request -/

/-- The runs of a request settle it: the last one says something about the test, or there are as
many as are allowed. -/
def Settles (r : Request) (runs : List DeviceRun) : Prop :=
  (∃ last, runs.getLast? = some last ∧ last.isInfrastructure = false) ∨
    runs.length = max 1 r.maxAttempts.toNat

variable {r : Request} {runs p : List DeviceRun} {run : DeviceRun}

theorem settles_concat :
    Settles r (runs ++ [run]) ↔
      run.isInfrastructure = false ∨ runs.length + 1 = max 1 r.maxAttempts.toNat := by
  rw [Settles, List.getLast?_concat, List.length_append, List.length_singleton]
  simp

/-- No runs at all settle nothing. -/
theorem not_settles_nil : ¬ Settles r [] := by
  rintro (⟨last, hlast, -⟩ | hlen)
  · cases hlast
  · rw [List.length_nil] at hlen
    omega

/-- None of the beginnings of the runs settles the request (`Settles`). -/
def Unsettled (r : Request) (runs : List DeviceRun) : Prop :=
  ∀ p, p <+: runs → ¬ Settles r p

/-- The first runs that settle the request: they do (`Settles`), and every beginning of the runs
that does has them in it. -/
structure SettledBy (r : Request) (runs p : List DeviceRun) : Prop where
  isPrefix : p <+: runs
  settles : Settles r p
  shortest : ∀ p', p' <+: runs → Settles r p' → p <+: p'

theorem unsettled_nil : Unsettled r [] := by
  intro p hp
  rw [List.prefix_nil.1 hp]
  exact not_settles_nil

/-- As long as no beginning settles a request (`Unsettled`) there are fewer runs than are
allowed. -/
theorem Unsettled.length_lt (h : Unsettled r runs) : runs.length < max 1 r.maxAttempts.toNat := by
  by_contra hle
  have hle := Nat.le_of_not_lt hle
  refine h _ (List.take_prefix (max 1 r.maxAttempts.toNat) runs) (.inr ?_)
  rw [List.length_take, Nat.min_eq_left hle]

/-- What settles a request once settles it whatever comes later. -/
theorem SettledBy.append (h : SettledBy r runs p) (more : List DeviceRun) :
    SettledBy r (runs ++ more) p where
  isPrefix := h.isPrefix.trans (List.prefix_append _ _)
  settles := h.settles
  shortest p' hp' hs := by
    rcases Nat.le_total p.length p'.length with hle | hle
    · exact List.prefix_of_prefix_length_le (h.isPrefix.trans (List.prefix_append _ _)) hp' hle
    · have hruns : p' <+: runs := (List.prefix_of_prefix_length_le hp'
        (h.isPrefix.trans (List.prefix_append _ _)) hle).trans h.isPrefix
      exact h.shortest p' hruns hs

/-- One more run may settle a request. -/
theorem Unsettled.settledBy (h : Unsettled r runs) (hs : Settles r (runs ++ [run])) :
    SettledBy r (runs ++ [run]) (runs ++ [run]) where
  isPrefix := List.prefix_rfl
  settles := hs
  shortest p hp hps := by
    rcases List.prefix_concat_iff.1 hp with rfl | hp
    · exact List.prefix_rfl
    · exact absurd hps (h p hp)

/-- Or it may not. -/
theorem Unsettled.concat (h : Unsettled r runs) (hs : ¬ Settles r (runs ++ [run])) :
    Unsettled r (runs ++ [run]) := by
  intro p hp
  rcases List.prefix_concat_iff.1 hp with rfl | hp
  · exact hs
  · exact h p hp

/-- **Another attempt is made exactly if the runs do not settle the request**, and it has the next
number (`nextAttempt`). -/
theorem Unsettled.nextAttempt_eq (h : Unsettled r runs) (run : DeviceRun) :
    (Settles r (runs ++ [run]) ∧ nextAttempt r.maxAttempts (runs ++ [run]) = none) ∨
      (¬ Settles r (runs ++ [run]) ∧
        nextAttempt r.maxAttempts (runs ++ [run]) = some (UInt32.ofNat (runs.length + 2))) := by
  rw [settles_concat]
  cases hnext : nextAttempt r.maxAttempts (runs ++ [run]) with
  | none =>
    refine .inl ⟨?_, rfl⟩
    cases hbroken : run.isInfrastructure with
    | false => exact .inl rfl
    | true => exact .inr (nextAttempt_eq_none hnext h.length_lt hbroken)
  | some k =>
    obtain ⟨hbroken, hlen, hk⟩ := nextAttempt_eq_some hnext
    refine .inr ⟨?_, by rw [← hk, UInt32.ofNat_toNat]⟩
    rintro (hsound | hfull)
    · rw [hbroken] at hsound
      cases hsound
    · omega

/-- What settles a request first is never empty. -/
theorem SettledBy.exists_concat (h : SettledBy r runs p) : ∃ before last, p = before ++ [last] := by
  rcases List.eq_nil_or_concat p with rfl | ⟨before, last, rfl⟩
  · exact absurd h.settles not_settles_nil
  · exact ⟨before, last, List.concat_eq_append⟩

/-- There is only one beginning that settles a request first. -/
theorem SettledBy.unique {p' : List DeviceRun} (h : SettledBy r runs p) (h' : SettledBy r runs p') :
    p = p' :=
  (h.shortest p' h'.isPrefix h'.settles).eq_of_length_le
    (h'.shortest p h.isPrefix h.settles).length_le

/-- A request is `Unsettled`, or it was settled at some point. -/
theorem SettledBy.not_unsettled (h : SettledBy r runs p) : ¬ Unsettled r runs :=
  fun hu ↦ hu p h.isPrefix h.settles

/-- The runs before the one that settles a request all broke. -/
theorem SettledBy.isInfrastructure {before : List DeviceRun} {last : DeviceRun}
    (h : SettledBy r runs (before ++ [last])) : ∀ x ∈ before, x.isInfrastructure = true := by
  intro x hx
  obtain ⟨older, newer, rfl⟩ := List.append_of_mem hx
  by_contra hsound
  have hshort : older ++ [x] <+: (older ++ x :: newer) ++ [last] := ⟨newer ++ [last], by simp⟩
  have hle := (h.shortest _ (hshort.trans h.isPrefix)
    (settles_concat.2 (.inl (by simpa using hsound)))).length_le
  simp at hle

/-- **The verdict on the first runs that settle a request is their last one**
(`Report.verdict?`). -/
theorem SettledBy.verdict? (h : SettledBy r runs p) : Report.verdict? ⟨r, p⟩ = p.getLast? := by
  obtain ⟨before, last, rfl⟩ := h.exists_concat
  rw [Report.verdict?, List.reverse_concat, List.find?_cons, List.getLast?_concat]
  cases hlast : last.isInfrastructure with
  | false => rfl
  | true =>
    have hnone : before.reverse.find? (!·.isInfrastructure) = none := by
      rw [List.find?_eq_none]
      intro x hx
      rw [h.isInfrastructure x (List.mem_reverse.1 hx)]
      exact Bool.false_ne_true
    simp only [Bool.not_true, hnone, Option.none_or]

/-! ### What a step does -/

/-- The requests that a scheduler has not settled. -/
def pendingOf : Scheduler → List Pending
  | .collecting ps => ps
  | _ => []

/-- What an outcome makes of the unsettled requests, and what is let out. -/
inductive Fed (ps : List Pending) (o : AttemptOutcome) :
    List Pending → List Attempt → List Report → Prop
  /-- The request is not known, or was settled before. -/
  | ignored (hp : find? o.request ps = none) : Fed ps o ps [] []
  /-- Another attempt is made. -/
  | retried {p : Pending} {k : UInt32} (hp : find? o.request ps = some p)
      (hk : nextAttempt p.request.maxAttempts (p.runs ++ [o.run]) = some k) :
      Fed ps o (put ⟨p.request, p.runs ++ [o.run]⟩ ps) [⟨p.request, k⟩] []
  /-- The request is settled. -/
  | settled {p : Pending} (hp : find? o.request ps = some p)
      (hk : nextAttempt p.request.maxAttempts (p.runs ++ [o.run]) = none) :
      Fed ps o (erase o.request ps) [] [⟨p.request, p.runs ++ [o.run]⟩]

theorem pendingOf_collect (ps : List Pending) (out : Output) :
    pendingOf (collect ps out).1 = ps ∧ (collect ps out).2.attempts = out.attempts ∧
      (collect ps out).2.reports = out.reports := by
  rw [collect]
  split
  · next hempty => exact ⟨(List.isEmpty_iff.1 hempty).symm, rfl, rfl⟩
  · exact ⟨rfl, rfl, rfl⟩

/-- **What feeding an outcome can do** (`Fed`). Later proofs go by the cases of `Fed`. -/
theorem fed (s : Scheduler) (o : AttemptOutcome) :
    Fed s.pendingOf o (s.feed o).1.pendingOf (s.feed o).2.attempts (s.feed o).2.reports := by
  cases s with
  | off => exact .ignored rfl
  | submitting => exact .ignored rfl
  | collecting ps =>
    show Fed ps o (receive ps o true).1.pendingOf (receive ps o true).2.attempts
      (receive ps o true).2.reports
    cases hp : find? o.request ps with
    | none =>
      simp only [receive, hp]
      exact .ignored hp
    | some p =>
      cases hk : nextAttempt p.request.maxAttempts (p.runs ++ [o.run]) with
      | some k =>
        simp only [receive, hp, hk, if_true]
        exact .retried hp hk
      | none =>
        simp only [receive, hp, hk]
        obtain ⟨hps, hattempts, hreports⟩ := pendingOf_collect (erase o.request ps)
          { reports := [⟨p.request, p.runs ++ [o.run]⟩] }
        rw [hps, hattempts, hreports]
        exact .settled hp hk

section Fed

variable {ps ps' : List Pending} {o : AttemptOutcome} {as : List Attempt} {reps : List Report}
  {id : Uuid}

theorem id_of_find? {p : Pending} (hp : find? id ps = some p) : p.request.id = id := by
  simpa using List.find?_some hp

/-- An outcome of one request does nothing about another. -/
theorem Fed.of_ne (h : Fed ps o ps' as reps) (hid : id ≠ o.request) :
    find? id ps' = find? id ps ∧ as.filter (·.request.id = id) = [] ∧
      reps.filter (·.request.id = id) = [] := by
  cases h with
  | ignored => exact ⟨rfl, rfl, rfl⟩
  | @retried p k hp hk =>
    have hp' := id_of_find? hp
    have hknown : (find? p.request.id ps).isSome = true := by rw [hp', hp, Option.isSome_some]
    refine ⟨find?_put_of_ne hknown (hp' ▸ hid), ?_, rfl⟩
    exact List.filter_cons_of_neg (by simpa [hp'] using hid.symm)
  | @settled p hp hk =>
    have hp' := id_of_find? hp
    refine ⟨find?_erase_of_ne hid ps, rfl, ?_⟩
    exact List.filter_cons_of_neg (by simpa [hp'] using hid.symm)

/-- A request that is not known stays so, and nothing is let out about it. -/
theorem Fed.of_none (h : Fed ps o ps' as reps) (hnone : find? id ps = none) :
    find? id ps' = none ∧ as.filter (·.request.id = id) = [] ∧
      reps.filter (·.request.id = id) = [] := by
  by_cases hid : id = o.request
  · subst hid
    cases h with
    | ignored => exact ⟨hnone, rfl, rfl⟩
    | retried hp => rw [hp] at hnone; cases hnone
    | settled hp => rw [hp] at hnone; cases hnone
  · rw [← hnone]
    exact h.of_ne hid

/-- A request that is known gets another attempt, or it is settled. -/
theorem Fed.of_some {p : Pending} (h : Fed ps o ps' as reps)
    (hp : find? o.request ps = some p) :
    (∃ k, nextAttempt p.request.maxAttempts (p.runs ++ [o.run]) = some k ∧
        find? o.request ps' = some ⟨p.request, p.runs ++ [o.run]⟩ ∧
        as = [⟨p.request, k⟩] ∧ reps = []) ∨
      (nextAttempt p.request.maxAttempts (p.runs ++ [o.run]) = none ∧
        find? o.request ps' = none ∧ as = [] ∧ reps = [⟨p.request, p.runs ++ [o.run]⟩]) := by
  have hid := id_of_find? hp
  cases h with
  | ignored hnone => rw [hp] at hnone; cases hnone
  | @retried p' k hp' hk =>
    obtain rfl : p' = p := Option.some.inj (hp'.symm.trans hp)
    have hknown : (find? p'.request.id ps).isSome = true := by rw [hid, hp, Option.isSome_some]
    refine .inl ⟨k, hk, ?_, rfl, rfl⟩
    rw [← hid]
    exact find?_put_self (p := ⟨p'.request, p'.runs ++ [o.run]⟩) hknown
  | @settled p' hp' hk =>
    obtain rfl : p' = p := Option.some.inj (hp'.symm.trans hp)
    exact .inr ⟨hk, find?_erase_self _ ps, rfl, rfl⟩

end Fed

/-! ### How a request stands -/

/-- The first attempts of a request. -/
def firstAttempts (r : Request) (k : Nat) : List Attempt :=
  (List.range' 1 k).map fun j ↦ ⟨r, UInt32.ofNat j⟩

theorem firstAttempts_succ (r : Request) (k : Nat) :
    firstAttempts r (k + 1) = firstAttempts r k ++ [⟨r, UInt32.ofNat (k + 1)⟩] := by
  rw [firstAttempts, List.range'_1_concat, List.map_append, firstAttempts, Nat.add_comm 1 k]
  rfl

/-- How a request stands after so many runs: what is pending of it, the attempts that were submitted
and the reports that were made. -/
inductive Standing (r : Request) (runs : List DeviceRun) :
    Option Pending → List Attempt → List Report → Prop
  /-- Each of the runs was followed by another attempt. -/
  | waiting (h : Unsettled r runs) :
      Standing r runs (some ⟨r, runs⟩) (firstAttempts r (1 + runs.length)) []
  /-- The request was settled, and each of the runs before that by another attempt. -/
  | settled {p : List DeviceRun} (h : SettledBy r runs p) :
      Standing r runs none (firstAttempts r (1 + p.dropLast.length)) [⟨r, p⟩]

/-- **Every outcome keeps the `Standing` of every request.** -/
theorem Standing.fed {ps ps' : List Pending} {o : AttemptOutcome} {as as' : List Attempt}
    {reps reps' : List Report} (hst : Standing r runs (find? r.id ps) as reps)
    (hf : Fed ps o ps' as' reps') :
    Standing r (runs ++ if o.request = r.id then [o.run] else []) (find? r.id ps')
      (as ++ as'.filter (·.request.id = r.id)) (reps ++ reps'.filter (·.request.id = r.id)) := by
  by_cases hid : o.request = r.id
  · rw [if_pos hid]
    generalize hp : find? r.id ps = pending at hst
    cases hst with
    | settled h =>
      obtain ⟨hnone, has, hreps⟩ := hf.of_none hp
      rw [hnone, has, hreps, List.append_nil, List.append_nil]
      exact .settled (h.append _)
    | waiting h =>
      rw [← hid] at hp ⊢
      rcases hf.of_some hp with ⟨k, hk, hp', rfl, rfl⟩ | ⟨hk, hp', rfl, rfl⟩
      · rcases h.nextAttempt_eq o.run with ⟨-, hnext⟩ | ⟨hs, hnext⟩
        · rw [hk] at hnext
          cases hnext
        · obtain rfl := Option.some.inj (hk.symm.trans hnext)
          have hwaiting := Standing.waiting (h.concat hs)
          rw [List.length_append, List.length_singleton, ← Nat.add_assoc, firstAttempts_succ,
            Nat.add_comm 1 runs.length] at hwaiting
          rw [hp', List.filter_singleton, decide_eq_true hid.symm, Nat.add_comm 1 runs.length]
          exact hwaiting
      · rcases h.nextAttempt_eq o.run with ⟨hs, -⟩ | ⟨-, hnext⟩
        · have hsettled := Standing.settled (h.settledBy hs)
          rw [List.dropLast_concat] at hsettled
          rw [hp', List.filter_singleton, decide_eq_true hid.symm, List.filter_nil, List.append_nil]
          exact hsettled
        · rw [hk] at hnext
          cases hnext
  · obtain ⟨hp, has, hreps⟩ := hf.of_ne (Ne.symm hid)
    rw [if_neg hid, hp, has, hreps, List.append_nil, List.append_nil, List.append_nil]
    exact hst

/-! ### Transcripts of distinct requests -/

variable {rs : List Request} {id : Uuid}

/-- Submitting requests makes all of them pending (`pendingOf`), with one attempt each. -/
theorem submit_eq (hd : (rs.map (·.id)).Nodup) :
    (submit rs true).1.pendingOf = rs.map (fun r ↦ ⟨r, []⟩) ∧
      (submit rs true).2.attempts = rs.map (fun r ↦ ⟨r, 1⟩) ∧ (submit rs true).2.reports = [] := by
  have hput := foldl_put [] (by simpa using hd)
  rw [List.nil_append] at hput
  rw [submit, Bool.not_true, Bool.false_and, if_neg Bool.false_ne_true, hput]
  exact pendingOf_collect _ _

/-- A request that was just submitted waits for its first run. -/
theorem standing_submit (hd : (rs.map (·.id)).Nodup) (hr : r ∈ rs) :
    Standing r [] (find? r.id (submit rs true).1.pendingOf) (attemptsFor r.id (submit rs true).2)
      (reportsFor r.id (submit rs true).2) := by
  obtain ⟨hpending, hattempts, hreports⟩ := submit_eq hd
  have hfind : find? r.id (rs.map fun r ↦ ⟨r, []⟩) = some ⟨r, []⟩ :=
    find?_key_eq (f := fun p : Pending ↦ p.request.id) (a := ⟨r, []⟩)
      (by rwa [List.map_map]) (List.mem_map_of_mem hr)
  have hfirst : (rs.map fun r ↦ (⟨r, 1⟩ : Attempt)).filter (·.request.id = r.id) = [⟨r, 1⟩] :=
    filter_key_eq_singleton (f := fun a : Attempt ↦ a.request.id) (a := ⟨r, 1⟩)
      (by rwa [List.map_map]) (List.mem_map_of_mem hr)
  rw [hpending, attemptsFor, reportsFor, hattempts, hreports, hfind, hfirst]
  exact .waiting unsettled_nil

/-- **Along a stream of outcomes every request stands as its own runs say** (`runsFor`), by
`Standing.fed`. -/
theorem standing_feedAll (hd : (rs.map (·.id)).Nodup) (hr : r ∈ rs)
    (stream : List AttemptOutcome) :
    let s := feedAll (submit rs true) stream
    Standing r (runsFor r.id stream) (find? r.id s.1.pendingOf) (attemptsFor r.id s.2)
      (reportsFor r.id s.2) := by
  induction stream using List.reverseRecOn with
  | nil => exact standing_submit hd hr
  | append_singleton stream o ih =>
    simp only [feedAll_concat, runsFor_concat, attemptsFor_andThen, reportsFor_andThen]
    exact ih.fed (fed _ o)

/-- Nothing is ever let out about a request that was not submitted. -/
theorem feedAll_of_unknown (hd : (rs.map (·.id)).Nodup) (hid : id ∉ rs.map (·.id))
    (stream : List AttemptOutcome) :
    let s := feedAll (submit rs true) stream
    find? id s.1.pendingOf = none ∧ attemptsFor id s.2 = [] ∧ reportsFor id s.2 = [] := by
  induction stream using List.reverseRecOn with
  | nil =>
    obtain ⟨hpending, hattempts, hreports⟩ := submit_eq hd
    have hne (r : Request) (hr : r ∈ rs) : r.id ≠ id := fun he ↦ hid (he ▸ List.mem_map_of_mem hr)
    show find? id (submit rs true).1.pendingOf = none ∧ attemptsFor id (submit rs true).2 = [] ∧
      reportsFor id (submit rs true).2 = []
    rw [hpending, attemptsFor, reportsFor, hattempts, hreports]
    refine ⟨?_, ?_, rfl⟩
    · rw [find?, List.find?_eq_none]
      intro p hp
      obtain ⟨r, hr, rfl⟩ := List.mem_map.1 hp
      simpa using hne r hr
    · rw [List.filter_eq_nil_iff]
      intro a ha
      obtain ⟨r, hr, rfl⟩ := List.mem_map.1 ha
      simpa using hne r hr
  | append_singleton stream o ih =>
    obtain ⟨hnone, hattempts, hreports⟩ := ih
    obtain ⟨hp, has, hreps⟩ := (fed (feedAll (submit rs true) stream).1 o).of_none hnone
    simp only [feedAll_concat, attemptsFor_andThen, reportsFor_andThen, hattempts, hreports]
    exact ⟨hp, has, hreps⟩

/-- How a request stands (`Standing`) at the end of its transcript. -/
theorem standing_transcript (hd : (rs.map (·.id)).Nodup) (hr : r ∈ rs)
    (stream : List AttemptOutcome) :
    ∃ pending, Standing r (runsFor r.id stream) pending (attemptsFor r.id (transcript rs stream))
      (reportsFor r.id (transcript rs stream)) := by
  rw [attemptsFor_transcript, reportsFor_transcript]
  exact ⟨_, standing_feedAll hd hr stream⟩

/-- What is pending, submitted and reported of a request is decided by its runs. -/
theorem Standing.unique {pending pending' : Option Pending} {as as' : List Attempt}
    {reps reps' : List Report} (h : Standing r runs pending as reps)
    (h' : Standing r runs pending' as' reps') : as = as' ∧ reps = reps' := by
  cases h with
  | waiting h =>
    cases h' with
    | waiting => exact ⟨rfl, rfl⟩
    | settled h' => exact absurd h h'.not_unsettled
  | settled h =>
    cases h' with
    | waiting h' => exact absurd h' h.not_unsettled
    | settled h' =>
      obtain rfl := h.unique h'
      exact ⟨rfl, rfl⟩

/-- The runs before those that settle a request leave it unsettled. -/
theorem SettledBy.unsettled_dropLast (h : SettledBy r runs p) : Unsettled r p.dropLast := by
  intro p' hp' hs
  obtain ⟨before, last, rfl⟩ := h.exists_concat
  rw [List.dropLast_concat] at hp'
  have hruns : p' <+: runs := (hp'.trans (List.prefix_append _ _)).trans h.isPrefix
  have hle := Nat.le_trans (h.shortest p' hruns hs).length_le hp'.length_le
  rw [List.length_append, List.length_singleton] at hle
  exact Nat.not_succ_le_self _ hle

/-- As long as a request is unsettled no number of an attempt is too large. -/
theorem Unsettled.executions (h : Unsettled r runs) :
    (firstAttempts r (1 + runs.length)).map (·.execution.toNat) =
      List.range' 1 (1 + runs.length) := by
  rw [firstAttempts, List.map_map]
  refine (List.map_congr_left fun j hj ↦ ?_).trans (List.map_id _)
  have hmax : r.maxAttempts.toNat < UInt32.size := UInt32.toNat_lt_size r.maxAttempts
  have hsize : UInt32.size = 4294967296 := rfl
  have hlen := h.length_lt
  rw [List.mem_range'_1] at hj
  exact UInt32.toNat_ofNat_of_lt' (by omega)

/-- The attempts of a request are numbered from one on, and there are no more than are allowed. -/
theorem Standing.executions {pending : Option Pending} {as : List Attempt} {reps : List Report}
    (h : Standing r runs pending as reps) :
    as.length ≤ max 1 r.maxAttempts.toNat ∧
      as.map (·.execution.toNat) = List.range' 1 as.length := by
  obtain ⟨u, hu, rfl⟩ : ∃ u, Unsettled r u ∧ as = firstAttempts r (1 + u.length) := by
    cases h with
    | waiting h => exact ⟨runs, h, rfl⟩
    | settled h => exact ⟨_, h.unsettled_dropLast, rfl⟩
  have hlen : (firstAttempts r (1 + u.length)).length = 1 + u.length := by
    rw [firstAttempts, List.length_map, List.length_range']
  rw [hlen, hu.executions]
  exact ⟨Nat.add_comm 1 _ ▸ hu.length_lt, rfl⟩

/-! ### The theorem -/

/-- **What a scheduler makes of a stream of outcomes.** Let the requests have distinct identifiers,
and take any stream of outcomes, of known and unknown requests, in any order, whatever comes after a
request was settled included.

If a beginning of the runs of a request (`runsFor`) settles it, the transcript has one report about
the request, with the shortest such beginning (`SettledBy`), of which the verdict is the last run;
and the attempts are the first one and one more for each run before that (`firstAttempts`). If none
does, there is no report, and one more attempt for each of the runs. Attempts are numbered from one
on, without gaps, up to what is allowed. About other identifiers the transcript says nothing.

Hence what it says of a request is the same for all requests and streams that agree on the request
and its runs. -/
theorem transcript_eq (hd : (rs.map (·.id)).Nodup) (stream : List AttemptOutcome) :
    (∀ r ∈ rs,
      let runs := runsFor r.id stream
      let attempts := attemptsFor r.id (transcript rs stream)
      let reports := reportsFor r.id (transcript rs stream)
      ((∃ p, p <+: runs ∧ Settles r p) → ∃ p, SettledBy r runs p ∧ reports = [⟨r, p⟩] ∧
          Report.verdict? ⟨r, p⟩ = p.getLast? ∧
          attempts = firstAttempts r (1 + p.dropLast.length)) ∧
        ((¬ ∃ p, p <+: runs ∧ Settles r p) → reports = [] ∧
          attempts = firstAttempts r (1 + runs.length)) ∧
        attempts.length ≤ max 1 r.maxAttempts.toNat ∧
        attempts.map (·.execution.toNat) = List.range' 1 attempts.length ∧
        ∀ rs' stream', (rs'.map (·.id)).Nodup → r ∈ rs' → runsFor r.id stream' = runs →
          attemptsFor r.id (transcript rs' stream') = attempts ∧
            reportsFor r.id (transcript rs' stream') = reports) ∧
      ∀ id ∉ rs.map (·.id), attemptsFor id (transcript rs stream) = [] ∧
        reportsFor id (transcript rs stream) = [] := by
  refine ⟨fun r hr ↦ ?_, fun id hid ↦ ?_⟩
  · obtain ⟨pending, hst⟩ := standing_transcript hd hr stream
    refine ⟨?_, ?_, hst.executions.1, hst.executions.2, fun rs' stream' hd' hr' hruns ↦ ?_⟩
    · rintro ⟨p, hp, hs⟩
      generalize attemptsFor r.id (transcript rs stream) = as at hst ⊢
      generalize reportsFor r.id (transcript rs stream) = reps at hst ⊢
      cases hst with
      | waiting h => exact absurd hs (h p hp)
      | settled h => exact ⟨_, h, rfl, h.verdict?, rfl⟩
    · intro hnone
      generalize attemptsFor r.id (transcript rs stream) = as at hst ⊢
      generalize reportsFor r.id (transcript rs stream) = reps at hst ⊢
      cases hst with
      | waiting h => exact ⟨rfl, rfl⟩
      | settled h => exact absurd ⟨_, h.isPrefix, h.settles⟩ hnone
    · obtain ⟨pending', hst'⟩ := standing_transcript hd' hr' stream'
      rw [hruns] at hst'
      exact hst'.unique hst
  · obtain ⟨-, hattempts, hreports⟩ := feedAll_of_unknown hd hid stream
    rw [attemptsFor_transcript, reportsFor_transcript]
    exact ⟨hattempts, hreports⟩

/-! ### A sample -/

/-- A request that allows so many attempts. -/
def sampleRequest (number : Nat) (maxAttempts : UInt32) : Request where
  id := .numbered 0 number
  testCase := ⟨"LoginTest", "login", "api29"⟩
  target := ⟨"api29", 29, "pixel", none⟩
  application := none
  testApplication := ⟨"test.apk", "com.example.test"⟩
  params := .empty
  maxAttempts := maxAttempts
  timeout := .ofMillis 1000

/-- A run with an outcome. -/
def sampleRun (outcome : Outcome) : DeviceRun :=
  ⟨⟨⟨"LoginTest", "login", "api29"⟩, outcome, 5, 9⟩, ⟨.attached "emulator-5554", "pixel", 29⟩⟩

/-- A run that the infrastructure failed. -/
def sampleBroken : DeviceRun :=
  sampleRun (.failed (.infrastructure "offline"))

/-- The outcomes of two requests in turns, with one of an unknown request and two late ones. -/
def sampleTurns : List AttemptOutcome :=
  [⟨.numbered 0 3, sampleRun .passed⟩, ⟨.numbered 0 2, sampleBroken⟩, ⟨.numbered 0 1, sampleBroken⟩,
    ⟨.numbered 0 1, sampleRun .passed⟩, ⟨.numbered 0 2, sampleRun .passed⟩,
    ⟨.numbered 0 2, sampleRun .passed⟩]

/-- The first request is allowed no attempt and gets one; the second is allowed two, and needs
them. -/
theorem transcript_eq_of_turns :
    let rs := [sampleRequest 1 0, sampleRequest 2 2]
    (rs.map (·.id)).Nodup ∧
      (∃ p, SettledBy (sampleRequest 1 0) [sampleBroken, sampleRun .passed] p ∧
        reportsFor (.numbered 0 1) (transcript rs sampleTurns) = [⟨sampleRequest 1 0, p⟩]) ∧
      ∃ p, SettledBy (sampleRequest 2 2) [sampleBroken, sampleRun .passed, sampleRun .passed] p ∧
        reportsFor (.numbered 0 2) (transcript rs sampleTurns) = [⟨sampleRequest 2 2, p⟩] ∧
        attemptsFor (.numbered 0 2) (transcript rs sampleTurns) =
          firstAttempts (sampleRequest 2 2) (1 + p.dropLast.length) := by
  intro rs
  have hd : (rs.map (·.id)).Nodup := by decide
  have heq := (transcript_eq hd sampleTurns).1
  obtain ⟨p, hp, hreports, -⟩ := (heq (sampleRequest 1 0) (List.mem_cons_self ..)).1
    ⟨[sampleBroken], ⟨[sampleRun .passed], rfl⟩, .inr rfl⟩
  obtain ⟨p', hp', hreports', -, hattempts'⟩ := (heq (sampleRequest 2 2) (by simp [rs])).1
    ⟨[sampleBroken, sampleRun .passed], ⟨[sampleRun .passed], rfl⟩, .inr rfl⟩
  exact ⟨hd, ⟨p, hp, hreports⟩, p', hp', hreports', hattempts'⟩

example :
  reportsFor (.numbered 0 2) (transcript [sampleRequest 1 0, sampleRequest 2 2] sampleTurns) =
    [⟨sampleRequest 2 2, [sampleBroken, sampleRun .passed]⟩] := by decide +kernel

end Scheduler

end DeviceLab
