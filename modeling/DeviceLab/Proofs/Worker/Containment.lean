import DeviceLab.Proofs.Worker.Fitting
import DeviceLab.Proofs.Worker.Word

/-!
# How a worker gets through

Whatever its device does, a worker that waits for it gets on with the answer (`resume_isSome_iff`),
and a worker with an intention in hand is done with it after so many answers at most
(`Resumed.due_lt`). When it returns it says so (`FinalNotices`): that the device died or that it
finished, and a phase to match. It does that once, in the very step in which it returns
(`Course.finalNotices`).

The one answer on which nothing is said is a panic of the question for the health of the device. It
is the only command that is not guarded: a worker that asked it is over at once and has not returned
(`Resumed.crash?_eq`). `Resumed.balance` accounts for the intention in its hands.
-/

namespace DeviceLab

/-! ### Replies and commands -/

/-- Whether a reply answers a command. Asking for the health of a device has no way to fail. -/
def Reply.answers : Reply → Command → Bool
  | .status (.failed _), _ => false
  | .status _, .status => true
  | .installed _, .install _ => true
  | .cleared _, .clear _ => true
  | .ran _, .run _ => true
  | _, _ => false

/-- The panic that a reply brings, if it is one of the question for the health of the device. -/
def Reply.crash? : Reply → Option (Option String)
  | .status (.panicked m) => some m
  | _ => none

theorem Reply.eq_of_crash? {reply : Reply} {m : Option String} (h : reply.crash? = some m) :
    reply = .status (.panicked m) := by
  rw [crash?.eq_def] at h
  split at h
  · rw [Option.some.inj h]
  · cases h

theorem Reply.crash?_eq_none {reply : Reply} (h : ∀ m, reply ≠ .status (.panicked m)) :
    reply.crash? = none := by
  cases hm : reply.crash? with
  | none => rfl
  | some m => exact absurd (eq_of_crash? hm) (h m)

namespace Notice

/-- Whether a notice is one with which a worker returns. -/
def isFinal : Notice → Bool
  | event _ (.died _ _) => true
  | event _ .finished => true
  | phase _ p => p.isTerminal
  | _ => false

theorem filter_isFinal_map_log (lines : List LogLine) :
    (lines.map log).filter isFinal = [] := by
  induction lines with
  | nil => rfl
  | cons l ls ih => exact ih

theorem filter_isFinal_map_installed (d : DeviceData) (xs : List Installation) :
    (xs.map fun x ↦ event d (.installed x)).filter isFinal = [] := by
  induction xs with
  | nil => rfl
  | cons x xs ih => exact ih

end Notice

namespace Worker

variable {d : DeviceData} {w w' : Worker} {time : UInt64} {reply : Reply} {ns : List Notice}
  {i : Intention}

/-! ### Getting on -/

/-- A worker that waits for its device takes any answer to its command, and nothing else. -/
theorem resume_isSome_iff :
    (w.resume time reply).isSome = true ↔
      ∃ c, w.command? = some c ∧ reply.answers c = true := by
  rw [command?]
  cases reply with
  | status answer =>
    rcases answer with (- | reason) | e | m <;> cases hs : w.stage <;>
      simp [resume, hs, Reply.answers]
  | installed answer =>
    cases hs : w.stage <;> simp only [resume, hs, Reply.answers] <;> simp
    rcases guarded_cases w answer with ⟨x, -, hg⟩ | ⟨e, lines, hg⟩ <;> simp [hg]
  | cleared answer =>
    cases hs : w.stage <;> simp only [resume, hs, Reply.answers] <;> simp
    rcases guarded_cases w answer with ⟨x, -, hg⟩ | ⟨e, lines, hg⟩ <;> simp [hg]
  | ran answer =>
    cases hs : w.stage <;> simp only [resume, hs, Reply.answers] <;> simp
    rcases guarded_cases w answer with ⟨x, -, hg⟩ | ⟨e, lines, hg⟩ <;> simp [hg]

/-- How many answers a worker takes at most until it is done with the intention in its hands. -/
def due (w : Worker) : Nat :=
  match w.stage with
  | .checking i => i.state.applications.length + 2
  | .clearing _ _ left => left.length + 2
  | .installing _ _ left _ => left.length + 2
  | .running _ => 1
  | _ => 0

theorem clear_due (w : Worker) (i : Intention) (left : List String) :
    (w.clear i left).1.due < left.length + 2 := by
  cases left with
  | nil => exact Nat.one_lt_two
  | cons package left => exact Nat.lt_succ_self _

theorem install_due (w : Worker) (i : Intention) (done : List Installation) (left : List String) :
    (w.install i done left).1.due < left.length + 2 := by
  cases left with
  | nil => exact Nat.one_lt_two
  | cons path left => exact Nat.lt_succ_self _

theorem prepare_due (w : Worker) (i : Intention) :
    (w.prepare i).1.due < i.state.applications.length + 2 := by
  by_cases hg : w.state.digest = i.state.digest
  · rw [prepare_of_digest_eq hg]
    exact Nat.lt_of_lt_of_eq (clear_due _ i _) (by rw [List.length_map])
  · rw [prepare_of_digest_ne hg]
    exact Nat.lt_of_lt_of_eq (install_due _ i [] _) (by rw [List.length_map])

/-- **Every answer brings a worker closer to the end of its intention** (`due`). -/
theorem Resumed.due_lt (h : Resumed w time reply w' ns) (hh : w'.holding? ≠ none) :
    w'.due < w.due := by
  cases h with
  | begun hs => exact Nat.lt_of_lt_of_eq (prepare_due w _) (by rw [due, hs])
  | installed hs => exact Nat.lt_of_lt_of_eq (install_due w _ _ _) (by rw [due, hs])
  | cleared hs => exact Nat.lt_of_lt_of_eq (clear_due w _ _) (by rw [due, hs])
  | _ => exact absurd rfl hh

/-! ### Crashing -/

/-- The panic by which a worker ended. -/
def crash? (w : Worker) : Option (Option String) :=
  match w.stage with
  | .crashed m => some m
  | _ => none

theorem crash?_of_isOver_eq_false (h : w.isOver = false) : w.crash? = none := by
  rw [crash?]
  cases hs : w.stage <;> simp [isOver, hs] at h ⊢

theorem crash?_of_holding? (h : w.holding? = some i) : w.crash? = none := by
  rw [crash?]
  cases hs : w.stage <;> simp [holding?, hs] at h ⊢

/-- A worker ends by a panic exactly if it is one of the question for the health of its device. -/
theorem Resumed.crash?_eq (h : Resumed w time reply w' ns) :
    w'.crash? = reply.crash? := by
  cases h with
  | @begun i => exact crash?_of_holding? (prepare_holding w i time).1
  | installed => exact crash?_of_holding? (install_holding w _ time _ _).1
  | cleared => exact crash?_of_holding? (clear_holding w _ time _).1
  | _ => rfl

/-- **What a worker holds and takes on an answer is what it reports, what it loses, and what it
holds then**, by the cases of `Held`. -/
theorem Resumed.balance (h : Resumed w time reply w' ns) :
    w.holding?.toList ++ ns.filterMap Notice.received? =
      (ns.filterMap (Notice.result? time)).map (·.intention) ++
        (if reply.crash?.isSome = true then w.holding?.toList else []) ++ w'.holding?.toList := by
  cases h.held with
  | kept hh hn hp =>
    rw [hn.1, hn.2, hh]
    cases hcrash : reply.crash? with
    | none => exact List.append_nil _
    | some m =>
      rw [hp m (Reply.eq_of_crash? hcrash)]
      rfl
  | reported r hh hh' hn hr hp =>
    rw [hn, hr, hh, hh', Reply.crash?_eq_none hp]
    rfl
  | lost m i hp hh hh' hn =>
    rw [hn, hp, hh, hh']
    rfl

/-! ### The notices with which a worker returns -/

/-- The notices with which a worker has returned so; one that has not has none. -/
inductive FinalNotices (d : DeviceData) : Option Phase → List Notice → Prop
  | silent : FinalNotices d none []
  | died (message reason : String) :
      FinalNotices d (some .dead) [.event d (.died message reason), .phase d .dead]
  | finished : FinalNotices d (some .finished) [.event d .finished, .phase d .finished]

theorem FinalNotices.eq_nil (h : FinalNotices d none ns) : ns = [] := by
  cases h
  rfl

theorem filter_isFinal_clear (w : Worker) (i : Intention) (left : List String) :
    (w.clear i left).2.filter Notice.isFinal = [] := by
  cases left <;> rfl

theorem filter_isFinal_install (w : Worker) (i : Intention) (done : List Installation)
    (left : List String) : (w.install i done left).2.filter Notice.isFinal = [] := by
  cases left with
  | nil =>
    rw [install, List.filter_append]
    exact List.append_eq_nil_iff.2 ⟨Notice.filter_isFinal_map_installed w.device done, rfl⟩
  | cons path left => rfl

theorem prepare_finalNotices (w : Worker) (i : Intention) :
    (w.prepare i).1.returned = w.returned ∧ (w.prepare i).2.filter Notice.isFinal = [] := by
  by_cases hg : w.state.digest = i.state.digest
  · rw [prepare_of_digest_eq hg]
    exact ⟨clear_returned _ i _, filter_isFinal_clear _ i _⟩
  · rw [prepare_of_digest_ne hg]
    exact ⟨install_returned _ i [] _, filter_isFinal_install _ i [] _⟩

theorem finalNotices_of_eq_nil {returned : Option Phase} (hr : returned = none)
    (hn : ns.filter Notice.isFinal = []) : FinalNotices d returned (ns.filter Notice.isFinal) := by
  rw [hr, hn]
  exact .silent

/-- An answer draws final notices from a worker exactly if the worker returns on it. -/
theorem Resumed.finalNotices (h : Resumed w time reply w' ns) (hw : w.returned = none) :
    FinalNotices w.device w'.returned (ns.filter Notice.isFinal) := by
  cases h with
  | crashed | created | rested | ran => exact finalNotices_of_eq_nil hw rfl
  | stillborn | frozenOn | frozen => exact .died _ _
  | uninstalled | uncleared =>
    rw [List.filter_append, Notice.filter_isFinal_map_log]
    exact .died _ _
  | broke =>
    refine finalNotices_of_eq_nil hw ?_
    rw [List.filter_append, Notice.filter_isFinal_map_log]
    rfl
  | installed =>
    exact finalNotices_of_eq_nil ((install_returned w _ _ _).trans hw)
      (filter_isFinal_install w _ _ _)
  | cleared =>
    exact finalNotices_of_eq_nil ((clear_returned w _ _).trans hw) (filter_isFinal_clear w _ _)
  | begun =>
    obtain ⟨hreturned, hfinal⟩ := prepare_finalNotices w _
    exact finalNotices_of_eq_nil (hreturned.trans hw) hfinal

/-- A worker that takes an answer is not over. -/
theorem isOver_eq_false_of_resume {r : Worker × List Notice}
    (h : w.resume time reply = some r) : w.isOver = false := by
  obtain ⟨c, hc, -⟩ := resume_isSome_iff.1 (Option.isSome_of_eq_some h)
  rw [command?] at hc
  rw [isOver]
  cases hs : w.stage <;> simp [hs] at hc ⊢

/-- A worker that was stopped is over. -/
theorem isOver_abort (w : Worker) : w.abort.isOver = true := by
  rw [abort]
  split
  · assumption
  · rfl

/-- A worker that takes an answer has not ended. -/
theorem stage_ne_ended_of_resume {r : Worker × List Notice} (h : w.resume time reply = some r) :
    w.stage ≠ .ended := by
  intro he
  have hover := isOver_eq_false_of_resume h
  rw [isOver, he] at hover
  cases hover

/-- **A worker has given its final notices exactly if it has returned** (`FinalNotices`), and it
gives them once. -/
theorem Course.finalNotices (h : Course d w ns) :
    FinalNotices d w.returned (ns.filter Notice.isFinal) := by
  induction h with
  | new => exact .silent
  | @receive w ns offer hc hs ih =>
    have hnone : w.returned = none := by
      refine hc.returned_eq_none fun he ↦ ?_
      rw [stage_of_isSeeking hs] at he
      cases he
    rw [hnone] at ih
    rw [List.filter_append, ih.eq_nil, List.nil_append]
    cases offer with
    | some i => exact finalNotices_of_eq_nil hnone rfl
    | none =>
      rw [← hc.wordAt.1]
      exact .finished
  | resume time reply hc hr ih =>
    have hnone := hc.returned_eq_none (stage_ne_ended_of_resume hr)
    rw [hnone] at ih
    rw [List.filter_append, ih.eq_nil, List.nil_append, ← hc.wordAt.1]
    exact (resumed_of_resume hr).finalNotices hnone
  | @abort w ns _ ih =>
    rw [Worker.abort]
    split <;> exact ih

/-- A worker that has ended has returned. -/
theorem Course.returned_of_ended (h : Course d w ns) (hw : w.stage = .ended) :
    ∃ p, w.returned = some p ∧ p.isTerminal = true := by
  obtain ⟨-, hwordAt⟩ := h.wordAt
  rw [WordAt, hw] at hwordAt
  obtain ⟨p, hp, hword⟩ := hwordAt
  refine ⟨p, hp, ?_⟩
  rcases hword.returned with rfl | rfl <;> rfl

end Worker

end DeviceLab
