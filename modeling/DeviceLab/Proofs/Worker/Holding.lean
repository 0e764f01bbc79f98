import DeviceLab.Client
import DeviceLab.Proofs.Worker.Course

/-!
# What a worker holds

A worker takes an intention from the router, holds it while it works on it, and lets go of it in the
very step in which it reports what came of it. The only other way to lose it is a panic of the
device when asked for its health.

`Resumed.held` says so of every step (`Held`): the intention is kept, reported or lost. What notices
tell about it is read by `Notice.received?` and `Notice.result?`; the latter is what the service
makes of a notice. The books of a session (`DeviceLab.Proofs.Session.Tally`) and the records of its
workers (`DeviceLab.Proofs.Session.Containment`) both rest on this one lemma.
-/

namespace DeviceLab

/-! ### What notices tell about intentions -/

namespace Notice

/-- The intention that a notice says a worker has taken. -/
def received? : Notice → Option Intention
  | event _ (.received i) => some i
  | _ => none

/-- The result that a notice of a time stands for: the run of a completed attempt, or a broken run
for an intention that failed with its device. -/
def result? (time : UInt64) : Notice → Option IntentionResult
  | event _ (.testCompleted i run) => some ⟨i, run⟩
  | event d (.intentionFailed i reason) => some ⟨i, .broken i.action.test d reason time⟩
  | _ => none

/-- Notices that tell nothing about intentions that were taken or that came to an end. -/
def Idle (time : UInt64) (ns : List Notice) : Prop :=
  ns.filterMap received? = [] ∧ ns.filterMap (result? time) = []

variable {time : UInt64} {ns more : List Notice}

theorem Idle.append (h : Idle time ns) (h' : Idle time more) : Idle time (ns ++ more) := by
  refine ⟨?_, ?_⟩
  · rw [List.filterMap_append, h.1, h'.1, List.append_nil]
  · rw [List.filterMap_append, h.2, h'.2, List.append_nil]

theorem idle_map_log (time : UInt64) (lines : List LogLine) : Idle time (lines.map .log) := by
  induction lines with
  | nil => exact ⟨rfl, rfl⟩
  | cons l ls ih => exact ih

theorem idle_map_installed (time : UInt64) (d : DeviceData) (xs : List Installation) :
    Idle time (xs.map fun x ↦ .event d (.installed x)) := by
  induction xs with
  | nil => exact ⟨rfl, rfl⟩
  | cons x xs ih => exact ih

end Notice

namespace Worker

open Notice (Idle)

variable {w w' : Worker} {time : UInt64} {reply : Reply} {ns : List Notice} {i : Intention}

/-! ### Holding nothing -/

theorem holding?_of_isSeeking (h : w.isSeeking = true) : w.holding? = none := by
  rw [holding?, stage_of_isSeeking h]

/-- A worker whose device is not busy holds nothing. -/
theorem holding?_of_command?_eq_none (h : w.command? = none) : w.holding? = none := by
  rw [holding?]
  cases hs : w.stage with
  | starting | seeking | resting | ended | crashed | aborted => rfl
  | _ => simp [command?, hs] at h

/-- The device of a worker that is over is not busy. -/
theorem command?_eq_none_of_isOver (h : w.isOver = true) : w.command? = none := by
  rw [command?]
  cases hs : w.stage with
  | seeking | ended | crashed | aborted => rfl
  | _ => simp [isOver, hs] at h

/-- A worker that was aborted (`abort`), or was over before, holds nothing either. -/
theorem holding?_abort (w : Worker) : w.abort.holding? = none := by
  rw [Worker.abort]
  split
  · next hover => exact holding?_of_command?_eq_none (command?_eq_none_of_isOver hover)
  · rfl

/-! ### Working on an intention -/

theorem clear_holding (w : Worker) (i : Intention) (time : UInt64) (left : List String) :
    (w.clear i left).1.holding? = some i ∧ Idle time (w.clear i left).2 := by
  cases left <;> exact ⟨rfl, rfl, rfl⟩

theorem install_holding (w : Worker) (i : Intention) (time : UInt64) (done : List Installation)
    (left : List String) :
    (w.install i done left).1.holding? = some i ∧ Idle time (w.install i done left).2 := by
  cases left with
  | nil => exact ⟨rfl, (Notice.idle_map_installed time w.device done).append ⟨rfl, rfl⟩⟩
  | cons => exact ⟨rfl, rfl, rfl⟩

theorem prepare_holding (w : Worker) (i : Intention) (time : UInt64) :
    (w.prepare i).1.holding? = some i ∧ Idle time (w.prepare i).2 := by
  by_cases hg : w.state.digest = i.state.digest
  · rw [prepare_of_digest_eq hg]
    exact clear_holding { w with phase := .preparing } i time _
  · rw [prepare_of_digest_ne hg]
    exact install_holding { w with phase := .preparing } i time [] _

/-! ### What an answer does to what a worker holds -/

/-- What an answer of the device can do to the intention that a worker holds. -/
inductive Held (w : Worker) (time : UInt64) (reply : Reply) (w' : Worker) (ns : List Notice) : Prop
  /-- It is kept, or there is none. -/
  | kept (hh : w'.holding? = w.holding?) (hn : Idle time ns)
      (hp : ∀ m, reply = .status (.panicked m) → w.holding? = none)
  /-- It comes to an end, and what came of it is reported. -/
  | reported (r : IntentionResult) (hh : w.holding? = some r.intention) (hh' : w'.holding? = none)
      (hn : ns.filterMap Notice.received? = []) (hr : ns.filterMap (Notice.result? time) = [r])
      (hp : ∀ m, reply ≠ .status (.panicked m))
  /-- It is lost by a panic. -/
  | lost (m : Option String) (i : Intention) (hp : reply = .status (.panicked m))
      (hh : w.holding? = some i) (hh' : w'.holding? = none) (hn : ns = [])

/-- No answer gives a worker an intention. -/
theorem Held.received_eq_nil (h : Held w time reply w' ns) :
    ns.filterMap Notice.received? = [] := by
  cases h with
  | kept _ hn => exact hn.1
  | reported _ _ _ hn => exact hn
  | lost _ _ _ _ _ hn => rw [hn]; rfl

/-- A worker that gives an intention up (`giveUp`) reports it, whatever it logged before. -/
theorem held_giveUp (w : Worker) (i : Intention) (e : LabError) (time : UInt64)
    (lines : List LogLine) (hh : w.holding? = some i)
    (hp : ∀ m, reply ≠ .status (.panicked m)) :
    Held w time reply (w.giveUp i e).1 (lines.map .log ++ (w.giveUp i e).2) := by
  obtain ⟨hreceived, hresult⟩ := Notice.idle_map_log time lines
  refine .reported ⟨i, .broken i.action.test w.device e.message time⟩ hh rfl ?_ ?_ hp
  · rw [List.filterMap_append, hreceived]
    rfl
  · rw [List.filterMap_append, hresult]
    rfl

/-- A worker that completes an intention (`complete`) reports it, whatever it logged before. -/
theorem held_complete (w : Worker) (i : Intention) (run : DeviceRun) (time : UInt64)
    (lines : List LogLine) (hh : w.holding? = some i)
    (hp : ∀ m, reply ≠ .status (.panicked m)) :
    Held w time reply (w.complete i run).1 (lines.map .log ++ (w.complete i run).2) := by
  obtain ⟨hreceived, hresult⟩ := Notice.idle_map_log time lines
  refine .reported ⟨i, run⟩ hh rfl ?_ ?_ hp
  · rw [List.filterMap_append, hreceived]
    rfl
  · rw [List.filterMap_append, hresult]
    rfl

/-- **An intention is held until it is reported or lost** (`Held`). -/
theorem Resumed.held (h : Resumed w time reply w' ns) : Held w time reply w' ns := by
  cases h with
  | @crashed m h =>
    cases hh : w.holding? with
    | none => exact .kept hh.symm ⟨rfl, rfl⟩ fun _ _ ↦ hh
    | some i => exact .lost m i rfl hh rfl rfl
  | stillborn h =>
    have hnone : w.holding? = none := by rw [holding?, h]
    exact .kept hnone.symm ⟨rfl, rfl⟩ fun _ _ ↦ hnone
  | created h =>
    have hnone : w.holding? = none := by rw [holding?, h]
    exact .kept hnone.symm ⟨rfl, rfl⟩ fun _ _ ↦ hnone
  | @frozenOn i reason h =>
    exact .reported ⟨i, .broken i.action.test w.device reason time⟩ (by rw [holding?, h])
      rfl rfl rfl
      fun _ hp ↦ by cases hp
  | @begun i h =>
    obtain ⟨hkept, hidle⟩ := prepare_holding w i time
    exact .kept (by rw [hkept, holding?, h]) hidle fun _ hp ↦ by cases hp
  | frozen h =>
    have hnone : w.holding? = none := by rw [holding?, h]
    exact .kept hnone.symm ⟨rfl, rfl⟩ fun _ _ ↦ hnone
  | rested h =>
    have hnone : w.holding? = none := by rw [holding?, h]
    exact .kept hnone.symm ⟨rfl, rfl⟩ fun _ _ ↦ hnone
  | @installed i path left done x h =>
    obtain ⟨hkept, hidle⟩ := install_holding w i time (done ++ [x]) left
    exact .kept (by rw [hkept, holding?, h]) hidle fun _ hp ↦ by cases hp
  | uninstalled h =>
    exact held_giveUp w _ _ time _ (by rw [holding?, h]) fun _ hp ↦ by cases hp
  | @cleared i package left h =>
    obtain ⟨hkept, hidle⟩ := clear_holding w i time left
    exact .kept (by rw [hkept, holding?, h]) hidle fun _ hp ↦ by cases hp
  | uncleared h =>
    exact held_giveUp w _ _ time _ (by rw [holding?, h]) fun _ hp ↦ by cases hp
  | @ran i run h =>
    exact held_complete w i run time [] (by rw [holding?, h]) fun _ hp ↦ by cases hp
  | broke h =>
    exact held_complete w _ _ time _ (by rw [holding?, h]) fun _ hp ↦ by cases hp

end Worker

end DeviceLab
