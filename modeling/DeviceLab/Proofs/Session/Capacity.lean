import DeviceLab.Proofs.Config
import DeviceLab.Proofs.Session.Stages

/-!
# What channels can be made

A channel can be made with no bound, or with one that is neither 0 nor more than
`Channel.maxCapacity` (`Channel.isMakeable`). The parts of a session make two bounded channels for
each other, both when the service starts: one for devices, of a size that is given once and for all,
and one for intentions, as large as the router (`made_startService_iff`). So whether a session can
be started is a matter of the capacity of the router alone, and afterwards no channel comes up that
could not be made (`Course.made`, which rests on `bounds_of_step`: only the claim makes channels,
and those have no bound).

A valid configuration has a capacity that is not 0, but nothing keeps it from having too large a
one. `Course.panics_iff_overcapacity` says exactly which ones panic. It rests on `call_panicked_iff`
and on `StageChange.panicked_iff`: a session panics when it is called, or never. In
`panics_of_valid_configuration` a configuration that was accepted does.
-/

namespace DeviceLab

namespace Channel

variable {α : Type} (c : Channel α)

@[simp] theorem rest_capacity : c.rest.capacity = c.capacity := rfl

@[simp] theorem push_capacity (a : α) : (c.push a).capacity = c.capacity := by
  rw [push]
  split <;> rfl

@[simp] theorem foldl_push_capacity (as : List α) : (as.foldl push c).capacity = c.capacity := by
  induction as generalizing c with
  | nil => rfl
  | cons a as ih => rw [List.foldl_cons, ih, push_capacity]

/-- Whether a channel may have a bound (`Channel.canHold`), if it has one. -/
def isMakeable (bound : Option Nat) : Bool :=
  bound.all canHold

/-- A bound that is not 0 is too large or one that a channel may have. -/
theorem canHold_eq_false_iff {n : Nat} (h : 0 < n) : canHold n = false ↔ maxCapacity < n := by
  simp [canHold, h]

end Channel

namespace Session

variable {h : List Turn} {first s s' : Session} {m : Move} {ns : List Notice} {capacity : Nat}
  {requests : List Request}

/-! ### Bounds -/

/-- The bounds of the channels that the parts of a session make for each other. -/
def bounds (s : Session) : List (Option Nat) :=
  [s.attempts.capacity, s.outcomes.capacity, s.reports.capacity, s.intentions.capacity,
    s.results.capacity, s.devices.capacity, s.signals.capacity]

/-- Every channel of a session could be made. -/
def Made (s : Session) : Prop :=
  ∀ b ∈ s.bounds, Channel.isMakeable b = true

@[simp] theorem hush_bounds (s : Session) : s.hush.bounds = s.bounds := by
  rw [hush]
  split <;> rfl

@[simp] theorem setWorker_bounds (s : Session) (n : Nat) (w : Worker) :
    (s.setWorker n w).bounds = s.bounds :=
  hush_bounds _

@[simp] theorem finishDrain_bounds (s : Session) : s.finishDrain.1.bounds = s.bounds := by
  rw [finishDrain]
  split <;> rfl

@[simp] theorem stopService_bounds (s : Session) : s.stopService.1.bounds = s.bounds := by
  rw [stopService]
  split
  · exact (finishDrain_bounds _).trans (hush_bounds _)
  · rfl

@[simp] theorem windDown_bounds (s : Session) (why : Ending) :
    (s.windDown why).1.bounds = s.bounds :=
  stopService_bounds _

@[simp] theorem letOut_bounds (s : Session) (r : Scheduler × Scheduler.Output) :
    (s.letOut r).1.bounds = s.bounds := by
  rw [letOut]
  cases r.1 <;> simp [bounds, endScheduler, Channel.endSending, Channel.endReceiving]

@[simp] theorem forwarded_bounds (s : Session) (x : SendResult × Router) :
    (s.forwarded x).1.bounds = s.bounds := by
  obtain ⟨- | - | -, r⟩ := x <;> rfl

@[simp] theorem foldl_publish_bounds (time : UInt64) (s : Session) (ns : List Notice) :
    (ns.foldl (publish time) s).bounds = s.bounds := by
  induction ns generalizing s with
  | nil => rfl
  | cons n ns ih =>
    rw [List.foldl_cons, ih]
    unfold publish
    split <;> simp [bounds]

theorem bounds_of_some {x : Session × List Notice} (hx : x.1.bounds = s.bounds)
    (hs : some x = some (s', ns)) : s'.bounds = s.bounds := by
  rw [Option.some.inj hs] at hx
  exact hx

/-- The claim that is answered makes the channels of client and scheduler, which have no bounds. -/
theorem bounds_of_claimed {reply : Except LabError Unit} (hs : s.claimed reply = some (s', ns)) :
    s'.bounds ⊆ none :: s.bounds := by
  rw [claimed.eq_def] at hs
  split at hs
  · cases reply with
    | ok =>
      obtain ⟨rfl, -⟩ := Prod.mk.inj (Option.some.inj hs)
      simp [bounds, startClient, Channel.unbounded]
    | error e =>
      have hbounds : s'.bounds = s.bounds := bounds_of_some (by exact stopService_bounds _) hs
      rw [hbounds]
      exact List.subset_cons_self none s.bounds
  · cases hs

/-- The other moves make no channel. -/
theorem bounds_of_step (hm : ∀ reply, m ≠ .claimed reply) (hs : s.step m = some (s', ns)) :
    s'.bounds = s.bounds := by
  cases m with
  | claimed reply => exact absurd rfl (hm reply)
  | seek n =>
    obtain ⟨x, state, -, -, -, hs⟩ := Wired.seek_cases hs
    rcases hask : (s.router.dropTake n).ask n state with ⟨i | _ | _, r⟩
    all_goals rw [hask] at hs
    · exact bounds_of_some (setWorker_bounds ..) hs.symm
    · exact bounds_of_some (setWorker_bounds ..) hs.symm
    · exact bounds_of_some rfl hs.symm
  | answer n time reply =>
    simp only [step, answer, Option.bind_eq_bind, Option.bind_eq_some_iff] at hs
    obtain ⟨x, -, w, -, hs⟩ := hs
    exact bounds_of_some (by rw [setWorker_bounds, foldl_publish_bounds]) hs
  | join n =>
    simp only [step, join, Option.bind_eq_bind, Option.bind_eq_some_iff] at hs
    obtain ⟨-, -, x, -, -, -, hs⟩ := hs
    refine bounds_of_some ?_ hs
    exact finishDrain_bounds _
  | forward =>
    rw [step, forward] at hs
    split at hs
    · cases hs
    · split at hs
      · exact bounds_of_some (by rw [forwarded_bounds]; rfl) hs
      · split at hs
        · cases hs
        · exact bounds_of_some rfl hs
    · obtain ⟨x, -, hx⟩ := Option.map_eq_some_iff.1 hs
      exact bounds_of_some (forwarded_bounds ..) (congrArg some hx)
  | overrun =>
    rw [step, overrun] at hs
    split at hs
    · refine bounds_of_some (x := (s.abortWorkers.finishDrain.1, _)) ?_ hs
      exact (finishDrain_bounds _).trans (hush_bounds _)
    · cases hs
  | collect =>
    rw [step, collect] at hs
    split at hs
    · split at hs
      · refine bounds_of_some ?_ hs
        split
        · rfl
        · exact windDown_bounds _ _
      · split at hs
        · cases hs
        · exact bounds_of_some (windDown_bounds ..) hs
    · cases hs
  | schedule =>
    rw [step, schedule] at hs
    split at hs
    · cases hs
    · exact bounds_of_some (letOut_bounds ..) hs
    · split at hs
      · exact bounds_of_some (by rw [letOut_bounds]; rfl) hs
      · split at hs
        · cases hs
        · exact bounds_of_some (letOut_bounds ..) hs
  | takeAttempt | takeResult | handOn | enlist | closeIntake | takeCoordinate | deliver
    | heed | removed | expire | drained | released =>
    -- Each of these branches on what it finds; channels are read and written in every branch.
    simp only [step, takeAttempt, takeResult, handOn, enlist, closeIntake, takeCoordinate, deliver,
      heed, removed, expire, drained, released] at hs
    repeat' split at hs
    all_goals first
      | cases hs; done
      | exact bounds_of_some rfl hs
      | exact bounds_of_some (hush_bounds _) hs
      | exact bounds_of_some (windDown_bounds ..) hs
      | exact bounds_of_some (by simp only [bounds, Channel.rest_capacity, Channel.push_capacity,
          Channel.foldl_push_capacity]) hs

/-- **No move makes a channel that cannot be made** (`Made`). -/
theorem Made.of_step (hmade : s.Made) (hs : s.step m = some (s', ns)) : s'.Made := by
  intro b hb
  by_cases hm : ∃ reply, m = .claimed reply
  · obtain ⟨reply, rfl⟩ := hm
    rcases List.mem_cons.1 (bounds_of_claimed hs hb) with rfl | hb
    · rfl
    · exact hmade b hb
  · rw [bounds_of_step (fun reply he ↦ hm ⟨reply, he⟩) hs] at hb
    exact hmade b hb

/-- Of the channels of a service only `intentions` might not be made. -/
theorem made_startService_iff (hmade : s.Made) :
    (startService s).1.Made ↔ Channel.canHold s.capacity = true := by
  have hdevices : Channel.canHold devicesCapacity = true := by decide
  constructor
  · intro h
    exact h (some s.capacity) (by simp [bounds, startService, Channel.bounded])
  · intro hhold b hb
    have hold {b : Option Nat} (hb : b ∈ s.bounds) := hmade b hb
    simp only [bounds, startService, Channel.bounded, Channel.unbounded, List.mem_cons,
      List.not_mem_nil, or_false] at hb
    rcases hb with rfl | rfl | rfl | rfl | rfl | rfl | rfl
    · exact hold (by simp [bounds])
    · exact hold (by simp [bounds])
    · exact hold (by simp [bounds])
    · exact hhold
    · rfl
    · exact hdevices
    · rfl

/-- A session without channels. -/
theorem made_of_bounds (h : s.bounds = List.replicate 7 none) : s.Made := by
  intro b hb
  rw [h] at hb
  rw [List.eq_of_mem_replicate hb]
  rfl

/-! ### Calls -/

/-- A call panics if there is something to run, but no channel of that capacity. -/
theorem call_panicked_iff :
    (call capacity requests).1.stage = .panicked ↔
      requests ≠ [] ∧ (requests.map (·.id)).Nodup ∧ Channel.canHold capacity = false := by
  cases requests with
  | nil => simp [call]
  | cons r rs =>
    cases hdup : duplicate? (r :: rs) with
    | some q =>
      have hd := (not_nodup_of_duplicate? hdup).2
      simp only [call, hdup, List.isEmpty_cons]
      constructor
      · intro hstage
        cases hstage
      · exact fun h ↦ absurd h.2.1 hd
    | none =>
      have hd := nodup_of_duplicate? hdup
      by_cases hhold : Channel.canHold capacity = true
      · simp [call, hdup, hhold, startService]
      · simp [call, hdup, hhold, hd, -List.map_cons]

/-- A call makes only channels that can be made. -/
theorem made_call (capacity : Nat) (requests : List Request) : (call capacity requests).1.Made := by
  rw [call]
  split
  · exact made_of_bounds rfl
  split
  · exact made_of_bounds rfl
  · by_cases hhold : Channel.canHold capacity = true
    · rw [if_pos hhold]
      exact (made_startService_iff (s := { requests, capacity, stage := .claiming })
        (made_of_bounds rfl)).2 hhold
    · rw [if_neg hhold]
      exact made_of_bounds rfl

/-- No move changes whether a session has panicked. -/
theorem StageChange.panicked_iff {st : Stage} (h : StageChange s m st) :
    st = .panicked ↔ s.stage = .panicked := by
  cases h with
  | same => exact Iff.rfl
  | claimed hs | refused hs | resolved hs | starved hs | expired hs | denied hs | drained hs
    | released hs => simp [hs]

/-- **A session panics when it is called, or never**: no move leads to the stage `panicked`. -/
theorem Course.panicked_iff_first (hc : Course first h s) :
    s.stage = .panicked ↔ first.stage = .panicked := by
  induction hc with
  | start => exact Iff.rfl
  | turn m _ hs ih => exact (stageChange_of_step hs).panicked_iff.trans ih
  | feed c _ ih => exact ih

/-- What holds of the channels at first (`Made`) holds of them in the whole course. -/
theorem Course.made (hc : Course first h s) (hfirst : first.Made) : s.Made := by
  induction hc with
  | start => exact hfirst
  | turn m _ hs ih => exact ih.of_step hs
  | feed c _ ih => exact ih

/-- **What a valid configuration can start.** Starting a service makes only channels that can be
made exactly if the capacity of the router is at most `Channel.maxCapacity`, whatever there was
before. A session panics exactly if that capacity is larger and there is something to run, with
identifiers that are distinct; and then it panics as soon as it is called. Otherwise it never does,
and every channel that its parts ever have could be made. -/
theorem Course.panics_iff_overcapacity {c : Config} (hv : c.validate = .ok ())
    (hc : Course (call c.routerCapacity.toNat requests).1 h s) :
    (∀ t : Session, t.Made → t.capacity = c.routerCapacity.toNat →
      ((startService t).1.Made ↔ c.routerCapacity.toNat ≤ Channel.maxCapacity)) ∧
    (s.stage = .panicked ↔ requests ≠ [] ∧ (requests.map (·.id)).Nodup ∧
      Channel.maxCapacity < c.routerCapacity.toNat) ∧
    s.Made := by
  have hne : c.routerCapacity.toNat ≠ 0 := fun h ↦
    ((c.validate_eq_ok_iff).1 hv).2.1 (UInt64.toNat_inj.1 h)
  have hover := Channel.canHold_eq_false_iff (Nat.pos_of_ne_zero hne)
  refine ⟨fun t hmade hcapacity ↦ ?_, ?_, hc.made (made_call _ _)⟩
  · rw [made_startService_iff hmade, hcapacity, ← Nat.not_lt, ← hover, Bool.not_eq_false]
  · rw [hc.panicked_iff_first, call_panicked_iff, hover]

/-- With the default capacity a session can be called and get to work; with the smallest one that is
too large it panics. -/
theorem panics_iff_overcapacity_of_two_pow :
    let c : Config := {}
    let d : Config := { routerCapacity := 2305843009213693952 }
    (c.validate = .ok () ∧ ∃ h s, Course (call c.routerCapacity.toNat [sampleRequest 1]).1 h s ∧
      s.stage = .collecting ∧ s.Made) ∧
    d.validate = .ok () ∧ d.routerCapacity.toNat = Channel.maxCapacity + 1 ∧
      (call d.routerCapacity.toNat [sampleRequest 1]).1.stage = .panicked := by
  intro c d
  have hcalled : Course (call c.routerCapacity.toNat [sampleRequest 1]).1 [] _ := .start
  have hcourse := hcalled.follow [.claimed (.ok ()), .schedule] rfl
  have hmade := (hcourse.panics_iff_overcapacity (c := c) rfl).2.2
  have hrefused : Course (call d.routerCapacity.toNat [sampleRequest 1]).1 [] _ := .start
  have hpanics := (hrefused.panics_iff_overcapacity (c := d) rfl).2.1
  exact ⟨⟨rfl, _, _, hcourse, rfl, hmade⟩, rfl, rfl,
    hpanics.2 ⟨List.cons_ne_nil _ _, List.nodup_singleton _, by decide⟩⟩

/-- A valid configuration with which calling for one request panics. -/
theorem panics_of_valid_configuration :
    let c : Config := { routerCapacity := 2305843009213693952 }
    c.validate = .ok () ∧ (call c.routerCapacity.toNat [sampleRequest 1]).1.stage = .panicked ∧
      ¬ (startService { capacity := c.routerCapacity.toNat }).1.Made := by
  refine ⟨rfl, rfl, fun hmade ↦ ?_⟩
  exact absurd ((made_startService_iff (made_of_bounds rfl)).1 hmade) (by decide)

end Session

end DeviceLab
