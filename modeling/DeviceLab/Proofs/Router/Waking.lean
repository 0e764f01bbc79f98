import DeviceLab.Proofs.Distinct
import DeviceLab.Proofs.Router.History

/-!
# Nobody sleeps in vain

A taker sleeps only while the queue holds nothing for it, because every intention that joins the
queue wakes all takers. With senders it is less simple. They are woken one at a time, a newcomer may
fill the room that another was woken for, and a sender that was woken may give up. What holds is an
inequality: while some sender is asleep, there is no more room than there are senders awake
(`awake`). Each intention that leaves the queue makes room and wakes one; each sender that tries
again, or gives up, fills the room, finds none, or wakes the next.

Within a step the inequality may fail for a moment, so `WakeInvariant` counts the wake-ups that are
still owed as well. `WakeInvariant.dropSend` is where one comes to be owed, and
`WakeInvariant.wakeSend` where it is paid. `Run.wakeInvariant` says that nothing is owed between the
deeds of a run.

So once nobody is ready to try again (`Settled`), nobody waits for anything that is there:
`Run.nobody_sleeps_in_vain`, which also rests on `Run.ledger` for the capacity.
-/

namespace DeviceLab

namespace Router

variable {r r' : Router} {deed : Deed} {deeds : List Deed} {id : Nat} {p : ParkedSend}
  {owed : Nat}

/-- Nobody who is parked was woken: no operation is ready to go on. -/
def Settled (r : Router) : Prop :=
  ∀ id, r.retrySend id = none ∧ r.retryTake id = none

/-! ### Senders that are awake -/

/-- The number of parked senders that were woken. -/
def awake (sends : List ParkedSend) : Nat :=
  sends.countP (·.wake ≠ .asleep)

/-- Waking a sender leaves the others as they are. -/
theorem mem_wakeFirst {l : List ParkedSend} (h : p ∈ wakeFirst l) : p ∈ l ∨ p.wake = .alone := by
  induction l with
  | nil => cases h
  | cons q l ih =>
    rw [wakeFirst] at h
    split at h
    · rcases List.mem_cons.1 h with rfl | h
      · exact .inr rfl
      · exact .inl (List.mem_cons_of_mem _ h)
    · rcases List.mem_cons.1 h with rfl | h
      · exact .inl (List.mem_cons_self ..)
      · exact (ih h).imp_left (List.mem_cons_of_mem _)

/-- If somebody is asleep then one more is awake afterwards. -/
theorem awake_wakeFirst {l : List ParkedSend} (h : l.any (·.wake = .asleep) = true) :
    awake (wakeFirst l) = awake l + 1 := by
  induction l with
  | nil => cases h
  | cons q l ih =>
    rw [wakeFirst]
    split
    · next hq => simp [awake, hq]
    · next hq =>
      have hl : l.any (·.wake = .asleep) = true := by simpa [hq] using h
      have hl := ih hl
      simp only [awake] at hl ⊢
      rw [List.countP_cons, List.countP_cons, hl]
      omega

theorem parkedSend?_eq_some (h : r.parkedSend? id = some p) : p ∈ r.sends ∧ p.id = id := by
  rw [parkedSend?] at h
  exact ⟨List.mem_of_find?_eq_some h, by simpa using List.find?_some h⟩

/-- Without a parked sender as many are awake as before, but for that one. -/
theorem awake_eq_of_parked (hd : (r.sends.map (·.id)).Nodup) (h : r.parkedSend? id = some p) :
    awake r.sends = awake (r.dropSend id).sends + if p.wake = .asleep then 0 else 1 := by
  obtain ⟨hp, rfl⟩ := parkedSend?_eq_some h
  rw [awake, (perm_cons_filter_key_ne hd hp).countP_eq, List.countP_cons]
  by_cases hw : p.wake = .asleep <;> simp [awake, dropSend, hw]

/-! ### The invariant of waking -/

/-- Nobody sleeps without a reason, except that some wake-ups are still owed to senders: while one
of them is asleep, there is no more room than there are senders awake and wake-ups owed. Only
closing a router wakes senders together. -/
structure WakeInvariant (owed : Nat) (r : Router) : Prop where
  senders : (r.sends.map (·.id)).Nodup
  takers : (r.takes.map (·.id)).Nodup
  takes : ∀ t ∈ r.takes, t.woken = false →
    r.closed = false ∧ takeMatching t.state r.queue = none
  together : ∀ p ∈ r.sends, p.wake = .together → r.closed = true
  sends : ∀ p ∈ r.sends, p.wake = .asleep →
    r.closed = false ∧ r.capacity ≤ r.queue.length + awake r.sends + owed

/-- In a closed router no sender is asleep, and nothing is owed. -/
theorem WakeInvariant.of_closed (h : WakeInvariant owed r) (hc : r.closed = true) :
    WakeInvariant 0 r := by
  refine { h with sends := fun p hp hw ↦ ?_ }
  have ho := (h.sends p hp hw).1
  rw [hc] at ho
  cases ho

theorem WakeInvariant.dropTake (h : WakeInvariant owed r) (id : Nat) :
    WakeInvariant owed (r.dropTake id) := by
  refine { h with takers := ?_, takes := fun t ht ↦ h.takes t (List.mem_filter.1 ht).1 }
  exact h.takers.sublist (List.filter_sublist.map _)

/-- Without some sender, as long as those awake and the wake-ups owed are as many as before. -/
theorem WakeInvariant.dropSend_of_le {owed' : Nat} (h : WakeInvariant owed r)
    (hle : awake r.sends + owed ≤ awake (r.dropSend id).sends + owed') :
    WakeInvariant owed' (r.dropSend id) := by
  have hmem {p : ParkedSend} (hp : p ∈ (r.dropSend id).sends) : p ∈ r.sends :=
    (List.mem_filter.1 hp).1
  refine { h with senders := ?_, together := fun p hp ↦ h.together p (hmem hp), sends := ?_ }
  · exact h.senders.sublist (List.filter_sublist.map _)
  · intro p hp hw
    obtain ⟨ho, hroom⟩ := h.sends p (hmem hp) hw
    refine ⟨ho, ?_⟩
    show r.capacity ≤ r.queue.length + awake (r.dropSend id).sends + owed'
    omega

/-- A sender that leaves may owe a wake-up to another. -/
theorem WakeInvariant.dropSend (h : WakeInvariant owed r) (id : Nat) :
    WakeInvariant (owed + 1) (r.dropSend id) := by
  refine h.dropSend_of_le ?_
  cases hp : r.parkedSend? id with
  | none =>
    rw [dropSend_of_none hp]
    omega
  | some p =>
    have hawake := awake_eq_of_parked h.senders hp
    split at hawake <;> omega

/-- One that was asleep does not. -/
theorem WakeInvariant.dropSend_of_asleep (h : WakeInvariant owed r) (hp : r.parkedSend? id = some p)
    (hw : p.wake = .asleep) : WakeInvariant owed (r.dropSend id) := by
  refine h.dropSend_of_le ?_
  rw [awake_eq_of_parked h.senders hp, if_pos hw]
  omega

/-- **Waking a sender pays what is owed** in the `WakeInvariant`. -/
theorem WakeInvariant.wakeSend (h : WakeInvariant (owed + 1) r) :
    WakeInvariant owed r.wakeSend := by
  rw [Router.wakeSend]
  split
  · next hany =>
    refine { h with senders := ?_, together := ?_, sends := ?_ }
    · rw [map_wakeFirst _ fun _ ↦ rfl]
      exact h.senders
    · intro p hp hw
      rcases mem_wakeFirst hp with hp | halone
      · exact h.together p hp hw
      · rw [halone] at hw
        cases hw
    · intro p hp hw
      rcases mem_wakeFirst hp with hp | halone
      · obtain ⟨ho, hroom⟩ := h.sends p hp hw
        refine ⟨ho, ?_⟩
        show r.capacity ≤ r.queue.length + awake (wakeFirst r.sends) + owed
        rw [awake_wakeFirst hany]
        omega
      · rw [halone] at hw
        cases hw
  · next hnone =>
    -- Nobody is asleep, so that the wake-up is kept for whoever parks next.
    refine { h with sends := fun p hp hw ↦ ?_ }
    exact absurd (List.any_eq_true.2 ⟨p, hp, decide_eq_true hw⟩) hnone

/-! ### Steps -/

/-- A sender that gives up has done its part: if it was woken alone it wakes another. -/
theorem WakeInvariant.abandonSend (h : WakeInvariant 0 r) (hp : r.parkedSend? id = some p) :
    WakeInvariant 0 (r.abandonSend id) := by
  have hmem := (parkedSend?_eq_some hp).1
  simp only [Router.abandonSend, hp]
  cases hw : p.wake with
  | asleep => exact h.dropSend_of_asleep hp hw
  | alone => exact (h.dropSend id).wakeSend
  | together => exact (h.dropSend id).of_closed (h.together p hmem hw)

/-- **Every deed keeps the invariant of waking** (`WakeInvariant`), with nothing owed. -/
theorem WakeInvariant.step (h : WakeInvariant 0 r) (hs : Stepped r deed r') :
    WakeInvariant 0 r' := by
  cases hs with
  | @accepted id i ho hroom =>
    have hd := h.dropSend id
    refine { senders := hd.senders, takers := ?_, takes := ?_, together := hd.together,
             sends := ?_ }
    · show ((r.takes.map fun t ↦ { t with woken := true }).map (·.id)).Nodup
      rw [List.map_map]
      exact h.takers
    · intro t ht hwoken
      obtain ⟨t, -, rfl⟩ := List.mem_map.1 ht
      cases hwoken
    · intro p hp hw
      obtain ⟨ho, hroom⟩ := hd.sends p hp hw
      refine ⟨ho, ?_⟩
      have hroom : r.capacity ≤ r.queue.length + awake (r.dropSend id).sends + 1 := hroom
      show r.capacity ≤ (r.queue ++ [i]).length + awake (r.dropSend id).sends + 0
      rw [List.length_append, List.length_singleton]
      omega
  | @refused id i hc => exact (h.dropSend id).of_closed hc
  | @blocked id i ho hfull =>
    have hd := h.dropSend id
    refine { hd with senders := nodup_map_concat h.senders ⟨id, i, .asleep⟩, together := ?_,
                     sends := ?_ }
    · intro p hp hw
      rcases List.mem_append.1 hp with hp | hp
      · exact hd.together p hp hw
      · rw [List.mem_singleton.1 hp] at hw
        cases hw
    · -- The router is full, so that there is no room to be told of.
      intro p hp hw
      refine ⟨ho, ?_⟩
      show r.capacity ≤ r.queue.length + _ + 0
      omega
  | sendGone hp => exact h.abandonSend hp
  | @delivered id state i rest hq =>
    have hd := h.dropTake id
    have hperm := perm_of_takeMatching hq
    refine WakeInvariant.wakeSend { hd with takes := ?_, sends := ?_ }
    · intro t ht hwoken
      obtain ⟨ho, hnone⟩ := hd.takes t ht hwoken
      refine ⟨ho, ?_⟩
      rw [takeMatching_eq_none] at hnone ⊢
      intro j hj
      exact hnone j (hperm.mem_iff.2 (List.mem_cons_of_mem i hj))
    · intro p hp hw
      obtain ⟨ho, hroom⟩ := h.sends p hp hw
      refine ⟨ho, ?_⟩
      have hlength : r.queue.length = rest.length + 1 := hperm.length_eq
      show r.capacity ≤ rest.length + awake r.sends + 1
      omega
  | @exhausted id state => exact h.dropTake id
  | @starved id state ho hq =>
    have hd := h.dropTake id
    refine { hd with takers := nodup_map_concat h.takers ⟨id, state, false⟩, takes := ?_ }
    · intro t ht hwoken
      rcases List.mem_append.1 ht with ht | ht
      · exact hd.takes t ht hwoken
      · rw [List.mem_singleton.1 ht]
        exact ⟨ho, hq⟩
  | @takeGone id state => exact h.dropTake id
  | closed =>
    refine { senders := ?_, takers := ?_, takes := ?_, together := fun _ _ _ ↦ rfl, sends := ?_ }
    · show ((r.sends.map fun p ↦ if p.wake = .asleep then { p with wake := .together } else p).map
        (·.id)).Nodup
      have hsame : ∀ p : ParkedSend,
          (if p.wake = .asleep then { p with wake := .together } else p).id = p.id := by
        intro p
        split <;> rfl
      simpa [List.map_map, Function.comp_def, hsame] using h.senders
    · show ((r.takes.map fun t ↦ { t with woken := true }).map (·.id)).Nodup
      rw [List.map_map]
      exact h.takers
    · intro t ht hwoken
      obtain ⟨t, -, rfl⟩ := List.mem_map.1 ht
      cases hwoken
    · intro p hp hw
      obtain ⟨q, -, rfl⟩ := List.mem_map.1 hp
      split at hw
      · cases hw
      · next hq => exact absurd hw hq

/-- **After every history the invariant of waking holds** (`WakeInvariant.step`), with nothing
owed. -/
theorem Run.wakeInvariant {capacity : Nat} (h : Run { capacity := capacity } deeds r) :
    WakeInvariant 0 r := by
  induction h with
  | start =>
    exact ⟨List.nodup_nil, List.nodup_nil, List.forall_mem_nil _, List.forall_mem_nil _,
      List.forall_mem_nil _⟩
  | step _ hs ih => exact ih.step (stepped_of_step hs)

/-! ### The theorem -/

/-- Where nobody was woken nobody can try again. -/
theorem settled_of_asleep (hsends : ∀ p ∈ r.sends, p.wake = .asleep)
    (htakes : ∀ t ∈ r.takes, t.woken = false) : r.Settled := by
  intro id
  refine ⟨?_, ?_⟩
  · rw [retrySend]
    split
    · next p hp => rw [if_pos (hsends p (parkedSend?_eq_some hp).1)]
    · rfl
  · rw [retryTake]
    split
    · next t ht => rw [if_neg (by simp [htakes t (List.mem_of_find?_eq_some ht)])]
    · rfl

/-- In a settled router every parked sender is asleep. -/
theorem WakeInvariant.asleep_of_settled (h : WakeInvariant owed r) (hs : r.Settled)
    (hp : p ∈ r.sends) :
    p.wake = .asleep := by
  have hfound : r.parkedSend? p.id = some p := find?_key_eq h.senders hp
  have hretry := (hs p.id).1
  simp only [retrySend, hfound] at hretry
  split at hretry
  · assumption
  · cases hretry

/-- So is every parked taker. -/
theorem WakeInvariant.not_woken_of_settled (h : WakeInvariant owed r) (hs : r.Settled)
    {t : ParkedTake} (ht : t ∈ r.takes) :
    t.woken = false := by
  have hfound : r.parkedTake? t.id = some t := find?_key_eq h.takers ht
  have hretry := (hs t.id).2
  simp only [retryTake, hfound] at hretry
  split at hretry
  · cases hretry
  · next hwoken => simpa using hwoken

/-- **Nobody sleeps in vain.** Take any history of a router, of whatever capacity, after which
nobody who is parked can try again (`Settled`). Then no taker is parked that could reach something
in the queue; no sender is parked while the queue holds less than the capacity; and nobody at all is
parked at a router that was closed. -/
theorem Run.nobody_sleeps_in_vain {capacity : Nat} (h : Run { capacity := capacity } deeds r)
    (hs : r.Settled) :
    (∀ t ∈ r.takes, ∀ i ∈ r.queue, t.state.canReach i.state = false) ∧
      (r.queue.length < capacity → r.sends = []) ∧
      (r.closed = true → r.takes = [] ∧ r.sends = []) := by
  have ha := h.wakeInvariant
  have hnone : awake r.sends = 0 := by
    rw [awake, List.countP_eq_zero]
    intro p hp
    simpa using ha.asleep_of_settled hs hp
  refine ⟨?_, ?_, ?_⟩
  · intro t ht
    exact takeMatching_eq_none.1 (ha.takes t ht (ha.not_woken_of_settled hs ht)).2
  · intro hroom
    rw [List.eq_nil_iff_forall_not_mem]
    intro p hp
    have hfull := (ha.sends p hp (ha.asleep_of_settled hs hp)).2
    rw [h.ledger.capacity_eq, hnone] at hfull
    omega
  · intro hc
    rw [List.eq_nil_iff_forall_not_mem, List.eq_nil_iff_forall_not_mem]
    refine ⟨?_, ?_⟩
    · intro t ht
      have ho := (ha.takes t ht (ha.not_woken_of_settled hs ht)).1
      rw [hc] at ho
      cases ho
    · intro p hp
      have ho := (ha.sends p hp (ha.asleep_of_settled hs hp)).1
      rw [hc] at ho
      cases ho

/-- A taker that nothing in a full queue is for, and a sender that there is no room for. -/
theorem nobody_sleeps_in_vain_of_stranger :
    ∃ (deeds : List Deed) (r : Router), Run { capacity := 1 } deeds r ∧ r.Settled ∧
      r.takes.length = 1 ∧ r.sends.length = 1 ∧ r.queue.length = 1 ∧
      (∀ t ∈ r.takes, ∀ i ∈ r.queue, t.state.canReach i.state = false) ∧
      (r.queue.length < 1 → r.sends = []) ∧ (r.closed = true → r.takes = [] ∧ r.sends = []) := by
  let action : TestAction :=
    ⟨⟨"LoginTest", "login", "api29"⟩, "com.example", "com.example", .empty, 1, .ofMillis 1000⟩
  let a : Intention := ⟨.numbered 0 1, .ofDevice 29 "pixel", action⟩
  let b : Intention := ⟨.numbered 0 2, .ofDevice 29 "pixel", action⟩
  have hwaits := (Run.start (r := { capacity := 1 })).step (.take 0 (.ofDevice 30 "pixel") rfl)
  have hwoken := hwaits.step (.send 1 a rfl)
  have hagain := hwoken.step (.retake 0 rfl)
  have hblocked := hagain.step (.send 2 b rfl)
  let full : Router :=
    { capacity := 1, queue := [a], takes := [⟨0, .ofDevice 30 "pixel", false⟩],
      sends := [⟨2, b, .asleep⟩] }
  have hrun : Run { capacity := 1 } _ full := hblocked
  have hsettled : full.Settled := by
    refine settled_of_asleep ?_ ?_
    · intro p hp
      rw [List.mem_singleton.1 hp]
    · intro t ht
      rw [List.mem_singleton.1 ht]
  exact ⟨_, full, hrun, hsettled, rfl, rfl, rfl, hrun.nobody_sleeps_in_vain hsettled⟩

end Router

end DeviceLab
