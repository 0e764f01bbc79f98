import DeviceLab.Router

/-!
# Laws of the router

What comes of offering (`offer_of_room`, `offer_of_full`, `offer_of_closed`) and of asking
(`ask_of_some`, `ask_of_none`, `ask_of_closed`), case by case, so that nothing else has to open the
two. Only an open router lets anybody park.

`split_of_takeMatching` says what asking takes: the oldest intention that can be reached, with all
others left in order. The laws about waking say that it changes nothing but who is awake
(`map_wakeFirst`, `map_intention_wakeSend`).
-/

namespace DeviceLab

namespace Router

variable {r : Router} {id : Nat} {i : Intention} {state : DeviceState}

/-! ### The queue -/

/-- **What is taken (`takeMatching`) is the oldest intention that can be reached**, and the others
stay in order. -/
theorem split_of_takeMatching {q rest : List Intention}
    (h : takeMatching state q = some (i, rest)) :
    ∃ older newer, q = older ++ i :: newer ∧ rest = older ++ newer ∧
      state.canReach i.state = true ∧ ∀ j ∈ older, state.canReach j.state = false := by
  induction q generalizing rest with
  | nil => cases h
  | cons a q ih =>
    rw [takeMatching] at h
    split at h
    · next hreach =>
      obtain ⟨rfl, rfl⟩ := Prod.mk.inj (Option.some.inj h)
      exact ⟨[], q, rfl, rfl, hreach, List.forall_mem_nil _⟩
    · next hreach =>
      obtain ⟨⟨j, more⟩, hj, heq⟩ := Option.map_eq_some_iff.1 h
      obtain ⟨rfl, rfl⟩ := Prod.mk.inj heq
      obtain ⟨older, newer, rfl, rfl, hi, holder⟩ := ih hj
      exact ⟨a :: older, newer, rfl, rfl, hi,
        List.forall_mem_cons.2 ⟨by simpa using hreach, holder⟩⟩

/-- Taking an intention takes one away and leaves the others. -/
theorem perm_of_takeMatching {q rest : List Intention}
    (h : takeMatching state q = some (i, rest)) : q.Perm (i :: rest) := by
  obtain ⟨older, newer, rfl, rfl, -, -⟩ := split_of_takeMatching h
  exact List.perm_middle

/-- What is taken can be reached. -/
theorem canReach_of_takeMatching {q rest : List Intention}
    (h : takeMatching state q = some (i, rest)) : state.canReach i.state = true := by
  obtain ⟨-, -, -, -, hreach, -⟩ := split_of_takeMatching h
  exact hreach

/-- Nothing can be taken only if nothing can be reached. -/
theorem takeMatching_eq_none {q : List Intention} :
    takeMatching state q = none ↔ ∀ i ∈ q, state.canReach i.state = false := by
  induction q with
  | nil => exact ⟨fun _ ↦ List.forall_mem_nil _, fun _ ↦ rfl⟩
  | cons a q ih =>
    rw [takeMatching, List.forall_mem_cons]
    cases hreach : state.canReach a.state with
    | true => simp
    | false => simp [ih]

/-! ### Waking -/

section Waking

variable (r : Router)

@[simp] theorem wakeTakes_queue : r.wakeTakes.queue = r.queue := rfl
@[simp] theorem wakeTakes_sends : r.wakeTakes.sends = r.sends := rfl

@[simp] theorem wakeSend_queue : r.wakeSend.queue = r.queue := by
  rw [wakeSend]
  split <;> rfl

@[simp] theorem wakeSend_takes : r.wakeSend.takes = r.takes := by
  rw [wakeSend]
  split <;> rfl

@[simp] theorem wakeSend_closed : r.wakeSend.closed = r.closed := by
  rw [wakeSend]
  split <;> rfl

@[simp] theorem wakeSend_capacity : r.wakeSend.capacity = r.capacity := by
  rw [wakeSend]
  split <;> rfl

/-- Waking a sender changes nothing but that it is awake. -/
theorem map_wakeFirst {α : Type} (f : ParkedSend → α) (hf : ∀ p, f { p with wake := .alone } = f p)
    (l : List ParkedSend) : (wakeFirst l).map f = l.map f := by
  induction l with
  | nil => rfl
  | cons p l ih =>
    rw [wakeFirst]
    split
    · rw [List.map_cons, List.map_cons, hf]
    · rw [List.map_cons, List.map_cons, ih]

/-- Everybody's intention stays with them. -/
theorem map_intention_wakeSend :
    r.wakeSend.sends.map (·.intention) = r.sends.map (·.intention) := by
  rw [wakeSend]
  split
  · exact map_wakeFirst _ (fun _ ↦ rfl) r.sends
  · rfl

end Waking

/-- A sender that gives up takes nothing out of the queue. -/
theorem abandonSend_queue (r : Router) (id : Nat) : (r.abandonSend id).queue = r.queue := by
  rw [abandonSend]
  split
  · split
    · exact wakeSend_queue _
    · rfl
  · rfl

/-- Neither does it concern the takers. -/
theorem abandonSend_takes (r : Router) (id : Nat) : (r.abandonSend id).takes = r.takes := by
  rw [abandonSend]
  split
  · split
    · exact wakeSend_takes _
    · rfl
  · rfl

/-! ### Offering -/

theorem offer_of_room (ho : r.closed = false) (h : r.queue.length < r.capacity) :
    r.offer id i = (.accepted, wakeTakes { r with queue := r.queue ++ [i] }) := by
  rw [offer, if_neg (by simp [ho]), if_pos h]

theorem offer_of_full (ho : r.closed = false) (h : r.capacity ≤ r.queue.length) :
    r.offer id i =
      (.parked, { r with sends := r.sends ++ [⟨id, i, .asleep⟩], permit := false }) := by
  rw [offer, if_neg (by simp [ho]), if_neg (Nat.not_lt.2 h)]

theorem offer_of_closed (hc : r.closed = true) : r.offer id i = (.refused, r) := by
  rw [offer, if_pos hc]

/-- A sender that offers for the first time was not parked. -/
theorem dropSend_of_none (h : r.parkedSend? id = none) : r.dropSend id = r := by
  rw [parkedSend?, List.find?_eq_none] at h
  have hsends : r.sends.filter (·.id ≠ id) = r.sends := by
    rw [List.filter_eq_self]
    intro p hp
    simpa using h p hp
  rw [dropSend, hsends]

/-! ### Asking -/

theorem ask_of_some {queue : List Intention} (h : takeMatching state r.queue = some (i, queue)) :
    r.ask id state = (.delivered i, wakeSend { r with queue := queue }) := by
  simp only [ask, h]

theorem ask_of_none (ho : r.closed = false) (h : takeMatching state r.queue = none) :
    r.ask id state = (.parked, { r with takes := r.takes ++ [⟨id, state, false⟩] }) := by
  simp only [ask, h, ho, Bool.false_eq_true, if_false]

theorem ask_of_closed (hc : r.closed = true) (h : takeMatching state r.queue = none) :
    r.ask id state = (.exhausted, r) := by
  simp only [ask, h, hc, if_true]

/-- A taker that asks for the first time was not parked. -/
theorem dropTake_of_none (h : r.parkedTake? id = none) : r.dropTake id = r := by
  rw [parkedTake?, List.find?_eq_none] at h
  have htakes : r.takes.filter (·.id ≠ id) = r.takes := by
    rw [List.filter_eq_self]
    intro t ht
    simpa using h t ht
  rw [dropTake, htakes]

end Router

end DeviceLab
