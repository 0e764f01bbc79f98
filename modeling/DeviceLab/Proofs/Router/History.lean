import DeviceLab.Proofs.Device.Reaching
import DeviceLab.Proofs.Router

/-!
# Histories of a router

Any number of senders and takers work on one router: they try, park, try again and give up, in any
order, and somebody may close it. A `Run` is a list of their deeds (`Deed`), each with what came of
it. An attempt is one deed, since nobody waits for anything between looking at the queue and
parking. Whether somebody who tries again was woken before is left open here, so the runs also cover
wake-ups that come late or for nothing.

* `stepped_of_step` says once what a deed can do (`Stepped`), and `Stepped.change` what it does to
  the queue.
* `Run.ledger` keeps the books (`Ledger`): what joins the queue was sent and what leaves it is
  delivered. Since a state reaches all intentions with the same demands on the device or none of
  them, those are delivered in the order in which they were sent; this is `filter_demands_eq`.
* `Run.of_closed` says that nothing goes into a closed router.

`Run.delivers_in_order` puts these together. None of it depends on who is asleep; that is the matter
of `DeviceLab.Proofs.Router.Waking`.
-/

namespace DeviceLab

namespace Router

/-! ### Deeds -/

/-- What is done to a router, with what came of it (`SendResult`, `TakeResult`). -/
inductive Deed
  /-- Somebody tried to send. -/
  | send (i : Intention) (result : SendResult)
  /-- Somebody tried to take. -/
  | take (state : DeviceState) (result : TakeResult)
  /-- A parked sender gave up. -/
  | abandonSend (i : Intention)
  /-- A parked taker gave up. -/
  | abandonTake (state : DeviceState)
  /-- Somebody closed the router. -/
  | close

/-- The intention that a deed added to the queue. -/
def Deed.sent? : Deed → Option Intention
  | send i .accepted => some i
  | _ => none

/-- The intention that a deed took out of the queue. -/
def Deed.delivered? : Deed → Option Intention
  | take _ (.delivered i) => some i
  | _ => none

/-- The intentions that were sent, in order. -/
def sentIn (deeds : List Deed) : List Intention :=
  deeds.filterMap Deed.sent?

/-- The intentions that were delivered, in order. -/
def deliveredIn (deeds : List Deed) : List Intention :=
  deeds.filterMap Deed.delivered?

/-- One deed, at first by `offer` or `ask` and later by `retrySend` or `retryTake`. An operation
that is under way has an identity of its own, by which it is parked; it tries again with what it was
parked with. -/
inductive Step (r : Router) : Deed → Router → Prop
  | send (id : Nat) (i : Intention) (fresh : r.parkedSend? id = none) :
      Step r (.send i (r.offer id i).1) (r.offer id i).2
  | resend (id : Nat) {p : ParkedSend} (parked : r.parkedSend? id = some p) :
      Step r (.send p.intention ((r.dropSend id).offer id p.intention).1)
        ((r.dropSend id).offer id p.intention).2
  | abandonSend (id : Nat) {p : ParkedSend} (parked : r.parkedSend? id = some p) :
      Step r (.abandonSend p.intention) (r.abandonSend id)
  | take (id : Nat) (state : DeviceState) (fresh : r.parkedTake? id = none) :
      Step r (.take state (r.ask id state).1) (r.ask id state).2
  | retake (id : Nat) {t : ParkedTake} (parked : r.parkedTake? id = some t) :
      Step r (.take t.state ((r.dropTake id).ask id t.state).1) ((r.dropTake id).ask id t.state).2
  | abandonTake (id : Nat) {t : ParkedTake} (parked : r.parkedTake? id = some t) :
      Step r (.abandonTake t.state) (r.abandonTake id)
  | close : Step r .close r.close

/-- One deed after the other, each by `Step`. -/
inductive Run (r : Router) : List Deed → Router → Prop
  | start : Run r [] r
  | step {deeds : List Deed} {deed : Deed} {r' r'' : Router} (h : Run r deeds r')
      (hs : Step r' deed r'') : Run r (deeds ++ [deed]) r''

variable {r r' : Router} {deed : Deed} {deeds : List Deed} {id : Nat} {i : Intention}
  {state : DeviceState}

/-- A sender that was woken and tries again makes a step. -/
theorem step_of_retrySend {result : SendResult} (h : r.retrySend id = some (result, r')) :
    ∃ i, Step r (.send i result) r' := by
  rw [retrySend] at h
  split at h
  · next p hp =>
    split at h
    · cases h
    · obtain ⟨hresult, hrouter⟩ := Prod.mk.inj (Option.some.inj h)
      rw [← hresult, ← hrouter]
      exact ⟨p.intention, .resend id hp⟩
  · cases h

/-- A taker that was woken and tries again makes a step. -/
theorem step_of_retryTake {result : TakeResult} (h : r.retryTake id = some (result, r')) :
    ∃ state, Step r (.take state result) r' := by
  rw [retryTake] at h
  split at h
  · next t ht =>
    split at h
    · obtain ⟨hresult, hrouter⟩ := Prod.mk.inj (Option.some.inj h)
      rw [← hresult, ← hrouter]
      exact ⟨t.state, .retake id ht⟩
    · cases h
  · cases h

/-! ### What a step can do -/

/-- A deed takes a router to its next state (`stepped_of_step`). Nobody is parked while trying, so a
first attempt and a later one come to the same. -/
inductive Stepped (r : Router) : Deed → Router → Prop
  /-- There was room. -/
  | accepted {id : Nat} {i : Intention} (ho : r.closed = false)
      (hroom : r.queue.length < r.capacity) :
      Stepped r (.send i .accepted) (wakeTakes { r.dropSend id with queue := r.queue ++ [i] })
  /-- The router was closed. -/
  | refused {id : Nat} {i : Intention} (hc : r.closed = true) :
      Stepped r (.send i .refused) (r.dropSend id)
  /-- There was no room. -/
  | blocked {id : Nat} {i : Intention} (ho : r.closed = false)
      (hfull : r.capacity ≤ r.queue.length) :
      Stepped r (.send i .parked)
        { r.dropSend id with sends := (r.dropSend id).sends ++ [⟨id, i, .asleep⟩], permit := false }
  /-- A sender gave up. -/
  | sendGone {id : Nat} {p : ParkedSend} (hp : r.parkedSend? id = some p) :
      Stepped r (.abandonSend p.intention) (r.abandonSend id)
  /-- There was something for the taker. -/
  | delivered {id : Nat} {state : DeviceState} {i : Intention} {rest : List Intention}
      (hq : takeMatching state r.queue = some (i, rest)) :
      Stepped r (.take state (.delivered i)) (wakeSend { r.dropTake id with queue := rest })
  /-- There was nothing for the taker, and there never will be. -/
  | exhausted {id : Nat} {state : DeviceState} (hc : r.closed = true)
      (hq : takeMatching state r.queue = none) :
      Stepped r (.take state .exhausted) (r.dropTake id)
  /-- There was nothing for the taker yet. -/
  | starved {id : Nat} {state : DeviceState} (ho : r.closed = false)
      (hq : takeMatching state r.queue = none) :
      Stepped r (.take state .parked)
        { r.dropTake id with takes := (r.dropTake id).takes ++ [⟨id, state, false⟩] }
  /-- A taker gave up. -/
  | takeGone {id : Nat} {state : DeviceState} : Stepped r (.abandonTake state) (r.dropTake id)
  /-- The router was closed. -/
  | closed : Stepped r .close r.close

theorem stepped_offer (r : Router) (id : Nat) (i : Intention) :
    Stepped r (.send i ((r.dropSend id).offer id i).1) ((r.dropSend id).offer id i).2 := by
  cases hc : r.closed with
  | true =>
    rw [offer_of_closed (r := r.dropSend id) hc]
    exact .refused hc
  | false =>
    by_cases hroom : r.queue.length < r.capacity
    · rw [offer_of_room (r := r.dropSend id) hc hroom]
      exact .accepted hc hroom
    · have hfull : r.capacity ≤ r.queue.length := Nat.not_lt.1 hroom
      rw [offer_of_full (r := r.dropSend id) hc hfull]
      exact .blocked hc hfull

theorem stepped_ask (r : Router) (id : Nat) (state : DeviceState) :
    Stepped r (.take state ((r.dropTake id).ask id state).1) ((r.dropTake id).ask id state).2 := by
  cases hq : takeMatching state r.queue with
  | some found =>
    rw [ask_of_some (r := r.dropTake id) hq]
    exact .delivered hq
  | none =>
    cases hc : r.closed with
    | true =>
      rw [ask_of_closed (r := r.dropTake id) hc hq]
      exact .exhausted hc hq
    | false =>
      rw [ask_of_none (r := r.dropTake id) hc hq]
      exact .starved hc hq

/-- **What a deed can do**: every step is one of `Stepped`. -/
theorem stepped_of_step (h : Step r deed r') : Stepped r deed r' := by
  cases h with
  | send id i fresh =>
    have hs := stepped_offer r id i
    rwa [dropSend_of_none fresh] at hs
  | resend id parked => exact stepped_offer r id _
  | abandonSend id parked => exact .sendGone parked
  | take id state fresh =>
    have hs := stepped_ask r id state
    rwa [dropTake_of_none fresh] at hs
  | retake id parked => exact stepped_ask r id _
  | abandonTake id parked => exact .takeGone
  | close => exact .closed

/-! ### The queue -/

theorem abandonSend_closed (r : Router) (id : Nat) : (r.abandonSend id).closed = r.closed := by
  rw [Router.abandonSend]
  split
  · split
    · exact wakeSend_closed _
    · rfl
  · rfl

theorem abandonSend_capacity (r : Router) (id : Nat) :
    (r.abandonSend id).capacity = r.capacity := by
  rw [Router.abandonSend]
  split
  · split
    · exact wakeSend_capacity _
    · rfl
  · rfl

/-- What a deed does to the queue. -/
inductive Change (r : Router) (deed : Deed) (r' : Router) : Prop
  /-- An intention joined at the end. -/
  | joined {i : Intention} (hs : deed.sent? = some i) (hd : deed.delivered? = none)
      (ho : r.closed = false) (hroom : r.queue.length < r.capacity)
      (hq : r'.queue = r.queue ++ [i])
  /-- The oldest intention that some state can reach left. -/
  | left {i : Intention} {state : DeviceState} {older newer : List Intention}
      (hs : deed.sent? = none) (hd : deed.delivered? = some i)
      (hq : r.queue = older ++ i :: newer) (hq' : r'.queue = older ++ newer)
      (hreach : state.canReach i.state = true)
      (holder : ∀ j ∈ older, state.canReach j.state = false)
  /-- Nothing. -/
  | kept (hs : deed.sent? = none) (hd : deed.delivered? = none) (hq : r'.queue = r.queue)

theorem Stepped.change (h : Stepped r deed r') : Change r deed r' := by
  cases h with
  | accepted ho hroom => exact .joined rfl rfl ho hroom rfl
  | delivered hq =>
    obtain ⟨older, newer, hsplit, rfl, hreach, holder⟩ := split_of_takeMatching hq
    exact .left rfl rfl hsplit (wakeSend_queue _) hreach holder
  | sendGone hp => exact .kept rfl rfl (abandonSend_queue r _)
  | refused | blocked | exhausted | starved | takeGone | closed => exact .kept rfl rfl rfl

theorem Stepped.capacity_eq (h : Stepped r deed r') : r'.capacity = r.capacity := by
  cases h with
  | delivered => exact wakeSend_capacity _
  | sendGone => exact abandonSend_capacity r _
  | _ => rfl

/-- Nobody opens a router that was closed. -/
theorem Stepped.closed_mono (h : Stepped r deed r') (hc : r.closed = true) : r'.closed = true := by
  cases h with
  | accepted ho | blocked ho | starved ho => rw [hc] at ho; cases ho
  | delivered => rwa [wakeSend_closed]
  | sendGone => rwa [abandonSend_closed]
  | closed => rfl
  | _ => exact hc

/-! ### The books -/

/-- The books of a router after some deeds: the queue keeps to its capacity, what was sent is what
was delivered and what is queued, and the same in order among intentions with the same demands. -/
structure Ledger (capacity : Nat) (deeds : List Deed) (r : Router) : Prop where
  capacity_eq : r.capacity = capacity
  room : r.queue.length ≤ capacity
  perm : (sentIn deeds).Perm (deliveredIn deeds ++ r.queue)
  order : ∀ k, (sentIn deeds).filter (·.state.demands = k) =
    (deliveredIn deeds).filter (·.state.demands = k) ++ r.queue.filter (·.state.demands = k)

theorem sentIn_concat (deeds : List Deed) (deed : Deed) :
    sentIn (deeds ++ [deed]) = sentIn deeds ++ deed.sent?.toList := by
  rw [sentIn, List.filterMap_append, sentIn]
  cases h : deed.sent? <;> simp [h]

theorem deliveredIn_concat (deeds : List Deed) (deed : Deed) :
    deliveredIn (deeds ++ [deed]) = deliveredIn deeds ++ deed.delivered?.toList := by
  rw [deliveredIn, List.filterMap_append, deliveredIn]
  cases h : deed.delivered? <;> simp [h]

/-- What is left behind when an intention is taken has other demands, or was sent later. -/
theorem filter_demands_eq {older newer : List Intention} (hreach : state.canReach i.state = true)
    (holder : ∀ j ∈ older, state.canReach j.state = false) (k : Option UInt32 × Option String) :
    (older ++ i :: newer).filter (·.state.demands = k) =
      [i].filter (·.state.demands = k) ++ (older ++ newer).filter (·.state.demands = k) := by
  by_cases hk : i.state.demands = k
  · -- A state that reached nothing older reaches nothing older with these demands.
    have hnone : older.filter (·.state.demands = k) = [] := by
      rw [List.filter_eq_nil_iff]
      intro j hj hjk
      have hsame : j.state.demands = i.state.demands := (of_decide_eq_true hjk).trans hk.symm
      have hfalse := holder j hj
      rw [DeviceState.canReach_congr hsame, hreach] at hfalse
      cases hfalse
    simp [hnone, hk]
  · simp [hk]

/-- **Every deed keeps the books** (`Ledger`). -/
theorem Ledger.step {capacity : Nat} (hl : Ledger capacity deeds r) (h : Stepped r deed r') :
    Ledger capacity (deeds ++ [deed]) r' := by
  have hcapacity : r'.capacity = capacity := h.capacity_eq.trans hl.capacity_eq
  cases h.change with
  | @joined i hs hd ho hroom hq =>
    refine ⟨hcapacity, ?_, ?_, fun k ↦ ?_⟩
    · rw [hq, List.length_append, List.length_singleton]
      have hlt : r.queue.length < capacity := hl.capacity_eq ▸ hroom
      omega
    · rw [sentIn_concat, deliveredIn_concat, hs, hd, hq, Option.toList_none, List.append_nil,
        ← List.append_assoc]
      exact hl.perm.append_right [i]
    · rw [sentIn_concat, deliveredIn_concat, hs, hd, hq, Option.toList_none, List.append_nil,
        List.filter_append, List.filter_append, hl.order k, List.append_assoc]
      rfl
  | @left i state older newer hs hd hq hq' hreach holder =>
    refine ⟨hcapacity, ?_, ?_, fun k ↦ ?_⟩
    · have hroom := hl.room
      rw [hq, List.length_append, List.length_cons] at hroom
      rw [hq', List.length_append]
      omega
    · have hperm := hl.perm
      rw [hq] at hperm
      rw [sentIn_concat, deliveredIn_concat, hs, hd, hq', Option.toList_none, List.append_nil,
        Option.toList_some, List.append_assoc]
      exact hperm.trans (List.Perm.append_left _ List.perm_middle)
    · have horder := hl.order k
      rw [hq, filter_demands_eq hreach holder k] at horder
      rw [sentIn_concat, deliveredIn_concat, hs, hd, hq', Option.toList_none, List.append_nil,
        Option.toList_some, horder, List.filter_append (deliveredIn deeds) [i], List.append_assoc]
  | kept hs hd hq =>
    refine ⟨hcapacity, ?_, ?_, fun k ↦ ?_⟩
    · rw [hq]
      exact hl.room
    · rw [sentIn_concat, deliveredIn_concat, hs, hd, hq, Option.toList_none, List.append_nil,
        List.append_nil]
      exact hl.perm
    · rw [sentIn_concat, deliveredIn_concat, hs, hd, hq, Option.toList_none, List.append_nil,
        List.append_nil]
      exact hl.order k

/-- **The books are right after every history**, by `Ledger.step`. -/
theorem Run.ledger {capacity : Nat} (h : Run { capacity := capacity } deeds r) :
    Ledger capacity deeds r := by
  induction h with
  | start => exact ⟨rfl, Nat.zero_le _, .refl _, fun _ ↦ rfl⟩
  | step _ hs ih => exact ih.step (stepped_of_step hs)

/-! ### After the end -/

/-- After it was closed a router stays closed. -/
theorem Run.closed_of_mem (h : Run r deeds r') (hmem : .close ∈ deeds) : r'.closed = true := by
  induction h with
  | start => cases hmem
  | step _ hs ih =>
    have hs := stepped_of_step hs
    rcases List.mem_append.1 hmem with hmem | hmem
    · exact hs.closed_mono (ih hmem)
    · obtain rfl := List.mem_singleton.1 hmem
      cases hs with
      | closed => rfl

/-- **Into a closed router nothing goes**, and what is queued only gets less. -/
theorem Run.of_closed (h : Run r deeds r') (hc : r.closed = true) :
    r'.closed = true ∧ sentIn deeds = [] ∧ r'.queue.Sublist r.queue := by
  induction h with
  | start => exact ⟨hc, rfl, .refl _⟩
  | @step deeds deed r' r'' _ hs ih =>
    obtain ⟨hclosed, hsent, hsub⟩ := ih
    have hs := stepped_of_step hs
    refine ⟨hs.closed_mono hclosed, ?_⟩
    rw [sentIn_concat, hsent, List.nil_append]
    cases hs.change with
    | joined _ _ ho =>
      rw [hclosed] at ho
      cases ho
    | left hnone _ hq hq' =>
      refine ⟨by rw [hnone]; rfl, ?_⟩
      rw [hq] at hsub
      rw [hq']
      exact ((List.sublist_cons_self _ _).append_left _).trans hsub
    | kept hnone _ hq =>
      refine ⟨by rw [hnone]; rfl, ?_⟩
      rwa [hq]

/-! ### The theorem -/

/-- **What a router delivers.** After any history of a router, of whatever capacity,

* the queue holds no more than the capacity;
* what was sent (`sentIn`) is, as a multiset, what was delivered (`deliveredIn`) and what is queued;
* among intentions with the same `demands`, the deliveries in their order are a prefix of what was
  sent;
* whoever takes gets the oldest intention that can be reached, and nobody is told that there will be
  none unless the router is closed and nothing in it can be reached;
* a sender that was refused, parked or gave up has changed nothing in the queue;
* after the router was closed every sender is refused, and the queue only gets shorter. -/
theorem Run.delivers_in_order {capacity : Nat} (h : Run { capacity := capacity } deeds r) :
    r.queue.length ≤ capacity ∧
      (sentIn deeds).Perm (deliveredIn deeds ++ r.queue) ∧
      (∀ k, (deliveredIn deeds).filter (·.state.demands = k) <+:
        (sentIn deeds).filter (·.state.demands = k)) ∧
      (∀ state i r', Step r (.take state (.delivered i)) r' →
        ∃ older newer, r.queue = older ++ i :: newer ∧ r'.queue = older ++ newer ∧
          state.canReach i.state = true ∧ ∀ j ∈ older, state.canReach j.state = false) ∧
      (∀ state r', Step r (.take state .exhausted) r' →
        r.closed = true ∧ ∀ i ∈ r.queue, state.canReach i.state = false) ∧
      (∀ i result r', Step r (.send i result) r' → result ≠ .accepted → r'.queue = r.queue) ∧
      (∀ i r', Step r (.abandonSend i) r' → r'.queue = r.queue) ∧
      (.close ∈ deeds →
        (∀ i result r', Step r (.send i result) r' → result = .refused) ∧
          ∀ later r', Run r later r' → sentIn later = [] ∧ r'.queue.Sublist r.queue) := by
  have hl := h.ledger
  refine ⟨hl.room, hl.perm, ?_, ?_, ?_, ?_, ?_, ?_⟩
  · intro k
    rw [hl.order k]
    exact List.prefix_append _ _
  · intro state i r' hs
    cases stepped_of_step hs with
    | delivered hq =>
      obtain ⟨older, newer, hsplit, rfl, hreach, holder⟩ := split_of_takeMatching hq
      exact ⟨older, newer, hsplit, wakeSend_queue _, hreach, holder⟩
  · intro state r' hs
    cases stepped_of_step hs with
    | exhausted hc hq => exact ⟨hc, takeMatching_eq_none.1 hq⟩
  · intro i result r' hs hne
    cases stepped_of_step hs with
    | accepted => exact absurd rfl hne
    | refused | blocked => rfl
  · intro i r' hs
    cases stepped_of_step hs with
    | sendGone => exact abandonSend_queue r _
  · intro hmem
    have hc : r.closed = true := h.closed_of_mem hmem
    refine ⟨?_, ?_⟩
    · intro i result r' hs
      cases stepped_of_step hs with
      | refused => rfl
      | accepted ho | blocked ho => rw [hc] at ho; cases ho
    · intro later r' hrun
      exact (hrun.of_closed hc).2

/-- Two senders at a router with room for one: the second is parked until a taker has made room, and
what it sends is still in the router when that is closed. -/
theorem delivers_in_order_of_handover :
    ∃ (a b : Intention) (deeds : List Deed) (r : Router), Run { capacity := 1 } deeds r ∧
      deeds.length = 5 ∧ deliveredIn deeds = [a] ∧ r.queue = [b] ∧ (sentIn deeds).Perm [a, b] ∧
      ∀ later r', Run r later r' → sentIn later = [] ∧ r'.queue.Sublist [b] := by
  let state : DeviceState := .ofDevice 29 "pixel"
  let action : TestAction :=
    ⟨⟨"LoginTest", "login", "api29"⟩, "com.example", "com.example", .empty, 1, .ofMillis 1000⟩
  let a : Intention := ⟨.numbered 0 1, state, action⟩
  let b : Intention := ⟨.numbered 0 2, state, action⟩
  have hfull := (Run.start (r := { capacity := 1 })).step (.send 0 a rfl)
  have hparked := hfull.step (.send 1 b rfl)
  have htaken := hparked.step (.take 0 state rfl)
  have hsent := htaken.step (.resend 1 rfl)
  have hclosed := hsent.step .close
  obtain ⟨-, hperm, -, -, -, -, -, hlater⟩ := hclosed.delivers_in_order
  exact ⟨a, b, _, _, hclosed, rfl, rfl, rfl, hperm, (hlater (by simp)).2⟩

end Router

end DeviceLab
