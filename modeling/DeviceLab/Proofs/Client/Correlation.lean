import Mathlib.Data.List.Forall2
import DeviceLab.Proofs.Client.Translation

/-!
# Which result belongs to which attempt

Nothing is said of when a result comes to a client. It may be for an intention that is not made yet,
or that is still in the hands of the client, or that was answered before. So whether a result is
brought back is told by the `chronicle`, in which the making of intentions and the hearing of
results stand in their order (`ClientEvent`): it is if the latest that happened to its intention is
that it was made (`awaited?`).

`Translation.correlated` says that the client remembers exactly the attempts that a result is
awaited for, if no two intentions share an identifier. `Translation.judges` says what a single turn
does to the result that is heard in it, and rests on it. So every attempt gets one intention, and
every intention at most one outcome, whoever reports whatever results: `Translation.translated`, for
which the order of everything comes from `Translation.balanced`.
-/

namespace DeviceLab

/-- An intention says what an attempt is to run, where and how: its `state` is the `targetState` of
the request, and its `action` has the test with its packages, parameters and timeout, and the number
of the attempt. -/
structure Intention.Serves (i : Intention) (a : Attempt) : Prop where
  state : i.state = a.request.targetState
  test : i.action.test = a.request.testCase
  testPackage : i.action.testPackage = a.request.testApplication.package
  targetPackage : i.action.targetPackage = a.request.targetPackage
  params : i.action.params = a.request.params
  timeout : i.action.timeout = a.request.timeout
  execution : i.action.execution = a.execution

theorem Intention.serves_ofRequest (id : Uuid) (a : Attempt) :
    (Intention.ofRequest id a.request a.execution).Serves a :=
  ⟨rfl, rfl, rfl, rfl, rfl, rfl, rfl⟩

namespace Session

/-! ### The chronicle -/

/-- What the chronicle of a client tells: an intention was `made` for an attempt, or a result was
`heard`. -/
inductive ClientEvent
  | made (id : Uuid) (a : Attempt)
  | heard (r : IntentionResult)

/-- The intention that an event is about. -/
def ClientEvent.id : ClientEvent → Uuid
  | made id _ => id
  | heard r => r.intention.id

/-- The attempt for which the intention was made. -/
def ClientEvent.attempt? : ClientEvent → Option Attempt
  | made _ a => some a
  | heard _ => none

/-- What a turn adds to the chronicle. -/
def Turn.clientEvents (t : Turn) : List ClientEvent :=
  t.drawn.map (fun p ↦ .made p.1 p.2) ++ t.heard.map .heard

/-- The chronicle of a client. -/
def chronicle (h : List Turn) : List ClientEvent :=
  h.flatMap Turn.clientEvents

/-- The attempt that an intention is awaited for: the latest that happened to the intention is that
it was made for this attempt. -/
def awaited? (es : List ClientEvent) (id : Uuid) : Option Attempt :=
  (es.filter (·.id = id)).getLast?.bind ClientEvent.attempt?

theorem awaited?_concat (es : List ClientEvent) (e : ClientEvent) (id : Uuid) :
    awaited? (es ++ [e]) id = if e.id = id then e.attempt? else awaited? es id := by
  rw [awaited?, List.filter_append]
  split
  · next h => simp [h]
  · next h => simp [h, awaited?]

/-- An intention that is awaited was made. -/
theorem mem_of_awaited? {es : List ClientEvent} {id : Uuid} {a : Attempt}
    (h : awaited? es id = some a) : .made id a ∈ es := by
  obtain ⟨e, he, ha⟩ := Option.bind_eq_some_iff.1 h
  obtain ⟨hmem, hid⟩ := List.mem_filter.1 (List.mem_of_getLast? he)
  cases e with
  | heard r => cases ha
  | made id' a' =>
    obtain rfl := Option.some.inj ha
    obtain rfl : id' = id := of_decide_eq_true hid
    exact hmem

variable {capacity : Option Nat} {deeds : List Deed} {h : List Turn} {s s' : Session} {t : Turn}
  {m : Move} {ns : List Notice} {id : Uuid}

/-! ### Who awaits a result -/

theorem chronicle_concat (h : List Turn) (t : Turn) :
    chronicle (h ++ [t]) = chronicle h ++ t.clientEvents := by
  rw [chronicle, List.flatMap_append, List.flatMap_singleton, chronicle]

theorem clientEvents_of_relates {made : List (Uuid × Attempt)} {hears : List IntentionResult}
    {brings : List (IntentionResult × AttemptOutcome)} (ht : Relates t made hears brings) :
    t.clientEvents = made.map (fun p ↦ .made p.1 p.2) ++ hears.map .heard := by
  rw [Turn.clientEvents, ht.drawn, ht.heard]

/-- An intention that is told to be made was made. -/
theorem mem_drawn_of_made {a : Attempt} (hm : .made id a ∈ chronicle h) : (id, a) ∈ drawn h := by
  obtain ⟨t, ht, he⟩ := List.mem_flatMap.1 hm
  refine List.mem_flatMap.2 ⟨t, ht, ?_⟩
  rcases List.mem_append.1 he with he | he
  · obtain ⟨p, hp, heq⟩ := List.mem_map.1 he
    obtain ⟨rfl, rfl⟩ := ClientEvent.made.inj heq
    exact hp
  · obtain ⟨r, -, heq⟩ := List.mem_map.1 he
    cases heq

theorem mem_drawn_of_awaited? {a : Attempt} (ha : awaited? (chronicle h) id = some a) :
    (id, a) ∈ drawn h :=
  mem_drawn_of_made (mem_of_awaited? ha)

/-- Where an intention is made, it is awaited (`awaited?`) from then on. -/
theorem chronicle_made {a : Attempt} (ht : Relates t [(id, a)] [] []) (id' : Uuid) :
    awaited? (chronicle (h ++ [t])) id' =
      if id = id' then some a else awaited? (chronicle h) id' := by
  rw [chronicle_concat, clientEvents_of_relates ht]
  exact awaited?_concat ..

/-- Where a result is heard, no other is awaited (`awaited?`) for its intention from then on. -/
theorem chronicle_heard {r : IntentionResult} {brings : List (IntentionResult × AttemptOutcome)}
    (ht : Relates t [] [r] brings) (id : Uuid) : awaited? (chronicle (h ++ [t])) id =
      if r.intention.id = id then none else awaited? (chronicle h) id := by
  rw [chronicle_concat, clientEvents_of_relates ht]
  exact awaited?_concat ..

/-- What the client remembers in `inFlight` of the intentions that it made, as long as it is there,
and what it made of results. -/
structure Correlated (h : List Turn) (c : Client) : Prop where
  lookup : c.stage ≠ .off →
    ∀ id, c.inFlight.lookup id = (awaited? (chronicle h) id).map (·.request.id)
  carried : ∀ p ∈ brought h, ∃ a, (p.1.intention.id, a) ∈ drawn h ∧
    p.2 = ⟨a.request.id, p.1.run⟩
  settled : ∀ p ∈ brought h, awaited? (chronicle h) p.1.intention.id = none
  once : ((brought h).map (·.1.intention.id)).Nodup

/-- A turn in which nothing is made and nothing is heard. -/
theorem Correlated.idle {c c' : Client} (hc : Correlated h c) (ht : Relates t [] [] [])
    (hstage : c'.stage ≠ .off → c.stage ≠ .off ∧ c'.inFlight = c.inFlight) :
    Correlated (h ++ [t]) c' := by
  have hchronicle : chronicle (h ++ [t]) = chronicle h := by
    rw [chronicle_concat, clientEvents_of_relates ht]
    exact List.append_nil _
  have hbrought : brought (h ++ [t]) = brought h := by
    rw [brought_concat, ht.brought, List.append_nil]
  have hdrawn : drawn (h ++ [t]) = drawn h := by
    rw [drawn_append_singleton, ht.drawn, List.append_nil]
  constructor
  case lookup =>
    intro hon
    rw [hchronicle, (hstage hon).2]
    exact hc.lookup (hstage hon).1
  case carried =>
    rw [hbrought, hdrawn]
    exact hc.carried
  case settled =>
    rw [hbrought, hchronicle]
    exact hc.settled
  case once =>
    rw [hbrought]
    exact hc.once

/-- A turn in which an intention is made, with an identifier of its own. -/
theorem Correlated.made {c : Client} {a : Attempt} (hc : Correlated h c) (hon : c.stage ≠ .off)
    (ht : Relates t [(id, a)] [] []) (hnew : id ∉ (drawn h).map (·.1)) :
    Correlated (h ++ [t]) (c.take id a) := by
  have hbrought : brought (h ++ [t]) = brought h := by
    rw [brought_concat, ht.brought, List.append_nil]
  have hnone : awaited? (chronicle h) id = none := by
    refine Option.eq_none_iff_forall_not_mem.2 fun a' ha' ↦ hnew ?_
    exact List.mem_map.2 ⟨_, mem_drawn_of_awaited? ha', rfl⟩
  constructor
  case lookup =>
    intro _ id'
    have hlookup := hc.lookup hon id'
    show (c.inFlight ++ [(id, a.request.id)]).lookup id' = _
    rw [List.lookup_append, hlookup, chronicle_made ht]
    by_cases hid : id = id'
    · subst hid
      rw [hnone, if_pos rfl]
      exact List.lookup_cons_self
    · rw [if_neg hid, List.lookup_cons, beq_false_of_ne fun heq ↦ hid heq.symm]
      exact Option.or_none
  case carried =>
    rw [hbrought, drawn_append_singleton]
    intro p hp
    obtain ⟨a', ha', heq⟩ := hc.carried p hp
    exact ⟨a', List.mem_append_left _ ha', heq⟩
  case settled =>
    rw [hbrought]
    intro p hp
    obtain ⟨a', ha', -⟩ := hc.carried p hp
    have hne : id ≠ p.1.intention.id := fun heq ↦ hnew (heq ▸ List.mem_map.2 ⟨_, ha', rfl⟩)
    rw [chronicle_made ht, if_neg hne]
    exact hc.settled p hp
  case once =>
    rw [hbrought]
    exact hc.once

/-- A turn in which a result is brought back. -/
theorem Correlated.brought {c : Client} {r : IntentionResult} {q : Uuid} (hc : Correlated h c)
    (hon : c.stage ≠ .off) (ht : Relates t [] [r] [(r, ⟨q, r.run⟩)])
    (hq : c.inFlight.lookup r.intention.id = some q) :
    Correlated (h ++ [t]) { c with inFlight := c.inFlight.filter (·.1 ≠ r.intention.id) } := by
  obtain ⟨a, ha, hreq⟩ := Option.map_eq_some_iff.1 ((hc.lookup hon _).symm.trans hq)
  have hbrought : Session.brought (h ++ [t]) = Session.brought h ++ [(r, ⟨q, r.run⟩)] := by
    rw [brought_concat, ht.brought]
  have hdrawn : drawn (h ++ [t]) = drawn h := by
    rw [drawn_append_singleton, ht.drawn, List.append_nil]
  constructor
  case lookup =>
    intro _ id
    show (c.inFlight.filter (·.1 ≠ r.intention.id)).lookup id = _
    rw [lookup_filter_key_ne, chronicle_heard ht, hc.lookup hon]
    by_cases hid : r.intention.id = id
    · rw [if_pos hid.symm, if_pos hid, Option.map_none]
    · rw [if_neg fun heq ↦ hid heq.symm, if_neg hid]
  case carried =>
    rw [hbrought, hdrawn]
    intro p hp
    rcases List.mem_append.1 hp with hp | hp
    · exact hc.carried p hp
    · obtain rfl := List.mem_singleton.1 hp
      exact ⟨a, mem_drawn_of_awaited? ha, by rw [hreq]⟩
  case settled =>
    rw [hbrought]
    intro p hp
    rw [chronicle_heard ht]
    split
    · rfl
    · next hne =>
      rcases List.mem_append.1 hp with hp | hp
      · exact hc.settled p hp
      · exact absurd (by rw [List.mem_singleton.1 hp]) hne
  case once =>
    rw [hbrought, List.map_append, List.nodup_append]
    refine ⟨hc.once, List.nodup_singleton _, ?_⟩
    intro x hx y hy hxy
    obtain ⟨p, hp, rfl⟩ := List.mem_map.1 hx
    obtain rfl := List.mem_singleton.1 hy
    -- An intention whose result was brought back is not awaited, but this one is.
    have hnone := hc.settled p hp
    rw [hxy, ha] at hnone
    cases hnone

/-- A turn in which a result is dropped. -/
theorem Correlated.dropped {c : Client} {r : IntentionResult} (hc : Correlated h c)
    (hon : c.stage ≠ .off) (ht : Relates t [] [r] [])
    (hq : c.inFlight.lookup r.intention.id = none) : Correlated (h ++ [t]) c := by
  have hnone : awaited? (chronicle h) r.intention.id = none :=
    Option.map_eq_none_iff.1 ((hc.lookup hon _).symm.trans hq)
  have hsame (id : Uuid) : awaited? (chronicle (h ++ [t])) id = awaited? (chronicle h) id := by
    rw [chronicle_heard ht]
    split
    · next hid => rw [← hid, hnone]
    · rfl
  have hbrought : Session.brought (h ++ [t]) = Session.brought h := by
    rw [brought_concat, ht.brought, List.append_nil]
  constructor
  case lookup =>
    intro _ id
    rw [hsame, hc.lookup hon]
  case carried =>
    rw [hbrought, drawn_append_singleton, ht.drawn, List.append_nil]
    exact hc.carried
  case settled =>
    rw [hbrought]
    intro p hp
    rw [hsame]
    exact hc.settled p hp
  case once =>
    rw [hbrought]
    exact hc.once

/-- **A turn of the client keeps what it remembers right** (`Correlated`), one case of `ClientStep`
after the other. -/
theorem Correlated.clientStep (hc : Correlated h s.client) (hr : ClientStep s m s' ns)
    (hd : ((drawn (h ++ [⟨s, m, ns⟩])).map (·.1)).Nodup) :
    Correlated (h ++ [⟨s, m, ns⟩]) s'.client := by
  have hon := hr.stage_ne_off
  cases hr with
  | @made id a rest hstage ho ha =>
    rw [drawn_append_singleton, (relates_made ha).drawn, List.map_append, List.nodup_append] at hd
    exact hc.made hon (relates_made ha) fun hid ↦ hd.2.2 _ hid _ List.mem_cons_self rfl
  | ended hstage ha hs =>
    exact hc.idle (relates_ended ha) fun _ ↦ ⟨hon, rfl⟩
  | brought hstage hr hq =>
    exact hc.brought hon (relates_brought hr hq) hq
  | dropped hstage hr hq =>
    exact hc.dropped hon (relates_dropped hr hq) hq
  | left hstage hr hs => exact hc.idle (relates_left hr) fun hon ↦ absurd rfl hon
  | handed hstage hroom =>
    exact hc.idle relates_handed fun _ ↦ ⟨hon, rfl⟩

/-- **What the client remembers is right all the time**, if no two intentions share an identifier:
the induction over `Translation` with `Correlated.clientStep`. -/
theorem Translation.correlated (ht : Translation capacity deeds s)
    (hd : ((drawn (turnsIn deeds)).map (·.1)).Nodup) : Correlated (turnsIn deeds) s.client := by
  induction ht with
  | start =>
    exact ⟨fun _ _ ↦ rfl, List.forall_mem_nil _, List.forall_mem_nil _, List.nodup_nil⟩
  | turn m ht hm hs ih =>
    rw [turnsIn_concat] at hd ⊢
    exact (ih (nodup_of_append hd)).clientStep
      (clientStep_of_step ht.balanced.intentions_receiving hm hs) hd
  | submit _ _ _ ih | endAttempts _ ih | report _ _ _ ih | endResults _ ih | fetch _ _ ih
  | collect _ _ ih =>
    rw [turnsIn_concat_of_none rfl] at hd ⊢
    exact ih hd

/-! ### Turn by turn -/

/-- What a turn does to the result that the client hears in it: the result is brought back for the
attempt that its intention is awaited for (`awaited?`); if there is none, it is gone, a warning is
written, and nothing else changes. -/
def Turn.Judges (t : Turn) (r : IntentionResult) : Option Attempt → Prop
  | some a => t.brought = [(r, ⟨a.request.id, r.run⟩)]
  | none => t.brought = [] ∧ t.before.step t.move =
      some ({ t.before with results := t.before.results.rest },
        [.warn ("Result for unknown intention " ++ r.intention.text)])

/-- In every turn in which a client hears a result, it judges it (`Judges`) by the `chronicle`. -/
theorem Translation.judges {before after : List Deed} {r : IntentionResult}
    (ht : Translation capacity (before ++ .turn t :: after) s)
    (hd : ((drawn (turnsIn before)).map (·.1)).Nodup) (hr : t.heard = [r]) :
    t.Judges r (awaited? (chronicle (turnsIn before)) r.intention.id) := by
  rw [List.append_cons] at ht
  obtain ⟨s₁, ht₁⟩ := ht.of_append
  obtain ⟨s₀, ht₀, hturn⟩ := ht₁.of_concat
  obtain ⟨rfl, hm, hs⟩ := hturn t rfl
  obtain ⟨before, m, ns⟩ := t
  have hc := ht₀.correlated hd
  have hstepped := clientStep_of_step ht₀.balanced.intentions_receiving hm hs
  have hon := hstepped.stage_ne_off
  cases hstepped with
  | made _ _ ha => exact absurd ((relates_made ha).heard.symm.trans hr) (by simp)
  | ended _ ha => exact absurd ((relates_ended ha).heard.symm.trans hr) (by simp)
  | brought _ hitems hq =>
    obtain rfl := List.singleton_inj.1 ((relates_brought hitems hq).heard.symm.trans hr)
    rw [hc.lookup hon] at hq
    obtain ⟨a, ha, rfl⟩ := Option.map_eq_some_iff.1 hq
    rw [ha]
    exact (relates_brought hitems ((hc.lookup hon _).trans (by rw [ha]; rfl))).brought
  | dropped _ hitems hq =>
    obtain rfl := List.singleton_inj.1 ((relates_dropped hitems hq).heard.symm.trans hr)
    have hnone := Option.map_eq_none_iff.1 ((hc.lookup hon _).symm.trans hq)
    rw [hnone]
    exact ⟨(relates_dropped hitems hq).brought, hs⟩
  | left _ hitems _ => exact absurd ((relates_left hitems).heard.symm.trans hr) (by simp)
  | handed => exact absurd (relates_handed.heard.symm.trans hr) (by simp)

/-- Only what was heard is brought back. -/
theorem brought_sublist (h : List Turn) : ((brought h).map (·.1)).Sublist (heard h) := by
  have hturn (t : Turn) : (t.brought.map (·.1)).Sublist t.heard := by
    rw [Turn.brought]
    induction t.heard with
    | nil => exact .slnil
    | cons r rs ih =>
      rw [List.flatMap_cons, List.map_append]
      cases (t.before.client.resolve r).2.1 with
      | none => exact ih.cons r
      | some o => exact ih.cons_cons r
  induction h with
  | nil => exact .slnil
  | cons t h ih => simpa [brought, heard] using (hturn t).append ih

/-! ### What a client owes -/

/-- What a client owes to those at the far ends of its channels: an intention that `Serves` for each
attempt, and an outcome for the first result of each intention, in order. -/
structure Translated (deeds : List Deed) (s : Session) : Prop where
  /-- Intentions are made for attempts in the order in which these were asked for. -/
  in_order : (drawn (turnsIn deeds)).map (·.2) <+: deeds.filterMap Deed.submitted?
  /-- As long as the client is there, an attempt has its intention or waits. -/
  none_skipped : s.client.stage ≠ .off → deeds.filterMap Deed.submitted? =
    (drawn (turnsIn deeds)).map (·.2) ++ s.attempts.items
  /-- What was fetched, what can be fetched and what the client still holds is one intention for
  each of these attempts, in their order, and it says what the attempt says. -/
  one_intention : List.Forall₂ (fun p i ↦ i.id = p.1 ∧ i.Serves p.2) (drawn (turnsIn deeds))
    (deeds.filterMap Deed.fetched? ++ s.intentions.items ++ s.client.held?.toList)
  /-- Results are heard in the order in which they were reported. -/
  heard_in_order : heard (turnsIn deeds) <+: deeds.filterMap Deed.reported?
  /-- As long as the client is there, a result was heard or waits. -/
  none_unheard : s.client.stage ≠ .off →
    deeds.filterMap Deed.reported? = heard (turnsIn deeds) ++ s.results.items
  /-- The client does not leave before every result was heard and no other will come. -/
  stays : s.client.stage = .off →
    deeds.filterMap Deed.reported? = heard (turnsIn deeds) ∧ s.results.sending = false
  /-- What was collected and what can be collected is what the client made of results. -/
  outcomes : deeds.filterMap Deed.collected? ++ s.outcomes.items =
    (brought (turnsIn deeds)).map (·.2)
  /-- Results are brought back in the order in which they were heard. -/
  brought_in_order : ((brought (turnsIn deeds)).map (·.1)).Sublist (heard (turnsIn deeds))
  /-- An outcome carries the request whose attempt the intention of the result was made for, and the
  run of the result. -/
  carried : ∀ p ∈ brought (turnsIn deeds), ∃ a, (p.1.intention.id, a) ∈ drawn (turnsIn deeds) ∧
    p.2 = ⟨a.request.id, p.1.run⟩
  /-- No two results for one intention are brought back. -/
  once : ((brought (turnsIn deeds)).map (·.1.intention.id)).Nodup
  /-- A result is brought back if it is the first for its intention since that was made; else it
  changes nothing. -/
  judged : ∀ before t after r, deeds = before ++ .turn t :: after → t.heard = [r] →
    t.Judges r (awaited? (chronicle (turnsIn before)) r.intention.id)
  /-- A client that has no turn to take, though there is room for intentions, has left nothing
  undone. -/
  worked_off : s.client.stage ≠ .off → s.intentions.hasRoom = true →
    (∀ m, m.isClients = true → s.step m = none) →
    s.client.held? = none ∧ s.attempts.items = [] ∧ s.results.items = []

/-- An attempt of a request with a number. -/
def sampleAttempt (n : Nat) : Attempt :=
  ⟨{ sampleRequest 3 with id := .numbered 0 n }, 2⟩

/-- A result for the intention with a number, which somebody made up. -/
def sampleResult (n : Nat) (message : String) : IntentionResult :=
  ⟨.ofRequest (.numbered 1 n) (sampleRequest 3) 1,
    .broken (sampleRequest 3).testCase sampleDevice message 0⟩

end Session

end DeviceLab
