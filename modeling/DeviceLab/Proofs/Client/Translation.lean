import Mathlib.Data.List.Induction
import DeviceLab.Proofs.Channel
import DeviceLab.Proofs.Distinct
import DeviceLab.Proofs.Session.Course

/-!
# What a client translates

The client on its own stands between four channels whose far ends are in other hands. Attempts come
in on one side, and results on the other, for whatever intentions and as often as somebody likes;
the client lets intentions out, and outcomes. A `Translation` is the list of all that happened
(`Deed`), what was done at the far ends and the turns of the client itself. The channel for
intentions stays open, as it does in a session until the client is stopped; it may be full at any
time, and then the client waits.

`Translation.balanced` says that nothing gets lost on the way: what came in was translated or waits,
and what was made of it went out or waits, in order (`Balanced`). It rests on `clientStep_of_step`
for what a move of the client can do (`ClientStep`), and on one lemma for each kind of turn
(`relates_made`, `relates_brought` and so on) for what the turn tells of it.
`Translation.worked_off` is the case in which the client has no turn left to take. Which result
belongs to which attempt is the matter of `DeviceLab.Proofs.Client.Correlation`.
-/

namespace DeviceLab

/-- The intention that a client could not hand on yet. -/
def Client.held? (c : Client) : Option Intention :=
  match c.stage with
  | .holding i => some i
  | _ => none

namespace Session

/-! ### Translations -/

/-- A client on its own that has just started. There may be a bound on the intentions that wait to
be fetched. -/
def translating (capacity : Option Nat) : Session :=
  startClient
    { intentions := { capacity, sending := true, receiving := true }, results := .unbounded }

/-- Whether a move is one of the client. -/
def Move.isClients : Move → Bool
  | .takeAttempt _ | .takeResult | .handOn => true
  | _ => false

/-- What happens to a client: somebody else puts into its channels (`submit`, `report`) or takes
from them (`fetch`, `collect`), its channels end, or it takes a `turn`. -/
inductive Deed
  /-- An attempt is asked for. -/
  | submit (a : Attempt)
  /-- No attempts will come any more. -/
  | endAttempts
  /-- A result is reported. -/
  | report (r : IntentionResult)
  /-- No results will come any more. -/
  | endResults
  /-- An intention is fetched. -/
  | fetch (i : Intention)
  /-- An outcome is collected. -/
  | collect (o : AttemptOutcome)
  /-- The client has a turn. -/
  | turn (t : Turn)

/-- All these deeds have happened to a client that has just started (`translating`), and the state
has come of it. -/
inductive Translation (capacity : Option Nat) : List Deed → Session → Prop
  | start : Translation capacity [] (translating capacity)
  | submit {deeds : List Deed} {s : Session} (a : Attempt) (ht : Translation capacity deeds s)
      (hs : s.attempts.sending = true) :
      Translation capacity (deeds ++ [.submit a]) { s with attempts := s.attempts.push a }
  | endAttempts {deeds : List Deed} {s : Session} (ht : Translation capacity deeds s) :
      Translation capacity (deeds ++ [.endAttempts]) { s with attempts := s.attempts.endSending }
  | report {deeds : List Deed} {s : Session} (r : IntentionResult)
      (ht : Translation capacity deeds s) (hs : s.results.sending = true) :
      Translation capacity (deeds ++ [.report r]) { s with results := s.results.push r }
  | endResults {deeds : List Deed} {s : Session} (ht : Translation capacity deeds s) :
      Translation capacity (deeds ++ [.endResults]) { s with results := s.results.endSending }
  | fetch {deeds : List Deed} {s : Session} {i : Intention} {rest : List Intention}
      (ht : Translation capacity deeds s) (hi : s.intentions.items = i :: rest) :
      Translation capacity (deeds ++ [.fetch i]) { s with intentions := s.intentions.rest }
  | collect {deeds : List Deed} {s : Session} {o : AttemptOutcome} {rest : List AttemptOutcome}
      (ht : Translation capacity deeds s) (ho : s.outcomes.items = o :: rest) :
      Translation capacity (deeds ++ [.collect o]) { s with outcomes := s.outcomes.rest }
  | turn {deeds : List Deed} {s s' : Session} {ns : List Notice} (m : Move)
      (ht : Translation capacity deeds s) (hm : m.isClients = true)
      (hs : s.step m = some (s', ns)) : Translation capacity (deeds ++ [.turn ⟨s, m, ns⟩]) s'

namespace Deed

/-- The attempt that a deed submits. -/
def submitted? : Deed → Option Attempt
  | submit a => some a
  | _ => none

/-- The result that a deed reports. -/
def reported? : Deed → Option IntentionResult
  | report r => some r
  | _ => none

/-- The intention that a deed takes from the client. -/
def fetched? : Deed → Option Intention
  | fetch i => some i
  | _ => none

/-- The outcome that a deed takes from the client. -/
def collected? : Deed → Option AttemptOutcome
  | collect o => some o
  | _ => none

/-- The turn of the client, if a deed is one. -/
def turn? : Deed → Option Turn
  | turn t => some t
  | _ => none

end Deed

/-- The turns of the client, in order. -/
def turnsIn (deeds : List Deed) : List Turn :=
  deeds.filterMap Deed.turn?

/-! ### Turns of the client -/

/-- The result that the client hears in a turn. -/
def Turn.heard (t : Turn) : List IntentionResult :=
  match t.move, t.before.results.items with
  | .takeResult, r :: _ => [r]
  | _, _ => []

/-- The result that the client brings back in a turn, with the outcome that it makes of it. -/
def Turn.brought (t : Turn) : List (IntentionResult × AttemptOutcome) :=
  t.heard.flatMap fun r ↦ (t.before.client.resolve r).2.1.toList.map (r, ·)

/-- The results that the client heard, in order. -/
def heard (h : List Turn) : List IntentionResult :=
  h.flatMap Turn.heard

/-- The results that the client brought back, in order, with what it made of them. -/
def brought (h : List Turn) : List (IntentionResult × AttemptOutcome) :=
  h.flatMap Turn.brought

/-- What a move can do to a client on its own; `clientStep_of_step` says that there is nothing
else. -/
inductive ClientStep (s : Session) : Move → Session → List Notice → Prop
  /-- An intention is made for an attempt. -/
  | made {id : Uuid} {a : Attempt} {rest : List Attempt} (h : s.client.stage = .reading)
      (ho : s.client.attemptsOpen = true) (ha : s.attempts.items = a :: rest) :
      ClientStep s (.takeAttempt id)
        { s with attempts := s.attempts.rest, client := s.client.take id a } []
  /-- No attempts will come any more. -/
  | ended {id : Uuid} (h : s.client.stage = .reading) (ha : s.attempts.items = [])
      (hs : s.attempts.sending = false) :
      ClientStep s (.takeAttempt id) { s with client := s.client.attemptsEnded } []
  /-- A result is brought back. -/
  | brought {r : IntentionResult} {rest : List IntentionResult} {q : Uuid}
      (h : s.client.stage = .reading) (hr : s.results.items = r :: rest)
      (hq : s.client.inFlight.lookup r.intention.id = some q) :
      ClientStep s .takeResult
        { s with
          client := { s.client with
            inFlight := s.client.inFlight.filter (·.1 ≠ r.intention.id) }
          results := s.results.rest
          outcomes := s.outcomes.push ⟨q, r.run⟩ } []
  /-- A result is dropped. -/
  | dropped {r : IntentionResult} {rest : List IntentionResult} (h : s.client.stage = .reading)
      (hr : s.results.items = r :: rest)
      (hq : s.client.inFlight.lookup r.intention.id = none) :
      ClientStep s .takeResult { s with results := s.results.rest }
        [.warn ("Result for unknown intention " ++ r.intention.text)]
  /-- No results will come any more, and the client leaves. -/
  | left (h : s.client.stage = .reading) (hr : s.results.items = [])
      (hs : s.results.sending = false) : ClientStep s .takeResult s.endClient []
  /-- An intention is handed on. -/
  | handed {i : Intention} (h : s.client.stage = .holding i)
      (hroom : s.intentions.hasRoom = true) :
      ClientStep s .handOn
        { s with client := s.client.handed, intentions := s.intentions.push i } []

theorem clientStep_of_step {s s' : Session} {m : Move} {ns : List Notice}
    (ho : s.intentions.receiving = true) (hm : m.isClients = true)
    (hs : s.step m = some (s', ns)) : ClientStep s m s' ns := by
  cases m with
  | takeAttempt id =>
    rw [step, takeAttempt] at hs
    split at hs
    · next h =>
      split at hs
      · cases hs
      next hopen =>
      split at hs
      · next ha =>
        obtain ⟨rfl, rfl⟩ := Prod.mk.inj (Option.some.inj hs)
        exact .made h (by simpa using hopen) ha
      · next ha =>
        split at hs
        · cases hs
        next hsending =>
        obtain ⟨rfl, rfl⟩ := Prod.mk.inj (Option.some.inj hs)
        exact .ended h ha (by simpa using hsending)
    · cases hs
  | takeResult =>
    rw [step, takeResult] at hs
    split at hs
    · next h =>
      split at hs
      · next r rest hr =>
        cases hq : s.client.inFlight.lookup r.intention.id with
        | some q =>
          simp only [Client.resolve, hq] at hs
          obtain ⟨rfl, rfl⟩ := Prod.mk.inj (Option.some.inj hs)
          exact .brought h hr hq
        | none =>
          simp only [Client.resolve, hq] at hs
          obtain ⟨rfl, rfl⟩ := Prod.mk.inj (Option.some.inj hs)
          exact .dropped h hr hq
      · next hr =>
        split at hs
        · cases hs
        next hsending =>
        obtain ⟨rfl, rfl⟩ := Prod.mk.inj (Option.some.inj hs)
        exact .left h hr (by simpa using hsending)
    · cases hs
  | handOn =>
    rw [step, handOn] at hs
    split at hs
    · next i h =>
      rw [if_neg (by simp [ho])] at hs
      split at hs
      · next hroom =>
        obtain ⟨rfl, rfl⟩ := Prod.mk.inj (Option.some.inj hs)
        exact .handed h hroom
      · cases hs
    · cases hs
  | _ => cases hm

variable {capacity : Option Nat} {deeds : List Deed} {h : List Turn} {s s' : Session} {t : Turn}
  {m : Move} {ns : List Notice} {id : Uuid}

/-- A client that moves is there. -/
theorem ClientStep.stage_ne_off (hr : ClientStep s m s' ns) : s.client.stage ≠ .off := by
  cases hr with
  | made hs | ended hs | brought hs | dropped hs | left hs | handed hs =>
    rw [hs]
    exact Client.Stage.noConfusion

/-! ### What a turn tells -/

/-- What a turn tells of intentions that are made, results that are heard, and results that are
brought back. -/
structure Relates (t : Turn) (made : List (Uuid × Attempt)) (hears : List IntentionResult)
    (brings : List (IntentionResult × AttemptOutcome)) : Prop where
  drawn : t.drawn = made
  heard : t.heard = hears
  brought : t.brought = brings

section Relates

variable {a : Attempt} {r : IntentionResult}

theorem relates_made {rest : List Attempt} (ha : s.attempts.items = a :: rest) :
    Relates ⟨s, .takeAttempt id, ns⟩ [(id, a)] [] [] := by
  refine ⟨?_, rfl, rfl⟩
  simp only [Turn.drawn, ha]

theorem relates_ended (ha : s.attempts.items = []) : Relates ⟨s, .takeAttempt id, ns⟩ [] [] [] := by
  refine ⟨?_, rfl, rfl⟩
  simp only [Turn.drawn, ha]

theorem relates_brought {rest : List IntentionResult} {q : Uuid} (hr : s.results.items = r :: rest)
    (hq : s.client.inFlight.lookup r.intention.id = some q) :
    Relates ⟨s, .takeResult, ns⟩ [] [r] [(r, ⟨q, r.run⟩)] := by
  have hheard : Turn.heard ⟨s, .takeResult, ns⟩ = [r] := by simp only [Turn.heard, hr]
  refine ⟨rfl, hheard, ?_⟩
  simp [Turn.brought, hheard, Client.resolve, hq]

theorem relates_dropped {rest : List IntentionResult} (hr : s.results.items = r :: rest)
    (hq : s.client.inFlight.lookup r.intention.id = none) :
    Relates ⟨s, .takeResult, ns⟩ [] [r] [] := by
  have hheard : Turn.heard ⟨s, .takeResult, ns⟩ = [r] := by simp only [Turn.heard, hr]
  refine ⟨rfl, hheard, ?_⟩
  simp [Turn.brought, hheard, Client.resolve, hq]

theorem relates_left (hr : s.results.items = []) : Relates ⟨s, .takeResult, ns⟩ [] [] [] := by
  have hheard : Turn.heard ⟨s, .takeResult, ns⟩ = [] := by simp only [Turn.heard, hr]
  refine ⟨rfl, hheard, ?_⟩
  rw [Turn.brought, hheard, List.flatMap_nil]

theorem relates_handed : Relates ⟨s, .handOn, ns⟩ [] [] [] :=
  ⟨rfl, rfl, rfl⟩

end Relates

/-! ### Nothing is lost on the way -/

/-- The intention that is made for an attempt. -/
def intentionOf (p : Uuid × Attempt) : Intention :=
  .ofRequest p.1 p.2.request p.2.execution

/-- The books of a client after so many deeds. What came in was translated, in order, or waits,
unless the client has left; what the client made of it went out, in order, or waits. -/
structure Balanced (deeds : List Deed) (s : Session) : Prop where
  submitted : (drawn (turnsIn deeds)).map (·.2) <+: deeds.filterMap Deed.submitted?
  waiting : s.client.stage ≠ .off → deeds.filterMap Deed.submitted? =
    (drawn (turnsIn deeds)).map (·.2) ++ s.attempts.items
  reported : heard (turnsIn deeds) <+: deeds.filterMap Deed.reported?
  unheard : s.client.stage ≠ .off → deeds.filterMap Deed.reported? =
    heard (turnsIn deeds) ++ s.results.items
  intentions : (drawn (turnsIn deeds)).map intentionOf =
    deeds.filterMap Deed.fetched? ++ s.intentions.items ++ s.client.held?.toList
  outcomes : (brought (turnsIn deeds)).map (·.2) =
    deeds.filterMap Deed.collected? ++ s.outcomes.items
  attempts_receiving : s.client.stage ≠ .off → s.attempts.receiving = true
  results_receiving : s.client.stage ≠ .off → s.results.receiving = true
  intentions_receiving : s.intentions.receiving = true
  outcomes_receiving : s.outcomes.receiving = true
  ended : s.client.stage ≠ .off → s.client.attemptsOpen = false →
    s.attempts.items = [] ∧ s.attempts.sending = false
  gone : s.client.stage = .off →
    deeds.filterMap Deed.reported? = heard (turnsIn deeds) ∧ s.results.sending = false

theorem turnsIn_concat (deeds : List Deed) (t : Turn) :
    turnsIn (deeds ++ [.turn t]) = turnsIn deeds ++ [t] := by
  simp [turnsIn, Deed.turn?]

theorem heard_concat (h : List Turn) (t : Turn) : heard (h ++ [t]) = heard h ++ t.heard := by
  rw [heard, List.flatMap_append, List.flatMap_singleton, heard]

theorem brought_concat (h : List Turn) (t : Turn) :
    brought (h ++ [t]) = brought h ++ t.brought := by
  rw [brought, List.flatMap_append, List.flatMap_singleton, brought]

/-- What a turn adds to the books. -/
theorem Balanced.turn {made : List (Uuid × Attempt)} {hears : List IntentionResult}
    {brings : List (IntentionResult × AttemptOutcome)} (hb : Balanced deeds s)
    (hon : s.client.stage ≠ .off) (ht : Relates t made hears brings)
    {attempts : List Attempt} {results : List IntentionResult}
    (ha : s.attempts.items = made.map (·.2) ++ attempts)
    (hr : s.results.items = hears ++ results)
    (hattempts : s'.client.stage ≠ .off → s'.attempts.items = attempts)
    (hresults : s'.client.stage ≠ .off → s'.results.items = results)
    (hintentions : s'.intentions.items ++ s'.client.held?.toList =
      s.intentions.items ++ s.client.held?.toList ++ made.map intentionOf)
    (houtcomes : s'.outcomes.items = s.outcomes.items ++ brings.map (·.2))
    (hopen : s'.intentions.receiving = true ∧ s'.outcomes.receiving = true)
    (hclient : s'.client.stage ≠ .off → s'.attempts.receiving = true ∧
      s'.results.receiving = true ∧ (s'.client.attemptsOpen = false →
        s'.attempts.items = [] ∧ s'.attempts.sending = false))
    (hgone : s'.client.stage = .off → results = [] ∧ s'.results.sending = false) :
    Balanced (deeds ++ [.turn t]) s' := by
  have hsubmitted := hb.waiting hon
  have hreported := hb.unheard hon
  rw [ha, ← List.append_assoc] at hsubmitted
  rw [hr, ← List.append_assoc] at hreported
  constructor
  case submitted =>
    rw [turnsIn_concat, drawn_append_singleton, ht.drawn, List.filterMap_append]
    simp [Deed.submitted?, hsubmitted]
  case waiting =>
    intro hs
    rw [turnsIn_concat, drawn_append_singleton, ht.drawn, List.filterMap_append, hattempts hs]
    simp [Deed.submitted?, hsubmitted]
  case reported =>
    rw [turnsIn_concat, heard_concat, ht.heard, List.filterMap_append]
    simp [Deed.reported?, hreported]
  case unheard =>
    intro hs
    rw [turnsIn_concat, heard_concat, ht.heard, List.filterMap_append, hresults hs]
    simp [Deed.reported?, hreported]
  case intentions =>
    rw [turnsIn_concat, drawn_append_singleton, ht.drawn, List.filterMap_append, List.map_append,
      hb.intentions]
    simp [Deed.fetched?, hintentions]
  case outcomes =>
    rw [turnsIn_concat, brought_concat, ht.brought, List.filterMap_append, List.map_append,
      hb.outcomes, houtcomes]
    simp [Deed.collected?]
  case attempts_receiving => exact fun hs ↦ (hclient hs).1
  case results_receiving => exact fun hs ↦ (hclient hs).2.1
  case intentions_receiving => exact hopen.1
  case outcomes_receiving => exact hopen.2
  case ended => exact fun hs ↦ (hclient hs).2.2
  case gone =>
    intro hs
    obtain ⟨rfl, hsending⟩ := hgone hs
    rw [List.append_nil] at hreported
    rw [turnsIn_concat, heard_concat, ht.heard, List.filterMap_append, hreported]
    exact ⟨List.append_nil _, hsending⟩

/-- **A turn of the client keeps the books** (`Balanced`). -/
theorem Balanced.clientStep (hb : Balanced deeds s) (hr : ClientStep s m s' ns) :
    Balanced (deeds ++ [.turn ⟨s, m, ns⟩]) s' := by
  have hopen := And.intro hb.intentions_receiving hb.outcomes_receiving
  have hon := hr.stage_ne_off
  cases hr with
  | @made id a rest hstage ho ha =>
    have hheld : s.client.held? = none := by rw [Client.held?, hstage]
    refine hb.turn hon (relates_made ha) ha rfl ?_ ?_ ?_ ?_ hopen ?_ fun hoff ↦ by cases hoff
    · exact fun _ ↦ by rw [Channel.rest_items, ha]; rfl
    · exact fun _ ↦ rfl
    · rw [hheld]
      simp [Client.held?, Client.take, intentionOf]
    · exact (List.append_nil _).symm
    · refine fun _ ↦ ⟨hb.attempts_receiving hon, hb.results_receiving hon, fun hended ↦ ?_⟩
      rw [show s.client.attemptsOpen = false from hended] at ho
      cases ho
  | ended hstage ha hs =>
    refine hb.turn hon (relates_ended ha) ha rfl ?_ ?_ ?_ ?_ hopen ?_ (absurd · hon)
    · exact fun _ ↦ ha
    · exact fun _ ↦ rfl
    · exact (List.append_nil _).symm
    · exact (List.append_nil _).symm
    · exact fun _ ↦ ⟨hb.attempts_receiving hon, hb.results_receiving hon, fun _ ↦ ⟨ha, hs⟩⟩
  | @brought r rest q hstage hr hq =>
    refine hb.turn hon (relates_brought hr hq) rfl hr ?_ ?_ ?_ ?_ ?_ ?_ (absurd · hon)
    · exact fun _ ↦ rfl
    · exact fun _ ↦ by rw [Channel.rest_items, hr]; rfl
    · exact (List.append_nil _).symm
    · rw [Channel.push_of_receiving hopen.2]
      rfl
    · exact ⟨hopen.1, (Channel.push_receiving _ _).trans hopen.2⟩
    · exact fun _ ↦ ⟨hb.attempts_receiving hon, hb.results_receiving hon, hb.ended hon⟩
  | @dropped r rest hstage hr hq =>
    refine hb.turn hon (relates_dropped hr hq) rfl hr ?_ ?_ ?_ ?_ hopen ?_ (absurd · hon)
    · exact fun _ ↦ rfl
    · exact fun _ ↦ by rw [Channel.rest_items, hr]; rfl
    · exact (List.append_nil _).symm
    · exact (List.append_nil _).symm
    · exact fun _ ↦ ⟨hb.attempts_receiving hon, hb.results_receiving hon, hb.ended hon⟩
  | left hstage hr hs =>
    have hheld : s.client.held? = none := by rw [Client.held?, hstage]
    refine hb.turn hon (relates_left hr) rfl hr ?_ ?_ ?_ ?_ hopen ?_ fun _ ↦ ⟨rfl, hs⟩
    · exact fun hs ↦ absurd rfl hs
    · exact fun hs ↦ absurd rfl hs
    · rw [hheld]
      simp [Client.held?, endClient, Channel.endSending]
    · exact (List.append_nil _).symm
    · exact fun hs ↦ absurd rfl hs
  | @handed i hstage hroom =>
    have hheld : s.client.held? = some i := by rw [Client.held?, hstage]
    refine hb.turn hon relates_handed rfl rfl ?_ ?_ ?_ ?_ ?_ ?_ fun hoff ↦ by cases hoff
    · exact fun _ ↦ rfl
    · exact fun _ ↦ rfl
    · rw [hheld, Channel.push_of_receiving hopen.1]
      simp [Client.held?, Client.handed]
    · exact (List.append_nil _).symm
    · exact ⟨(Channel.push_receiving _ _).trans hopen.1, hopen.2⟩
    · exact fun _ ↦ ⟨hb.attempts_receiving hon, hb.results_receiving hon, hb.ended hon⟩

/-- What is done at a far end is no turn. -/
theorem turnsIn_concat_of_none {d : Deed} (hd : d.turn? = none) :
    turnsIn (deeds ++ [d]) = turnsIn deeds := by
  rw [turnsIn, filterMap_concat, hd, Option.toList_none, List.append_nil, turnsIn]

/-- What is done at a far end adds to the books there only. -/
theorem Balanced.outside {d : Deed} (hb : Balanced deeds s) (hd : d.turn? = none)
    (hclient : s'.client = s.client)
    (hattempts : s.attempts.receiving = true →
      s'.attempts.items = s.attempts.items ++ d.submitted?.toList)
    (hresults : s.results.receiving = true →
      s'.results.items = s.results.items ++ d.reported?.toList)
    (hintentions : s.intentions.items = d.fetched?.toList ++ s'.intentions.items)
    (houtcomes : s.outcomes.items = d.collected?.toList ++ s'.outcomes.items)
    (hreceiving : s'.attempts.receiving = s.attempts.receiving ∧
      s'.results.receiving = s.results.receiving ∧
      s'.intentions.receiving = s.intentions.receiving ∧
      s'.outcomes.receiving = s.outcomes.receiving)
    (hended : s.attempts.items = [] ∧ s.attempts.sending = false →
      s'.attempts.items = [] ∧ s'.attempts.sending = false)
    (hgone : s.results.sending = false → d.reported? = none ∧ s'.results.sending = false) :
    Balanced (deeds ++ [d]) s' := by
  obtain ⟨ha, hr, hi, ho⟩ := hreceiving
  have hturns : turnsIn (deeds ++ [d]) = turnsIn deeds := turnsIn_concat_of_none hd
  constructor
  case submitted =>
    rw [hturns, filterMap_concat]
    exact hb.submitted.trans (List.prefix_append ..)
  case waiting =>
    rw [hclient, hturns, filterMap_concat]
    intro hon
    rw [hb.waiting hon, hattempts (hb.attempts_receiving hon), List.append_assoc]
  case reported =>
    rw [hturns, filterMap_concat]
    exact hb.reported.trans (List.prefix_append ..)
  case unheard =>
    rw [hclient, hturns, filterMap_concat]
    intro hon
    rw [hb.unheard hon, hresults (hb.results_receiving hon), List.append_assoc]
  case intentions =>
    rw [hclient, hturns, filterMap_concat, hb.intentions, hintentions,
      List.append_assoc _ d.fetched?.toList]
  case outcomes => rw [hturns, filterMap_concat, hb.outcomes, houtcomes, List.append_assoc]
  case attempts_receiving =>
    rw [hclient, ha]
    exact hb.attempts_receiving
  case results_receiving =>
    rw [hclient, hr]
    exact hb.results_receiving
  case intentions_receiving => exact hi.trans hb.intentions_receiving
  case outcomes_receiving => exact ho.trans hb.outcomes_receiving
  case ended =>
    rw [hclient]
    exact fun hon hclosed ↦ hended (hb.ended hon hclosed)
  case gone =>
    rw [hclient, hturns, filterMap_concat]
    intro hoff
    obtain ⟨hreported, hsending⟩ := hb.gone hoff
    obtain ⟨hnone, hsending'⟩ := hgone hsending
    rw [hreported, hnone, Option.toList_none, List.append_nil]
    exact ⟨rfl, hsending'⟩

/-- **The books are kept all the time**, by `Balanced.clientStep`. -/
theorem Translation.balanced (ht : Translation capacity deeds s) : Balanced deeds s := by
  induction ht with
  | start =>
    exact ⟨List.prefix_rfl, fun _ ↦ rfl, List.prefix_rfl, fun _ ↦ rfl, rfl, rfl, fun _ ↦ rfl,
      fun _ ↦ rfl, rfl, rfl, fun _ hclosed ↦ (by cases hclosed), fun hoff ↦ (by cases hoff)⟩
  | @submit deeds s a ht hs hb =>
    refine hb.outside rfl rfl ?_ ?_ rfl rfl ?_ ?_ fun hsending ↦ ⟨rfl, hsending⟩
    · exact fun h ↦ by rw [Channel.push_of_receiving h]; rfl
    · exact fun _ ↦ (List.append_nil _).symm
    · exact ⟨Channel.push_receiving _ _, rfl, rfl, rfl⟩
    · exact fun h ↦ by rw [h.2] at hs; cases hs
  | @endAttempts deeds s ht hb =>
    refine hb.outside rfl rfl ?_ ?_ rfl rfl ⟨rfl, rfl, rfl, rfl⟩ ?_
      fun hsending ↦ ⟨rfl, hsending⟩
    · exact fun _ ↦ (List.append_nil _).symm
    · exact fun _ ↦ (List.append_nil _).symm
    · exact fun h ↦ ⟨h.1, rfl⟩
  | @report deeds s r ht hs hb =>
    refine hb.outside rfl rfl ?_ ?_ rfl rfl ?_ id ?_
    · exact fun _ ↦ (List.append_nil _).symm
    · exact fun h ↦ by rw [Channel.push_of_receiving h]; rfl
    · exact ⟨rfl, Channel.push_receiving _ _, rfl, rfl⟩
    · exact fun h ↦ by rw [h] at hs; cases hs
  | @endResults deeds s ht hb =>
    refine hb.outside rfl rfl ?_ ?_ rfl rfl ⟨rfl, rfl, rfl, rfl⟩ id fun _ ↦ ⟨rfl, rfl⟩
    · exact fun _ ↦ (List.append_nil _).symm
    · exact fun _ ↦ (List.append_nil _).symm
  | @fetch deeds s i rest ht hi hb =>
    refine hb.outside rfl rfl ?_ ?_ ?_ rfl ⟨rfl, rfl, rfl, rfl⟩ id fun hsending ↦ ⟨rfl, hsending⟩
    · exact fun _ ↦ (List.append_nil _).symm
    · exact fun _ ↦ (List.append_nil _).symm
    · rw [Channel.rest_items, hi]
      rfl
  | @collect deeds s o rest ht ho hb =>
    refine hb.outside rfl rfl ?_ ?_ rfl ?_ ⟨rfl, rfl, rfl, rfl⟩ id fun hsending ↦ ⟨rfl, hsending⟩
    · exact fun _ ↦ (List.append_nil _).symm
    · exact fun _ ↦ (List.append_nil _).symm
    · rw [Channel.rest_items, ho]
      rfl
  | turn m ht hm hs hb => exact hb.clientStep (clientStep_of_step hb.intentions_receiving hm hs)

/-! ### Deed by deed -/

/-- What was before the last deed. -/
theorem Translation.of_concat {d : Deed} (ht : Translation capacity (deeds ++ [d]) s) :
    ∃ s', Translation capacity deeds s' ∧ ∀ t, d = .turn t →
      s' = t.before ∧ t.move.isClients = true ∧ s'.step t.move = some (s, t.notices) := by
  generalize hds : deeds ++ [d] = ds at ht
  cases ht with
  | start => exact absurd hds (by simp)
  | turn m ht hm hs =>
    obtain ⟨rfl, hd⟩ := List.append_inj' hds rfl
    obtain rfl := List.singleton_inj.1 hd
    refine ⟨_, ht, fun t heq ↦ ?_⟩
    obtain rfl := Deed.turn.inj heq
    exact ⟨rfl, hm, hs⟩
  | submit _ ht | endAttempts ht | report _ ht | endResults ht | fetch ht | collect ht =>
    obtain ⟨rfl, hd⟩ := List.append_inj' hds rfl
    obtain rfl := List.singleton_inj.1 hd
    exact ⟨_, ht, fun _ heq ↦ by cases heq⟩

/-- What was before the last so many deeds. -/
theorem Translation.of_append {before after : List Deed}
    (ht : Translation capacity (before ++ after) s) : ∃ s', Translation capacity before s' := by
  induction after using List.reverseRecOn generalizing s with
  | nil => exact ⟨s, by rwa [List.append_nil] at ht⟩
  | append_singleton after d ih =>
    rw [← List.append_assoc] at ht
    obtain ⟨s', ht', -⟩ := ht.of_concat
    exact ih ht'

/-- A client that has no turn to take, though there is room for intentions, has left nothing
undone. -/
theorem Translation.worked_off (ht : Translation capacity deeds s) (hon : s.client.stage ≠ .off)
    (hroom : s.intentions.hasRoom = true) (hrest : ∀ m, m.isClients = true → s.step m = none) :
    s.client.held? = none ∧ s.attempts.items = [] ∧ s.results.items = [] := by
  have hb := ht.balanced
  cases hstage : s.client.stage with
  | off => exact absurd hstage hon
  | holding i =>
    have hstep := hrest .handOn rfl
    rw [step, handOn, hstage] at hstep
    simp [hb.intentions_receiving, hroom] at hstep
  | reading =>
    refine ⟨by rw [Client.held?, hstage], ?_, ?_⟩
    · cases hopen : s.client.attemptsOpen with
      | false => exact (hb.ended hon hopen).1
      | true =>
        have hstep := hrest (.takeAttempt (.numbered 0 0)) rfl
        rw [step, takeAttempt, hstage] at hstep
        cases hitems : s.attempts.items with
        | nil => rfl
        | cons a rest => simp [hopen, hitems] at hstep
    · have hstep := hrest .takeResult rfl
      rw [step, takeResult, hstage] at hstep
      cases hitems : s.results.items with
      | nil => rfl
      | cons r rest => simp [hitems] at hstep

/-- Turns that are taken one after the other. -/
theorem Translation.follow {more : List Turn} (ht : Translation capacity deeds s) (ms : List Move)
    (hms : ms.all Move.isClients = true) (hf : s.follow ms = some (more, s')) :
    Translation capacity (deeds ++ more.map .turn) s' :=
  of_follow_all (P := fun h s ↦ Translation capacity (deeds ++ h.map .turn) s)
    (fun m hm ht hs ↦ by
      rw [List.map_append, ← List.append_assoc]
      exact ht.turn m hm hs) (by rwa [List.map_nil, List.append_nil]) ms hms hf

end Session

end DeviceLab
