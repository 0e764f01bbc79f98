import DeviceLab.Proofs.Router.History
import DeviceLab.Proofs.Session.WindingDown
import DeviceLab.Proofs.Session.Waiting

/-!
# The service on its own

The execution service consists of the forwarder, the router, the intake and the workers. On its own
it is a session whose other parts are off (`started`). The far ends of its channels are in other
hands, which put in and take out what they like, at any time. An `Operation` takes the service from
one state to another by its own moves, by what happens to its channels, and by calls to stop it.

* `ServiceInvariant.serviceStep_of_step` says once what a move of the service can do
  (`ServiceStep`): one lemma for each move, and no case for the parts that are off.
* `Operation.serviceInvariant` is what holds in every state of a service that was started, before it
  is stopped and afterwards. It rests on `ServiceInvariant.of_step`, which goes by the cases of
  `ServiceStep`, and on `ServiceInvariant.stop`.

Two parts of the invariant are more than bookkeeping. Who is parked waits for an intention
(`ServiceStep.takes`), by the laws of `WaitsFor`. And who has finished could reach nothing that is
left (`ServiceStep.keeps_finished`): nothing joins the queue of a closed router (`Router.Fed`), so
what was not there for a worker when it finished will never be (`Router.Spent.mono`).
-/

namespace DeviceLab

namespace Router

variable {r r' r'' : Router}

/-! ### What senders make of a router -/

/-- A router changed at the hands of somebody who takes nothing. Takers see no difference, or all of
them were woken; and nothing joins the queue of a closed router. -/
structure Fed (r r' : Router) : Prop where
  takes : r'.takes = r.takes ∧ r'.queue = r.queue ∧ r'.closed = r.closed ∨
    r'.takes = r.takes.map fun t ↦ { t with woken := true }
  closed : r.closed = true → r'.closed = true
  queue : r.closed = true → r'.queue = r.queue

theorem Fed.refl (r : Router) : Fed r r :=
  ⟨.inl ⟨rfl, rfl, rfl⟩, id, fun _ ↦ rfl⟩

theorem Fed.trans (h : Fed r r') (h' : Fed r' r'') : Fed r r'' := by
  refine ⟨?_, h'.closed ∘ h.closed, fun hc ↦ (h'.queue (h.closed hc)).trans (h.queue hc)⟩
  rcases h.takes with ⟨ht, hq, hc⟩ | ht
  · rcases h'.takes with ⟨ht', hq', hc'⟩ | ht'
    · exact .inl ⟨ht'.trans ht, hq'.trans hq, hc'.trans hc⟩
    · exact .inr (by rw [ht', ht])
  · rcases h'.takes with ⟨ht', -, -⟩ | ht'
    · exact .inr (by rw [ht', ht])
    · refine .inr ?_
      rw [ht', ht, List.map_map]
      rfl

theorem fed_dropSend (r : Router) (id : Nat) : Fed r (r.dropSend id) :=
  ⟨.inl ⟨rfl, rfl, rfl⟩, fun hc ↦ hc, fun _ ↦ rfl⟩

theorem fed_offer (r : Router) (id : Nat) (i : Intention) : Fed r (r.offer id i).2 := by
  cases hc : r.closed with
  | true =>
    rw [offer_of_closed hc]
    exact .refl r
  | false =>
    by_cases hroom : r.queue.length < r.capacity
    · rw [offer_of_room hc hroom]
      refine ⟨.inr rfl, fun h ↦ ?_, fun h ↦ ?_⟩
      all_goals rw [hc] at h; cases h
    · rw [offer_of_full hc (Nat.not_lt.1 hroom)]
      exact ⟨.inl ⟨rfl, rfl, rfl⟩, fun h ↦ h, fun _ ↦ rfl⟩

theorem fed_abandonSend (r : Router) (id : Nat) : Fed r (r.abandonSend id) := by
  have hclosed := abandonSend_closed r id
  have hqueue := abandonSend_queue r id
  exact ⟨.inl ⟨abandonSend_takes r id, hqueue, hclosed⟩, fun hc ↦ hclosed.trans hc, fun _ ↦ hqueue⟩

/-- Closing wakes every taker. -/
theorem fed_close (r : Router) : Fed r r.close :=
  ⟨.inr rfl, fun _ ↦ rfl, fun _ ↦ rfl⟩

/-! ### Nothing left -/

/-- The router has nothing for this worker and never will. -/
def Spent (r : Router) (w : Worker) : Prop :=
  r.closed = true ∧ ∀ i ∈ r.queue, w.state.canReach i.state = false

theorem Spent.mono {w : Worker} (h : Spent r w) (hc : r'.closed = true)
    (hq : r'.queue ⊆ r.queue) : Spent r' w :=
  ⟨hc, fun i hi ↦ h.2 i (hq hi)⟩

end Router

namespace Worker

variable {w w' : Worker} {time : UInt64} {reply : Reply} {ns : List Notice}

/-- A worker that ended because the router had nothing for it any more. -/
def Finished (w : Worker) : Prop :=
  w.stage = .ended ∧ w.returned = some .finished

/-- An answer of its device finishes no worker. -/
theorem Resumed.not_finished (h : Resumed w time reply w' ns) : ¬w'.Finished := by
  rintro ⟨hstage, hreturned⟩
  have hnone : w'.holding? = none := by rw [holding?, hstage]
  cases h with
  | crashed | created | rested | ran | broke => cases hstage
  | stillborn | frozen | frozenOn | uninstalled | uncleared => cases hreturned
  | @begun i hs =>
    rw [(prepare_holding w i time).1] at hnone
    cases hnone
  | @installed i path left done x hs =>
    rw [(install_holding w i time _ left).1] at hnone
    cases hnone
  | @cleared i package left hs =>
    rw [(clear_holding w i time left).1] at hnone
    cases hnone

/-- Neither is one finished by being stopped. -/
theorem abort_of_finished (h : w.abort.Finished) : w.abort = w := by
  rw [abort] at h ⊢
  split at h
  · next hover => rw [if_pos hover]
  · cases h.1

theorem isSeeking_eq_false_of_isOver (h : w.isOver = true) : w.isSeeking = false := by
  refine Bool.eq_false_iff.2 fun hs ↦ ?_
  rw [isOver, stage_of_isSeeking hs] at h
  cases h

end Worker

namespace Session

open Router (Fed)

variable {first s s' : Session} {h : List Turn} {m : Move} {ns : List Notice} {n : Nat}

/-! ### Operations -/

/-- The service on its own, when it has started. -/
def started (capacity : Nat) : Session :=
  (startService { capacity }).1

/-- The service went from a first state to another in so many turns, by its own moves, by what
happens to its channels and by calls to `stopService`. -/
inductive Operation (first : Session) : List Turn → Session → Prop
  | start : Operation first [] first
  | turn {h : List Turn} {s s' : Session} {ns : List Notice} (m : Move) (ho : Operation first h s)
      (hs : s.step m = some (s', ns)) : Operation first (h ++ [⟨s, m, ns⟩]) s'
  | outside {h : List Turn} {s : Session} (intentions : Channel Intention)
      (devices signals : Channel Coordinate) (results : Channel IntentionResult)
      (ho : Operation first h s) :
      Operation first h { s with intentions, devices, signals, results }
  | stop {h : List Turn} {s : Session} (ho : Operation first h s) :
      Operation first h s.stopService.1

/-- Moves that were followed are turns of an operation. -/
theorem Operation.follow {more : List Turn} (ho : Operation first h s) (ms : List Move)
    (hf : s.follow ms = some (more, s')) : Operation first (h ++ more) s' :=
  of_follow (P := fun h s ↦ Operation first h s) (fun m ho hs ↦ ho.turn m hs) ho ms hf

/-! ### The invariant of the service -/

/-- What holds whenever the service is on its own. Other parts are off. Who is parked waits for an
intention (`WaitsFor`), and nobody does who is not to be woken once the router is closed; who has
finished could reach nothing that is left (`Spent`). Ends are taken note of only after the service
was stopped, and then nobody brings anything new. -/
structure ServiceInvariant (s : Session) : Prop where
  scheduler : s.scheduler = .off
  client : s.client.stage = .off
  watcher : s.watcher = .off
  stage : s.stage = .off
  takes : ∀ t ∈ s.router.takes, ∃ x, WaitsFor s.workers s.router.queue t x
  woken : s.router.closed = true → ∀ t ∈ s.router.takes, t.woken = true
  finished : ∀ x ∈ s.workers, x.worker.Finished → s.router.Spent x.worker
  running : s.service = .running → ∀ x ∈ s.workers, x.joined = false
  draining : s.service = .draining → s.workers.all (·.joined) = false
  windingDown : s.service ≠ .running → s.WindingDown ∧ s.router.closed = true

/-- What a move makes of a service on its own. -/
inductive ServiceStep (s : Session) : Move → Session → List Notice → Prop
  /-- The forwarder goes on, or leaves. -/
  | forwarded {router : Router} {intentions : Channel Intention} {forwarder : Forwarder}
      {ns : List Notice} (hr : Fed s.router router) (hf : s.forwarder ≠ .off) :
      ServiceStep s .forward { s with router, intentions, forwarder } ns
  /-- A worker is hired. -/
  | hired {d : DeviceData} {devices : Channel Coordinate} {ns : List Notice}
      (hi : s.intake = true) :
      ServiceStep s (.enlist (.ok d))
        { s with devices, workers := s.workers ++ [⟨.new d, false⟩] } ns
  /-- A coordinate is sent back. -/
  | declined {e : LabError} {devices signals : Channel Coordinate} {ns : List Notice}
      (hi : s.intake = true) : ServiceStep s (.enlist (.error e)) { s with devices, signals } ns
  /-- The intake leaves. -/
  | dismissed {devices signals : Channel Coordinate} {results : Channel IntentionResult}
      (hi : s.intake = true) :
      ServiceStep s .closeIntake { s with intake := false, devices, signals, results } []
  /-- A worker finds nothing yet. -/
  | waited {n : Nat} {x : Hired} (hx : s.workers[n]? = some x)
      (hseeking : x.worker.isSeeking = true) (hopen : s.router.closed = false)
      (hq : Router.takeMatching x.worker.state s.router.queue = none) :
      ServiceStep s (.seek n)
        { s with router := { s.router.dropTake n with
          takes := (s.router.dropTake n).takes ++ [⟨n, x.worker.state, false⟩] } } []
  /-- A worker takes an intention. -/
  | took {n : Nat} {x : Hired} {i : Intention} {rest : List Intention}
      {signals : Channel Coordinate} {results : Channel IntentionResult}
      (hx : s.workers[n]? = some x)
      (hseeking : x.worker.isSeeking = true)
      (hq : Router.takeMatching x.worker.state s.router.queue = some (i, rest)) :
      ServiceStep s (.seek n)
        { s with
          router := { s.router.dropTake n with queue := rest }.wakeSend
          signals
          results
          workers := s.workers.modify n fun y ↦
            { y with worker := (x.worker.receive (some i)).1 } }
        (x.worker.receive (some i)).2
  /-- A worker finds that there will be nothing. -/
  | finished {n : Nat} {x : Hired} {signals : Channel Coordinate}
      {results : Channel IntentionResult} (hx : s.workers[n]? = some x)
      (hseeking : x.worker.isSeeking = true) (hclosed : s.router.closed = true)
      (hq : Router.takeMatching x.worker.state s.router.queue = none) :
      ServiceStep s (.seek n)
        { s with
          router := s.router.dropTake n
          signals
          results
          workers := s.workers.modify n fun y ↦ { y with worker := (x.worker.receive none).1 } }
        (x.worker.receive none).2
  /-- The device of a worker answers. -/
  | resumed {n : Nat} {x : Hired} {w : Worker} {time : UInt64} {reply : Reply} {ns : List Notice}
      {signals : Channel Coordinate} {results : Channel IntentionResult}
      (hx : s.workers[n]? = some x) (hr : x.worker.resume time reply = some (w, ns)) :
      ServiceStep s (.answer n time reply)
        { s with
          signals
          results
          workers := s.workers.modify n fun y ↦ { y with worker := w } } ns
  /-- The end of a worker is taken note of. If it was the last one, the service has stopped. -/
  | joined {n : Nat} {x : Hired} {service : Service} {ns : List Notice}
      (hs : s.service = .draining) (hx : s.workers[n]? = some x) (hover : x.worker.isOver = true)
      (hdraining : service = .draining →
        (s.workers.modify n fun y ↦ { y with joined := true }).all (·.joined) = false) :
      ServiceStep s (.join n)
        { s with
          workers := s.workers.modify n fun y ↦ { y with joined := true }
          service } ns
  /-- Time is up for the workers, and they are stopped. -/
  | overran {signals : Channel Coordinate} {results : Channel IntentionResult} {ns : List Notice}
      (hs : s.service = .draining) :
      ServiceStep s .overrun
        { s with
          router := { s.router with takes := [] }
          signals
          results
          workers := s.workers.map Hired.abort
          service := .stopped } ns

/-- A service that drains has stopped when the end of every worker was taken note of. -/
theorem finishDrain_eq (hs : s.service = .draining) :
    ∃ service : Service, s.finishDrain.1 = { s with service := service } ∧
      (service = .draining ∧ s.workers.all (·.joined) = false ∨
        service = .stopped ∧ s.workers.all (·.joined) = true) := by
  rw [finishDrain]
  split
  · next hall => exact ⟨.stopped, rfl, .inr ⟨rfl, hall.2⟩⟩
  · next hnot =>
    exact ⟨s.service, rfl, .inl ⟨hs, Bool.eq_false_iff.2 fun hall ↦ hnot ⟨hs, hall⟩⟩⟩

namespace ServiceInvariant

theorem serviceStep_of_forward (hs : s.forward = some (s', ns)) : ServiceStep s .forward s' ns := by
  have hforwarded {intentions : Channel Intention} {r : Router} {x : SendResult × Router}
      (hr : s.router = r) (hx : Fed r x.2) (hf : s.forwarder ≠ .off)
      (hs : some ({ s with intentions }.forwarded x) = some (s', ns)) :
      ServiceStep s .forward s' ns := by
    subst hr
    obtain ⟨- | - | -, router⟩ := x
    all_goals obtain ⟨rfl, rfl⟩ := Prod.mk.inj (Option.some.inj hs)
    · exact .forwarded hx hf
    · exact .forwarded ((hx.trans (Router.fed_abandonSend _ _)).trans (Router.fed_close _)) hf
    · exact .forwarded hx hf
  rw [forward] at hs
  split at hs
  · cases hs
  · next hreading =>
    have hf : s.forwarder ≠ .off := by rw [hreading]; exact Forwarder.noConfusion
    split at hs
    · exact hforwarded rfl (Router.fed_offer _ _ _) hf hs
    · split at hs
      · cases hs
      · obtain ⟨rfl, rfl⟩ := Prod.mk.inj (Option.some.inj hs)
        exact .forwarded ((Router.fed_abandonSend _ _).trans (Router.fed_close _)) hf
  · next hparked =>
    have hf : s.forwarder ≠ .off := by rw [hparked]; exact Forwarder.noConfusion
    obtain ⟨x, hx, heq⟩ := Option.map_eq_some_iff.1 hs
    have hfed : Fed s.router x.2 := by
      rw [Router.retrySend] at hx
      split at hx
      · split at hx
        · cases hx
        · rw [← Option.some.inj hx]
          exact (Router.fed_dropSend _ _).trans (Router.fed_offer _ _ _)
      · cases hx
    exact hforwarded rfl hfed hf (congrArg some heq)

theorem serviceStep_of_enlist {found : Except LabError DeviceData}
    (hs : s.enlist found = some (s', ns)) : ServiceStep s (.enlist found) s' ns := by
  rw [enlist] at hs
  split at hs
  · cases hs
  next hintake =>
  split at hs
  · cases hs
  cases found with
  | ok d =>
    obtain ⟨rfl, rfl⟩ := Prod.mk.inj (Option.some.inj hs)
    exact .hired (by simpa using hintake)
  | error e =>
    obtain ⟨rfl, rfl⟩ := Prod.mk.inj (Option.some.inj hs)
    exact .declined (by simpa using hintake)

theorem serviceStep_of_closeIntake (hs : s.closeIntake = some (s', ns)) :
    ServiceStep s .closeIntake s' ns := by
  rw [closeIntake] at hs
  split at hs
  · next hintake =>
    obtain ⟨rfl, rfl⟩ := Prod.mk.inj (Option.some.inj hs)
    obtain ⟨results, signals, hhush⟩ := hush_eq
      { s with intake := false, devices := s.devices.endReceiving }
    rw [endIntake, hhush]
    exact .dismissed (Bool.and_eq_true _ _ ▸ hintake).1
  · cases hs

theorem serviceStep_of_seek (ho : s.ServiceInvariant) (hs : s.seek n = some (s', ns)) :
    ServiceStep s (.seek n) s' ns := by
  obtain ⟨x, state, hx, hseeking, hstate, hs⟩ := Wired.seek_cases hs
  obtain rfl := state_eq_of_waitsFor ho.takes hx hstate
  cases hq : Router.takeMatching x.worker.state s.router.queue with
  | some found =>
    obtain ⟨i, rest⟩ := found
    rw [Router.ask_of_some (r := s.router.dropTake n) hq] at hs
    obtain ⟨rfl, rfl⟩ := Prod.mk.inj (Option.some.inj hs)
    obtain ⟨results, signals, heq⟩ :=
      setWorker_eq { s with router := _ } n (x.worker.receive (some i)).1
    rw [heq]
    exact .took hx hseeking hq
  | none =>
    cases hclosed : s.router.closed with
    | true =>
      rw [Router.ask_of_closed (r := s.router.dropTake n) hclosed hq] at hs
      obtain ⟨rfl, rfl⟩ := Prod.mk.inj (Option.some.inj hs)
      obtain ⟨results, signals, heq⟩ :=
        setWorker_eq { s with router := _ } n (x.worker.receive none).1
      rw [heq]
      exact .finished hx hseeking hclosed hq
    | false =>
      rw [Router.ask_of_none (r := s.router.dropTake n) hclosed hq] at hs
      obtain ⟨rfl, rfl⟩ := Prod.mk.inj (Option.some.inj hs)
      exact .waited hx hseeking hclosed hq

theorem serviceStep_of_answer {time : UInt64} {reply : Reply}
    (hs : s.answer n time reply = some (s', ns)) : ServiceStep s (.answer n time reply) s' ns := by
  obtain ⟨x, w, results, signals, hx, hr, rfl⟩ := answer_cases hs
  exact .resumed hx hr

theorem serviceStep_of_join (hs : s.join n = some (s', ns)) : ServiceStep s (.join n) s' ns := by
  cases WindingDown.windDownStep_of_join hs with
  | joined hservice hx hover =>
    obtain ⟨service, heq, hservice'⟩ := finishDrain_eq
      (s := { s with workers := s.workers.modify n fun y ↦ { y with joined := true } }) hservice
    rw [heq]
    refine .joined hservice hx hover fun hdraining ↦ ?_
    rcases hservice' with ⟨-, hall⟩ | ⟨rfl, -⟩
    · exact hall
    · cases hdraining
  | attended _ _ hm => cases hm
  | errand hm => cases hm

theorem serviceStep_of_overrun (hs : s.overrun = some (s', ns)) : ServiceStep s .overrun s' ns := by
  obtain ⟨hservice, results, signals, rfl⟩ := overrun_cases hs
  exact .overran hservice

/-- **What a move can do** in a service on its own. -/
theorem serviceStep_of_step (ho : s.ServiceInvariant) (hs : s.step m = some (s', ns)) :
    ServiceStep s m s' ns := by
  cases m with
  | schedule => simp [step, schedule, ho.scheduler] at hs
  | takeAttempt => simp [step, takeAttempt, ho.client] at hs
  | takeResult => simp [step, takeResult, ho.client] at hs
  | handOn => simp [step, handOn, ho.client] at hs
  | forward => exact serviceStep_of_forward hs
  | enlist => exact serviceStep_of_enlist hs
  | closeIntake => exact serviceStep_of_closeIntake hs
  | seek => exact serviceStep_of_seek ho hs
  | answer => exact serviceStep_of_answer hs
  | takeCoordinate => simp [step, takeCoordinate, ho.watcher] at hs
  | deliver => simp [step, deliver, ho.watcher] at hs
  | heed => simp [step, heed, ho.watcher] at hs
  | removed => simp [step, removed, ho.watcher] at hs
  | claimed => simp [step, claimed.eq_def, ho.stage] at hs
  | collect => simp [step, collect, ho.stage] at hs
  | expire => simp [step, expire, ho.stage] at hs
  | join => exact serviceStep_of_join hs
  | overrun => exact serviceStep_of_overrun hs
  | drained => simp [step, drained, ho.stage] at hs
  | released => simp [step, released, ho.stage] at hs

end ServiceInvariant

/-! ### Keeping the invariant -/

namespace ServiceStep

/-- Nobody opens a router that was closed. -/
theorem closed_mono (hc : ServiceStep s m s' ns) (h : s.router.closed = true) :
    s'.router.closed = true := by
  cases hc with
  | forwarded hr => exact hr.closed h
  | took => exact (Router.wakeSend_closed _).trans h
  | _ => exact h

/-- **Who is parked waits for an intention** (`WaitsFor`), whatever happens. -/
theorem takes (hc : ServiceStep s m s' ns)
    (ht : ∀ t ∈ s.router.takes, ∃ x, WaitsFor s.workers s.router.queue t x) :
    ∀ t ∈ s'.router.takes, ∃ x, WaitsFor s'.workers s'.router.queue t x := by
  cases hc with
  | @forwarded router _ _ _ hr =>
    show ∀ t ∈ router.takes, ∃ x, WaitsFor s.workers router.queue t x
    rcases hr.takes with ⟨heq, hq, -⟩ | heq
    · rw [heq, hq]
      exact ht
    · rw [heq]
      exact waitsFor_woken ht _
  | hired => exact waitsFor_hired ht _
  | declined | dismissed => exact ht
  | waited hx hseeking _ hq => exact waitsFor_parked ht hx hseeking hq
  | took hx hseeking hq =>
    show ∀ t ∈ (Router.wakeSend _).takes, ∃ x, WaitsFor _ (Router.wakeSend _).queue t x
    rw [Router.wakeSend_takes, Router.wakeSend_queue]
    exact waitsFor_left (waitsFor_shorter ht hq) _ _
  | finished => exact waitsFor_left ht _ _
  | resumed hx hr => exact waitsFor_modify ht hx (Worker.isSeeking_eq_false_of_resume hr) _
  | joined _ hx hover => exact waitsFor_modify ht hx (Worker.isSeeking_eq_false_of_isOver hover) _
  | overran => exact List.forall_mem_nil _

/-- In a closed router everybody is woken. -/
theorem woken (hc : ServiceStep s m s' ns)
    (ht : s.router.closed = true → ∀ t ∈ s.router.takes, t.woken = true)
    (hclosed : s'.router.closed = true) : ∀ t ∈ s'.router.takes, t.woken = true := by
  have hfilter (n : Nat) (h : s.router.closed = true) :
      ∀ t ∈ (s.router.dropTake n).takes, t.woken = true :=
    fun t hmem ↦ ht h t (List.mem_filter.1 hmem).1
  cases hc with
  | @forwarded router _ _ _ hr =>
    intro t hmem
    rcases hr.takes with ⟨heq, -, hc⟩ | heq
    · exact ht (hc.symm.trans hclosed) t (by rw [← heq]; exact hmem)
    · have hmem : t ∈ router.takes := hmem
      rw [heq] at hmem
      obtain ⟨u, -, rfl⟩ := List.mem_map.1 hmem
      rfl
  | hired | declined | dismissed | resumed | joined => exact ht hclosed
  | waited _ _ hopen =>
    rw [show s.router.closed = true from hclosed] at hopen
    cases hopen
  | took =>
    have hclosed : (Router.wakeSend _).closed = true := hclosed
    rw [Router.wakeSend_closed] at hclosed
    show ∀ t ∈ (Router.wakeSend _).takes, t.woken = true
    rw [Router.wakeSend_takes]
    exact hfilter _ hclosed
  | finished => exact hfilter _ hclosed
  | overran => exact List.forall_mem_nil _

/-- **Who has finished could reach nothing that is left** (`Router.Spent`). -/
theorem keeps_finished (hc : ServiceStep s m s' ns)
    (hf : ∀ x ∈ s.workers, x.worker.Finished → s.router.Spent x.worker) :
    ∀ x ∈ s'.workers, x.worker.Finished → s'.router.Spent x.worker := by
  cases hc with
  | forwarded hr =>
    intro x hx hfin
    have hspent := hf x hx hfin
    exact hspent.mono (hr.closed hspent.1) (hr.queue hspent.1 ▸ List.Subset.refl _)
  | hired =>
    refine List.forall_mem_append.2 ⟨hf, List.forall_mem_singleton.2 fun hfin ↦ ?_⟩
    cases hfin.1
  | declined | dismissed | waited => exact hf
  | @took n x i rest _ _ hx hseeking hq =>
    refine forall_mem_modify (fun y hy hfin ↦ ?_) fun y _ hfin ↦ ?_
    · have hspent := hf y hy hfin
      refine hspent.mono ((Router.wakeSend_closed _).trans hspent.1) ?_
      rw [Router.wakeSend_queue]
      exact fun j hj ↦ (Router.perm_of_takeMatching hq).mem_iff.2 (List.mem_cons_of_mem i hj)
    · cases hfin.1
  | finished hx hseeking hclosed hq =>
    exact forall_mem_modify hf fun _ _ _ ↦ ⟨hclosed, Router.takeMatching_eq_none.1 hq⟩
  | resumed hx hr =>
    exact forall_mem_modify hf fun _ _ hfin ↦
      absurd hfin (Worker.resumed_of_resume hr).not_finished
  | joined => exact forall_mem_modify hf fun y hy ↦ hf y (List.mem_of_getElem? hy)
  | overran =>
    intro y hy hfin
    obtain ⟨x, hx, rfl⟩ := List.mem_map.1 hy
    have hfin : x.worker.abort.Finished := hfin
    have habort := Worker.abort_of_finished hfin
    show Router.Spent _ x.worker.abort
    rw [habort] at hfin ⊢
    exact hf x hx hfin

/-- Ends are not taken note of while the service is running, and it is not stopped by itself. -/
theorem running (hc : ServiceStep s m s' ns) (hs : s.service = .running)
    (hj : ∀ x ∈ s.workers, x.joined = false) :
    s'.service = .running ∧ ∀ x ∈ s'.workers, x.joined = false := by
  have hmodify (n : Nat) (w : Worker) :
      ∀ x ∈ s.workers.modify n fun y ↦ { y with worker := w }, x.joined = false :=
    forall_mem_modify hj fun y hy ↦ hj y (List.mem_of_getElem? hy)
  cases hc with
  | forwarded | declined | dismissed | waited => exact ⟨hs, hj⟩
  | hired => exact ⟨hs, List.forall_mem_append.2 ⟨hj, List.forall_mem_singleton.2 rfl⟩⟩
  | took | finished | resumed => exact ⟨hs, hmodify _ _⟩
  | joined hservice | overran hservice =>
    rw [hs] at hservice
    cases hservice

/-- A service drains as long as the end of some worker was not taken note of. -/
theorem draining (hc : ServiceStep s m s' ns)
    (hd : s.service = .draining → s.workers.all (·.joined) = false)
    (hs : s'.service = .draining) : s'.workers.all (·.joined) = false := by
  have hmodify (n : Nat) (w : Worker) :
      (s.workers.modify n fun y ↦ { y with worker := w }).all (·.joined) =
        s.workers.all (·.joined) := by
    have hmap := map_modify_of_key (f := Hired.joined) (g := fun y ↦ { y with worker := w })
      (fun _ ↦ rfl) s.workers n
    have hall (ws : List Hired) : ws.all (·.joined) = (ws.map (·.joined)).all id := by
      rw [List.all_map]
      rfl
    rw [hall, hmap, ← hall]
  cases hc with
  | forwarded | declined | dismissed | waited => exact hd hs
  | hired => simp
  | took | finished | resumed => exact (hmodify _ _).trans (hd hs)
  | joined _ _ _ hdraining => exact hdraining hs
  | overran => cases hs

/-- Parts that are off stay off. -/
theorem off (hc : ServiceStep s m s' ns) :
    s'.scheduler = s.scheduler ∧ s'.client = s.client ∧ s'.watcher = s.watcher ∧
      s'.stage = s.stage := by
  cases hc <;> exact ⟨rfl, rfl, rfl, rfl⟩

end ServiceStep

/-- **Every move keeps the `ServiceInvariant`**, one case of `ServiceStep` after the other. -/
theorem ServiceInvariant.of_step (ho : s.ServiceInvariant) (hs : s.step m = some (s', ns)) :
    s'.ServiceInvariant := by
  have hc := ho.serviceStep_of_step hs
  obtain ⟨hscheduler, hclient, hwatcher, hstage⟩ := hc.off
  have hrunning (hr : s.service = .running) := hc.running hr (ho.running hr)
  refine ⟨hscheduler.trans ho.scheduler, by rw [hclient]; exact ho.client,
    hwatcher.trans ho.watcher, hstage.trans ho.stage, hc.takes ho.takes, hc.woken ho.woken,
    hc.keeps_finished ho.finished, fun hr ↦ ?_, hc.draining ho.draining, fun hr ↦ ?_⟩
  · by_cases hbefore : s.service = .running
    · exact (hrunning hbefore).2
    · have he := (ho.windingDown hbefore).1
      refine absurd hr (WindingDown.of_windDownStep he (he.windDownStep_of_step ?_ ?_ hs)).service
      all_goals rw [ho.stage]; exact Stage.noConfusion
  · by_cases hbefore : s.service = .running
    · exact absurd (hrunning hbefore).1 hr
    · obtain ⟨he, hclosed⟩ := ho.windingDown hbefore
      refine ⟨WindingDown.of_windDownStep he (he.windDownStep_of_step ?_ ?_ hs),
        hc.closed_mono hclosed⟩
      all_goals rw [ho.stage]; exact Stage.noConfusion

/-! ### Stopping -/

/-- A service that does not run is not stopped again. -/
theorem stopService_of_ne (hs : s.service ≠ .running) : s.stopService = (s, []) := by
  rw [stopService, if_neg hs]

/-- What is left of a service that is stopped: the router is closed, and only workers remain. It has
stopped already if there are none. -/
theorem stopService_eq (hs : s.service = .running) :
    ∃ (results : Channel IntentionResult) (signals : Channel Coordinate) (service : Service),
      s.stopService.1 =
        { s with
          router := s.router.close.abandonSend forwarderId
          forwarder := .off
          intentions := s.intentions.endReceiving
          intake := false
          devices := s.devices.endReceiving
          results := results
          signals := signals
          service := service } ∧
      (service = .draining ∧ s.workers.all (·.joined) = false ∨
        service = .stopped ∧ s.workers.all (·.joined) = true) := by
  obtain ⟨results, signals, hhush⟩ := hush_eq
    { s.closeRouter.1.endForwarder with
      intake := false, devices := s.closeRouter.1.endForwarder.devices.endReceiving }
  rw [stopService, if_pos hs]
  show ∃ _ _ _,
    (finishDrain { s.closeRouter.1.endForwarder.endIntake with service := .draining }).1 =
    _ ∧ _
  rw [endIntake, hhush]
  obtain ⟨service, heq, hservice⟩ :=
    finishDrain_eq (s := { s.closeRouter.1.endForwarder with
      intake := false
      devices := s.closeRouter.1.endForwarder.devices.endReceiving
      results := results
      signals := signals
      service := .draining }) rfl
  exact ⟨results, signals, service, heq, hservice⟩

/-- **Stopping keeps the `ServiceInvariant`.** -/
theorem ServiceInvariant.stop (ho : s.ServiceInvariant) : s.stopService.1.ServiceInvariant := by
  by_cases hs : s.service = .running
  case neg =>
    rw [stopService_of_ne hs]
    exact ho
  case pos =>
  obtain ⟨results, signals, service, heq, hservice⟩ := stopService_eq hs
  have htakes : (s.router.close.abandonSend forwarderId).takes =
      s.router.takes.map fun t ↦ { t with woken := true } := Router.abandonSend_takes _ _
  have hqueue : (s.router.close.abandonSend forwarderId).queue = s.router.queue :=
    Router.abandonSend_queue _ _
  have hclosed : (s.router.close.abandonSend forwarderId).closed = true :=
    Router.abandonSend_closed _ _
  have hjoined := ho.running hs
  rw [heq]
  refine ⟨ho.scheduler, ho.client, ho.watcher, ho.stage, ?_, fun _ ↦ ?_, fun x hx hfin ↦ ?_,
    fun hrunning ↦ ?_, fun hdraining ↦ ?_, fun _ ↦ ?_⟩
  · show ∀ t ∈ Router.takes _, ∃ x, WaitsFor s.workers (Router.queue _) t x
    rw [htakes, hqueue]
    exact waitsFor_woken ho.takes _
  · show ∀ t ∈ Router.takes _, t.woken = true
    rw [htakes]
    intro t ht
    obtain ⟨u, -, rfl⟩ := List.mem_map.1 ht
    rfl
  · exact (ho.finished x hx hfin).mono hclosed (hqueue ▸ List.Subset.refl _)
  · rcases hservice with ⟨rfl, -⟩ | ⟨rfl, -⟩ <;> cases hrunning
  · rcases hservice with ⟨-, hall⟩ | ⟨rfl, -⟩
    · exact hall
    · cases hdraining
  · refine ⟨⟨ho.scheduler, ho.client, rfl, rfl, ?_, fun x hx hj ↦ ?_, fun hstopped x hx ↦ ?_⟩,
      hclosed⟩
    · rcases hservice with ⟨rfl, -⟩ | ⟨rfl, -⟩ <;> exact Service.noConfusion
    · rw [hjoined x hx] at hj
      cases hj
    · rcases hservice with ⟨rfl, -⟩ | ⟨-, hall⟩
      · cases hstopped
      · have hj := List.all_eq_true.1 hall x hx
        rw [hjoined x hx] at hj
        cases hj

theorem serviceInvariant_started (capacity : Nat) : (started capacity).ServiceInvariant where
  scheduler := rfl
  client := rfl
  watcher := rfl
  stage := rfl
  takes := List.forall_mem_nil _
  woken _ := List.forall_mem_nil _
  finished := List.forall_mem_nil _
  running _ := List.forall_mem_nil _
  draining hs := nomatch hs
  windingDown hs := absurd rfl hs

/-- **What holds in every state of a service that was `started`.** -/
theorem Operation.serviceInvariant (ho : Operation first h s) (hfirst : first.ServiceInvariant) :
    s.ServiceInvariant := by
  induction ho with
  | start => exact hfirst
  | turn m _ hs ih => exact ih.of_step hs
  | outside intentions devices signals results _ ih =>
    exact
      { ih with windingDown := fun hs ↦ ⟨{ (ih.windingDown hs).1 with }, (ih.windingDown hs).2⟩ }
  | stop _ ih => exact ih.stop

end Session

end DeviceLab
