import DeviceLab.Cluster.Claim
import DeviceLab.Proofs.Channel
import DeviceLab.Proofs.Distinct

/-!
# Histories of a claim

A `History` takes a claim from one state to another by any moves in any order: the cluster lists
what it likes and when it likes, creations and listings fail or not, and listeners, consumer and
boots take their turns in any way. It remembers the state before each move, the move, and what came
of it.

`stepped_of_step` says once what a move can do (`Stepped`), one constructor for each part that may
act. From it follows that no pod is lost between a listing and the consumer (`History.delivering`):
what a listener has to pass on it passes on in order, and the consumer takes in order what was
passed on (`Delivering`). This rests on `Flowing`, by which nobody leaves a channel as long as
something may come through it.
-/

namespace DeviceLab.Cluster

/-! ### What can happen to a boot -/

/-- An answer that a boot gets; `Move.deed?` is the one that a move of the claim brings. -/
inductive Boot.Deed
  /-- The bridge was asked for the device, and found it or not. -/
  | looked (found : Bool)
  /-- The device was waited for, and was ready in time or not. -/
  | booted (ready : Bool)
  /-- The log reporter was asked to collect. -/
  | redirected
  /-- The device was disconnected, or panicked over it. -/
  | disconnected (calm : Bool)
  /-- The cluster was asked to delete the pod. -/
  | deleted
  deriving DecidableEq

/-- What an answer makes of what a boot waits for, one constructor for each answer in a stage that
`awaits` it. -/
inductive Boot.Next : Boot.Stage → Boot.Deed → Boot.Stage → Prop
  | found : Next .looking (.looked true) .booting
  | missing : Next .looking (.looked false) .deleting
  | ready : Next .booting (.booted true) .redirecting
  | late : Next .booting (.booted false) .disconnecting
  | handedOut : Next .redirecting .redirected (.ended true)
  | disconnected : Next .disconnecting (.disconnected true) .deleting
  | crashed : Next .disconnecting (.disconnected false) .crashed
  | deleted : Next .deleting .deleted (.ended false)

/-- Whether a boot has come to hand out its coordinate. -/
def Boot.Stage.isHandedOut : Boot.Stage → Bool
  | .ended handedOut => handedOut
  | _ => false

/-- The address that a pod can be booted under: it has the name, runs, and has an address. -/
def address? (name : String) (p : Pod) : Option String :=
  if p.name = name ∧ p.phase = .running then p.ip else none

/-- The pods that a listener has to pass on. -/
def Listener.Stage.left : Listener.Stage → List Pod
  | .passing pods => pods
  | _ => []

namespace Claim

/-- The boot that a move is about, with the answer that it gets. -/
def Move.deed? : Move → Option (Nat × Boot.Deed)
  | .looked n (.ok _) => some (n, .looked true)
  | .looked n (.error _) => some (n, .looked false)
  | .booted n ready => some (n, .booted ready)
  | .redirected n _ => some (n, .redirected)
  | .disconnected n (.panicked _) => some (n, .disconnected false)
  | .disconnected n _ => some (n, .disconnected true)
  | .deleted n _ => some (n, .deleted)
  | _ => none

/-! ### Turns and histories -/

/-- One turn of a claim: the state before it, the move, and what it let out (`Output`). -/
structure Turn where
  before : Claim
  move : Move
  output : Output

namespace Turn

/-- The pod that the consumer takes in a turn. -/
def delivered (t : Turn) : List Pod :=
  match t.move with
  | .consume => t.before.pods.items.head?.toList
  | _ => []

/-- The pod that a listener passes on in a `Turn`, with the number of the listener. -/
def passed (t : Turn) : List (Nat × Pod) :=
  match t.move with
  | .pass n => (t.before.listeners[n]?.bind (·.stage.left.head?)).toList.map (n, ·)
  | _ => []

/-- The pods that are listed for a listener in a `Turn`, once it passes on what is listed. -/
def listed (t : Turn) : List (Nat × Pod) :=
  match t.move with
  | .listed n reply =>
    match t.before.listeners[n]? with
    | some ⟨deployment, .listing⟩ => (received deployment.name reply).1.map (n, ·)
    | _ => []
  | _ => []

/-- The answers that boots get in a turn. -/
def deeds (t : Turn) : List (Nat × Boot.Deed) :=
  t.move.deed?.toList

/-- The coordinate that is handed out in a turn. -/
def emitted (t : Turn) : List Coordinate :=
  t.output.handedOut.toList

end Turn

theorem Turn.delivered_of_ne {t : Turn} (hm : t.move ≠ .consume) : t.delivered = [] := by
  rw [delivered]
  split
  · next h => exact absurd h hm
  · rfl

/-- A turn in which a boot gets an answer (`Move.deed?`) tells nothing of pods. -/
theorem Turn.still_of_deed {t : Turn} {n : Nat} {d : Boot.Deed} (hm : t.move.deed? = some (n, d)) :
    t.delivered = [] ∧ t.passed = [] ∧ t.listed = [] := by
  obtain ⟨before, move, output⟩ := t
  cases move with
  | created | listed | wake | expire | pass | consume => cases hm
  | looked | booted | redirected | disconnected | deleted => exact ⟨rfl, rfl, rfl⟩

/-- A claim went from a first state to another in so many turns, each of them a `step`. -/
inductive History (first : Claim) : List Turn → Claim → Prop
  | start : History first [] first
  | turn {h : List Turn} {c c' : Claim} {out : Output} (m : Move) (hh : History first h c)
      (hs : c.step m = some (c', out)) : History first (h ++ [⟨c, m, out⟩]) c'

/-- The pods that the consumer took, in order. -/
def delivered (h : List Turn) : List Pod :=
  h.flatMap Turn.delivered

/-- The pods that listeners passed on, in order. -/
def passed (h : List Turn) : List (Nat × Pod) :=
  h.flatMap Turn.passed

/-- The pods that were listed for listeners, in order (`listed`). -/
def listedFor (h : List Turn) : List (Nat × Pod) :=
  h.flatMap Turn.listed

/-- The answers that boots got, in order. -/
def deeds (h : List Turn) : List (Nat × Boot.Deed) :=
  h.flatMap Turn.deeds

/-- The coordinates that were handed out, in order. -/
def emitted (h : List Turn) : List Coordinate :=
  h.flatMap Turn.emitted

section Append

variable (h : List Turn) (t : Turn)

@[simp] theorem delivered_append_singleton : delivered (h ++ [t]) = delivered h ++ t.delivered := by
  rw [delivered, List.flatMap_append, List.flatMap_singleton, delivered]

@[simp] theorem passed_append_singleton : passed (h ++ [t]) = passed h ++ t.passed := by
  rw [passed, List.flatMap_append, List.flatMap_singleton, passed]

@[simp] theorem listedFor_append_singleton : listedFor (h ++ [t]) = listedFor h ++ t.listed := by
  rw [listedFor, List.flatMap_append, List.flatMap_singleton, listedFor]

@[simp] theorem deeds_append_singleton : deeds (h ++ [t]) = deeds h ++ t.deeds := by
  rw [deeds, List.flatMap_append, List.flatMap_singleton, deeds]

@[simp] theorem emitted_append_singleton : emitted (h ++ [t]) = emitted h ++ t.emitted := by
  rw [emitted, List.flatMap_append, List.flatMap_singleton, emitted]

end Append

/-! ### Following moves -/

/-- Makes moves one after the other, as long as `step` allows each. -/
def follow (c : Claim) : List Move → Option (List Turn × Claim)
  | [] => some ([], c)
  | m :: ms => do
    let (next, out) ← c.step m
    let (h, last) ← next.follow ms
    return (⟨c, m, out⟩ :: h, last)

/-- Moves that were followed are a history. -/
theorem History.follow {first c c' : Claim} {h more : List Turn} (hh : History first h c)
    (ms : List Move) (hf : c.follow ms = some (more, c')) : History first (h ++ more) c' := by
  induction ms generalizing h c more with
  | nil =>
    obtain ⟨rfl, rfl⟩ := Prod.mk.inj (Option.some.inj hf)
    rwa [List.append_nil]
  | cons m ms ih =>
    simp only [Claim.follow, Option.bind_eq_bind, Option.bind_eq_some_iff] at hf
    obtain ⟨⟨next, out⟩, hs, ⟨rest, last⟩, hrest, heq⟩ := hf
    obtain ⟨rfl, rfl⟩ := Prod.mk.inj (Option.some.inj heq)
    have hrun := ih (hh.turn m hs) hrest
    rwa [List.append_assoc] at hrun

/-! ### What a move can do -/

/-- The claim with another boot, of a pod under an address. -/
def boot (c : Claim) (pod ip : String) : Claim :=
  { c with seen := pod :: c.seen,
           boots := c.boots ++ [⟨pod, coordinate c.config.remoteBridgePort pod ip, .looking⟩] }

/-- A move of a claim with what comes of it (`stepped_of_step`), and what the turn tells of pods and
boots. -/
inductive Stepped (c : Claim) (m : Move) : Claim → Output → Prop
  /-- A listener goes on to another stage, with the pods of a listing to pass on if it got one. -/
  | turned {n : Nat} {l : Listener} {stage : Listener.Stage} {out : Output}
      (hl : c.listeners[n]? = some l) (hlive : l.isOver = false) (hold : l.stage.left = [])
      (hd : m ≠ .consume) (hp : Turn.passed ⟨c, m, out⟩ = [])
      (hlisted : Turn.listed ⟨c, m, out⟩ = stage.left.map (n, ·)) (hdeed : m.deed? = none)
      (hout : out.handedOut = none) : Stepped c m (c.setListener n stage) out
  /-- A listener passes a pod on. -/
  | passed {n : Nat} {l : Listener} {p : Pod} {rest : List Pod} (hm : m = .pass n)
      (hl : c.listeners[n]? = some l) (hstage : l.stage = .passing (p :: rest))
      (hr : c.pods.receiving = true) :
      Stepped c m ({ c with pods := c.pods.push p }.setListener n (passOn rest)) {}
  /-- A listener finds that nobody takes pods any more. -/
  | deserted {n : Nat} {l : Listener} {p : Pod} {rest : List Pod} (hm : m = .pass n)
      (hl : c.listeners[n]? = some l) (hstage : l.stage = .passing (p :: rest))
      (hr : c.pods.receiving = false) : Stepped c m (c.setListener n .ended) {}
  /-- The consumer takes a pod that was booted before, or cannot be booted. -/
  | skipped {p : Pod} {rest : List Pod} {notices : List Notice} (hm : m = .consume)
      (hc : c.consuming = true) (hp : c.pods.items = p :: rest)
      (hskip : p.name ∈ c.seen ∨ address? p.name p = none) :
      Stepped c m { c with pods := c.pods.rest } { notices }
  /-- The consumer takes a pod and starts a boot. -/
  | started {p : Pod} {rest : List Pod} {ip : String} (hm : m = .consume)
      (hc : c.consuming = true) (hp : c.pods.items = p :: rest) (hnew : p.name ∉ c.seen)
      (ha : address? p.name p = some ip) :
      Stepped c m ({ c with pods := c.pods.rest }.boot p.name ip) {}
  /-- The consumer finds that no pods will come any more. -/
  | closed (hm : m = .consume) (hc : c.consuming = true) (hp : c.pods.items = [])
      (hs : c.pods.sending = false) :
      Stepped c m { c with consuming := false, pods := c.pods.endReceiving } {}
  /-- A boot gets an answer. -/
  | answered {n : Nat} {b : Boot} {deed : Boot.Deed} {stage : Boot.Stage} {out : Output}
      (hm : m.deed? = some (n, deed)) (hb : c.boots[n]? = some b)
      (hn : Boot.Next b.stage deed stage)
      (hout : out.handedOut = if stage.isHandedOut = true then some b.coordinate else none) :
      Stepped c m (c.setBoot n stage) out

variable {c c' : Claim} {m : Move} {out : Output}

theorem stepped_of_created {n : Nat} {reply : Except LabError Unit}
    (hs : c.created n reply = some (c', out)) : Stepped c (.created n reply) c' out := by
  simp only [created, Option.bind_eq_bind, Option.bind_eq_some_iff] at hs
  obtain ⟨l, hl, hs⟩ := hs
  split at hs
  · next hstage =>
    obtain ⟨rfl, rfl⟩ := Prod.mk.inj (Option.some.inj hs)
    exact .turned hl (by rw [Listener.isOver, hstage]) (by rw [hstage]; rfl) nofun rfl rfl rfl rfl
  · next hstage =>
    obtain ⟨rfl, rfl⟩ := Prod.mk.inj (Option.some.inj hs)
    exact .turned hl (by rw [Listener.isOver, hstage]) (by rw [hstage]; rfl) nofun rfl rfl rfl rfl
  · cases hs

theorem left_passOn (pods : List Pod) : (passOn pods).left = pods := by
  cases pods <;> rfl

theorem stepped_of_listed {n : Nat} {reply : Except LabError (List Pod)}
    (hs : c.listed n reply = some (c', out)) : Stepped c (.listed n reply) c' out := by
  simp only [Claim.listed, Option.bind_eq_bind, Option.bind_eq_some_iff] at hs
  obtain ⟨l, hl, hs⟩ := hs
  obtain ⟨deployment, stage⟩ := l
  cases stage with
  | counting =>
    obtain ⟨rfl, rfl⟩ := Prod.mk.inj (Option.some.inj hs)
    refine .turned hl rfl rfl nofun rfl ?_ rfl rfl
    simp only [Turn.listed, hl]
    split <;> rfl
  | listing =>
    obtain ⟨rfl, rfl⟩ := Prod.mk.inj (Option.some.inj hs)
    refine .turned hl rfl rfl nofun rfl ?_ rfl rfl
    simp only [Turn.listed, hl, left_passOn]
  | _ => cases hs

theorem stepped_of_wake {n : Nat} (hs : c.wake n = some (c', out)) :
    Stepped c (.wake n) c' out := by
  simp only [wake, Option.bind_eq_bind, Option.bind_eq_some_iff] at hs
  obtain ⟨⟨deployment, stage⟩, hl, hs⟩ := hs
  cases stage with
  | recounting | pausing =>
    obtain ⟨rfl, rfl⟩ := Prod.mk.inj (Option.some.inj hs)
    exact .turned hl rfl rfl nofun rfl rfl rfl rfl
  | _ => cases hs

theorem stepped_of_expire {n : Nat} (hs : c.expire n = some (c', out)) :
    Stepped c (.expire n) c' out := by
  simp only [expire, Option.bind_eq_bind, Option.bind_eq_some_iff] at hs
  obtain ⟨⟨deployment, stage⟩, hl, hs⟩ := hs
  cases stage with
  | counting | recounting =>
    obtain ⟨rfl, rfl⟩ := Prod.mk.inj (Option.some.inj hs)
    exact .turned hl rfl rfl nofun rfl rfl rfl rfl
  | _ => cases hs

theorem stepped_of_pass {n : Nat} (hs : c.pass n = some (c', out)) :
    Stepped c (.pass n) c' out := by
  simp only [pass, Option.bind_eq_bind, Option.bind_eq_some_iff] at hs
  obtain ⟨l, hl, hs⟩ := hs
  split at hs
  · next p rest hstage =>
    split at hs
    · next hr =>
      obtain ⟨rfl, rfl⟩ := Prod.mk.inj (Option.some.inj hs)
      exact .deserted rfl hl hstage (by simpa using hr)
    · next hr =>
      split at hs
      · obtain ⟨rfl, rfl⟩ := Prod.mk.inj (Option.some.inj hs)
        exact .passed rfl hl hstage (by simpa using hr)
      · cases hs
  · cases hs

theorem stepped_of_meet {p : Pod} {rest : List Pod} (hc : c.consuming = true)
    (hp : c.pods.items = p :: rest) (hs : { c with pods := c.pods.rest }.meet p = (c', out)) :
    Stepped c .consume c' out := by
  rw [meet] at hs
  split at hs
  · next hskip =>
    obtain ⟨rfl, rfl⟩ := Prod.mk.inj hs
    refine .skipped rfl hc hp (hskip.symm.imp_right fun hphase ↦ ?_)
    rw [address?, if_neg fun h ↦ hphase h.2]
  · next hnew =>
    rw [not_or, not_ne_iff] at hnew
    have ha : address? p.name p = p.ip := if_pos ⟨rfl, hnew.1⟩
    split at hs
    · next hip =>
      obtain ⟨rfl, rfl⟩ := Prod.mk.inj hs
      exact .skipped rfl hc hp (.inr (ha.trans hip))
    · next ip hip =>
      obtain ⟨rfl, rfl⟩ := Prod.mk.inj hs
      exact .started rfl hc hp hnew.2 (ha.trans hip)

theorem stepped_of_consume (hs : c.consume = some (c', out)) : Stepped c .consume c' out := by
  rw [consume] at hs
  split at hs
  · cases hs
  · next hc =>
    have hc : c.consuming = true := by simpa using hc
    split at hs
    · next p rest hp => exact stepped_of_meet hc hp (Option.some.inj hs)
    · next hp =>
      split at hs
      · cases hs
      · next hsending =>
        obtain ⟨rfl, rfl⟩ := Prod.mk.inj (Option.some.inj hs)
        exact .closed rfl hc hp (by simpa using hsending)

theorem stepped_of_looked {n : Nat} {reply : Except LabError Unit}
    (hs : c.looked n reply = some (c', out)) : Stepped c (.looked n reply) c' out := by
  simp only [looked, Option.bind_eq_bind, Option.bind_eq_some_iff] at hs
  obtain ⟨⟨pod, coordinate, stage⟩, hb, hs⟩ := hs
  rcases reply with e | u <;> cases stage with
  | looking =>
    obtain ⟨rfl, rfl⟩ := Prod.mk.inj (Option.some.inj hs)
    first
      | exact .answered rfl hb .missing rfl
      | exact .answered rfl hb .found rfl
  | _ => cases hs

theorem stepped_of_booted {n : Nat} {ready : Bool} (hs : c.booted n ready = some (c', out)) :
    Stepped c (.booted n ready) c' out := by
  simp only [booted, Option.bind_eq_bind, Option.bind_eq_some_iff] at hs
  obtain ⟨⟨pod, coordinate, stage⟩, hb, hs⟩ := hs
  cases ready <;> cases stage with
  | booting =>
    obtain ⟨rfl, rfl⟩ := Prod.mk.inj (Option.some.inj hs)
    first
      | exact .answered rfl hb .late rfl
      | exact .answered rfl hb .ready rfl
  | _ => cases hs

theorem stepped_of_redirected {n : Nat} {reply : Except LabError Unit}
    (hs : c.redirected n reply = some (c', out)) : Stepped c (.redirected n reply) c' out := by
  simp only [redirected, Option.bind_eq_bind, Option.bind_eq_some_iff] at hs
  obtain ⟨⟨pod, coordinate, stage⟩, hb, hs⟩ := hs
  cases stage with
  | redirecting =>
    obtain ⟨rfl, rfl⟩ := Prod.mk.inj (Option.some.inj hs)
    exact .answered rfl hb .handedOut rfl
  | _ => cases hs

theorem stepped_of_disconnected {n : Nat} {answer : Answer Unit}
    (hs : c.disconnected n answer = some (c', out)) :
    Stepped c (.disconnected n answer) c' out := by
  simp only [disconnected, Option.bind_eq_bind, Option.bind_eq_some_iff] at hs
  obtain ⟨⟨pod, coordinate, stage⟩, hb, hs⟩ := hs
  rcases answer with u | e | message <;> cases stage with
  | disconnecting =>
    obtain ⟨rfl, rfl⟩ := Prod.mk.inj (Option.some.inj hs)
    first
      | exact .answered rfl hb .disconnected rfl
      | exact .answered rfl hb .crashed rfl
  | _ => cases hs

theorem stepped_of_deleted {n : Nat} {reply : Except LabError Bool}
    (hs : c.deleted n reply = some (c', out)) : Stepped c (.deleted n reply) c' out := by
  simp only [deleted, Option.bind_eq_bind, Option.bind_eq_some_iff] at hs
  obtain ⟨⟨pod, coordinate, stage⟩, hb, hs⟩ := hs
  cases stage with
  | deleting =>
    obtain ⟨rfl, rfl⟩ := Prod.mk.inj (Option.some.inj hs)
    exact .answered rfl hb .deleted rfl
  | _ => cases hs

/-- **What a move can do**: every step of a claim is one of `Stepped`. -/
theorem stepped_of_step (hs : c.step m = some (c', out)) : Stepped c m c' out := by
  cases m with
  | created n reply => exact stepped_of_created hs
  | listed n reply => exact stepped_of_listed hs
  | wake n => exact stepped_of_wake hs
  | expire n => exact stepped_of_expire hs
  | pass n => exact stepped_of_pass hs
  | consume => exact stepped_of_consume hs
  | looked n reply => exact stepped_of_looked hs
  | booted n ready => exact stepped_of_booted hs
  | redirected n reply => exact stepped_of_redirected hs
  | disconnected n answer => exact stepped_of_disconnected hs
  | deleted n reply => exact stepped_of_deleted hs

/-! ### No pod is lost on the way -/

/-- Pods come as long as there are listeners, they are taken as long as they come, and none is left
behind after that. -/
structure Flowing (c : Claim) : Prop where
  sending : c.pods.sending = !c.listeners.all Listener.isOver
  receiving : c.pods.receiving = c.consuming
  stopped : c.consuming = false → c.pods.sending = false ∧ c.pods.items = []

namespace Flowing

variable {n : Nat} {l : Listener} {stage : Listener.Stage}

theorem sending_of_live (hf : Flowing c) (hl : c.listeners[n]? = some l)
    (hlive : l.isOver = false) : c.pods.sending = true := by
  rw [hf.sending, Bool.not_eq_true', List.all_eq_false]
  exact ⟨l, List.mem_of_getElem? hl, by rw [hlive]; exact Bool.false_ne_true⟩

theorem consuming_of_live (hf : Flowing c) (hl : c.listeners[n]? = some l)
    (hlive : l.isOver = false) : c.consuming = true := by
  by_contra hc
  have hs := (hf.stopped (by simpa using hc)).1
  rw [hf.sending_of_live hl hlive] at hs
  cases hs

theorem setListener (hf : Flowing c) (hl : c.listeners[n]? = some l) (hlive : l.isOver = false)
    (stage : Listener.Stage) : Flowing (c.setListener n stage) where
  sending := by
    simp only [Claim.setListener, hf.sending_of_live hl hlive, Bool.true_and]
  receiving := hf.receiving
  stopped hc := by
    have hc' : c.consuming = false := hc
    rw [hf.consuming_of_live hl hlive] at hc'
    cases hc'

/-- A listener that has pods to pass on is never left alone (`Flowing`). -/
theorem receiving_of_passing {pods : List Pod} (hf : Flowing c) (hl : c.listeners[n]? = some l)
    (hstage : l.stage = .passing pods) : c.pods.receiving = true := by
  rw [hf.receiving, hf.consuming_of_live hl (by rw [Listener.isOver, hstage])]

theorem of_start (config : Config) (deployments : List Deployment) :
    Flowing (start config deployments) where
  sending := by cases deployments <;> rfl
  receiving := rfl
  stopped := nofun

theorem step (hf : Flowing c) (hs : Stepped c m c' out) : Flowing c' := by
  cases hs with
  | turned hl hlive => exact hf.setListener hl hlive _
  | @passed n l p rest hm hl hstage hr =>
    have hlive : l.isOver = false := by rw [Listener.isOver, hstage]
    have hpushed : Flowing { c with pods := c.pods.push p } :=
      ⟨by rw [Channel.push_sending]; exact hf.sending,
        by rw [Channel.push_receiving]; exact hf.receiving,
        fun hc ↦ absurd hc (by simp [hf.consuming_of_live hl hlive])⟩
    exact hpushed.setListener hl hlive _
  | deserted hm hl hstage hr =>
    rw [hf.receiving_of_passing hl hstage] at hr
    cases hr
  | skipped hm hc | started hm hc =>
    exact ⟨hf.sending, hf.receiving, fun hn ↦ Bool.noConfusion (hc.symm.trans hn)⟩
  | closed hm hc hp hsending =>
    exact ⟨hf.sending, rfl, fun _ ↦ ⟨hsending, rfl⟩⟩
  | answered => exact ⟨hf.sending, hf.receiving, hf.stopped⟩

end Flowing

/-- What was passed on (`passed`) was taken or waits for the consumer, and what was `listedFor` a
listener was passed on or waits for it. -/
structure Delivering (h : List Turn) (c : Claim) : Prop extends Flowing c where
  taken : (passed h).map (·.2) = delivered h ++ c.pods.items
  passed : ∀ n l, c.listeners[n]? = some l →
    valuesOf n (passed h) ++ l.stage.left = valuesOf n (listedFor h)

theorem of_getElem?_setListener {n k : Nat} {stage : Listener.Stage} {l : Listener}
    (hl : (c.setListener n stage).listeners[k]? = some l) :
    k = n ∧ l.stage = stage ∨ k ≠ n ∧ c.listeners[k]? = some l := by
  simp only [setListener, List.getElem?_modify, Option.map_eq_map, Option.map_eq_some_iff] at hl
  obtain ⟨l₀, hl₀, rfl⟩ := hl
  by_cases hk : n = k
  · exact .inl ⟨hk.symm, by rw [if_pos hk]⟩
  · exact .inr ⟨fun h ↦ hk h.symm, by rw [if_neg hk, hl₀]⟩

/-- A listener that goes on to another stage passes on what it had, or keeps it with what comes. -/
theorem passed_setListener {h : List Turn} {t : Turn} {n : Nat} {l : Listener}
    {stage : Listener.Stage} (gone come : List Pod)
    (hpassed : ∀ k l', c.listeners[k]? = some l' →
      valuesOf k (passed h) ++ l'.stage.left = valuesOf k (listedFor h))
    (hl : c.listeners[n]? = some l) (hgone : t.passed = gone.map (n, ·))
    (hcome : t.listed = come.map (n, ·)) (hleft : gone ++ stage.left = l.stage.left ++ come) :
    ∀ k l', (c.setListener n stage).listeners[k]? = some l' →
      valuesOf k (passed (h ++ [t])) ++ l'.stage.left = valuesOf k (listedFor (h ++ [t])) := by
  intro k l' hl'
  rw [passed_append_singleton, listedFor_append_singleton, valuesOf_append, valuesOf_append, hgone,
    hcome]
  obtain ⟨rfl, hstage⟩ | ⟨hk, hl'⟩ := of_getElem?_setListener hl'
  · rw [valuesOf_map_self, valuesOf_map_self, hstage, List.append_assoc, hleft, ← List.append_assoc,
      hpassed _ l hl]
  · rw [valuesOf_map_of_ne hk.symm, valuesOf_map_of_ne hk.symm, List.append_nil, List.append_nil,
      hpassed k l' hl']

namespace Delivering

variable {h : List Turn}

theorem of_start (config : Config) (deployments : List Deployment) :
    Delivering [] (start config deployments) where
  toFlowing := .of_start config deployments
  taken := rfl
  passed n l hl := by
    simp only [start, List.getElem?_map, Option.map_eq_some_iff] at hl
    obtain ⟨d, -, rfl⟩ := hl
    rfl

/-- A turn in which nothing is passed on or listed, and no listener goes on. -/
theorem passed_of_still {t : Turn} (hd : Delivering h c) (hc : c'.listeners = c.listeners)
    (hp : t.passed = []) (hlisted : t.listed = []) :
    ∀ k l, c'.listeners[k]? = some l →
      valuesOf k (Claim.passed (h ++ [t])) ++ l.stage.left = valuesOf k (listedFor (h ++ [t])) := by
  rw [hc, passed_append_singleton, listedFor_append_singleton, hp, hlisted, List.append_nil,
    List.append_nil]
  exact hd.passed

/-- The consumer takes from the front of the pods that wait, and what is passed on comes at the
end. -/
theorem taken_of_items {t : Turn} (hd : Delivering h c)
    (hitems : c.pods.items ++ t.passed.map (·.2) = t.delivered ++ c'.pods.items) :
    (Claim.passed (h ++ [t])).map (·.2) = delivered (h ++ [t]) ++ c'.pods.items := by
  rw [passed_append_singleton, delivered_append_singleton, List.map_append, hd.taken,
    List.append_assoc, hitems, List.append_assoc]

theorem step (hd : Delivering h c) (hs : Stepped c m c' out) :
    Delivering (h ++ [⟨c, m, out⟩]) c' := by
  have hf : Flowing c' := hd.toFlowing.step hs
  cases hs with
  | @turned n l stage out hl hlive hold hm hp hlisted =>
    refine ⟨hf, hd.taken_of_items ?_,
      passed_setListener [] _ hd.passed hl hp hlisted (by rw [hold])⟩
    rw [hp, Turn.delivered_of_ne hm, List.map_nil, List.append_nil]
    rfl
  | @passed n l p rest hm hl hstage hr =>
    subst hm
    have hp : Turn.passed ⟨c, .pass n, {}⟩ = [p].map (n, ·) := by
      simp [Turn.passed, hl, hstage, Listener.Stage.left]
    refine ⟨hf, hd.taken_of_items ?_,
      passed_setListener (t := ⟨c, .pass n, {}⟩) _ [] hd.passed hl hp rfl ?_⟩
    · rw [hp, Channel.push_of_receiving hr]
      rfl
    · rw [left_passOn, hstage]
      exact (List.append_nil _).symm
  | deserted hm hl hstage hr =>
    rw [hd.receiving_of_passing hl hstage] at hr
    cases hr
  | skipped hm hc hp | started hm hc hp | closed hm hc hp =>
    subst hm
    refine ⟨hf, hd.taken_of_items ?_, hd.passed_of_still rfl rfl rfl⟩
    simp [Turn.passed, Turn.delivered, hp, boot]
  | answered hm =>
    obtain ⟨hdelivered, hp, hlisted⟩ := Turn.still_of_deed (t := ⟨c, m, out⟩) hm
    refine ⟨hf, hd.taken_of_items ?_, hd.passed_of_still rfl hp hlisted⟩
    rw [hdelivered, hp, List.map_nil, List.append_nil]
    rfl

end Delivering

variable {config : Config} {deployments : List Deployment} {h : List Turn}

/-- **No pod is lost on the way** from a listing to the consumer: `Delivering` holds in every
state. -/
theorem History.delivering (hh : History (.start config deployments) h c) : Delivering h c := by
  induction hh with
  | start => exact .of_start config deployments
  | turn m hh hs ih => exact ih.step (stepped_of_step hs)

end Claim

end DeviceLab.Cluster
