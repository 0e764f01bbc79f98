import DeviceLab.Proofs.Cluster.Life
import DeviceLab.Proofs.Session.Scripted

/-!
# Sessions on a cluster

In a `ClusterSession` the client of a cluster is the reservation: what the session asks for, the
client answers, and what the claim of the client hands out, the watcher gets. Nobody else gives
orders to the client, but it may have anything to do when the session is called, so that the claim
is refused, or has to wait.

The client winds up a claim, and disconnects the devices of its pods, only between the call to
release and its return. The caller makes that call when the service has stopped, and in these stages
(`Stage.isWorkless`) nobody works any more (`Course.isOver_of_isWorkless`, from
`Course.teardownInvariant`). `ClusterSession.isWorkless` puts the two together, so the two sides of
a session, which know nothing of each other, never share a device.

`Supply.keeps_devices_apart` is the main result of the modules on supplied sessions. Its first half
is about the workers of one session and rests on `Supply.nodup_serials`, `length_commandsOn_le`,
`Course.exists_left_on` and `Scripted.gaugeBound`; its second half is `ClusterSession.isWorkless`.
Both kinds of sessions are supplied ones (`Scripted.supply`, `ClusterSession.supply`).
-/

namespace DeviceLab.Session

variable {config : Config} {first s s' : Session} {c c' : Cluster.Client} {h : List Turn}
  {cs : List Coordinate} {m : Move} {ns : List Notice} {capacity : Nat} {requests : List Request}

/-! ### Coupling -/

/-- Whether a move is the answer of the reservation to its user. -/
def Move.isReply : Move → Bool
  | .claimed _ => true
  | .released _ => true
  | .removed => true
  | _ => false

/-- A session and the client of a cluster (`Cluster.Client`) that is its reservation went from a
first state to others in so many turns of the session, while the client handed out these
coordinates. -/
inductive ClusterSession (config : Config) (first : Session) :
    List Turn → List Coordinate → Session → Cluster.Client → Prop
  | start (c : Cluster.Client) : ClusterSession config first [] [] first c
  /-- Anybody but the client makes a move. -/
  | turn {h : List Turn} {cs : List Coordinate} {s s' : Session} {ns : List Notice}
      {c : Cluster.Client} (m : Move) (hm : m.isReply = false)
      (hl : ClusterSession config first h cs s c)
      (hs : s.step m = some (s', ns)) : ClusterSession config first (h ++ [⟨s, m, ns⟩]) cs s' c
  /-- The claim of the caller is accepted, and its stream opened. -/
  | granted {h : List Turn} {s s' : Session} {ns : List Notice} {c c' : Cluster.Client}
      {e : Cluster.Client.Effect} (demands : List (Uuid × Reservation))
      (hl : ClusterSession config first h [] s c)
      (hstage : s.stage = .claiming) (hc : c.act config (.claim demands) = some (c', e))
      (he : e.answer = some (.ok ()))
      (hs : { s with stream := .unbounded }.step (.claimed (.ok ())) = some (s', ns)) :
      ClusterSession config first (h ++ [⟨{ s with stream := .unbounded }, .claimed (.ok ()), ns⟩])
        [] s' c'
  /-- The claim of the caller is rejected. -/
  | refused {h : List Turn} {cs : List Coordinate} {s s' : Session} {ns : List Notice}
      {c c' : Cluster.Client} {e : Cluster.Client.Effect} {err : LabError}
      (demands : List (Uuid × Reservation)) (hl : ClusterSession config first h cs s c)
      (hc : c.act config (.claim demands) = some (c', e)) (he : e.answer = some (.error err))
      (hs : s.step (.claimed (.error err)) = some (s', ns)) :
      ClusterSession config first (h ++ [⟨s, .claimed (.error err), ns⟩]) cs s' c'
  /-- The pod of a device that died is removed for the watcher. -/
  | removed {h : List Turn} {cs : List Coordinate} {s s' : Session} {ns : List Notice}
      {c c' : Cluster.Client} {e : Cluster.Client.Effect} {pod : String}
      (reply : Except LabError Bool) (hl : ClusterSession config first h cs s c)
      (hwatcher : s.watcher = .removing pod)
      (hc : c.act config (.remove pod reply) = some (c', e))
      (hs : s.step .removed = some (s', ns)) :
      ClusterSession config first (h ++ [⟨s, .removed, ns⟩]) cs s' c'
  /-- The claim goes on, and hands out a coordinate. -/
  | handed {h : List Turn} {cs : List Coordinate} {s : Session} {c c' : Cluster.Client}
      {e : Cluster.Client.Effect} {coordinate : Coordinate} (m : Cluster.Claim.Move)
      (hl : ClusterSession config first h cs s c)
      (hc : c.act config (.work m) = some (c', e)) (he : e.handedOut = some coordinate)
      (hs : s.stream.sending = true) :
      ClusterSession config first h (cs ++ [coordinate])
        { s with stream := s.stream.push coordinate } c'
  /-- The claim goes on, and hands out nothing, or nothing for this session. -/
  | worked {h : List Turn} {cs : List Coordinate} {s : Session} {c c' : Cluster.Client}
      {e : Cluster.Client.Effect} (m : Cluster.Claim.Move)
      (hl : ClusterSession config first h cs s c)
      (hc : c.act config (.work m) = some (c', e))
      (he : e.handedOut.isSome → s.stream.sending = false) : ClusterSession config first h cs s c'
  /-- The claim will hand out nothing any more. -/
  | finished {h : List Turn} {cs : List Coordinate} {s : Session} {c : Cluster.Client}
      (hl : ClusterSession config first h cs s c) :
      ClusterSession config first h cs { s with stream := s.stream.endSending } c
  /-- The caller releases, and has to wait. -/
  | asked {h : List Turn} {cs : List Coordinate} {s : Session} {c c' : Cluster.Client}
      {e : Cluster.Client.Effect} {why : Ending} (hl : ClusterSession config first h cs s c)
      (hstage : s.stage = .releasing why)
      (hc : c.act config .release = some (c', e)) (he : e.answer = none) :
      ClusterSession config first h cs s c'
  /-- The caller releases, and is answered at once. -/
  | spurned {h : List Turn} {cs : List Coordinate} {s s' : Session} {ns : List Notice}
      {c c' : Cluster.Client} {e : Cluster.Client.Effect} {reply : Except LabError Unit}
      (hl : ClusterSession config first h cs s c) (hc : c.act config .release = some (c', e))
      (he : e.answer = some reply) (hs : s.step (.released reply) = some (s', ns)) :
      ClusterSession config first (h ++ [⟨s, .released reply, ns⟩]) cs s' c'
  /-- The release goes on. -/
  | woundUp {h : List Turn} {cs : List Coordinate} {s : Session} {c c' : Cluster.Client}
      {e : Cluster.Client.Effect} (m : Cluster.Release.Move)
      (hl : ClusterSession config first h cs s c) (hc : c.act config (.windUp m) = some (c', e)) :
      ClusterSession config first h cs s c'
  /-- The release returns to the caller. -/
  | settled {h : List Turn} {cs : List Coordinate} {s s' : Session} {ns : List Notice}
      {c c' : Cluster.Client} {e : Cluster.Client.Effect} {reply : Except LabError Unit}
      (hl : ClusterSession config first h cs s c) (hc : c.act config .settle = some (c', e))
      (he : e.answer = some reply) (hs : s.step (.released reply) = some (s', ns)) :
      ClusterSession config first (h ++ [⟨s, .released reply, ns⟩]) cs s' c'
  /-- A release that was under way before the session was called returns. -/
  | settledApart {h : List Turn} {cs : List Coordinate} {s : Session} {c c' : Cluster.Client}
      {e : Cluster.Client.Effect} (hl : ClusterSession config first h cs s c)
      (hstage : ∀ why, s.stage ≠ .releasing why) (hc : c.act config .settle = some (c', e)) :
      ClusterSession config first h cs s c'

/-- A session on a cluster is a supplied one. -/
theorem ClusterSession.supply (hl : ClusterSession config first h cs s c) :
    Supply first h cs s := by
  induction hl with
  | start => exact .start
  | turn m _ _ hs ih => exact ih.turn m hs
  | granted _ _ hstage _ _ hs ih => exact (ih.opened hstage).turn _ hs
  | refused _ _ _ _ hs ih => exact ih.turn _ hs
  | removed _ _ _ _ hs ih => exact ih.turn _ hs
  | handed _ _ _ _ hs ih => exact ih.hand _ hs
  | finished _ ih => exact ih.finish
  | spurned _ _ _ hs ih => exact ih.turn _ hs
  | settled _ _ _ hs ih => exact ih.turn _ hs
  | worked | asked | woundUp | settledApart => assumption

/-- Moves that were followed, with no answer of the client among them, are turns of a session on the
cluster. -/
theorem ClusterSession.follow {more : List Turn} (hl : ClusterSession config first h cs s c)
    (ms : List Move) (hms : ms.all (!·.isReply) = true) (hf : s.follow ms = some (more, s')) :
    ClusterSession config first (h ++ more) cs s' c :=
  of_follow_all (P := fun h s ↦ ClusterSession config first h cs s c)
    (fun m hm hl hs ↦ hl.turn m (by simpa using hm) hs) hl ms hms hf

/-! ### Releasing when nobody works -/

/-- The stages in which nobody works: the caller has not begun, or asked for the release. -/
def Stage.isWorkless : Stage → Bool
  | .claiming => true
  | .releasing _ => true
  | .returned _ => true
  | .panicked => true
  | _ => false

theorem isWorkless_call (capacity : Nat) (requests : List Request) :
    (call capacity requests).1.stage.isWorkless = true := by
  rcases call_eq capacity requests with ⟨-, heq⟩ | ⟨-, r, -, heq⟩ | ⟨-, -, heq⟩ | ⟨-, -, -, heq⟩
  all_goals rw [heq]; rfl

/-- Only an answer to the claim leads out of the stages without work (`Stage.isWorkless`). -/
theorem isWorkless_of_step (hs : s.step m = some (s', ns)) (hm : ∀ reply, m ≠ .claimed reply)
    (hworkless : s.stage.isWorkless = true) : s'.stage.isWorkless = true := by
  have hr := stageChange_of_step hs
  generalize s'.stage = stage at hr
  cases hr with
  | same => exact hworkless
  | claimed => exact absurd rfl (hm _)
  | refused => exact absurd rfl (hm _)
  | resolved hstage | starved hstage | expired hstage =>
    rw [hstage] at hworkless
    cases hworkless
  | denied | drained | released => rfl

/-- In a stage without work every worker is over. -/
theorem Course.isOver_of_isWorkless (hc : Course (call capacity requests).1 h s)
    (hs : s.stage.isWorkless = true) : ∀ x ∈ s.workers, x.worker.isOver = true := by
  have hr := hc.teardownInvariant
  cases hstage : s.stage with
  | claiming =>
    obtain ⟨-, -, -, -, _, rfl⟩ := hc.claiming hstage
    exact List.forall_mem_nil _
  | releasing | returned | panicked =>
    rw [hstage] at hr
    exact hr.1.stopped hr.1.rest
  | _ =>
    rw [hstage] at hs
    cases hs

/-- **A client releases when nobody works** (`Stage.isWorkless`): when the caller asked for it, or
before the caller's claim is answered. -/
theorem ClusterSession.isWorkless {r : Cluster.Release}
    (hl : ClusterSession config (call capacity requests).1 h cs s c) (hc : c = .releasing r) :
    s.stage.isWorkless = true := by
  induction hl generalizing r with
  | start => exact isWorkless_call capacity requests
  | turn m hm hl hs ih =>
    refine isWorkless_of_step hs ?_ (ih hc)
    rintro reply rfl
    cases hm
  | granted demands hl hstage hact he hs ih =>
    subst hc
    cases Cluster.Client.acted_of_act hact
  | refused demands hl hact he hs ih =>
    subst hc
    cases Cluster.Client.acted_of_act hact
  | removed reply hl hwatcher hact hs ih =>
    cases Cluster.Client.acted_of_act hact with
    | removed => exact isWorkless_of_step hs nofun (ih hc)
  | handed m hl hact he hs ih =>
    subst hc
    cases Cluster.Client.acted_of_act hact
  | worked m hl hact he ih =>
    subst hc
    cases Cluster.Client.acted_of_act hact
  | finished hl ih => exact ih hc
  | asked hl hstage hact he ih =>
    rw [hstage]
    rfl
  | spurned hl hact he hs ih =>
    subst hc
    cases Cluster.Client.acted_of_act hact with
    | released => cases he
  | woundUp m hl hact ih =>
    cases Cluster.Client.acted_of_act hact with
    | woundUp => exact ih rfl
  | settled hl hact he hs ih =>
    subst hc
    cases Cluster.Client.acted_of_act hact
  | settledApart hl hstage hact ih =>
    subst hc
    cases Cluster.Client.acted_of_act hact

/-! ### Exclusive devices -/

/-- **A device is in one pair of hands.** If the coordinates that were handed out have different
serials and the bridge finds the device at the serial (`Addressed`), then in any state of a session
a device is busy with at most one command (`commandsOn`), and what was taken for it is what was
reported of it with at most one intention more; on a scripted device (`Scripted`) at most one test
runs at a time (`peak`). And a client of a cluster, be it the reservation of the session
(`ClusterSession`), is in the middle of a release, with its devices being disconnected, only when
every worker is over. -/
theorem Supply.keeps_devices_apart (hc : Supply (call capacity requests).1 h cs s) :
    ((cs.map (·.serial.value)).Nodup → Addressed h → ∀ q,
      (s.commandsOn q).length ≤ 1 ∧
      (∃ left, left.length ≤ 1 ∧
        takenOn h s q = (reportedOn h s q).map (·.intention) ++ left) ∧
      ∀ devices begun, Scripted (call capacity requests).1 h cs ⟨s, devices, begun⟩ →
        (devices q).peak ≤ 1) ∧
    ∀ config c, ClusterSession config (call capacity requests).1 h cs s c → ∀ r, c = .releasing r →
      ∀ x ∈ s.workers, x.worker.isOver = true := by
  refine ⟨fun hd ha q ↦ ?_, fun config c hl r hr ↦ ?_⟩
  · have hserials := hc.nodup_serials hd ha
    refine ⟨length_commandsOn_le hserials, ?_, fun devices begun hscripted ↦ ?_⟩
    · exact hc.course.exists_left_on hserials (call_workers capacity requests)
    · exact (hscripted.gaugeBound hd ha q).peak
  · exact hc.course.isOver_of_isWorkless (hl.isWorkless hr)

/-! ### A sample -/

/-- A scripted device on which a test takes a second. -/
def slowDevice : Simulation.Device :=
  { coordinate := sampleDevice.coordinate, runDelay := 1000 }

/-- The moves by which the intention of the request and a worker come about. -/
def hiringMoves (d : DeviceData) : List Move :=
  [.schedule, .takeAttempt (.numbered 1 1), .handOn, .forward, .takeCoordinate, .deliver,
    .enlist (.ok d)]

/-- The first intention of `sampleRequest`. -/
def sampleIntention : Intention :=
  .ofRequest (.numbered 1 1) (sampleRequest 1) 1

/-- The worker that took the intention. -/
def checkingWorker : Worker :=
  { Worker.new sampleDevice with stage := .checking sampleIntention, phase := .idle }

/-- The device is new, so the application has to be installed. -/
theorem prepare_checkingWorker :
    checkingWorker.prepare sampleIntention =
      ({ checkingWorker with
          stage := .installing sampleIntention "test.apk" [] [], phase := .preparing },
        [.phase sampleDevice .preparing]) := by
  have hne : checkingWorker.state.digest ≠ sampleIntention.state.digest := by decide +kernel
  rw [Worker.prepare, if_neg hne]
  rfl

/-- The test of the request is under way on the scripted device `slowDevice`. -/
theorem exists_scripted :
    ∃ h s devices begun,
      Scripted (call 1 [sampleRequest 1]).1 h [sampleDevice.coordinate] ⟨s, devices, begun⟩ ∧
        Addressed h ∧ s.commandsOn "emulator-5554" = [.run sampleIntention.action] ∧
          takenOn h s "emulator-5554" = [sampleIntention] ∧
            (devices "emulator-5554").peak = 1 := by
  have hcalled : Scripted (call 1 [sampleRequest 1]).1 [] [] _ :=
    .start (fun _ ↦ slowDevice) fun _ ↦ ⟨rfl, Nat.zero_le 1⟩
  have hopened := ((hcalled.opened rfl).turn (.claimed (.ok ())) rfl rfl).hand
    sampleDevice.coordinate rfl
  have hhired := hopened.follow (hiringMoves sampleDevice) rfl rfl
  have htaken := (hhired.answered 0 0 rfl rfl rfl rfl rfl).turn (.seek 0) rfl rfl
  have hchecked := htaken.answered 0 1 (w := checkingWorker) rfl rfl rfl rfl
    ((answer_eq rfl ..).trans (congrArg (fun r ↦ Option.map _ (some r)) prepare_checkingWorker))
  have hinstalled := hchecked.answered 0 2 rfl rfl rfl rfl rfl
  refine ⟨_, _, _, _, hinstalled.begun 0 rfl rfl rfl rfl, ?_, rfl, rfl, rfl⟩
  intro p hp d hd
  obtain rfl := List.mem_singleton.1 hp
  obtain rfl := Except.ok.inj hd
  rfl

/-- A pod that runs and has an address. -/
def clusterPod : Cluster.Pod :=
  ⟨"pod-1", .running, some "10.0.0.1", none, none⟩

/-- The coordinate at which `clusterPod` is booted. -/
def clusterCoordinate : Coordinate :=
  Cluster.coordinate 5555 "pod-1" "10.0.0.1"

/-- The `clusterPod` is booted, its worker is stopped with an intention in hand when time is up, and
then the device is being disconnected. -/
theorem exists_clusterSession :
    ∃ h s r, ClusterSession {} (call 1 [sampleRequest 1]).1 h [clusterCoordinate] s (.releasing r) ∧
      s.workers.length = 1 ∧ (r.pod? 0 0).map (·.coordinate) = some clusterCoordinate ∧
        (r.pod? 0 0).map (·.stage) = some .disconnecting := by
  have hcalled : ClusterSession {} (call 1 [sampleRequest 1]).1 [] [] _ .idle := .start .idle
  have hgranted :=
    hcalled.granted [(.numbered 0 1, ⟨1, ⟨"api29", 29, "pixel", none⟩⟩)] rfl rfl rfl rfl
  have hlisted := ((hgranted.worked (.created 0 (.ok ())) rfl nofun).worked
    (.listed 0 (.ok [clusterPod])) rfl nofun).worked (.listed 0 (.ok [clusterPod])) rfl nofun
  have hbooted := (((hlisted.worked (.pass 0) rfl nofun).worked .consume rfl nofun).worked
    (.looked 0 (.ok ())) rfl nofun).worked (.booted 0 true) rfl nofun
  have hhired := (hbooted.handed (.redirected 0 (.ok ())) rfl rfl rfl).follow
    (hiringMoves ⟨clusterCoordinate, "pixel", 29⟩) rfl rfl
  have hdrained := hhired.follow
    [.answer 0 0 (.status (.returned .alive)), .seek 0, .expire, .overrun, .drained] rfl rfl
  have hsaving := (hdrained.asked rfl rfl rfl).woundUp (.listed 0 (.ok [clusterPod])) rfl
  have hsaved := (hsaving.woundUp (.fetched 0 0 (.ok "log")) rfl).woundUp
    (.reported 0 0 (.returned ())) rfl
  exact ⟨_, _, _, hsaved, rfl, rfl, rfl⟩

/-- One test is under way on a device, and nobody works while another is being disconnected. -/
theorem keeps_devices_apart_of_samples :
    (∃ h s devices begun,
      Scripted (call 1 [sampleRequest 1]).1 h [sampleDevice.coordinate] ⟨s, devices, begun⟩ ∧
        (devices "emulator-5554").peak = 1 ∧ (devices "emulator-5554").peak ≤ 1 ∧
          s.commandsOn "emulator-5554" = [.run sampleIntention.action] ∧
            (s.commandsOn "emulator-5554").length ≤ 1 ∧
              ∃ left, left.length ≤ 1 ∧ takenOn h s "emulator-5554" = [sampleIntention] ∧
                takenOn h s "emulator-5554" =
                  (reportedOn h s "emulator-5554").map (·.intention) ++ left) ∧
    ∃ h s r, ClusterSession {} (call 1 [sampleRequest 1]).1 h [clusterCoordinate] s (.releasing r) ∧
      (r.pod? 0 0).map (·.stage) = some .disconnecting ∧ s.workers.length = 1 ∧
        ∀ x ∈ s.workers, x.worker.isOver = true := by
  obtain ⟨h, s, devices, begun, hscripted, haddressed, hcommands, htaken, hpeak⟩ := exists_scripted
  obtain ⟨h', s', r, hcluster, hworkers, -, hstage⟩ := exists_clusterSession
  obtain ⟨happart, -⟩ := hscripted.supply.keeps_devices_apart
  obtain ⟨hone, ⟨left, hleft, hheld⟩, hgauge⟩ := happart (by decide) haddressed "emulator-5554"
  obtain ⟨-, hrelease⟩ := hcluster.supply.keeps_devices_apart
  exact
    ⟨⟨h, s, devices, begun, hscripted, hpeak, hgauge devices begun hscripted, hcommands, hone, left,
    hleft, htaken, hheld⟩, h', s', r, hcluster, hstage, hworkers, hrelease {} _ hcluster r rfl⟩

end DeviceLab.Session
