import DeviceLab.Proofs.Session.Carrying

/-!
# From the reservation to the workers and back

While a session is at work no coordinate falls out of the line from the reservation to the bridge,
and none that is lost out of the line back (`Places`). What was handed out is what was offered to
the bridge, then what waits for the intake, what the watcher carries, and what is left in the
stream, in this order; and what the watcher asked to remove, with what is signalled to it, is what
was lost.

* `Supply` is a course in which the stream is in the hands of the reservation, with all that it
  handed out; `Supply.course` forgets the latter.
* `Supply.places` says that both equations hold of a session at work. It rests on `Places.turn`,
  which goes by the cases of `Carrying`.
* `Places.settled` says that in a `Settled` session nobody carries anything, so both lines are
  empty.

`Supply.removes_lost` draws the conclusion for every single coordinate. That a coordinate is removed
at most once needs the coordinates to be distinct and the bridge to be `Bound`: `lost_subperm` then
says that none is lost twice. The equation of offers and the multiset of removals need neither.
-/

namespace DeviceLab

namespace Session

variable {first s s' : Session} {h : List Turn} {t : Turn} {cs : List Coordinate} {m : Move}
  {ns : List Notice}

/-! ### Supplied sessions -/

/-- A session went from a first state to another in so many turns, while the reservation handed out
these coordinates: it opens the `stream` before it grants the claim, puts coordinates into it at any
time, and may end it at any time. -/
inductive Supply (first : Session) : List Turn → List Coordinate → Session → Prop
  | start : Supply first [] [] first
  | turn {h : List Turn} {cs : List Coordinate} {s s' : Session} {ns : List Notice} (m : Move)
      (hc : Supply first h cs s) (hs : s.step m = some (s', ns)) :
      Supply first (h ++ [⟨s, m, ns⟩]) cs s'
  | opened {h : List Turn} {s : Session} (hc : Supply first h [] s) (hs : s.stage = .claiming) :
      Supply first h [] { s with stream := .unbounded }
  | hand {h : List Turn} {cs : List Coordinate} {s : Session} (c : Coordinate)
      (hc : Supply first h cs s) (hs : s.stream.sending = true) :
      Supply first h (cs ++ [c]) { s with stream := s.stream.push c }
  | finish {h : List Turn} {cs : List Coordinate} {s : Session} (hc : Supply first h cs s) :
      Supply first h cs { s with stream := s.stream.endSending }

/-- A supplied session is a `Course`, whose `stream` is fed by the reservation. -/
theorem Supply.course (hc : Supply first h cs s) : Course first h s := by
  induction hc with
  | start => exact .start
  | turn m _ hs ih => exact ih.turn m hs
  | opened _ _ ih => exact ih.feed _
  | hand c _ _ ih => exact ih.feed _
  | finish _ ih => exact ih.feed _

/-- Moves that were followed are turns of a supplied session. -/
theorem Supply.follow {more : List Turn} (hc : Supply first h cs s) (ms : List Move)
    (hf : s.follow ms = some (more, s')) : Supply first (h ++ more) cs s' :=
  of_follow (P := fun h s ↦ Supply first h cs s) (fun m hc hs ↦ hc.turn m hs) hc ms hf

/-! ### The line -/

/-- Where the coordinates are in a session at work, after these turns and so many handed out. -/
structure Places (h : List Turn) (cs : List Coordinate) (s : Session) : Prop where
  stream_open : s.stream.sending = true → s.stream.receiving = true
  stream_left : s.stream.receiving = false → s.stream.items = []
  devices_receiving : s.devices.receiving = true
  devices_capacity : s.devices.capacity = some devicesCapacity
  signals_receiving : s.signals.receiving = true
  handed : (offered h).map (·.1) ++ s.devices.items ++ s.watcher.carried ++ s.stream.items = cs
  hired : s.crew.map (·.device) = (offered h).filterMap (·.2.toOption)
  removals : (asked h ++ s.signals.items.filterMap Coordinate.resource?).Perm
    ((lost h s).filterMap Coordinate.resource?)

/-- A session that was opened and whose claim is granted carries what is in the `stream`. -/
theorem places_of_claimed {capacity : Nat} {requests : List Request} {c : Channel Coordinate}
    (hopen : c.sending = true → c.receiving = true) (hleft : c.receiving = false → c.items = [])
    (hs : step { opened capacity requests with stream := c } (.claimed (.ok ())) =
      some (s', ns)) :
    Places [⟨{ opened capacity requests with stream := c }, .claimed (.ok ()), ns⟩] c.items s' := by
  obtain ⟨rfl, rfl⟩ := Prod.mk.inj (Option.some.inj hs).symm
  exact
    { stream_open := hopen
      stream_left := hleft
      devices_receiving := rfl
      devices_capacity := rfl
      signals_receiving := rfl
      handed := rfl
      hired := rfl
      removals := .rfl }

/-- Coordinates that are passed on from one to the next, while nothing is offered, lost or
removed. -/
theorem Places.passed (hl : Places h cs s) (ho : t.offered = []) (ha : t.asked = [])
    (hdevices : s'.crew.map (·.device) = s.crew.map (·.device))
    (hlost : s'.crew.filterMap Worker.lost? = s.crew.filterMap Worker.lost?)
    (hg : s'.signals = s.signals) (hopen : s'.stream.sending = true → s'.stream.receiving = true)
    (hleft : s'.stream.receiving = false → s'.stream.items = [])
    (hreceiving : s'.devices.receiving = s.devices.receiving)
    (hcapacity : s'.devices.capacity = s.devices.capacity)
    (hitems : s'.devices.items ++ s'.watcher.carried ++ s'.stream.items =
      s.devices.items ++ s.watcher.carried ++ s.stream.items) :
    Places (h ++ [t]) cs s' := by
  have hoffered : offered (h ++ [t]) = offered h := by
    rw [offered_append_singleton, ho, List.append_nil]
  have hasked : asked (h ++ [t]) = asked h := by
    rw [asked_append_singleton, ha, List.append_nil]
  have hsame : lost (h ++ [t]) s' = lost h s := by
    rw [lost, lost, hoffered, hlost]
  constructor
  · exact hopen
  · exact hleft
  · rw [hreceiving]; exact hl.devices_receiving
  · rw [hcapacity]; exact hl.devices_capacity
  · rw [hg]; exact hl.signals_receiving
  · rw [hoffered, ← hl.handed]
    simpa only [List.append_assoc, List.append_cancel_left_eq] using hitems
  · rw [hoffered, hdevices]; exact hl.hired
  · rw [hasked, hg, hsame]; exact hl.removals

/-- A worker is hired for a coordinate that the bridge resolved. -/
theorem Places.of_hire (hl : Places h cs s) {c : Coordinate} {rest : List Coordinate}
    {d : DeviceData} (hc : s.devices.items = c :: rest) :
    Places (h ++ [⟨s, .enlist (.ok d), ns⟩]) cs ({ s with devices := s.devices.rest }.hire d) := by
  have hoffered : Turn.offered ⟨s, .enlist (.ok d), ns⟩ = [(c, .ok d)] := by
    simp [Turn.offered, hc]
  have hasked : Turn.asked ⟨s, .enlist (.ok d), ns⟩ = [] := rfl
  have hcrew : ({ s with devices := s.devices.rest }.hire d).crew = s.crew ++ [.new d] :=
    hire_crew _ d
  have hlost : lost (h ++ [⟨s, .enlist (.ok d), ns⟩])
      ({ s with devices := s.devices.rest }.hire d) = lost h s := by
    rw [lost, hcrew, offered_append_singleton, hoffered, unresolved_append, List.filterMap_append]
    exact congrArg₂ (· ++ ·) (List.append_nil _) (List.append_nil _)
  refine { hl with handed := ?_, hired := ?_, removals := ?_ }
  · rw [← hl.handed, offered_append_singleton, hoffered]
    simp [hire, hc]
  · rw [hcrew, offered_append_singleton, hoffered, List.map_append, List.filterMap_append, hl.hired]
    rfl
  · rw [hlost, asked_append_singleton, hasked, List.append_nil]
    exact hl.removals

/-- A coordinate that is lost and signalled is to be removed. -/
theorem perm_filterMap_of_lost {names : List String} {signalled lost lost' more : List Coordinate}
    (hbefore : (names ++ signalled.filterMap Coordinate.resource?).Perm
      (lost.filterMap Coordinate.resource?)) (hlost : lost'.Perm (lost ++ more)) :
    (names ++ (signalled ++ more).filterMap Coordinate.resource?).Perm
      (lost'.filterMap Coordinate.resource?) := by
  have hmore := hlost.filterMap Coordinate.resource?
  rw [List.filterMap_append] at hmore ⊢
  rw [← List.append_assoc]
  exact (hbefore.append_right _).trans hmore.symm

/-- The bridge did not resolve a coordinate, which is signalled. -/
theorem Places.of_miss (hl : Places h cs s) {c : Coordinate} {rest : List Coordinate} {e : LabError}
    (hc : s.devices.items = c :: rest) :
    Places (h ++ [⟨s, .enlist (.error e), ns⟩]) cs
      { s with devices := s.devices.rest, signals := s.signals.push c } := by
  have hoffered : Turn.offered ⟨s, .enlist (.error e), ns⟩ = [(c, .error e)] := by
    simp [Turn.offered, hc]
  have hasked : Turn.asked ⟨s, .enlist (.error e), ns⟩ = [] := rfl
  rw [Channel.push_of_receiving hl.signals_receiving]
  refine { hl with handed := ?_, hired := ?_, removals := ?_ }
  · rw [← hl.handed, offered_append_singleton, hoffered]
    simp [hc]
  · rw [offered_append_singleton, hoffered, List.filterMap_append]
    exact hl.hired.trans (List.append_nil _).symm
  · rw [asked_append_singleton, hasked, List.append_nil]
    refine perm_filterMap_of_lost hl.removals ?_
    rw [lost, lost, offered_append_singleton, hoffered, unresolved_append, List.append_assoc,
      List.append_assoc]
    exact List.perm_append_comm.append_left _

/-- The watcher takes a signal. -/
theorem Places.of_heed (hl : Places h cs s) {c : Coordinate} {rest : List Coordinate} {w : Watcher}
    (hw : s.watcher = .watching) (hc : s.signals.items = c :: rest) (hnot : w.carried = []) :
    Places (h ++ [⟨s, .heed, ns⟩]) cs { s with signals := s.signals.rest, watcher := w } := by
  have hasked : Turn.asked ⟨s, .heed, ns⟩ = [c].filterMap Coordinate.resource? := by
    simp [Turn.asked, hc]
  have hoffered : offered (h ++ [⟨s, .heed, ns⟩]) = offered h := by
    rw [offered_append_singleton]
    exact List.append_nil _
  refine { hl with handed := ?_, hired := ?_, removals := ?_ }
  · rw [hoffered, ← hl.handed, hw]
    exact congrArg (_ ++ · ++ _) hnot
  · rw [hoffered]
    exact hl.hired
  · rw [asked_append_singleton, hasked, lost, hoffered, List.append_assoc, ← List.filterMap_append]
    have hbefore := hl.removals
    rw [hc] at hbefore
    rw [Channel.rest_items, hc]
    exact hbefore

/-- A worker takes an answer, and the coordinate is signalled if its device is dead. -/
theorem Places.of_answer (hl : Places h cs s) {n : Nat} {time : UInt64} {reply : Reply}
    {w w' : Worker} (hw : s.crew[n]? = some w) (hcrew : s'.crew = s.crew.set n w')
    (hdevice : w'.device = w.device) (hnone : w.lost? = none) (hd : s'.devices = s.devices)
    (hg : s'.signals = { s.signals with items := s.signals.items ++ w'.lost?.toList })
    (ht : s'.stream = s.stream) (hwatcher : s'.watcher = s.watcher) :
    Places (h ++ [⟨s, .answer n time reply, ns⟩]) cs s' := by
  have hasked : Turn.asked ⟨s, .answer n time reply, ns⟩ = [] := rfl
  have hoffered : offered (h ++ [⟨s, .answer n time reply, ns⟩]) = offered h := by
    rw [offered_append_singleton]
    exact List.append_nil _
  constructor
  · rw [ht]; exact hl.stream_open
  · rw [ht]; exact hl.stream_left
  · rw [hd]; exact hl.devices_receiving
  · rw [hd]; exact hl.devices_capacity
  · rw [hg]; exact hl.signals_receiving
  · rw [hoffered, hd, hwatcher, ht]
    exact hl.handed
  · rw [hoffered, hcrew, map_set_of_key hw hdevice]
    exact hl.hired
  · rw [asked_append_singleton, hasked, List.append_nil, hg]
    refine perm_filterMap_of_lost hl.removals ?_
    rw [lost, lost, hoffered, hcrew, List.append_assoc]
    exact (filterMap_set_perm hw hnone w').append_left _

/-- **No move loses a coordinate** (`Places`). -/
theorem Places.turn (hl : Places h cs s) (hm : Carrying s m ns s') :
    Places (h ++ [⟨s, m, ns⟩]) cs s' := by
  cases hm with
  | apart ho ha hd hg ht hw hdevices hlost =>
    refine hl.passed ho ha hdevices hlost hg ?_ ?_ ?_ ?_ ?_
    · rw [ht]; exact hl.stream_open
    · rw [ht]; exact hl.stream_left
    · rw [hd]
    · rw [hd]
    · rw [hd, hw, ht]
  | @take _ c rest hw hc =>
    refine hl.passed rfl rfl rfl rfl rfl hl.stream_open ?_ rfl rfl ?_
    · intro hr
      have hnil := hl.stream_left hr
      rw [hc] at hnil
      cases hnil
    · simp [hw, hc, Watcher.carried]
  | leave hc hs =>
    refine hl.passed rfl rfl rfl rfl rfl ?_ (fun _ ↦ rfl) rfl rfl ?_
    · intro hsending
      rw [show s.stream.endReceiving.sending = false from hs] at hsending
      cases hsending
    · simp [hc]
  | @pass _ c hw =>
    rw [Channel.push_of_receiving hl.devices_receiving]
    refine hl.passed rfl rfl rfl rfl rfl hl.stream_open hl.stream_left rfl rfl ?_
    simp [hw, Watcher.carried]
  | removed hw =>
    refine hl.passed rfl rfl rfl rfl rfl hl.stream_open hl.stream_left rfl rfl ?_
    simp [hw, Watcher.carried]
  | hire hc => exact hl.of_hire hc
  | miss hc => exact hl.of_miss hc
  | heed hw hc hnot => exact hl.of_heed hw hc hnot
  | answer hw hcrew hdevice hnone hd hg ht hwatcher =>
    exact hl.of_answer hw hcrew hdevice hnone hd hg ht hwatcher

/-- A coordinate that is handed out comes behind the others in the `stream`. -/
theorem Places.hand (hl : Places h cs s) (hs : s.stream.sending = true) (c : Coordinate) :
    Places h (cs ++ [c]) { s with stream := s.stream.push c } := by
  have hreceiving := hl.stream_open hs
  rw [Channel.push_of_receiving hreceiving]
  refine { hl with stream_left := ?_, handed := ?_ }
  · intro hr
    rw [hreceiving] at hr
    cases hr
  · rw [← hl.handed, ← List.append_assoc]

section Call

variable {capacity : Nat} {requests : List Request}

theorem call_workers (capacity : Nat) (requests : List Request) :
    (call capacity requests).1.workers = [] := by
  unfold call
  split
  · rfl
  · split
    · rfl
    · split <;> rfl

theorem call_stream (capacity : Nat) (requests : List Request) :
    (call capacity requests).1.stream = {} := by
  unfold call
  split
  · rfl
  · split
    · rfl
    · split <;> rfl

/-- As long as the claim is not answered, what was handed out is in the stream. -/
theorem Supply.claiming (hc : Supply (call capacity requests).1 h cs s)
    (hs : s.stage = .claiming) :
    s.stream.items = cs ∧ (s.stream.sending = true → s.stream.receiving = true) ∧
      (s.stream.receiving = false → s.stream.items = []) := by
  induction hc with
  | start =>
    rw [call_stream]
    exact ⟨rfl, (fun h ↦ by cases h), fun _ ↦ rfl⟩
  | turn m hc hstep =>
    obtain ⟨hnil, -⟩ := (hc.turn m hstep).course.claiming hs
    simp at hnil
  | opened => exact ⟨rfl, fun _ ↦ rfl, fun _ ↦ rfl⟩
  | hand c hc hsending ih =>
    obtain ⟨rfl, hopen, -⟩ := ih hs
    rw [Channel.push_of_receiving (hopen hsending)]
    refine ⟨rfl, fun _ ↦ hopen hsending, fun hr ↦ ?_⟩
    rw [hopen hsending] at hr
    cases hr
  | finish hc ih =>
    obtain ⟨hitems, -, hleft⟩ := ih hs
    exact ⟨hitems, (fun h ↦ by cases h), hleft⟩

/-- **A session at work carries what was handed out**: every coordinate is at some place
(`Places`). -/
theorem Supply.places (hc : Supply (call capacity requests).1 h cs s) (hs : s.stage = .collecting) :
    Places h cs s := by
  induction hc with
  | start =>
    rcases call_cases capacity requests with ⟨-, h⟩ | ⟨e, h⟩ | h | ⟨-, -, -, h⟩
    all_goals rw [h] at hs; cases hs
  | @turn h cs s s' ns m hc hstep ih =>
    rcases (stageChange_of_step hstep).before_collecting hs with hbefore | ⟨hbefore, rfl⟩
    · have hl := ih hbefore
      have hw := (hc.course.wired hbefore).2
      have hfresh (n : Nat) (w : Worker) (hcrew : s.crew[n]? = some w) (hstage : w.stage ≠ .ended) :
          w.returned = none := by
        have hrecord := hc.course.record (call_workers capacity requests) n w.device
        rw [hcrew, Option.getD_some] at hrecord
        obtain ⟨d, hcourse⟩ := hrecord.course
        exact hcourse.returned_eq_none hstage
      exact hl.turn (carrying_of_step hw hl.devices_receiving hl.signals_receiving hfresh hstep hs)
    · obtain ⟨hitems, hopen, hleft⟩ := hc.claiming hbefore
      obtain ⟨rfl, -, -, -, c, rfl⟩ := hc.course.claiming hbefore
      obtain rfl : c.items = cs := hitems
      exact places_of_claimed hopen hleft hstep
  | opened hc hclaiming =>
    rw [show _ = Stage.collecting from hs] at hclaiming
    cases hclaiming
  | hand c hc hsending ih => exact (ih hs).hand hsending c
  | finish hc ih =>
    exact { ih hs with stream_open := fun h ↦ by cases h }

end Call

/-! ### Settled sessions -/

/-- Neither the watcher nor the intake has anything to do, and no removal is in progress. -/
def Settled (s : Session) : Prop :=
  ∀ m : Move, m.isErrand = true → s.step m = none

/-- In a `Settled` session at work nobody carries anything. -/
theorem Places.settled (hl : Places h cs s) (hw : s.Wired) (hq : Settled s) :
    s.devices.items = [] ∧ s.watcher = .watching ∧ s.stream.items = [] ∧ s.signals.items = [] := by
  have hdevices : s.devices.items = [] := by
    by_contra hne
    obtain ⟨c, rest, hitems⟩ := List.exists_cons_of_ne_nil hne
    have hstep := hq (.enlist (.error (.channelClosed ""))) rfl
    simp [step, enlist, hw.intake, hitems] at hstep
  have hwatcher : s.watcher = .watching := by
    cases hwatcher : s.watcher with
    | off => exact absurd hwatcher hw.watcher
    | watching => rfl
    | delivering c =>
      have hstep := hq .deliver rfl
      simp [step, deliver, hwatcher, hl.devices_receiving, Channel.hasRoom, hl.devices_capacity,
        hdevices, devicesCapacity] at hstep
    | removing name =>
      have hstep := hq .removed rfl
      simp [step, removed, hwatcher] at hstep
  refine ⟨hdevices, hwatcher, ?_, ?_⟩
  · by_contra hne
    obtain ⟨c, rest, hitems⟩ := List.exists_cons_of_ne_nil hne
    have hreceiving : s.stream.receiving = true := by
      by_contra hr
      exact hne (hl.stream_left (by simpa using hr))
    have hstep := hq .takeCoordinate rfl
    simp [step, takeCoordinate, hwatcher, hreceiving, hitems] at hstep
  · by_contra hne
    obtain ⟨c, rest, hitems⟩ := List.exists_cons_of_ne_nil hne
    have hstep := hq .heed rfl
    cases hname : c.resource? <;>
      simp [step, heed, hwatcher, hitems, hname] at hstep

/-! ### Distinct coordinates -/

section Distinct

variable (hd : ((offered h).map (·.1)).Nodup) (hb : Bound h)
  (hired : s.crew.map (·.device) = (offered h).filterMap (·.2.toOption))

include hb in
theorem toOption_eq_some_of_bound {p : Coordinate × Except LabError DeviceData}
    (hp : p ∈ offered h) {d : DeviceData} (hd : p.2.toOption = some d) : d.coordinate = p.1 := by
  refine hb p hp d ?_
  rcases p with ⟨c, e | d'⟩
  · cases hd
  · exact congrArg Except.ok (Option.some.inj hd)

include hd in
/-- A coordinate was offered once. -/
theorem exists_filter_offered {c : Coordinate} (hc : c ∈ (offered h).map (·.1)) :
    ∃ found, (offered h).filter (·.1 = c) = [(c, found)] := by
  obtain ⟨⟨c, found⟩, hp, rfl⟩ := List.mem_map.1 hc
  exact ⟨found, filter_key_eq_singleton hd hp⟩

include hb hired in
/-- The workers of a coordinate are those that were hired when it was `offered`. -/
theorem filter_crew_device (c : Coordinate) :
    (s.crew.filter (·.device.coordinate = c)).map (·.device) =
      ((offered h).filter (·.1 = c)).filterMap (·.2.toOption) := by
  rw [← filter_filterMap_of_key c fun p hp d hpd ↦ toOption_eq_some_of_bound hb hp hpd, ← hired,
    List.filter_map]
  rfl

include hb hired in
/-- No coordinate is `lost` twice, and only those are that were `offered`. -/
theorem lost_subperm : (lost h s).Subperm ((offered h).map (·.1)) := by
  -- The coordinates of the workers are those that the bridge resolved.
  have hresolved : s.crew.map (·.device.coordinate) =
      ((offered h).filter (·.2.toOption.isSome)).map (·.1) := by
    rw [← map_filterMap_of_key fun p hp d hpd ↦ toOption_eq_some_of_bound hb hp hpd, ← hired,
      List.map_map]
    rfl
  have hdead : (s.crew.filterMap Worker.lost?).Sublist (s.crew.map (·.device.coordinate)) := by
    have hkey : ∀ w ∈ s.crew, ∀ c, w.lost? = some c → id c = w.device.coordinate := by
      intro w _ c hc
      rw [Worker.lost?, Option.ite_none_right_eq_some] at hc
      exact (Option.some.inj hc.2).symm
    have hmap := map_filterMap_of_key hkey
    rw [List.map_id] at hmap
    rw [hmap]
    exact List.filter_sublist.map _
  rw [hresolved] at hdead
  refine (((List.Sublist.refl _).append hdead).subperm).trans ?_
  rw [unresolved, ← List.map_append]
  refine (List.Perm.map _ ?_).subperm
  exact List.perm_append_comm.trans (List.filter_append_perm (·.2.toOption.isSome) (offered h))

end Distinct

/-- The resource behind a coordinate that shares it with no other was removed once (`asked`) if the
coordinate is `lost`, and never otherwise. -/
theorem count_asked {c : Coordinate} {name : String}
    (hp : (asked h).Perm ((lost h s).filterMap Coordinate.resource?)) (hd : (lost h s).Nodup)
    (hname : c.resource? = some name)
    (hown : ∀ c' ∈ lost h s, c'.resource? = some name → c' = c) :
    (asked h).count name = if c ∈ lost h s then 1 else 0 := by
  have hcount : (asked h).count name = (lost h s).count c := by
    rw [hp.count_eq, List.count_filterMap]
    refine List.countP_congr fun c' hc' ↦ ?_
    simp only [beq_iff_eq]
    constructor
    · exact hown c' hc'
    · rintro rfl
      exact hname
  rw [hcount]
  split
  · next hc => exact List.count_eq_one_of_mem hd hc
  · next hc => exact List.count_eq_zero_of_not_mem hc

/-- What it means for a coordinate to be lost. -/
theorem mem_lost {c : Coordinate} :
    c ∈ lost h s ↔ (∃ e, (c, .error e) ∈ offered h) ∨
      ∃ w ∈ s.crew, w.device.coordinate = c ∧ w.returned = some .dead := by
  rw [lost, List.mem_append, List.mem_filterMap]
  refine or_congr ?_ (exists_congr fun w ↦ and_congr_right fun _ ↦ ?_)
  · rw [unresolved, List.mem_map]
    constructor
    · rintro ⟨⟨c, e | d⟩, hp, rfl⟩
      · exact ⟨e, (List.mem_filter.1 hp).1⟩
      · exact absurd (List.mem_filter.1 hp).2 Bool.false_ne_true
    · rintro ⟨e, hp⟩
      exact ⟨_, List.mem_filter.2 ⟨hp, rfl⟩, rfl⟩
  · rw [Worker.lost?, Option.ite_none_right_eq_some, Option.some.injEq]
    exact and_comm

/-- The coordinate of a pod. -/
def samplePod (n : Nat) : Coordinate :=
  .hosted ("10.0.0." ++ toString n ++ ":5555") ("pod-" ++ toString n)

/-- One request was called for, and the reservation hands out two pods and a device of the host. -/
def supplied : Session :=
  { (call 1 [sampleRequest 1]).1 with
    stream :=
      { items := [samplePod 1, samplePod 2, sampleDevice.coordinate], sending := true,
        receiving := true } }

theorem supply_supplied : Supply (call 1 [sampleRequest 1]).1 []
    [samplePod 1, samplePod 2, sampleDevice.coordinate] supplied := by
  have hcalled : Supply (call 1 [sampleRequest 1]).1 [] [] _ := .start
  exact (((hcalled.opened rfl).hand _ rfl).hand _ rfl).hand _ rfl

/-- The bridge does not know the first pod, the device of the second is frozen, and the device of
the host is alive. -/
def supplyMoves : List Move :=
  [.claimed (.ok ()), .takeCoordinate, .deliver, .takeCoordinate, .deliver, .takeCoordinate,
    .deliver,
    .enlist (.error (.channelClosed "bridge")), .enlist (.ok ⟨samplePod 2, "pixel", 29⟩),
    .enlist (.ok sampleDevice), .answer 0 0 (.status (.returned (.frozen "offline"))),
    .answer 1 0 (.status (.returned .alive)), .heed, .removed, .heed, .removed]

end Session

end DeviceLab
