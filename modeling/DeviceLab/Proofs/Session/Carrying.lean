import DeviceLab.Proofs.Session.Containment
import DeviceLab.Proofs.Session.Stages

/-!
# What moves do to coordinates

A reservation hands out coordinates one by one, and the session carries each of them to the bridge:
through the stream of the reservation to the watcher, from the watcher to the intake, and from the
intake to the bridge, which resolves it or not. A coordinate that is *lost*, because the bridge does
not resolve it or because its worker finds the device dead (`lost`), goes the other way: the service
signals it to the watcher, who asks the reservation to remove the resource behind it, if there is
one.

What was offered to the bridge (`offered`) and what the reservation was asked to remove (`asked`) is
read off the turns. `carrying_of_step` says once what a move of a session at work makes of the
coordinates in it (`Carrying`). It rests on the moves themselves, since `Working` has only one case
for the errands that matter here, and on `died_of_resumed`: a worker signals its coordinate in the
step in which it finds its device dead, and in no other.

`Bound` is what the bridge has to keep to if coordinates are told apart by devices.
-/

namespace DeviceLab

/-- The coordinate of a worker that found its device `dead`. -/
def Worker.lost? (w : Worker) : Option Coordinate :=
  if w.returned = some .dead then some w.device.coordinate else none

/-- The coordinate that the watcher carries to the intake. -/
def Watcher.carried : Watcher → List Coordinate
  | .delivering c => [c]
  | _ => []

/-- The coordinate of a device whose death is reported. -/
def Notice.died? : Notice → Option Coordinate
  | .event d (.died _ _) => some d.coordinate
  | _ => none

namespace Session

variable {s s' : Session} {m : Move} {ns : List Notice}

/-! ### What the turns tell about coordinates -/

/-- The coordinate that the intake offers to the bridge in a turn, with what the bridge makes of
it. -/
def Turn.offered (t : Turn) : List (Coordinate × Except LabError DeviceData) :=
  match t.move, t.before.devices.items with
  | .enlist found, c :: _ => [(c, found)]
  | _, _ => []

/-- The resource that the watcher asks the reservation to remove in a turn. -/
def Turn.asked (t : Turn) : List String :=
  match t.move with
  | .heed => t.before.signals.items.head?.toList.filterMap Coordinate.resource?
  | _ => []

/-- The coordinates that were offered to the bridge, in order, with what it made of them
(`Turn.offered`). -/
def offered (h : List Turn) : List (Coordinate × Except LabError DeviceData) :=
  h.flatMap Turn.offered

/-- The resources that the reservation was asked to remove, in order (`Turn.asked`). -/
def asked (h : List Turn) : List String :=
  h.flatMap Turn.asked

theorem offered_append_singleton (h : List Turn) (t : Turn) :
    offered (h ++ [t]) = offered h ++ t.offered := by
  rw [offered, List.flatMap_append, List.flatMap_singleton, offered]

theorem asked_append_singleton (h : List Turn) (t : Turn) :
    asked (h ++ [t]) = asked h ++ t.asked := by
  rw [asked, List.flatMap_append, List.flatMap_singleton, asked]

/-- The coordinates that the bridge did not resolve. -/
def unresolved (os : List (Coordinate × Except LabError DeviceData)) : List Coordinate :=
  (os.filter (!·.2.toOption.isSome)).map (·.1)

theorem unresolved_append (os more : List (Coordinate × Except LabError DeviceData)) :
    unresolved (os ++ more) = unresolved os ++ unresolved more := by
  rw [unresolved, List.filter_append, List.map_append, unresolved, unresolved]

/-- The coordinates that were lost: those that the bridge did not resolve, and those of the workers
that found their devices dead (`Worker.lost?`). -/
def lost (h : List Turn) (s : Session) : List Coordinate :=
  unresolved (offered h) ++ s.crew.filterMap Worker.lost?

/-- The bridge finds for a coordinate the device that is bound to it. -/
def Bound (h : List Turn) : Prop :=
  ∀ p ∈ offered h, ∀ d, p.2 = .ok d → d.coordinate = p.1

/-! ### What a move does to coordinates -/

/-- What a move makes of the coordinates in a session at work, and of those who carry them
(`carrying_of_step`). -/
inductive Carrying (s : Session) : Move → List Notice → Session → Prop
  /-- The move has nothing to do with coordinates. -/
  | apart {m : Move} {ns : List Notice} {s' : Session} (ho : Turn.offered ⟨s, m, ns⟩ = [])
      (ha : Turn.asked ⟨s, m, ns⟩ = []) (hd : s'.devices = s.devices)
      (hg : s'.signals = s.signals) (ht : s'.stream = s.stream) (hw : s'.watcher = s.watcher)
      (hdevices : s'.crew.map (·.device) = s.crew.map (·.device))
      (hlost : s'.crew.filterMap Worker.lost? = s.crew.filterMap Worker.lost?) :
      Carrying s m ns s'
  /-- The watcher takes a coordinate from the stream. -/
  | take {ns : List Notice} {c : Coordinate} {rest : List Coordinate}
      (hw : s.watcher = .watching) (hc : s.stream.items = c :: rest) :
      Carrying s .takeCoordinate ns { s with stream := s.stream.rest, watcher := .delivering c }
  /-- The watcher finds that the stream has ended. -/
  | leave {ns : List Notice} (hc : s.stream.items = []) (hs : s.stream.sending = false) :
      Carrying s .takeCoordinate ns { s with stream := s.stream.endReceiving }
  /-- The watcher passes its coordinate to the intake. -/
  | pass {ns : List Notice} {c : Coordinate} (hw : s.watcher = .delivering c) :
      Carrying s .deliver ns { s with watcher := .watching, devices := s.devices.push c }
  /-- The bridge resolves a coordinate, and a worker is hired. -/
  | hire {ns : List Notice} {c : Coordinate} {rest : List Coordinate} {d : DeviceData}
      (hc : s.devices.items = c :: rest) :
      Carrying s (.enlist (.ok d)) ns ({ s with devices := s.devices.rest }.hire d)
  /-- The bridge does not resolve a coordinate, which is signalled. -/
  | miss {ns : List Notice} {c : Coordinate} {rest : List Coordinate} {e : LabError}
      (hc : s.devices.items = c :: rest) :
      Carrying s (.enlist (.error e)) ns
        { s with devices := s.devices.rest, signals := s.signals.push c }
  /-- The watcher takes a signal, and asks for a removal if there is something to remove. -/
  | heed {ns : List Notice} {c : Coordinate} {rest : List Coordinate} {w : Watcher}
      (hw : s.watcher = .watching) (hc : s.signals.items = c :: rest) (hnot : w.carried = []) :
      Carrying s .heed ns { s with signals := s.signals.rest, watcher := w }
  /-- A resource was removed. -/
  | removed {ns : List Notice} {name : String} (hw : s.watcher = .removing name) :
      Carrying s .removed ns { s with watcher := .watching }
  /-- A worker takes an answer of its device, which is signalled if it is dead. -/
  | answer {n : Nat} {time : UInt64} {reply : Reply} {ns : List Notice} {s' : Session}
      {w w' : Worker} (hw : s.crew[n]? = some w) (hcrew : s'.crew = s.crew.set n w')
      (hdevice : w'.device = w.device) (hnone : w.lost? = none) (hd : s'.devices = s.devices)
      (hg : s'.signals = { s.signals with items := s.signals.items ++ w'.lost?.toList })
      (ht : s'.stream = s.stream) (hwatcher : s'.watcher = s.watcher) :
      Carrying s (.answer n time reply) ns s'

/-- What is signalled for a worker that takes an answer is its coordinate, if its device is dead. -/
theorem died_of_resumed {w w' : Worker} {time : UInt64} {reply : Reply}
    (hr : w.resume time reply = some (w', ns)) (hw : w.returned = none) :
    ns.filterMap Notice.died? = w'.lost?.toList := by
  have hfinal : ns.filterMap Notice.died? =
      (ns.filter Notice.isFinal).filterMap Notice.died? := by
    rw [List.filterMap_filter]
    refine List.filterMap_congr fun x _ ↦ ?_
    cases x with
    | event d e => cases e <;> rfl
    | phase d p => cases p <;> rfl
    | _ => rfl
  have hresumed := Worker.resumed_of_resume hr
  have hwords := hresumed.finalNotices hw
  rw [hfinal, Worker.lost?, hresumed.device_eq]
  generalize w'.returned = returned, ns.filter Notice.isFinal = words at hwords ⊢
  cases hwords with
  | silent => rfl
  | died message reason => rfl
  | finished => rfl

/-- The service passes on the deaths that are reported to it as `signals`, and nothing else. -/
theorem foldl_publish_coordinates {s : Session} (hg : s.signals.receiving = true) (time : UInt64)
    (ns : List Notice) :
    (ns.foldl (publish time) s).devices = s.devices ∧
      (ns.foldl (publish time) s).stream = s.stream ∧
      (ns.foldl (publish time) s).watcher = s.watcher ∧
      (ns.foldl (publish time) s).signals =
        { s.signals with items := s.signals.items ++ ns.filterMap Notice.died? } := by
  induction ns generalizing s with
  | nil => exact ⟨rfl, rfl, rfl, by simp⟩
  | cons x ns ih =>
    have hstep : (publish time s x).devices = s.devices ∧ (publish time s x).stream = s.stream ∧
        (publish time s x).watcher = s.watcher ∧ (publish time s x).signals =
          { s.signals with items := s.signals.items ++ (Notice.died? x).toList } := by
      unfold publish
      split
      · exact ⟨rfl, rfl, rfl, by simp [Notice.died?]⟩
      · exact ⟨rfl, rfl, rfl, by simp [Notice.died?]⟩
      · exact ⟨rfl, rfl, rfl, Channel.push_of_receiving hg _⟩
      · next h₁ h₂ h₃ =>
        have hnone : Notice.died? x = none := by
          unfold Notice.died?
          split
          · exact (h₃ _ _ _ rfl).elim
          · rfl
        exact ⟨rfl, rfl, rfl, by simp [hnone]⟩
    obtain ⟨hd, ht, hw, hsig⟩ := hstep
    obtain ⟨hd', ht', hw', hsig'⟩ := ih (s := publish time s x) (by rw [hsig]; exact hg)
    refine ⟨hd'.trans hd, ht'.trans ht, hw'.trans hw, ?_⟩
    rw [List.foldl_cons, hsig', hsig]
    cases hx : Notice.died? x <;> simp [hx]

section Carrying

variable (hw : s.Wired)

include hw

theorem carrying_of_enlist {found : Except LabError DeviceData}
    (h : s.enlist found = some (s', ns)) : Carrying s (.enlist found) ns s' := by
  obtain ⟨c, rest, hitems, ⟨d, rfl, rfl, rfl⟩ | ⟨e, rfl, rfl, rfl⟩⟩ := hw.enlist_cases h
  · exact .hire hitems
  · exact .miss hitems

omit hw in
theorem carrying_of_takeCoordinate (h : s.takeCoordinate = some (s', ns)) :
    Carrying s .takeCoordinate ns s' := by
  rw [takeCoordinate] at h
  split at h
  case isFalse => cases h
  case isTrue hcan =>
  have hwatching : s.watcher = .watching := by
    rw [Bool.and_eq_true] at hcan
    exact of_decide_eq_true hcan.1
  split at h
  · next c rest hitems =>
    obtain ⟨rfl, rfl⟩ := Prod.mk.inj (Option.some.inj h)
    exact .take hwatching hitems
  · next hitems =>
    split at h
    · cases h
    · next hsending =>
      obtain ⟨rfl, rfl⟩ := Prod.mk.inj (Option.some.inj h)
      exact .leave hitems (by simpa using hsending)

omit hw in
theorem carrying_of_deliver (hd : s.devices.receiving = true) (h : s.deliver = some (s', ns)) :
    Carrying s .deliver ns s' := by
  rw [Session.deliver] at h
  split at h
  case h_2 => cases h
  case h_1 c hwatcher =>
  rw [hd, Bool.not_true, if_neg Bool.false_ne_true] at h
  split at h
  · obtain ⟨rfl, rfl⟩ := Prod.mk.inj (Option.some.inj h)
    exact .pass hwatcher
  · cases h

theorem carrying_of_heed (h : s.heed = some (s', ns)) : Carrying s .heed ns s' := by
  rw [Session.heed] at h
  split at h
  case isFalse => cases h
  case isTrue hwatching =>
  split at h
  · next c rest hitems =>
    simp only at h
    split at h
    · obtain ⟨rfl, rfl⟩ := Prod.mk.inj (Option.some.inj h)
      exact .heed hwatching hitems rfl
    · obtain ⟨rfl, rfl⟩ := Prod.mk.inj (Option.some.inj h)
      exact .heed (w := s.watcher) hwatching hitems (by rw [hwatching]; rfl)
  · rw [if_pos hw.signals_sending] at h
    cases h

omit hw in
theorem carrying_of_removed (h : s.removed = some (s', ns)) : Carrying s .removed ns s' := by
  rw [Session.removed.eq_def] at h
  split at h
  case h_2 => cases h
  case h_1 name hwatcher =>
  obtain ⟨rfl, rfl⟩ := Prod.mk.inj (Option.some.inj h)
  exact .removed hwatcher

theorem carrying_of_answer {n : Nat} {time : UInt64} {reply : Reply}
    (hg : s.signals.receiving = true)
    (hfresh : ∀ w, s.crew[n]? = some w → w.stage ≠ .ended → w.returned = none)
    (h : s.answer n time reply = some (s', ns)) : Carrying s (.answer n time reply) ns s' := by
  simp only [Session.answer, Option.bind_eq_bind, Option.bind_eq_some_iff] at h
  obtain ⟨x, hx, ⟨w, more⟩, hr, h⟩ := h
  obtain ⟨rfl, rfl⟩ := Prod.mk.inj (Option.some.inj h)
  have hcrew : s.crew[n]? = some x.worker := by rw [crew_getElem?, hx, Option.map_some]
  have hnone := hfresh _ hcrew (Worker.stage_ne_ended_of_resume hr)
  obtain ⟨hd, ht, hwatcher, hsignals⟩ := foldl_publish_coordinates hg time more
  have hintake : (more.foldl (publish time) s).intake = true := by
    obtain ⟨signals, -, hfold⟩ := foldl_publish hw.results_receiving time more
    rw [hfold]
    exact hw.intake
  have hset : (more.foldl (publish time) s).setWorker n w =
      { more.foldl (publish time) s with
        workers := (more.foldl (publish time) s).workers.modify n fun h ↦
          { h with worker := w } } := by
    rw [setWorker, hush_of_intake]
    exact hintake
  refine .answer hcrew ?_ (Worker.resumed_of_resume hr).device_eq (by rw [Worker.lost?, hnone]; rfl)
    ?_ ?_ ?_ ?_
  · rw [setWorker_crew, foldl_publish_crew]
  · rw [hset]
    exact hd
  · rw [hset, ← died_of_resumed hr hnone]
    exact hsignals
  · rw [hset]
    exact ht
  · rw [hset]
    exact hwatcher

/-- **What a move does to coordinates** in a session at work (`Carrying`). -/
theorem carrying_of_step (hd : s.devices.receiving = true) (hg : s.signals.receiving = true)
    (hfresh : ∀ (n : Nat) (w : Worker), s.crew[n]? = some w → w.stage ≠ .ended → w.returned = none)
    (h : s.step m = some (s', ns)) (hs : s'.stage = .collecting) : Carrying s m ns s' := by
  cases m with
  | enlist found => exact carrying_of_enlist hw h
  | takeCoordinate => exact carrying_of_takeCoordinate h
  | deliver => exact carrying_of_deliver hd h
  | heed => exact carrying_of_heed hw h
  | removed => exact carrying_of_removed h
  | answer n time reply => exact carrying_of_answer hw hg (hfresh n) h
  | seek n =>
    cases hw.working_of_step h hs with
    | errand hm => cases hm
    | await => exact .apart rfl rfl rfl rfl rfl rfl rfl rfl
    | @deliver _ x _ i queue hx =>
      have hcrew : s.crew[n]? = some x.worker := by rw [crew_getElem?, hx, Option.map_some]
      have hset := map_modify_worker s.workers n (x.worker.receive (some i)).1
      refine .apart rfl rfl rfl rfl rfl rfl ?_ ?_
      · exact (congrArg (List.map _) hset).trans (map_set_of_key hcrew rfl)
      · refine (congrArg (List.filterMap _) hset).trans ?_
        have hlost : (s.crew.set n (x.worker.receive (some i)).1).map Worker.lost? =
            s.crew.map Worker.lost? := map_set_of_key hcrew rfl
        have hvalues := congrArg (List.filterMap id) hlost
        rw [List.filterMap_map, List.filterMap_map, Function.id_comp] at hvalues
        exact hvalues
  | _ =>
    cases hw.working_of_step h hs with
    | errand hm => cases hm
    | _ => exact .apart rfl rfl rfl rfl rfl rfl rfl rfl

end Carrying

end Session

end DeviceLab
