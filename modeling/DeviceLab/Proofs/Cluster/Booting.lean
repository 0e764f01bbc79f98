import DeviceLab.Proofs.Cluster.History
import DeviceLab.Proofs.Text

/-!
# Which pods are booted, and what becomes of a boot

A claim starts one boot for each name of which the consumer took a pod that runs and has an address,
with the address of the first such pod, however often and in whatever shape pods of that name are
listed before and after. That is `History.booting` (`Booting`), and `FirstAddress` says it of a
single boot in terms of the pods that were delivered.

A boot gets one answer after the other. `Boot.Stage.Told` says for everything that it may wait for
which answers it has had: it is over either with its coordinate handed out and the pod left alone,
or with the pod deleted, after the device was disconnected if it was found (`Boot.GivenUp`). That is
`History.told`.

`History.boots_once` puts these together with `History.delivering`, by which the pods that were
delivered are those that were listed, and with `History.emitted_perm`, by which what was handed out
is the coordinates of the boots that came to it. That a boot is never forgotten or started over is
`History.started_mono`. Every one of them goes by the cases of `Stepped`.
-/

namespace DeviceLab.Cluster

/-! ### The pods that are booted -/

/-- The coordinate for a name by the pods that were taken: the first that can be booted decides. -/
def chosen? (port : UInt16) (pods : List Pod) (name : String) : Option Coordinate :=
  (pods.findSome? (address? name)).map (coordinate port name)

theorem chosen?_append_singleton (port : UInt16) (pods : List Pod) (p : Pod) (name : String) :
    chosen? port (pods ++ [p]) name =
      (chosen? port pods name).or ((address? name p).map (coordinate port name)) := by
  rw [chosen?, chosen?, List.findSome?_append, List.findSome?_singleton]
  cases pods.findSome? (address? name) <;> rfl

/-- Of the pods that were taken, the first one of a name that runs and has an address has this
address. -/
def FirstAddress (pods : List Pod) (name ip : String) : Prop :=
  ∃ before p after, pods = before ++ p :: after ∧ p.name = name ∧ p.phase = .running ∧
    p.ip = some ip ∧ ∀ q ∈ before, q.name = name → q.phase = .running → q.ip = none

theorem firstAddress_of_findSome? {pods : List Pod} {name ip : String}
    (h : pods.findSome? (address? name) = some ip) : FirstAddress pods name ip := by
  obtain ⟨before, p, after, hpods, hp, hbefore⟩ := List.findSome?_eq_some_iff.1 h
  by_cases hfits : p.name = name ∧ p.phase = .running
  · rw [address?, if_pos hfits] at hp
    refine ⟨before, p, after, hpods, hfits.1, hfits.2, hp, fun q hq hname hrunning ↦ ?_⟩
    have hnone := hbefore q hq
    rwa [address?, if_pos ⟨hname, hrunning⟩] at hnone
  · rw [address?, if_neg hfits] at hp
    cases hp

/-- A coordinate in a cluster is the address of the pod, a colon and the port. -/
theorem coordinate_eq (port : UInt16) (pod ip : String) :
    coordinate port pod ip = .hosted (ip ++ ":" ++ toString port.toNat) pod := by
  rw [coordinate, Serial.value_ofHost]

namespace Claim

variable {c c' : Claim} {m : Move} {out : Output} {h : List Turn}

/-- The boots that a claim has started: the names of their pods, with their coordinates. -/
def started (c : Claim) : List (String × Coordinate) :=
  c.boots.map fun b ↦ (b.pod, b.coordinate)

theorem setBoot_started (n : Nat) (stage : Boot.Stage) :
    (c.setBoot n stage).started = c.started :=
  map_modify_of_key (f := fun b : Boot ↦ (b.pod, b.coordinate)) (g := fun b ↦ { b with stage })
    (fun _ ↦ rfl) c.boots n

/-- For each name one boot is started with what the pods that were taken decide (`chosen?`), and
none if there is nothing to decide. -/
structure Booting (port : UInt16) (pods : List Pod) (c : Claim) : Prop where
  config : c.config.remoteBridgePort = port
  seen : c.seen = (c.started.map (·.1)).reverse
  distinct : c.seen.Nodup
  started : ∀ name, valuesOf name c.started = (chosen? port pods name).toList

namespace Booting

variable {port : UInt16} {pods : List Pod}

/-- The names that were seen are those for which there is something to decide. -/
theorem mem_seen (hb : Booting port pods c) (name : String) :
    name ∈ c.seen ↔ chosen? port pods name ≠ none := by
  rw [hb.seen, List.mem_reverse, List.mem_map, Option.ne_none_iff_exists']
  constructor
  · rintro ⟨⟨_, at_⟩, hmem, rfl⟩
    have hvalue := mem_valuesOf.2 hmem
    rw [hb.started] at hvalue
    exact ⟨at_, by simpa using hvalue⟩
  · rintro ⟨at_, hchosen⟩
    exact ⟨(name, at_),
      mem_valuesOf.1 (by rw [hb.started, hchosen]; exact List.mem_singleton_self _), rfl⟩

/-- A pod that decides nothing new. -/
theorem skip (hb : Booting port pods c) {p : Pod}
    (hp : p.name ∈ c.seen ∨ address? p.name p = none) : Booting port (pods ++ [p]) c := by
  refine ⟨hb.config, hb.seen, hb.distinct, fun name ↦ ?_⟩
  rw [hb.started, chosen?_append_singleton]
  by_cases hname : p.name = name
  · subst hname
    rcases hp with hseen | hnone
    · obtain ⟨at_, hat⟩ := Option.ne_none_iff_exists'.1 ((hb.mem_seen _).1 hseen)
      rw [hat, Option.some_or]
    · rw [hnone, Option.map_none, Option.or_none]
  · rw [address?, if_neg fun h ↦ hname h.1, Option.map_none, Option.or_none]

/-- A pod that is the first of its name that can be booted. -/
theorem boot (hb : Booting port pods c) {p : Pod} {ip : String} (hnew : p.name ∉ c.seen)
    (ha : address? p.name p = some ip) : Booting port (pods ++ [p]) (c.boot p.name ip) := by
  have hstarted : (c.boot p.name ip).started =
      c.started ++ [coordinate port p.name ip].map (p.name, ·) := by
    rw [← hb.config]
    exact List.map_append
  refine ⟨hb.config, ?_, List.nodup_cons.2 ⟨hnew, hb.distinct⟩, fun name ↦ ?_⟩
  · rw [hstarted, List.map_append, List.reverse_append, ← hb.seen]
    rfl
  · rw [hstarted, valuesOf_append, hb.started, chosen?_append_singleton]
    by_cases hname : p.name = name
    · subst hname
      have hnone : chosen? port pods p.name = none :=
        Decidable.of_not_not fun hne ↦ hnew ((hb.mem_seen _).2 hne)
      rw [valuesOf_map_self, hnone, ha]
      rfl
    · rw [valuesOf_map_of_ne hname, List.append_nil, address?, if_neg fun h ↦ hname h.1,
        Option.map_none, Option.or_none]

/-- A turn in which the consumer takes no pod and no boot is started. -/
theorem idle (hb : Booting port (delivered h) c) {t : Turn} (ht : t.delivered = [])
    (hconfig : c'.config = c.config) (hseen : c'.seen = c.seen)
    (hstarted : c'.started = c.started) :
    Booting port (delivered (h ++ [t])) c' := by
  rw [delivered_append_singleton, ht, List.append_nil]
  exact ⟨by rw [hconfig, hb.config], by rw [hseen, hstarted, hb.seen],
    by rw [hseen]; exact hb.distinct,
    by rw [hstarted]; exact hb.started⟩

theorem step (hb : Booting port (delivered h) c) (hs : Stepped c m c' out) :
    Booting port (delivered (h ++ [⟨c, m, out⟩])) c' := by
  have hrest : Booting port (delivered h) { c with pods := c.pods.rest } :=
    ⟨hb.config, hb.seen, hb.distinct, hb.started⟩
  cases hs with
  | turned hl hlive hold hm => exact hb.idle (Turn.delivered_of_ne hm) rfl rfl rfl
  | passed hm | deserted hm =>
    subst hm
    exact hb.idle rfl rfl rfl rfl
  | @skipped p rest notices hm hc hp hskip =>
    subst hm
    have hdelivered : Turn.delivered ⟨c, .consume, { notices }⟩ = [p] := by
      simp [Turn.delivered, hp]
    rw [delivered_append_singleton, hdelivered]
    exact hrest.skip hskip
  | @started p rest ip hm hc hp hnew ha =>
    subst hm
    have hdelivered : Turn.delivered ⟨c, .consume, {}⟩ = [p] := by simp [Turn.delivered, hp]
    rw [delivered_append_singleton, hdelivered]
    exact hrest.boot hnew ha
  | closed hm hc hp =>
    subst hm
    exact hb.idle (by simp [Turn.delivered, hp]) rfl rfl rfl
  | answered hm =>
    exact hb.idle (Turn.still_of_deed (t := ⟨c, m, out⟩) hm).1 rfl rfl (setBoot_started _ _)

theorem nodup_pods (hb : Booting port pods c) : (c.boots.map (·.pod)).Nodup := by
  have hdistinct := hb.distinct
  rw [hb.seen, List.nodup_reverse, Claim.started, List.map_map] at hdistinct
  exact hdistinct

/-- A boot is at the first address of its pod. -/
theorem firstAddress (hb : Booting port pods c) {b : Boot} (hmem : b ∈ c.boots) :
    ∃ ip, FirstAddress pods b.pod ip ∧
      b.coordinate = .hosted (ip ++ ":" ++ toString port.toNat) b.pod := by
  have hstarted : (b.pod, b.coordinate) ∈ c.started := List.mem_map.2 ⟨b, hmem, rfl⟩
  have hvalue := mem_valuesOf.2 hstarted
  rw [hb.started, Option.mem_toList, chosen?, Option.map_eq_some_iff] at hvalue
  obtain ⟨ip, hip, heq⟩ := hvalue
  exact ⟨ip, firstAddress_of_findSome? hip, by rw [← heq, coordinate_eq]⟩

/-- A boot is of the pod that hosts its device. -/
theorem resource? (hb : Booting port pods c) {b : Boot} (hmem : b ∈ c.boots) :
    b.coordinate.resource? = some b.pod := by
  obtain ⟨ip, -, heq⟩ := hb.firstAddress hmem
  rw [heq, Coordinate.resource?]

theorem nodup_resources (hb : Booting port pods c) :
    (c.boots.map (·.coordinate.resource?)).Nodup := by
  have hpods := hb.nodup_pods.map fun _ _ ↦ Option.some.inj
  rw [List.map_map] at hpods
  rw [List.map_congr_left fun b hmem ↦ hb.resource? hmem]
  exact hpods

theorem nodup_coordinates (hb : Booting port pods c) : (c.boots.map (·.coordinate)).Nodup :=
  List.Nodup.of_map Coordinate.resource? (by rw [List.map_map]; exact hb.nodup_resources)

end Booting

/-- **Which pods are booted** (`Booting`), in every state of a claim. -/
theorem History.booting {config : Config} {deployments : List Deployment}
    (hh : History (.start config deployments) h c) :
    Booting config.remoteBridgePort (delivered h) c := by
  induction hh with
  | start => exact ⟨rfl, rfl, List.nodup_nil, fun _ ↦ rfl⟩
  | turn m hh hs ih => exact ih.step (stepped_of_step hs)

end Claim

/-! ### What a boot was told -/

namespace Boot

/-- The answers after which a pod is given up: its device was not found, or was not ready in time
and is disconnected. -/
def GivenUp (ds : List Deed) : Prop :=
  ds = [.looked false] ∨ ds = [.looked true, .booted false, .disconnected true]

/-- The answers that a boot has had, by what it waits for. -/
def Stage.Told : Stage → List Deed → Prop
  | .looking, ds => ds = []
  | .booting, ds => ds = [.looked true]
  | .redirecting, ds => ds = [.looked true, .booted true]
  | .disconnecting, ds => ds = [.looked true, .booted false]
  | .deleting, ds => GivenUp ds
  | .ended true, ds => ds = [.looked true, .booted true, .redirected]
  | .ended false, ds => ∃ before, GivenUp before ∧ ds = before ++ [.deleted]
  | .crashed, ds => ds = [.looked true, .booted false, .disconnected false]

theorem Next.told {s s' : Stage} {d : Deed} {ds : List Deed} (hn : Next s d s') (ht : s.Told ds) :
    s'.Told (ds ++ [d]) := by
  cases hn with
  | missing =>
    rw [show ds = [] from ht]
    exact .inl rfl
  | disconnected =>
    rw [show ds = [.looked true, .booted false] from ht]
    exact .inr rfl
  | deleted => exact ⟨ds, ht, rfl⟩
  | found | ready | late | handedOut | crashed => exact congrArg (· ++ [_]) ht

theorem Next.isHandedOut_eq_false {s s' : Stage} {d : Deed} (hn : Next s d s') :
    s.isHandedOut = false := by
  cases hn <;> rfl

/-- The answers that may come next. -/
def Stage.awaits : Stage → Deed → Bool
  | .looking, .looked _ => true
  | .booting, .booted _ => true
  | .redirecting, .redirected => true
  | .disconnecting, .disconnected _ => true
  | .deleting, .deleted => true
  | _, _ => false

/-- A boot that is not over waits for an answer, and will get no more than four. -/
theorem awaits_of_live {b : Boot} {ds : List Deed} (ht : b.stage.Told ds)
    (hlive : b.isOver = false) :
    ds.length < 4 ∧ ∃ d, b.stage.awaits d = true := by
  obtain ⟨pod, coordinate, stage⟩ := b
  cases stage with
  | looking => exact ⟨by rw [show ds = [] from ht]; decide, .looked true, rfl⟩
  | booting => exact ⟨by rw [show ds = _ from ht]; decide, .booted true, rfl⟩
  | redirecting => exact ⟨by rw [show ds = _ from ht]; decide, .redirected, rfl⟩
  | disconnecting => exact ⟨by rw [show ds = _ from ht]; decide, .disconnected true, rfl⟩
  | deleting => exact ⟨by rcases ht with rfl | rfl <;> decide, .deleted, rfl⟩
  | ended | crashed => cases hlive

end Boot

namespace Claim

variable {c c' : Claim} {m : Move} {out : Output} {h : List Turn}

/-- What the boot with a number waits for; one that is not there yet will begin by looking. -/
def stageOf (c : Claim) (n : Nat) : Boot.Stage :=
  (c.boots[n]?.map (·.stage)).getD .looking

theorem stageOf_of_some {n : Nat} {b : Boot} (hb : c.boots[n]? = some b) :
    c.stageOf n = b.stage := by
  rw [stageOf, hb, Option.map_some, Option.getD_some]

theorem stageOf_setBoot {n : Nat} {b : Boot} (hb : c.boots[n]? = some b) (stage : Boot.Stage)
    (k : Nat) : (c.setBoot n stage).stageOf k = if n = k then stage else c.stageOf k := by
  rw [stageOf, setBoot, List.getElem?_modify]
  by_cases hk : n = k
  · subst hk
    rw [hb, if_pos rfl]
    simp
  · rw [if_neg hk, stageOf]
    simp [hk]

/-- A boot that is started is where one that is not there yet begins. -/
theorem stageOf_boot (pod ip : String) (n : Nat) : (c.boot pod ip).stageOf n = c.stageOf n := by
  rw [stageOf, stageOf, boot, List.getElem?_append]
  split
  · rfl
  · next hn =>
    rw [List.getElem?_eq_none (Nat.le_of_not_lt hn), List.getElem?_singleton]
    split <;> rfl

/-- A turn in which no boot gets an answer. -/
theorem told_idle (ht : ∀ n, (c.stageOf n).Told (valuesOf n (deeds h))) {t : Turn}
    (hm : t.move.deed? = none) (hstage : ∀ n, c'.stageOf n = c.stageOf n) (n : Nat) :
    (c'.stageOf n).Told (valuesOf n (deeds (h ++ [t]))) := by
  rw [hstage, deeds_append_singleton, Turn.deeds, hm, Option.toList_none, List.append_nil]
  exact ht n

theorem told_step (ht : ∀ n, (c.stageOf n).Told (valuesOf n (deeds h))) (hs : Stepped c m c' out)
    (k : Nat) : (c'.stageOf k).Told (valuesOf k (deeds (h ++ [⟨c, m, out⟩]))) := by
  cases hs with
  | turned hl hlive hold hm hp hlisted hdeed => exact told_idle ht hdeed (fun _ ↦ rfl) k
  | passed hm | deserted hm | skipped hm | closed hm =>
    subst hm
    exact told_idle ht rfl (fun _ ↦ rfl) k
  | @started p rest ip hm =>
    subst hm
    exact told_idle (t := ⟨c, .consume, {}⟩) ht rfl
      (stageOf_boot (c := { c with pods := c.pods.rest }) p.name ip) k
  | @answered n b deed stage out hm hb hn =>
    have hdeeds : Turn.deeds ⟨c, m, out⟩ = [deed].map (n, ·) := by rw [Turn.deeds, hm]; rfl
    rw [deeds_append_singleton, valuesOf_append, stageOf_setBoot hb, hdeeds]
    by_cases hk : n = k
    · subst hk
      have htold := ht n
      rw [stageOf_of_some hb] at htold
      rw [if_pos rfl, valuesOf_map_self]
      exact hn.told htold
    · rw [if_neg hk, valuesOf_map_of_ne hk, List.append_nil]
      exact ht k

/-- **What a boot was told** (`Boot.Stage.Told`), in every state of a claim. -/
theorem History.told {config : Config} {deployments : List Deployment}
    (hh : History (.start config deployments) h c) (n : Nat) :
    (c.stageOf n).Told (valuesOf n (deeds h)) := by
  induction hh generalizing n with
  | start => exact rfl
  | turn m hh hs ih => exact told_step ih (stepped_of_step hs) n

/-- An answer reaches a boot exactly if the boot waits for it. -/
theorem isSome_step_eq_awaits {n : Nat} {b : Boot} {d : Boot.Deed} (hm : m.deed? = some (n, d))
    (hb : c.boots[n]? = some b) : (c.step m).isSome = b.stage.awaits d := by
  obtain ⟨pod, coordinate, stage⟩ := b
  cases m with
  | created | listed | wake | expire | pass | consume => cases hm
  | looked k reply =>
    cases reply <;> obtain ⟨rfl, rfl⟩ := Prod.mk.inj (Option.some.inj hm) <;>
      rw [step, looked, hb] <;> cases stage <;> rfl
  | booted k ready =>
    obtain ⟨rfl, rfl⟩ := Prod.mk.inj (Option.some.inj hm)
    rw [step, booted, hb]
    cases ready <;> cases stage <;> rfl
  | redirected k reply =>
    obtain ⟨rfl, rfl⟩ := Prod.mk.inj (Option.some.inj hm)
    rw [step, redirected, hb]
    cases stage <;> rfl
  | disconnected k answer =>
    cases answer <;> obtain ⟨rfl, rfl⟩ := Prod.mk.inj (Option.some.inj hm) <;>
      rw [step, disconnected, hb] <;> cases stage <;> rfl
  | deleted k reply =>
    obtain ⟨rfl, rfl⟩ := Prod.mk.inj (Option.some.inj hm)
    rw [step, deleted, hb]
    cases stage <;> rfl

/-! ### What is handed out -/

/-- The coordinates of the boots that came to hand them out. -/
def handedOut (c : Claim) : List Coordinate :=
  (c.boots.filter (·.stage.isHandedOut)).map (·.coordinate)

theorem handedOut_setBoot {n : Nat} {b : Boot} (hb : c.boots[n]? = some b)
    (hopen : b.stage.isHandedOut = false) (stage : Boot.Stage) :
    (c.setBoot n stage).handedOut.Perm
      (c.handedOut ++ if stage.isHandedOut = true then [b.coordinate] else []) := by
  obtain ⟨before, b₀, after, hboots, rfl, hmodify⟩ :=
    List.exists_of_modify (fun b ↦ { b with stage }) (List.getElem?_eq_some_iff.1 hb).1
  have hb₀ : b₀ = b := by
    rw [hboots, List.getElem?_append_right (Nat.le_refl _), Nat.sub_self] at hb
    exact Option.some.inj hb
  subst hb₀
  have hold : (b₀ :: after).filter (·.stage.isHandedOut) = after.filter (·.stage.isHandedOut) :=
    List.filter_cons_of_neg (by rw [hopen]; exact Bool.false_ne_true)
  rw [handedOut, setBoot, hmodify, handedOut, hboots, List.filter_append, List.filter_append,
    List.map_append, List.map_append, hold, List.filter_cons]
  split
  · exact List.perm_middle.trans (List.perm_append_singleton _ _).symm
  · rw [List.append_nil]

theorem handedOut_boot (pod ip : String) : (c.boot pod ip).handedOut = c.handedOut := by
  rw [handedOut, boot, List.filter_append, List.map_append]
  exact List.append_nil _

theorem emitted_step (he : (emitted h).Perm c.handedOut) (hs : Stepped c m c' out) :
    (emitted (h ++ [⟨c, m, out⟩])).Perm c'.handedOut := by
  rw [emitted_append_singleton, Turn.emitted]
  cases hs with
  | turned hl hlive hold hm hp hlisted hdeed hout =>
    rw [hout, Option.toList_none, List.append_nil]
    exact he
  | passed | deserted | skipped | closed =>
    rw [Option.toList_none, List.append_nil]
    exact he
  | started =>
    rw [Option.toList_none, List.append_nil, handedOut_boot]
    exact he
  | @answered n b deed stage out hm hb hn hout =>
    have hmore :
      out.handedOut.toList = if stage.isHandedOut = true then [b.coordinate] else [] := by
      rw [hout]
      split <;> rfl
    rw [hmore]
    exact (he.append_right _).trans (handedOut_setBoot hb hn.isHandedOut_eq_false stage).symm

/-- **What is handed out** (`emitted`), in every state of a claim. -/
theorem History.emitted_perm {config : Config} {deployments : List Deployment}
    (hh : History (.start config deployments) h c) : (emitted h).Perm c.handedOut := by
  induction hh with
  | start => exact List.Perm.nil
  | turn m hh hs ih => exact emitted_step ih (stepped_of_step hs)

theorem Booting.count_handedOut {port : UInt16} {pods : List Pod} (hb : Booting port pods c)
    {b : Boot} (hmem : b ∈ c.boots) :
    c.handedOut.count b.coordinate = if b.stage.isHandedOut = true then 1 else 0 := by
  have hnodup : c.handedOut.Nodup :=
    hb.nodup_coordinates.sublist (List.filter_sublist.map _)
  split
  · next hout =>
    exact List.count_eq_one_of_mem hnodup
      (List.mem_map.2 ⟨b, List.mem_filter.2 ⟨hmem, hout⟩, rfl⟩)
  · next hin =>
    -- a boot with the same coordinate is the same boot, and this one hands nothing out
    rw [List.count_eq_zero, handedOut, List.mem_map]
    rintro ⟨b', hmem', heq⟩
    obtain ⟨hmem', hout⟩ := List.mem_filter.1 hmem'
    rw [List.inj_on_of_nodup_map hb.nodup_coordinates hmem' hmem heq] at hout
    exact hin hout

/-! ### Boots are never forgotten -/

theorem Stepped.started_mono (hs : Stepped c m c' out) : c.started <+: c'.started := by
  cases hs with
  | turned | passed | deserted | skipped | closed => exact List.prefix_refl _
  | started => exact List.IsPrefix.map _ (List.prefix_append _ _)
  | answered => exact (setBoot_started _ _).symm ▸ List.prefix_refl _

/-- What was started stays started, and later boots come after it. -/
theorem History.started_mono (hh : History c h c') : c.started <+: c'.started := by
  induction hh with
  | start => exact List.prefix_refl _
  | turn m hh hs ih => exact ih.trans (stepped_of_step hs).started_mono

/-! ### The theorem -/

/-- What a boot that is over was told, if no device panicked over it: it handed its coordinate out
and left the pod alone, or it deleted the pod, after disconnecting the device if it was found. -/
theorem told_of_isOver {b : Boot} {ds : List Boot.Deed} (ht : b.stage.Told ds)
    (hover : b.isOver = true) (hcalm : .disconnected false ∉ ds) :
    b.stage.isHandedOut = true ∧ ds = [.looked true, .booted true, .redirected] ∨
      b.stage.isHandedOut = false ∧ (ds = [.looked false, .deleted] ∨
        ds = [.looked true, .booted false, .disconnected true, .deleted]) := by
  obtain ⟨pod, coordinate, stage⟩ := b
  cases stage with
  | ended handedOut =>
    cases handedOut with
    | true => exact .inl ⟨rfl, ht⟩
    | false =>
      obtain ⟨before, rfl | rfl, rfl⟩ := ht
      · exact .inr ⟨rfl, .inl rfl⟩
      · exact .inr ⟨rfl, .inr rfl⟩
  | crashed =>
    rw [show ds = _ from ht] at hcalm
    simp at hcalm
  | looking | booting | redirecting | disconnecting | deleting => cases hover

/-- **Every pod is booted once, and every boot ends in one of two ways.** Take a claim in any state
that it can come to, whatever the cluster lists, whatever fails, and in whatever order the parts
act.

No pod is lost between a listing and the consumer (`Delivering`). For each name there is one boot if
the consumer took a pod of the name that runs and has an address, and none otherwise; what was
`started` is never forgotten. The coordinate of a boot is the address of the first such pod
(`FirstAddress`), a colon and the configured port, with the name of the pod. A boot gets every
answer that it `awaits` and no other, and is over after at most four. When it is over, and no device
panicked, its coordinate was `emitted` once, after the device was found and ready and the log
reporter asked once, and the pod was left alone; or it was not handed out and the pod was deleted
once, after the device was disconnected once if it was found. No two coordinates that are handed out
name the same resource. -/
theorem History.boots_once {config : Config} {deployments : List Deployment}
    (hh : History (.start config deployments) h c) :
    Delivering h c ∧
      (∀ name, valuesOf name c.started =
        (chosen? config.remoteBridgePort (delivered h) name).toList) ∧
      (∀ more c', History c more c' → c.started <+: c'.started) ∧
      (∀ n b, c.boots[n]? = some b →
        (∃ ip, FirstAddress (delivered h) b.pod ip ∧
          b.coordinate = .hosted (ip ++ ":" ++ toString config.remoteBridgePort.toNat) b.pod) ∧
        (∀ m d, m.deed? = some (n, d) → (c.step m).isSome = b.stage.awaits d) ∧
        b.stage.Told (valuesOf n (deeds h)) ∧
        (b.isOver = false → (valuesOf n (deeds h)).length < 4 ∧ ∃ d, b.stage.awaits d = true) ∧
        (b.isOver = true → .disconnected false ∉ valuesOf n (deeds h) →
          valuesOf n (deeds h) = [.looked true, .booted true, .redirected] ∧
              (emitted h).count b.coordinate = 1 ∨
            (valuesOf n (deeds h) = [.looked false, .deleted] ∨
                valuesOf n (deeds h) =
                  [.looked true, .booted false, .disconnected true, .deleted]) ∧
              b.coordinate ∉ emitted h)) ∧
      (emitted h).Perm c.handedOut ∧ ((emitted h).map (·.resource?)).Nodup := by
  have hbooting := hh.booting
  have hemitted := hh.emitted_perm
  refine ⟨hh.delivering, hbooting.started, fun more c' ↦ History.started_mono, ?_, hemitted, ?_⟩
  · intro n b hb
    have ht := hh.told n
    rw [stageOf_of_some hb] at ht
    have hmem := List.mem_of_getElem? hb
    have hcount := hbooting.count_handedOut hmem
    rw [← hemitted.count_eq] at hcount
    refine ⟨hbooting.firstAddress hmem, fun m d hm ↦ isSome_step_eq_awaits hm hb, ht,
      Boot.awaits_of_live ht, fun hover hcalm ↦ ?_⟩
    rcases told_of_isOver ht hover hcalm with ⟨hout, hds⟩ | ⟨hout, hds⟩
    · rw [hout, if_pos rfl] at hcount
      exact .inl ⟨hds, hcount⟩
    · rw [hout, if_neg Bool.false_ne_true] at hcount
      exact .inr ⟨hds, List.count_eq_zero.1 hcount⟩
  · rw [(hemitted.map _).nodup_iff, handedOut, List.map_map]
    exact hbooting.nodup_resources.sublist (List.filter_sublist.map _)

/-! ### A sample -/

/-- A deployment of two pixels. -/
def sampleDeployment : Deployment :=
  ⟨"lab-1", 2, [], ⟨"api29", 29, "pixel", none⟩⟩

/-- A pod of `sampleDeployment`, by its name, its phase and its address. -/
def samplePod (name : String) (phase : PodPhase) (ip : Option String) : Pod :=
  ⟨name, phase, ip, none, none⟩

/-- A listing whose two pods are passed on and taken. -/
def sampleListing (a b : Pod) : List Move :=
  [.listed 0 (.ok [a, b]), .pass 0, .pass 0, .wake 0, .consume, .consume]

/-- A pod that is pending first, and one that has no address first; both are listed again later, one
of them with another address. -/
def sampleMoves : List Move :=
  [.created 0 (.ok ()), .listed 0 (.error .alreadyReserving), .expire 0] ++
    sampleListing (samplePod "a" .pending none) (samplePod "b" .running none) ++
    sampleListing (samplePod "a" .running (some "10.0.0.1"))
      (samplePod "b" .running (some "10.0.0.2")) ++
    [.looked 1 (.ok ()), .looked 0 (.ok ()), .booted 0 true, .booted 1 false] ++
    sampleListing (samplePod "a" .running (some "10.0.0.3"))
      (samplePod "b" .failed (some "10.0.0.2")) ++
    [.disconnected 1 (.failed .alreadyReserving), .redirected 0 (.ok ()), .deleted 1 (.ok false)]

/-- Of the two pods one is handed out with its first address, and the other is given up. -/
theorem boots_once_of_relisted :
    ∃ (h : List Turn) (c : Claim) (a b : Boot), History (.start {} [sampleDeployment]) h c ∧
      c.boots = [a, b] ∧ a.isOver = true ∧ b.isOver = true ∧
      .disconnected false ∉ valuesOf 0 (deeds h) ∧ .disconnected false ∉ valuesOf 1 (deeds h) ∧
      a.coordinate = .hosted "10.0.0.1:5555" "a" ∧ b.coordinate = .hosted "10.0.0.2:5555" "b" ∧
      (emitted h).count a.coordinate = 1 ∧ b.coordinate ∉ emitted h := by
  have hstart : History (.start {} [sampleDeployment]) [] (.start {} [sampleDeployment]) := .start
  have hrun := hstart.follow sampleMoves rfl
  obtain ⟨-, -, -, hboots, -, -⟩ := hrun.boots_once
  obtain ⟨-, -, -, -, ha⟩ := hboots 0 _ rfl
  obtain ⟨-, -, -, -, hb⟩ := hboots 1 _ rfl
  have ha := ha rfl (by decide)
  have hb := hb rfl (by decide)
  have hat : coordinate 5555 "a" "10.0.0.1" = .hosted "10.0.0.1:5555" "a" := coordinate_eq ..
  have hat' : coordinate 5555 "b" "10.0.0.2" = .hosted "10.0.0.2:5555" "b" := coordinate_eq ..
  refine ⟨_, _, _, _, hrun, rfl, rfl, rfl, by decide, by decide, hat, hat', ?_, ?_⟩
  · rcases ha with ⟨-, hcount⟩ | ⟨hdeeds | hdeeds, -⟩
    · exact hcount
    · cases hdeeds
    · cases hdeeds
  · rcases hb with ⟨hdeeds, -⟩ | ⟨-, hout⟩
    · cases hdeeds
    · exact hout

end Claim

end DeviceLab.Cluster
