import Mathlib.Algebra.BigOperators.Group.List.Basic
import DeviceLab.Proofs.Distinct
import DeviceLab.Proofs.Local.Course

/-!
# Which attached devices a claim hands out

Of the devices that are listed online and can be used, a claim hands out the first ones of each
group, as many as its reservations ask for (`Exact`).

The reservations are the `Ledger` of that. Each is out of as many devices as it was given, and is
given none while an earlier one for the same group lacks some (`Ledger.fill`); a device that does
not boot is entered nowhere. So what the reservations for a group lack together, which is reported
in the end (`Ledger.shortfall_eq`), is what they ask for without what was handed out
(`Ledger.sum_unfilled`).

`Standing` is the invariant that has both. `Standing.acts` goes by the cases of `Acts`: a device is
passed over (`Standing.pass`) or given away (`Standing.give`), and the job goes on to the next one
or ends (`Standing.go_on`). `Assigning.assigned` reads off it what a claim owes (`Assigned`).
-/

namespace DeviceLab.Local.Job

variable {host : Host} {j j' : Job} {o : Output}

/-- How many devices of a group the reservations ask for. -/
def wanted (g : UInt32 × String) (rs : List Reservation) : Nat :=
  (rs.map fun r ↦ if r.group = g then r.count.toNat else 0).sum

/-- How many devices of a group the reservations still lack. -/
def lacking (g : UInt32 × String) (slots : List (Reservation × UInt32)) : Nat :=
  (slots.map fun s ↦ if s.1.group = g then s.2.toNat else 0).sum

/-! ### The first of a group -/

/-- Of the devices that were seen, those that can be used (`Host.usable`) were given away, in order,
the first ones of each group and as many as are asked for. -/
structure Exact (host : Host) (rs : List Reservation) (seen out : List Coordinate) : Prop where
  in_order : out.Sublist (seen.filter host.usable)
  first : ∀ g, out.filter (host.isOf g) =
    ((seen.filter host.usable).filter (host.isOf g)).take (wanted g rs)

section Exact

variable {rs : List Reservation} {seen out : List Coordinate} {c : Coordinate} {d : DeviceData}

theorem isOf_of_resolve (hd : host.resolve c = .ok d) (g : UInt32 × String) :
    host.isOf g c = true ↔ d.group = g := by
  rw [Host.isOf, hd]
  exact decide_eq_true_iff

/-- A device that cannot be used is passed over. -/
theorem Exact.pass (he : Exact host rs seen out) (hc : host.usable c = false) :
    Exact host rs (seen ++ [c]) out := by
  have hseen : (seen ++ [c]).filter host.usable = seen.filter host.usable :=
    filter_concat_of_neg seen (by simp [hc])
  exact ⟨by rw [hseen]; exact he.in_order, by rw [hseen]; exact he.first⟩

/-- A device is passed over when there are enough of its group. -/
theorem Exact.enough (he : Exact host rs seen out) (hd : host.resolve c = .ok d)
    (hg : wanted d.group rs ≤ (out.filter (host.isOf d.group)).length) :
    Exact host rs (seen ++ [c]) out := by
  cases hc : host.usable c with
  | false => exact he.pass hc
  | true =>
    have hseen := filter_concat_of_pos seen hc
    constructor
    · rw [hseen]
      exact he.in_order.trans (List.sublist_append_left ..)
    · intro g
      rw [hseen, he.first]
      by_cases hgroup : d.group = g
      · -- The devices that were seen before are all that are asked for.
        rw [he.first, List.length_take, hgroup] at hg
        rw [List.filter_append, List.take_append_of_le_length (by omega)]
      · rw [filter_concat_of_neg _ fun h ↦ hgroup ((isOf_of_resolve hd g).1 h)]

/-- A device that can be used is given away when its group lacks one. -/
theorem Exact.give (he : Exact host rs seen out) (hd : host.resolve c = .ok d)
    (hc : host.usable c = true)
    (hg : (out.filter (host.isOf d.group)).length < wanted d.group rs) :
    Exact host rs (seen ++ [c]) (out ++ [c]) := by
  have hseen := filter_concat_of_pos seen hc
  constructor
  · rw [hseen]
    exact he.in_order.append (.refl _)
  · intro g
    rw [hseen]
    by_cases hgroup : d.group = g
    · -- All devices of the group that were seen before are given away.
      rw [he.first, List.length_take, hgroup] at hg
      have hof := (isOf_of_resolve hd g).2 hgroup
      rw [filter_concat_of_pos _ hof, filter_concat_of_pos _ hof, he.first,
        List.take_of_length_le (by omega), List.take_of_length_le]
      rw [List.length_append, List.length_singleton]
      omega
    · have hof := fun h ↦ hgroup ((isOf_of_resolve hd g).1 h)
      rw [filter_concat_of_neg _ hof, filter_concat_of_neg _ hof, he.first]

end Exact

/-! ### The ledger of the reservations -/

section Slots

variable {d : DeviceData} {slots : List (Reservation × UInt32)} {slot : Nat}

theorem fits_iff (s : Reservation × UInt32) :
    (0 < s.2 && s.1.device.api = d.api && s.1.device.model = d.model) = true ↔
      0 < s.2 ∧ s.1.group = d.group := by
  simp [Reservation.group, DeviceData.group, and_assoc]

/-- A device is meant for the first reservation for its group that lacks one. -/
theorem slotFor_eq_some (h : slotFor d slots = some slot) :
    ∃ r n, slots[slot]? = some (r, n) ∧ 0 < n ∧ r.group = d.group ∧
      ∀ i < slot, ∀ q k, slots[i]? = some (q, k) → q.group = d.group → k = 0 := by
  obtain ⟨hlt, hfits, hearlier⟩ := List.findIdx?_eq_some_iff_getElem.1 h
  obtain ⟨hpos, hgroup⟩ := (fits_iff _).1 hfits
  refine ⟨_, _, List.getElem?_eq_getElem hlt, hpos, hgroup, fun i hi q k hq hqgroup ↦ ?_⟩
  obtain ⟨hilt, hget⟩ := List.getElem?_eq_some_iff.1 hq
  have hnot := hearlier i hi
  rw [fits_iff, hget] at hnot
  by_contra hk
  exact hnot ⟨UInt32.pos_iff_ne_zero.2 hk, hqgroup⟩

/-- A device is meant for no reservation if those for its group lack none. -/
theorem lacking_of_slotFor_eq_none (h : slotFor d slots = none) : lacking d.group slots = 0 := by
  refine List.sum_eq_zero fun n hn ↦ ?_
  obtain ⟨s, hs, rfl⟩ := List.mem_map.1 hn
  have hnot := List.findIdx?_eq_none_iff.1 h s hs
  rw [Bool.eq_false_iff, ne_eq, fits_iff] at hnot
  split
  · next hgroup =>
    by_contra hpos
    exact hnot ⟨UInt32.pos_iff_ne_zero.2 fun h0 ↦ hpos (by rw [h0]; rfl), hgroup⟩
  · rfl

theorem toNat_pred {n : UInt32} (hn : 0 < n) : (n - 1).toNat + 1 = n.toNat := by
  have hone : 1 ≤ n.toNat := UInt32.lt_iff_toNat_lt.1 hn
  have hle : 1 ≤ n := UInt32.le_iff_toNat_le.2 hone
  rw [UInt32.toNat_sub_of_le _ _ hle]
  exact Nat.sub_add_cancel hone

/-- A reservation that is given a device lacks one less. -/
theorem lacking_modify {r : Reservation} {n : UInt32} (hs : slots[slot]? = some (r, n)) (hn : 0 < n)
    (g : UInt32 × String) :
    lacking g (slots.modify slot fun s ↦ (s.1, s.2 - 1)) + (if r.group = g then 1 else 0) =
      lacking g slots := by
  have hsum := sum_map_modify (w := fun s : Reservation × UInt32 ↦
    if s.1.group = g then s.2.toNat else 0) (h := fun s ↦ (s.1, s.2 - 1)) hs
  have hpred := toNat_pred hn
  dsimp only at hsum
  rw [lacking, lacking]
  split
  · next hg =>
    rw [if_pos hg, if_pos hg] at hsum
    omega
  · next hg =>
    rw [if_neg hg, if_neg hg] at hsum
    omega

end Slots

/-- The reservations with what each still lacks, after devices were `given` to them. -/
structure Ledger (host : Host) (rs : List Reservation) (slots : List (Reservation × UInt32))
    (gifts : List (Nat × Coordinate)) : Prop where
  reservations : slots.map (·.1) = rs
  /-- Each is out of as many devices as it was given. -/
  left : ∀ (i : Nat) (r : Reservation) (n : UInt32), slots[i]? = some (r, n) →
    n.toNat + (valuesOf i gifts).length = r.count.toNat
  /-- Each is given devices of its group only. -/
  suited : ∀ x ∈ gifts, ∃ r, rs[x.1]? = some r ∧ host.isOf r.group x.2 = true
  /-- None is given a device while an earlier one for its group lacks one. -/
  in_turn : ∀ (i k : Nat) (r q : Reservation), i < k → rs[i]? = some r → rs[k]? = some q →
    r.group = q.group → valuesOf k gifts ≠ [] → (valuesOf i gifts).length = r.count.toNat
  /-- What the reservations for a group lack is what they ask for without what they were given. -/
  lacks : ∀ g, lacking g slots + ((gifts.map (·.2)).filter (host.isOf g)).length = wanted g rs

section Ledger

variable {rs : List Reservation} {slots : List (Reservation × UInt32)}
  {gifts : List (Nat × Coordinate)} {c : Coordinate} {d : DeviceData} {slot : Nat}

theorem ledger_start (host : Host) (rs : List Reservation) :
    Ledger host rs (start rs).slots [] where
  reservations := List.map_map.trans (List.map_id rs)
  left i r n hs := by
    obtain ⟨r', -, heq⟩ := Option.map_eq_some_iff.1 (List.getElem?_map.symm.trans hs)
    obtain ⟨rfl, rfl⟩ := Prod.mk.inj heq
    rfl
  suited := List.forall_mem_nil _
  in_turn _ _ _ _ _ _ _ _ hgiven := absurd rfl hgiven
  lacks g := by
    rw [start, lacking, List.map_map]
    rfl

theorem Ledger.getElem?_of_slot (hl : Ledger host rs slots gifts) {r : Reservation} {n : UInt32}
    (hs : slots[slot]? = some (r, n)) : rs[slot]? = some r := by
  rw [← hl.reservations, List.getElem?_map, hs]
  rfl

theorem Ledger.exists_slot (hl : Ledger host rs slots gifts) {i : Nat} {r : Reservation}
    (hr : rs[i]? = some r) : ∃ n, slots[i]? = some (r, n) := by
  rw [← hl.reservations, List.getElem?_map] at hr
  obtain ⟨⟨r', n⟩, hs, rfl⟩ := Option.map_eq_some_iff.1 hr
  exact ⟨n, hs⟩

section Fill

variable {r : Reservation} {n : UInt32}

/-- A device that is given to a reservation is entered for it, and for no other. -/
theorem Ledger.left_fill (hl : Ledger host rs slots gifts) (hs : slots[slot]? = some (r, n))
    (hn : 0 < n) {i : Nat} {q : Reservation} {k : UInt32}
    (hq : (slots.modify slot fun s ↦ (s.1, s.2 - 1))[i]? = some (q, k)) :
    k.toNat + (valuesOf i (gifts ++ [(slot, c)])).length = q.count.toNat := by
  obtain ⟨⟨q', k'⟩, hq', heq⟩ := Option.map_eq_some_iff.1 ((List.getElem?_modify ..).symm.trans hq)
  by_cases hi : slot = i
  · subst hi
    obtain ⟨rfl, rfl⟩ := Prod.mk.inj (Option.some.inj (hs.symm.trans hq'))
    rw [if_pos rfl] at heq
    obtain ⟨rfl, rfl⟩ : r = q ∧ n - 1 = k := Prod.mk.inj heq
    have hleft := hl.left slot r n hs
    have hpred := toNat_pred hn
    rw [valuesOf_concat_self, List.length_append, List.length_singleton]
    omega
  · rw [if_neg hi] at heq
    rw [valuesOf_concat_of_ne hi]
    exact hl.left i q k (heq ▸ hq')

/-- The earlier reservations for the group of a device are full when it is given away. -/
theorem Ledger.in_turn_fill (hl : Ledger host rs slots gifts) (hslot : slotFor d slots = some slot)
    {i k : Nat} {q q' : Reservation} (hik : i < k) (hq : rs[i]? = some q) (hq' : rs[k]? = some q')
    (hsame : q.group = q'.group) (hgiven : valuesOf k (gifts ++ [(slot, c)]) ≠ []) :
    (valuesOf i (gifts ++ [(slot, c)])).length = q.count.toNat := by
  obtain ⟨r, n, hs, hn, hgroup, hearlier⟩ := slotFor_eq_some hslot
  have hr := hl.getElem?_of_slot hs
  by_cases hk : slot = k
  · subst hk
    obtain rfl := Option.some.inj (hr.symm.trans hq')
    obtain ⟨m, hm⟩ := hl.exists_slot hq
    have hleft := hl.left i q m hm
    rw [hearlier i hik q m hm (hsame.trans hgroup)] at hleft
    rw [valuesOf_concat_of_ne (Nat.ne_of_lt hik).symm]
    exact (Nat.zero_add _).symm.trans hleft
  · rw [valuesOf_concat_of_ne hk] at hgiven
    have hfull := hl.in_turn i k q q' hik hq hq' hsame hgiven
    -- The reservation that the device is meant for is not full.
    have hi : slot ≠ i := by
      rintro rfl
      obtain rfl := Option.some.inj (hr.symm.trans hq)
      have hleft := hl.left slot r n hs
      have hpred := toNat_pred hn
      omega
    rwa [valuesOf_concat_of_ne hi]

/-- The reservations for the group of a device lack one less when it is given away. -/
theorem Ledger.lacks_fill (hl : Ledger host rs slots gifts) (hs : slots[slot]? = some (r, n))
    (hn : 0 < n) (hd : host.resolve c = .ok d) (hgroup : r.group = d.group) (g : UInt32 × String) :
    lacking g (slots.modify slot fun s ↦ (s.1, s.2 - 1)) +
      (((gifts ++ [(slot, c)]).map (·.2)).filter (host.isOf g)).length = wanted g rs := by
  have hlacks := hl.lacks g
  have hless := lacking_modify hs hn g
  rw [List.map_append, List.map_singleton]
  by_cases hg : r.group = g
  · have hof := (isOf_of_resolve hd g).2 (hgroup.symm.trans hg)
    rw [if_pos hg] at hless
    rw [filter_concat_of_pos _ hof, List.length_append, List.length_singleton]
    omega
  · have hof := fun h ↦ hg (hgroup.trans ((isOf_of_resolve hd g).1 h))
    rw [if_neg hg] at hless
    rw [filter_concat_of_neg _ hof]
    omega

end Fill

/-- **A device that is given away is entered for the reservation that it was meant for**
(`slotFor`). -/
theorem Ledger.fill (hl : Ledger host rs slots gifts) (hd : host.resolve c = .ok d)
    (hslot : slotFor d slots = some slot) :
    Ledger host rs (slots.modify slot fun s ↦ (s.1, s.2 - 1)) (gifts ++ [(slot, c)]) := by
  obtain ⟨r, n, hs, hn, hgroup, -⟩ := slotFor_eq_some hslot
  constructor
  case reservations =>
    rw [← hl.reservations]
    exact map_modify_of_key (g := fun s : Reservation × UInt32 ↦ (s.1, s.2 - 1)) (fun _ ↦ rfl) _ _
  case left => exact fun i q k hq ↦ hl.left_fill hs hn hq
  case suited =>
    intro x hx
    rcases List.mem_append.1 hx with hx | hx
    · exact hl.suited x hx
    · rw [List.mem_singleton.1 hx]
      exact ⟨r, hl.getElem?_of_slot hs, (isOf_of_resolve hd _).2 hgroup.symm⟩
  case in_turn =>
    exact fun i k q q' hik hq hq' hsame hgiven ↦ hl.in_turn_fill hslot hik hq hq' hsame hgiven
  case lacks => exact hl.lacks_fill hs hn hd hgroup

/-! ### What is warned about -/

/-- The reservations that lack devices after these were given away, each with how many it lacks. -/
def unfilled (rs : List Reservation) (gifts : List (Nat × Coordinate)) : List (Reservation × Nat) :=
  (rs.zipIdx.map fun x ↦ (x.1, x.1.count.toNat - (valuesOf x.2 gifts).length)).filter (0 < ·.2)

/-- The reservations lack as many devices as they are out of. -/
theorem Ledger.map_toNat_slots (hl : Ledger host rs slots gifts) :
    slots.map (fun s ↦ (s.1, s.2.toNat)) =
      rs.zipIdx.map fun x ↦ (x.1, x.1.count.toNat - (valuesOf x.2 gifts).length) := by
  refine List.ext_getElem? fun i ↦ ?_
  rw [List.getElem?_map, List.getElem?_map, List.getElem?_zipIdx, ← hl.reservations,
    List.getElem?_map]
  cases hs : slots[i]? with
  | none => rfl
  | some s =>
    have hleft := hl.left i s.1 s.2 hs
    simp only [Option.map_some, Nat.zero_add, Option.some.injEq, Prod.mk.injEq, true_and]
    omega

theorem Ledger.shortfall_eq (hl : Ledger host rs slots gifts) :
    shortfall slots = (unfilled rs gifts).map fun w ↦
      .warn (toString w.2 ++ " of " ++ toString w.1.count.toNat ++ " devices for " ++
        w.1.device.name ++ " are not available locally") := by
  rw [unfilled, ← hl.map_toNat_slots, List.filter_map, List.map_map, shortfall]
  rfl

/-- What is warned about sums, for each group, to what the reservations for it lack. -/
theorem Ledger.sum_unfilled (hl : Ledger host rs slots gifts) (g : UInt32 × String) :
    (((unfilled rs gifts).filter (·.1.group = g)).map (·.2)).sum = lacking g slots := by
  rw [unfilled, ← hl.map_toNat_slots, List.filter_comm, sum_map_filter_pos, List.filter_map,
    List.map_map, lacking, List.sum_map_ite, List.sum_map_zero, Nat.add_zero]
  rfl

end Ledger

/-! ### The course of a claim -/

/-- The devices that a job still goes through. -/
def ahead (host : Host) : Stage → List Coordinate
  | .listing => host.online
  | .looking c rest => c :: rest.map fun e ↦ .attached e.serial.value
  | .booting c _ rest => c :: rest.map fun e ↦ .attached e.serial.value
  | .ended => []

/-- How many turns a job takes at most. -/
def due (host : Host) : Stage → Nat
  | .listing => 2 * host.online.length + 1
  | .looking _ rest => 2 * rest.length + 2
  | .booting _ _ rest => 2 * rest.length + 1
  | .ended => 0

/-- What is reported of a device that is passed over. -/
inductive Skip (host : Host) : Notice → Prop
  | missed {c : Coordinate} {e : LabError} (hd : host.resolve c = .error e) :
      Skip host (.warn ("Can't address local device " ++ c.text ++ ": " ++ e.message))
  | dead {c : Coordinate} (hc : host.boots c = false) :
      Skip host (.warn ("Local device " ++ c.text ++ " did not boot, skipping"))

/-- What was reported: devices that were passed over, and in the end what the reservations lack. -/
def Reported (host : Host) (h : List Turn) (j : Job) : Prop :=
  ∃ skips, notices h = skips ++ (if j.isOver then shortfall j.slots else []) ∧
    ∀ n ∈ skips, Skip host n

/-- Where the job of a claim stands: its reservations are the `Ledger` of the devices that were
given away, these are the right ones of those that it is done with (`Exact`), and what it said is
`Reported`. -/
structure Standing (host : Host) (rs : List Reservation) (h : List Turn) (j : Job) : Prop where
  ledger : Ledger host rs j.slots (given h)
  all_given : (given h).map (·.2) = emitted h
  course : ∃ seen, host.online = seen ++ ahead host j.stage ∧ Exact host rs seen (emitted h)
  meant : ∀ c slot rest, j.stage = .booting c slot rest →
    ∃ d, host.resolve c = .ok d ∧ slotFor d j.slots = some slot
  reported : ∀ es, host.entries = .ok es → Reported host h j
  due : h.length + due host j.stage ≤ 2 * host.online.length + 1

theorem ahead_upcoming (host : Host) (rest : List Listing.Entry) :
    ahead host (upcoming rest) = rest.map fun e ↦ .attached e.serial.value := by
  cases rest <;> rfl

theorem due_upcoming (host : Host) (rest : List Listing.Entry) :
    Job.due host (upcoming rest) = 2 * rest.length := by
  cases rest <;> rfl

variable {rs : List Reservation} {h : List Turn}

theorem standing_start (host : Host) (rs : List Reservation) : Standing host rs [] (start rs) where
  ledger := ledger_start host rs
  all_given := rfl
  course := ⟨[], rfl, .refl _, fun _ ↦ List.take_nil.symm⟩
  meant _ _ _ hstage := by cases hstage
  reported _ _ := ⟨[], rfl, List.forall_mem_nil _⟩
  due := Nat.le_of_eq (Nat.zero_add _)

theorem given_concat (h : List Turn) (t : Turn) :
    given (h ++ [t]) = given h ++ (Turn.given t).toList :=
  filterMap_concat _ h t

theorem emitted_concat (h : List Turn) (t : Turn) :
    emitted (h ++ [t]) = emitted h ++ t.output.handedOut.toList :=
  filterMap_concat _ h t

theorem notices_concat (h : List Turn) (t : Turn) :
    notices (h ++ [t]) = notices h ++ t.output.notices := by
  rw [notices, List.flatMap_append, List.flatMap_singleton, notices]

/-- A turn of a job that is not over reports some devices that are passed over, and what is lacking
if it is the last. -/
theorem Reported.turn {skips : List Notice} {slots : List (Reservation × UInt32)}
    {rest : List Listing.Entry} {out : Option Coordinate} (hr : Reported host h j)
    (hj : j.isOver = false) (hskips : ∀ n ∈ skips, Skip host n) :
    Reported host (h ++ [⟨j, ⟨skips ++ closing slots rest, out⟩⟩]) ⟨slots, upcoming rest⟩ := by
  obtain ⟨before, hnotices, hbefore⟩ := hr
  rw [hj] at hnotices
  refine ⟨before ++ skips, ?_, fun n hn ↦ ?_⟩
  · rw [notices_concat, hnotices]
    cases rest <;> simp [closing, upcoming, isOver]
  · rcases List.mem_append.1 hn with hn | hn
    · exact hbefore n hn
    · exact hskips n hn

/-- A turn in which no device is given away. -/
theorem Standing.pass {stage : Stage} {ns : List Notice} (hs : Standing host rs h j)
    (hcourse : ∃ seen, host.online = seen ++ ahead host stage ∧ Exact host rs seen (emitted h))
    (hmeant : ∀ c slot rest, stage = .booting c slot rest →
      ∃ d, host.resolve c = .ok d ∧ slotFor d j.slots = some slot)
    (hreported : ∀ es, host.entries = .ok es →
      Reported host (h ++ [⟨j, ⟨ns, none⟩⟩]) { j with stage })
    (hdue : Job.due host stage < Job.due host j.stage) :
    Standing host rs (h ++ [⟨j, ⟨ns, none⟩⟩]) { j with stage } := by
  have hgiven : given (h ++ [⟨j, ⟨ns, none⟩⟩]) = given h := by
    have hnone : Turn.given ⟨j, ⟨ns, none⟩⟩ = none := by
      rw [Turn.given]
      split
      · next heq => cases heq
      · rfl
    rw [given_concat, hnone, Option.toList_none, List.append_nil]
  have hemitted : emitted (h ++ [⟨j, ⟨ns, none⟩⟩]) = emitted h := by
    rw [emitted_concat]
    exact List.append_nil _
  have hle := hs.due
  exact
    { ledger := by rw [hgiven]; exact hs.ledger
      all_given := by rw [hgiven, hemitted]; exact hs.all_given
      course := by rw [hemitted]; exact hcourse
      meant := hmeant
      reported := hreported
      due := by
        rw [List.length_append, List.length_singleton]
        show h.length + 1 + Job.due host stage ≤ _
        omega }

/-- A turn in which the job goes on to the next device, or ends. -/
theorem Standing.go_on {c : Coordinate} {rest : List Listing.Entry} {skips : List Notice}
    (hs : Standing host rs h j) (hj : j.isOver = false)
    (hahead : ahead host j.stage = c :: rest.map fun e ↦ .attached e.serial.value)
    (hpass : ∀ seen, Exact host rs seen (emitted h) → Exact host rs (seen ++ [c]) (emitted h))
    (hskips : ∀ n ∈ skips, Skip host n) (hdue : 2 * rest.length < Job.due host j.stage) :
    Standing host rs (h ++ [⟨j, ⟨skips ++ closing j.slots rest, none⟩⟩])
      { j with stage := upcoming rest } := by
  obtain ⟨seen, honline, hexact⟩ := hs.course
  refine hs.pass ⟨seen ++ [c], ?_, hpass seen hexact⟩ ?_
    (fun es hes ↦ (hs.reported es hes).turn hj hskips) (by rwa [due_upcoming])
  · rw [ahead_upcoming, honline, hahead, List.append_assoc]
    rfl
  · intro c' slot rest' hstage
    cases rest <;> cases hstage

/-- A turn in which a device is given away. -/
theorem Standing.give {c : Coordinate} {slot : Nat} {rest : List Listing.Entry}
    (hs : Standing host rs h j) (hstage : j.stage = .booting c slot rest)
    (hboots : host.boots c = true) :
    Standing host rs (h ++ [⟨j, ⟨closing (j.fill slot).slots rest, some c⟩⟩])
      { j.fill slot with stage := upcoming rest } := by
  obtain ⟨d, hd, hslot⟩ := hs.meant c slot rest hstage
  obtain ⟨seen, honline, hexact⟩ := hs.course
  rw [hstage] at honline
  have hgiven : given (h ++ [⟨j, ⟨closing (j.fill slot).slots rest, some c⟩⟩]) =
      given h ++ [(slot, c)] := by
    rw [given_concat, Turn.given, hstage]
    rfl
  have hemitted : emitted (h ++ [⟨j, ⟨closing (j.fill slot).slots rest, some c⟩⟩]) =
      emitted h ++ [c] :=
    emitted_concat ..
  have husable : host.usable c = true := by
    rw [Host.usable, hd, hboots]
    rfl
  -- The reservation that the device was meant for lacks one.
  have hlacks : ((emitted h).filter (host.isOf d.group)).length < wanted d.group rs := by
    obtain ⟨r, n, hr, hn, hgroup, -⟩ := slotFor_eq_some hslot
    have hsum := hs.ledger.lacks d.group
    have hless := lacking_modify hr hn d.group
    rw [if_pos hgroup] at hless
    rw [hs.all_given] at hsum
    omega
  have hle := hs.due
  rw [hstage] at hle
  exact
    { ledger := by rw [hgiven]; exact hs.ledger.fill hd hslot
      all_given := by rw [hgiven, hemitted, List.map_append, hs.all_given]; rfl
      course := by
        refine ⟨seen ++ [c], ?_, ?_⟩
        · rw [ahead_upcoming, honline, List.append_assoc]
          rfl
        · rw [hemitted]
          exact hexact.give hd husable hlacks
      meant := by
        intro c' slot' rest' hstage'
        cases rest <;> cases hstage'
      reported := fun es hes ↦
        (hs.reported es hes).turn (by rw [isOver, hstage]) (List.forall_mem_nil _)
      due := by
        rw [due_upcoming, List.length_append, List.length_singleton]
        rw [Job.due] at hle
        omega }

/-- **Every turn of a job leaves it where it should stand** (`Standing`), one case of `Acts` after
the other. -/
theorem Standing.acts (hs : Standing host rs h j) (ha : Acts host j o j') :
    Standing host rs (h ++ [⟨j, o⟩]) j' := by
  cases ha with
  | @listed es hstage hes =>
    obtain ⟨seen, honline, hexact⟩ := hs.course
    rw [hstage, ahead] at honline
    have hlisted : host.online =
        (es.filter (·.online)).map fun e ↦ .attached e.serial.value := by
      rw [Host.online, hes]
    have hj : j.isOver = false := by rw [isOver, hstage]
    refine hs.pass ⟨seen, ?_, hexact⟩ ?_
      (fun es hes ↦ (hs.reported es hes).turn hj (List.forall_mem_nil _)) ?_
    · rwa [ahead_upcoming, ← hlisted]
    · intro c slot rest hnext
      cases hfilter : es.filter (·.online) with
      | nil => rw [hfilter] at hnext; cases hnext
      | cons => rw [hfilter] at hnext; cases hnext
    · rw [due_upcoming, hstage, Job.due, hlisted, List.length_map]
      exact Nat.lt_succ_self _
  | @failed e hstage hes =>
    obtain ⟨seen, honline, hexact⟩ := hs.course
    have hnone : host.online = [] := by rw [Host.online, hes]
    rw [hstage, ahead, hnone] at honline
    refine hs.pass ⟨seen, by rw [hnone]; exact honline, hexact⟩ (fun _ _ _ hnext ↦ by cases hnext)
      (fun es hok ↦ ?_) ?_
    · rw [hes] at hok
      cases hok
    · rw [hstage]
      exact Nat.succ_pos _
  | @missed c rest e hstage hd =>
    have husable : host.usable c = false := by
      rw [Host.usable, hd]
      rfl
    refine hs.go_on (by rw [isOver, hstage]) (by rw [hstage]; rfl)
      (fun _ he ↦ he.pass husable) ?_ ?_
    · exact fun n hn ↦ by rw [List.mem_singleton.1 hn]; exact .missed hd
    · rw [hstage, Job.due]
      omega
  | @unwanted c rest d hstage hd hslot =>
    have henough : wanted d.group rs ≤ ((emitted h).filter (host.isOf d.group)).length := by
      have hsum := hs.ledger.lacks d.group
      rw [lacking_of_slotFor_eq_none hslot, hs.all_given, Nat.zero_add] at hsum
      exact Nat.le_of_eq hsum.symm
    refine hs.go_on (by rw [isOver, hstage]) (by rw [hstage]; rfl) (fun _ he ↦ he.enough hd henough)
      (List.forall_mem_nil _) ?_
    rw [hstage, Job.due]
    omega
  | @meant c rest d slot hstage hd hslot =>
    obtain ⟨seen, honline, hexact⟩ := hs.course
    rw [hstage] at honline
    refine hs.pass ⟨seen, honline, hexact⟩ ?_ (fun es hes ↦ ?_) ?_
    · intro c' slot' rest' hnext
      obtain ⟨rfl, rfl, rfl⟩ := Stage.booting.inj hnext
      exact ⟨d, hd, hslot⟩
    · obtain ⟨skips, hnotices, hskips⟩ := hs.reported es hes
      refine ⟨skips, ?_, hskips⟩
      rw [isOver, hstage] at hnotices
      rw [notices_concat, hnotices]
      exact List.append_nil _
    · rw [hstage]
      exact Nat.lt_succ_self _
  | @dead c slot rest hstage hboots =>
    have husable : host.usable c = false := by rw [Host.usable, hboots, Bool.and_false]
    refine hs.go_on (by rw [isOver, hstage]) (by rw [hstage]; rfl)
      (fun _ he ↦ he.pass husable) ?_ ?_
    · exact fun n hn ↦ by rw [List.mem_singleton.1 hn]; exact .dead hboots
    · rw [hstage, Job.due]
      omega
  | @given c slot rest hstage hboots => exact hs.give hstage hboots

theorem Assigning.standing (ha : Assigning host rs h j) : Standing host rs h j := by
  induction ha with
  | start => exact standing_start host rs
  | turn ha hm hs ih => exact ih.acts (acts_of_step hm hs)

/-- What a claim owes to the reservations, as far as it has come. -/
structure Assigned (host : Host) (rs : List Reservation) (h : List Turn) (j : Job) : Prop where
  /-- Devices that are listed online and can be used are handed out, in the order of the listing. -/
  in_order : (emitted h).Sublist (host.online.filter host.usable)
  /-- No device is handed out twice. -/
  nodup : (emitted h).Nodup
  /-- In the end these are, of each group, the first ones, as many as the reservations ask for. -/
  first : j.isOver = true → ∀ g, (emitted h).filter (host.isOf g) =
    ((host.online.filter host.usable).filter (host.isOf g)).take (wanted g rs)
  /-- Each device that is handed out is given to one reservation. -/
  all_given : (given h).map (·.2) = emitted h
  /-- The reservations keep account of the devices that are given to them. -/
  ledger : Ledger host rs j.slots (given h)
  /-- Unless there is no listing, the last reports are of what each reservation lacks, and before
  that only devices that are passed over are reported. -/
  shortfall : j.isOver = true → ∀ es, host.entries = .ok es → ∃ skips,
    notices h = skips ++ Job.shortfall j.slots ∧ ∀ n ∈ skips, Skip host n
  /-- Warned about is each reservation that was given fewer devices than it asks for, with how many
  it lacks. -/
  warned : Job.shortfall j.slots = (unfilled rs (given h)).map fun w ↦
    .warn (toString w.2 ++ " of " ++ toString w.1.count.toNat ++ " devices for " ++
      w.1.device.name ++ " are not available locally")
  /-- For each group this sums to what is asked for without what was handed out. -/
  warned_sum : ∀ g, (((unfilled rs (given h)).filter (·.1.group = g)).map (·.2)).sum +
    ((emitted h).filter (host.isOf g)).length = wanted g rs
  /-- The job goes on until it is over, whatever the devices are. -/
  goes_on : j.isOver = false → ∃ m o j', host.answer? j = some m ∧ j.step m = some (j', o)
  /-- It does not go on for ever. -/
  ends : h.length ≤ 2 * host.online.length + 1

/-- **A claim hands out the first devices of each group, as many as its reservations ask for**, and
its reservations are filled one after the other (`Assigned`). -/
theorem Assigning.assigned (ha : Assigning host rs h j) : Assigned host rs h j := by
  have hs := ha.standing
  obtain ⟨seen, honline, hexact⟩ := hs.course
  have hseen : seen.Sublist host.online := by
    rw [honline]
    exact List.sublist_append_left ..
  have hsub := hexact.in_order.trans (hseen.filter _)
  exact
    { in_order := hsub
      nodup := host.nodup_online.sublist (hsub.trans List.filter_sublist)
      first := by
        intro hj
        have hahead : ahead host j.stage = [] := by
          rw [isOver] at hj
          cases hstage : j.stage with
          | ended => rfl
          | _ => rw [hstage] at hj; cases hj
        rw [hahead, List.append_nil] at honline
        rw [honline]
        exact hexact.first
      all_given := hs.all_given
      ledger := hs.ledger
      shortfall := by
        intro hj es hes
        obtain ⟨skips, hnotices, hskips⟩ := hs.reported es hes
        exact ⟨skips, by rw [hnotices, if_pos hj], hskips⟩
      warned := hs.ledger.shortfall_eq
      warned_sum := by
        intro g
        rw [hs.ledger.sum_unfilled, ← hs.all_given]
        exact hs.ledger.lacks g
      goes_on := by
        intro hj
        obtain ⟨m, o, j', hm, hstep, -⟩ := exists_acts host hj
        exact ⟨m, o, j', hm, hstep⟩
      ends := Nat.le_trans (Nat.le_add_right ..) hs.due }

/-- Five devices are online; one of them does not boot, and one is of another model. -/
def sampleHost : Host where
  listing := .ok "a device\nb device\nc offline\nd device\ne device\nf device"
  resolve c := .ok ⟨c, if c = .attached "d" then "nexus" else "pixel", 29⟩
  boots c := c ≠ .attached "b"

/-- Two reservations ask for the same, and the last one for more than there is. -/
def sampleReservations : List Reservation :=
  [⟨1, ⟨"first", 29, "pixel", none⟩⟩, ⟨1, ⟨"second", 29, "pixel", none⟩⟩,
    ⟨2, ⟨"nexus", 29, "nexus", none⟩⟩]

theorem assigned_of_overlap :
    ∃ h j, Assigning sampleHost sampleReservations h j ∧ j.isOver = true ∧
      Assigned sampleHost sampleReservations h j ∧
      given h = [(0, .attached "a"), (2, .attached "d"), (1, .attached "e")] ∧
      notices h = [.warn "Local device b did not boot, skipping",
        .warn "1 of 2 devices for nexus are not available locally"] := by
  have hstart : Assigning sampleHost sampleReservations [] _ := .start
  have hlisted := hstart.turn rfl rfl
  have hfirst := (hlisted.turn rfl rfl).turn rfl rfl
  have hdead := (hfirst.turn rfl rfl).turn rfl rfl
  have hnexus := (hdead.turn rfl rfl).turn rfl rfl
  have hsecond := (hnexus.turn rfl rfl).turn rfl rfl
  have hunwanted := hsecond.turn rfl rfl
  exact ⟨_, _, hunwanted, rfl, hunwanted.assigned, rfl, rfl⟩

end DeviceLab.Local.Job
