import DeviceLab.Proofs.Listing.Serials
import DeviceLab.Local

/-!
# The course of a claim for attached devices

The devices of a `Host` are what the bridge lists, what it says about each of them, and whether each
boots in time. No serial is listed twice (`Host.nodup_online`), so a claim asks about no device
twice, and all of that may be told in advance. The course of a claim is then given by the host:
`Assigning` lets the job step with the answers of the host (`Host.answer?`).

`Acts` says once what each turn of a job does; `exists_acts` says that a job that is not over takes
such a turn, and `acts_of_step` that it takes no other. Later proofs go by the cases of `Acts`.
-/

namespace DeviceLab

/-! ### Hosts -/

/-- What a device and a reservation have to agree on, the API level and the model. -/
def DeviceData.group (d : DeviceData) : UInt32 × String :=
  (d.api, d.model)

/-- The level and the model that a reservation asks for. -/
def Reservation.group (r : Reservation) : UInt32 × String :=
  (r.device.api, r.device.model)

namespace Local

/-- The devices of a host: what the bridge lists, what it says about each of them, and which boot in
time. -/
structure Host where
  listing : Except LabError String
  resolve : Coordinate → Except LabError DeviceData
  boots : Coordinate → Bool

namespace Host

variable (host : Host)

/-- The entries of the listing, if it can be had and read. -/
def entries : Except LabError (List Listing.Entry) :=
  host.listing.bind Listing.parse

/-- The devices that are listed online, in order. -/
def online : List Coordinate :=
  match host.entries with
  | .ok entries => (entries.filter (·.online)).map fun e ↦ .attached e.serial.value
  | .error _ => []

/-- Whether a device is one of a group. -/
def isOf (g : UInt32 × String) (c : Coordinate) : Bool :=
  match host.resolve c with
  | .ok d => d.group = g
  | .error _ => false

/-- Whether a device can be used: the bridge resolves it, and it boots (`Host`). -/
def usable (c : Coordinate) : Bool :=
  (host.resolve c).isOk && host.boots c

/-- What the `Host` answers to a job whose coordinates somebody takes. -/
def answer? (j : Job) : Option Job.Move :=
  match j.stage with
  | .listing => some (.listed host.listing)
  | .looking c _ => some (.looked (host.resolve c))
  | .booting c _ _ => some (.booted (host.boots c) true)
  | .ended => none

theorem nodup_online : host.online.Nodup := by
  rw [online]
  split
  · next entries h =>
    rw [Host.entries] at h
    cases hl : host.listing with
    | error e => rw [hl] at h; cases h
    | ok output =>
      rw [hl] at h
      have hvalues := (Listing.proper_of_parse h).nodup_values
      have hsub : ((entries.filter (·.online)).map (·.serial.value)).Nodup :=
        hvalues.sublist (List.filter_sublist.map _)
      rw [← Function.comp_def Coordinate.attached, ← List.map_map]
      exact hsub.map fun a b hab ↦ Coordinate.attached.inj hab
  · exact List.nodup_nil

end Host

namespace Job

/-! ### Turns -/

/-- A turn of a job: the job before it, and what was let out. -/
structure Turn where
  before : Job
  output : Output

/-- The device that is given to a reservation in a turn. -/
def Turn.given (t : Turn) : Option (Nat × Coordinate) :=
  match t.before.stage, t.output.handedOut with
  | .booting _ slot _, some c => some (slot, c)
  | _, _ => none

/-- The job of a claim went through so many turns on a host, with the answers of that host
(`Host.answer?`). -/
inductive Assigning (host : Host) (rs : List Reservation) : List Turn → Job → Prop
  | start : Assigning host rs [] (start rs)
  | turn {h : List Turn} {j j' : Job} {m : Move} {o : Output} (ha : Assigning host rs h j)
      (hm : host.answer? j = some m) (hs : j.step m = some (j', o)) :
      Assigning host rs (h ++ [⟨j, o⟩]) j'

/-- The coordinates that were handed out, in order. -/
def emitted (h : List Turn) : List Coordinate :=
  h.filterMap (·.output.handedOut)

/-- The devices that were given to reservations, in order (`Turn.given`), each with the place of its
reservation. -/
def given (h : List Turn) : List (Nat × Coordinate) :=
  h.filterMap Turn.given

/-- What was reported, in order. -/
def notices (h : List Turn) : List Notice :=
  h.flatMap (·.output.notices)

/-! ### What a turn does -/

/-- What a job waits for next, with these entries ahead (`Stage`). -/
def upcoming : List Listing.Entry → Stage
  | [] => .ended
  | e :: rest => .looking (.attached e.serial.value) rest

/-- What is reported (`shortfall`) when the job goes on to these entries. -/
def closing (slots : List (Reservation × UInt32)) : List Listing.Entry → List Notice
  | [] => shortfall slots
  | _ :: _ => []

theorem next_eq (j : Job) (o : Output) (rest : List Listing.Entry) :
    j.next o rest = ({ j with stage := upcoming rest },
      { o with notices := o.notices ++ closing j.slots rest }) := by
  cases rest with
  | nil => rfl
  | cons e rest => rw [closing, List.append_nil]; rfl

/-- A turn of a job on a host, with what comes of it. -/
inductive Acts (host : Host) (j : Job) : Output → Job → Prop
  /-- The devices are listed. -/
  | listed {es : List Listing.Entry} (hstage : j.stage = .listing) (hes : host.entries = .ok es) :
      Acts host j ⟨closing j.slots (es.filter (·.online)), none⟩
        { j with stage := upcoming (es.filter (·.online)) }
  /-- The devices cannot be listed, or the listing cannot be read. -/
  | failed {e : LabError} (hstage : j.stage = .listing) (hes : host.entries = .error e) :
      Acts host j ⟨[.warn ("Local reservation failed: " ++ e.message)], none⟩
        { j with stage := .ended }
  /-- The bridge does not resolve a device. -/
  | missed {c : Coordinate} {rest : List Listing.Entry} {e : LabError}
      (hstage : j.stage = .looking c rest) (hd : host.resolve c = .error e) :
      Acts host j
        ⟨[.warn ("Can't address local device " ++ c.text ++ ": " ++ e.message)] ++
          closing j.slots rest, none⟩
        { j with stage := upcoming rest }
  /-- No reservation for its group lacks a device. -/
  | unwanted {c : Coordinate} {rest : List Listing.Entry} {d : DeviceData}
      (hstage : j.stage = .looking c rest) (hd : host.resolve c = .ok d)
      (hslot : slotFor d j.slots = none) :
      Acts host j ⟨closing j.slots rest, none⟩ { j with stage := upcoming rest }
  /-- A device is meant for a reservation. -/
  | meant {c : Coordinate} {rest : List Listing.Entry} {d : DeviceData} {slot : Nat}
      (hstage : j.stage = .looking c rest) (hd : host.resolve c = .ok d)
      (hslot : slotFor d j.slots = some slot) :
      Acts host j {} { j with stage := .booting c slot rest }
  /-- A device does not boot. -/
  | dead {c : Coordinate} {slot : Nat} {rest : List Listing.Entry}
      (hstage : j.stage = .booting c slot rest) (hboots : host.boots c = false) :
      Acts host j
        ⟨[.warn ("Local device " ++ c.text ++ " did not boot, skipping")] ++
          closing j.slots rest, none⟩
        { j with stage := upcoming rest }
  /-- A device is given to the reservation that it was meant for. -/
  | given {c : Coordinate} {slot : Nat} {rest : List Listing.Entry}
      (hstage : j.stage = .booting c slot rest) (hboots : host.boots c = true) :
      Acts host j ⟨closing (j.fill slot).slots rest, some c⟩
        { j.fill slot with stage := upcoming rest }

variable {host : Host} {j j' : Job} {m : Move} {o : Output}

/-- **A job that is not over goes on**, and this is what it does (`Acts`). -/
theorem exists_acts (host : Host) (hj : j.isOver = false) :
    ∃ m o j', host.answer? j = some m ∧ j.step m = some (j', o) ∧ Acts host j o j' := by
  cases hstage : j.stage with
  | ended => simp [isOver, hstage] at hj
  | listing =>
    have hm : host.answer? j = some (.listed host.listing) := by rw [Host.answer?, hstage]
    cases hes : host.entries with
    | ok es =>
      refine ⟨_, _, _, hm, ?_, .listed hstage hes⟩
      rw [Host.entries] at hes
      simp [step, Job.listed, hstage, hes, next_eq]
    | error e =>
      refine ⟨_, _, _, hm, ?_, .failed hstage hes⟩
      rw [Host.entries] at hes
      simp [step, Job.listed, hstage, hes, fail]
  | looking c rest =>
    have hm : host.answer? j = some (.looked (host.resolve c)) := by rw [Host.answer?, hstage]
    cases hd : host.resolve c with
    | error e =>
      rw [hd] at hm
      refine ⟨_, _, _, hm, ?_, .missed hstage hd⟩
      simp [step, Job.looked, hstage, next_eq]
    | ok d =>
      rw [hd] at hm
      cases hslot : slotFor d j.slots with
      | none =>
        refine ⟨_, _, _, hm, ?_, .unwanted hstage hd hslot⟩
        simp [step, Job.looked, hstage, hslot, next_eq]
      | some slot =>
        refine ⟨_, _, _, hm, ?_, .meant hstage hd hslot⟩
        simp [step, Job.looked, hstage, hslot]
  | booting c slot rest =>
    have hm : host.answer? j = some (.booted (host.boots c) true) := by rw [Host.answer?, hstage]
    cases hboots : host.boots c with
    | false =>
      rw [hboots] at hm
      refine ⟨_, _, _, hm, ?_, .dead hstage hboots⟩
      simp [step, Job.booted, hstage, next_eq]
    | true =>
      rw [hboots] at hm
      refine ⟨_, _, _, hm, ?_, .given hstage hboots⟩
      simp [step, Job.booted, hstage, next_eq]

/-- **What a turn of a job on a host does.** -/
theorem acts_of_step (hm : host.answer? j = some m) (hs : j.step m = some (j', o)) :
    Acts host j o j' := by
  have hj : j.isOver = false := by
    cases hstage : j.stage with
    | ended =>
      rw [Host.answer?, hstage] at hm
      cases hm
    | _ => rw [isOver, hstage]
  obtain ⟨m', o', j'', hm', hs', ha⟩ := exists_acts host hj
  obtain rfl := Option.some.inj (hm.symm.trans hm')
  obtain ⟨rfl, rfl⟩ := Prod.mk.inj (Option.some.inj (hs.symm.trans hs'))
  exact ha

end Job

end Local

end DeviceLab
