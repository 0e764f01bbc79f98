import DeviceLab.Proofs.Json.Form
import DeviceLab.Proofs.Json.Spelling

/-!
# Round trips

Every type with a JSON form has an instance of `FaithfulForm`: what was written is read back. The
plain types come first, with the three of them for which more than a range has to be checked: an
identifier is known from its digits (`Uuid.ofText?_text`), a map from its entries because these
stand in order (`Params.ofList_entries`), and a length of time carries nothing because its
nanoseconds make no second (`Span.carry?_nanos`). What may be absent is written as null if it is, so
that no value that may be absent can be null (`read?_write_option`). Records and variants then
follow one by one, each by `record?_fields`.

`Kind.round_trip` is about all of them at once, as values by their instances and as texts by
`parse_render`.
-/

namespace DeviceLab

/-! ### Maps -/

namespace Params

theorem place_of_forall_lt {k v : String} {es : List (String × String)}
    (h : ∀ e ∈ es, e.1 < k) : place k v es = es ++ [(k, v)] := by
  induction es with
  | nil => rfl
  | cons e es ih =>
    obtain ⟨hhead, htail⟩ := List.forall_mem_cons.1 h
    have hlt : ¬ k < e.1 := fun hk ↦ String.lt_irrefl k (String.lt_trans hk hhead)
    have hne : k ≠ e.1 := by
      rintro rfl
      exact hlt hhead
    rw [place, if_neg hlt, if_neg hne, ih htail, List.cons_append]

/-- Entries that come in order stay in that order. -/
theorem entries_foldl_insert (es : List (String × String)) (ps : Params)
    (h : (ps.entries ++ es).Pairwise fun a b ↦ a.1 < b.1) :
    (es.foldl (fun ps e ↦ ps.insert e.1 e.2) ps).entries = ps.entries ++ es := by
  induction es generalizing ps with
  | nil => exact (List.append_nil _).symm
  | cons e es ih =>
    have hplace : (ps.insert e.1 e.2).entries = ps.entries ++ [e] :=
      place_of_forall_lt fun e' he' ↦ (List.pairwise_append.1 h).2.2 e' he' e List.mem_cons_self
    have happend : ps.entries ++ e :: es = (ps.insert e.1 e.2).entries ++ es := by
      rw [hplace, List.append_assoc, List.singleton_append]
    rw [List.foldl_cons, ih _ (happend ▸ h), happend]

/-- **A map is known from its entries.** -/
theorem ofList_entries (ps : Params) : ofList ps.entries = ps := by
  have hentries : (ofList ps.entries).entries = ps.entries :=
    entries_foldl_insert ps.entries empty ps.sorted
  cases ps
  exact Params.mk.injEq .. ▸ hentries

end Params

/-! ### Lengths of time -/

theorem Span.carry?_nanos (s : Span) : carry? s.seconds s.nanos = some s := by
  have hdiv : s.nanos / 1000000000 = 0 := Nat.div_eq_of_lt s.nanos_lt
  have hmod : s.nanos % 1000000000 = s.nanos := Nat.mod_eq_of_lt s.nanos_lt
  simp [carry?, hdiv, hmod, s.seconds.toNat_lt_size]

namespace Json

/-! ### Plain values -/

instance : FaithfulForm UInt64 where
  read?_write n := by
    show (natBelow? UInt64.size (.nat n.toNat)).map UInt64.ofNat = some n
    rw [natBelow?_nat n.toNat_lt_size, Option.map_some, UInt64.ofNat_toNat]

instance : FaithfulForm Uuid where
  read?_write := Uuid.ofText?_text

instance : FaithfulForm Params where
  read?_write ps := by
    have hentries : (ps.entries.map fun e ↦ (some e.1, write e.2)).mapM entry? =
        some (ps.entries.map id) := mapM_map_eq_some fun _ _ ↦ rfl
    show (((ps.entries.map fun e ↦ (e.1, write e.2)).map fun f ↦ (some f.1, f.2)).mapM
      entry?).map Params.ofList = some ps
    rw [List.map_map, Function.comp_def, hentries, List.map_id, Option.map_some,
      Params.ofList_entries]

instance : FaithfulForm Span where
  read?_write s := by
    have hlt : s.nanos < UInt32.size := Nat.lt_trans s.nanos_lt (by decide)
    have hnanos : need (α := UInt32) (some (.nat s.nanos)) = some (UInt32.ofNat s.nanos) := by
      show (natBelow? UInt32.size (.nat s.nanos)).map UInt32.ofNat = _
      rw [natBelow?_nat hlt, Option.map_some]
    have hrecord : record? ["secs", "nanos"]
        (.object [(some "secs", write s.seconds), (some "nanos", .nat s.nanos)]) =
          some [some (write s.seconds), some (.nat s.nanos)] := by
      simp [record?, valuesOf]
    show read? (.object [(some "secs", write s.seconds), (some "nanos", .nat s.nanos)]) = some s
    simp [read?, hrecord, hnanos, UInt32.toNat_ofNat_of_lt' hlt, Span.carry?_nanos]

/-- What may be absent is read back, unless null is a value. -/
theorem read?_write_option {α : Type} [Form α] [FaithfulForm α] (h : ∀ a : α, write a ≠ .null)
    (o : Option α) : read? (write o) = some o := by
  cases o with
  | none => rfl
  | some a =>
    have hnull : write a ≠ .null := h a
    have hread : read? (write a) = some a := read?_write a
    show read? (write a) = some (some a)
    generalize write a = j at hnull hread
    cases j with
    | null => exact absurd rfl hnull
    | bool | num | text | list | object =>
      show (read? _).map some = some (some a)
      rw [hread, Option.map_some]

instance : FaithfulForm (Option String) where
  read?_write := read?_write_option nofun

/-! ### Devices -/

instance : FaithfulForm Serial where
  read?_write s := by
    cases s with
    | attached v =>
      show read? (tagged "Local" (write v)) = some (Serial.attached v)
      simp [read?, variant?_tagged]
    | remote v =>
      show read? (tagged "Remote" (write v)) = some (Serial.remote v)
      simp [read?, variant?_tagged]

instance : FaithfulForm Coordinate where
  read?_write c := by
    cases c with
    | attached s =>
      show read? (tagged "Local" (fields [("serial", write s)])) = some (Coordinate.attached s)
      simp [read?, variant?_tagged, record?_fields]
    | hosted s r =>
      show read? (tagged "Cluster" (fields [("serial", write s), ("resource_name", write r)])) =
        some (Coordinate.hosted s r)
      simp [read?, variant?_tagged, record?_fields]

instance : FaithfulForm DeviceData where
  read?_write d := by
    show read? (fields [("coordinate", write d.coordinate), ("model", write d.model),
      ("api", write d.api)]) = some d
    simp [read?, record?_fields]

instance : FaithfulForm Installation where
  read?_write i := by
    show read? (fields [("application_path", write i.path),
      ("timestamp_started_ms", write i.started),
      ("timestamp_completed_ms", write i.completed)]) = some i
    simp [read?, record?_fields]

/-! ### Requests and intentions -/

instance : FaithfulForm TestCase where
  read?_write t := by
    show read? (fields [("class_name", write t.className), ("method_name", write t.methodName),
      ("device_name", write t.deviceName)]) = some t
    simp [read?, record?_fields]

theorem optional_write {α : Type} [Form α] [FaithfulForm (Option α)] (o : Option α) :
    optional (some (write o)) = some o :=
  read?_write o

instance : FaithfulForm DeviceProfile where
  read?_write p := by
    show read? (fields [("name", write p.name), ("api", write p.api), ("model", write p.model),
      ("image", write p.image)]) = some p
    simp [read?, record?_fields, optional_write]

instance : FaithfulForm Reservation where
  read?_write r := by
    show read? (fields [("count", write r.count), ("device", write r.device)]) = some r
    simp [read?, record?_fields]

instance : FaithfulForm Application where
  read?_write a := by
    show read? (fields [("path", write a.path), ("package", write a.package)]) = some a
    simp [read?, record?_fields]

instance : FaithfulForm (Option Application) where
  read?_write := read?_write_option nofun

instance : FaithfulForm Request where
  read?_write r := by
    show read? (fields
      [("id", write r.id), ("test_case", write r.testCase), ("target", write r.target),
       ("application", write r.application), ("test_application", write r.testApplication),
       ("instrumentation_params", write r.params), ("max_attempts", write r.maxAttempts),
       ("timeout", write r.timeout)]) = some r
    simp [read?, record?_fields, optional_write]

instance : FaithfulForm TestAction where
  read?_write a := by
    show read? (fields
      [("test", write a.test), ("test_package", write a.testPackage),
       ("target_package", write a.targetPackage), ("instrumentation_params", write a.params),
       ("execution_number", write a.execution), ("timeout", write a.timeout)]) = some a
    simp [read?, record?_fields]

instance : FaithfulForm Intention where
  read?_write i := by
    show read? (fields [("id", write i.id), ("state", write i.state),
      ("action", write i.action)]) = some i
    simp [read?, record?_fields]

/-! ### Runs -/

instance : FaithfulForm Failure where
  read?_write f := by
    cases f with
    | inRun m =>
      show read? (tagged "InRun" (fields [("message", write m)])) = some (Failure.inRun m)
      simp [read?, variant?_tagged, record?_fields]
    | infrastructure m =>
      show read? (tagged "InfrastructureError" (fields [("message", write m)])) =
        some (Failure.infrastructure m)
      simp [read?, variant?_tagged, record?_fields]

instance : FaithfulForm Outcome where
  read?_write o := by
    cases o with
    | passed => rfl
    | ignored => rfl
    | failed why =>
      show read? (tagged "Failed" (write why)) = some (Outcome.failed why)
      simp [read?, variant?_tagged]

instance : FaithfulForm TestRun where
  read?_write r := by
    show read? (fields
      [("test", write r.test), ("result", write r.outcome),
       ("timestamp_started_ms", write r.started),
       ("timestamp_completed_ms", write r.completed)]) = some r
    simp [read?, record?_fields]

instance : FaithfulForm DeviceRun where
  read?_write r := by
    show read? (fields [("test_case_run", write r.run), ("device", write r.device)]) = some r
    simp [read?, record?_fields]

instance : FaithfulForm Report where
  read?_write r := by
    show read? (fields [("request", write r.request), ("result", write r.runs)]) = some r
    simp [read?, record?_fields]

/-! ### All kinds of values -/

/-- The kinds of values that have a JSON form; `Kind.Carrier` is the type of the values of a
kind. -/
inductive Kind
  /-- Of a request or of an intention. -/
  | identifier
  | testCase
  | profile
  | application
  | request
  | action
  | intention
  | failure
  | outcome
  | run
  | device
  | deviceRun
  | report
  | layer
  | state
  | serial
  | coordinate
  | installation
  | reservation
  | list (items : Kind)

namespace Kind

/-- The values of a kind. -/
def Carrier : Kind → Type
  | identifier => Uuid
  | testCase => TestCase
  | profile => DeviceProfile
  | application => Application
  | request => Request
  | action => TestAction
  | intention => Intention
  | failure => Failure
  | outcome => Outcome
  | run => TestRun
  | device => DeviceData
  | deviceRun => DeviceRun
  | report => Report
  | layer => Layer
  | state => DeviceState
  | serial => Serial
  | coordinate => Coordinate
  | installation => Installation
  | reservation => Reservation
  | list items => List items.Carrier

/-- The form of the values of a kind. -/
instance form : (k : Kind) → Form k.Carrier
  | identifier => inferInstanceAs (Form Uuid)
  | testCase => inferInstanceAs (Form TestCase)
  | profile => inferInstanceAs (Form DeviceProfile)
  | application => inferInstanceAs (Form Application)
  | request => inferInstanceAs (Form Request)
  | action => inferInstanceAs (Form TestAction)
  | intention => inferInstanceAs (Form Intention)
  | failure => inferInstanceAs (Form Failure)
  | outcome => inferInstanceAs (Form Outcome)
  | run => inferInstanceAs (Form TestRun)
  | device => inferInstanceAs (Form DeviceData)
  | deviceRun => inferInstanceAs (Form DeviceRun)
  | report => inferInstanceAs (Form Report)
  | layer => inferInstanceAs (Form Layer)
  | state => inferInstanceAs (Form DeviceState)
  | serial => inferInstanceAs (Form Serial)
  | coordinate => inferInstanceAs (Form Coordinate)
  | installation => inferInstanceAs (Form Installation)
  | reservation => inferInstanceAs (Form Reservation)
  | list items =>
    have := form items
    inferInstanceAs (Form (List items.Carrier))

instance (k : Kind) : FaithfulForm k.Carrier := by
  induction k with
  | identifier => exact inferInstanceAs (FaithfulForm Uuid)
  | testCase => exact inferInstanceAs (FaithfulForm TestCase)
  | profile => exact inferInstanceAs (FaithfulForm DeviceProfile)
  | application => exact inferInstanceAs (FaithfulForm Application)
  | request => exact inferInstanceAs (FaithfulForm Request)
  | action => exact inferInstanceAs (FaithfulForm TestAction)
  | intention => exact inferInstanceAs (FaithfulForm Intention)
  | failure => exact inferInstanceAs (FaithfulForm Failure)
  | outcome => exact inferInstanceAs (FaithfulForm Outcome)
  | run => exact inferInstanceAs (FaithfulForm TestRun)
  | device => exact inferInstanceAs (FaithfulForm DeviceData)
  | deviceRun => exact inferInstanceAs (FaithfulForm DeviceRun)
  | report => exact inferInstanceAs (FaithfulForm Report)
  | layer => exact inferInstanceAs (FaithfulForm Layer)
  | state => exact inferInstanceAs (FaithfulForm DeviceState)
  | serial => exact inferInstanceAs (FaithfulForm Serial)
  | coordinate => exact inferInstanceAs (FaithfulForm Coordinate)
  | installation => exact inferInstanceAs (FaithfulForm Installation)
  | reservation => exact inferInstanceAs (FaithfulForm Reservation)
  | list items ih => exact inferInstanceAs (FaithfulForm (List items.Carrier))

/-- **Every value is read back from what was written of it**, as a value by `read?` and as a text by
`parse`. -/
theorem round_trip (k : Kind) (a : k.Carrier) :
    read? (write a) = some a ∧ (parse (render (write a))).bind read? = some a := by
  rw [parse_render, Option.bind_some, read?_write]
  exact ⟨rfl, rfl⟩

end Kind

end Json

end DeviceLab
