import DeviceLab.Proofs.Distinct
import DeviceLab.Proofs.Listing.Serials
import DeviceLab.Proofs.Text.Cutting
import Mathlib.Data.List.Infix

/-!
# A listing is read line by line

What a line of a listing tells does not depend on the lines around it (`readings_append`), and what
precedes the header tells nothing (`parse_prelude`). Only a serial that was listed before is passed
over, so a listing that goes on is read as its first part, followed by what is new in the second
(`firsts_append`). The `complaint` that the bridge is unreachable fits on one line; it is found
wherever it stands, and no seam can make it up (`infix_append_cons_iff`, `unreachable_infix_iff`).

No two entries have the same value, so that looking for a serial is looking for its value
(`find?_eq_ok_some_iff`).

`parse_local` puts these laws together, for any texts.
-/

namespace DeviceLab.Listing

open Text (lines trim afterFirst? occursIn occursIn_iff)

/-! ### Lines -/

/-- The header on a line of its own. -/
def heading : String :=
  String.ofList header ++ "\n"

/-- What a reader says of an output that complains about an unreachable bridge. -/
def complaint (output : String) : LabError :=
  .listingUnreadable ("Cannot connect to bridge daemon:\n" ++ output)

/-- The device on a line, which may have blanks around it and may be empty or a remark. -/
def reading? (l : List Char) : Option Entry :=
  if !(trim l).isEmpty && (trim l).head? ≠ some '*' then entry? (trim l) else none

/-- The devices on the lines of a text. -/
def readings (cs : List Char) : List Entry :=
  (lines cs).filterMap reading?

/-- The first entry of each serial. -/
def firsts (es : List Entry) : List Entry :=
  es.foldl addNew []

theorem filterMap_deviceLines (output : List Char) :
    (deviceLines output).filterMap entry? = readings ((afterFirst? header output).getD output) := by
  rw [deviceLines, List.filterMap_filter, List.filterMap_map]
  rfl

/-! ### Seams -/

/-- Every line is read on its own. -/
theorem readings_append (xs ys : List Char) :
    readings (xs ++ '\n' :: ys) = readings xs ++ readings ys := by
  rw [readings, Text.lines_append_cons, List.filterMap_append, readings, readings]

/-- A line feed in front of a text adds an empty line, which tells nothing. -/
theorem readings_cons (cs : List Char) : readings ('\n' :: cs) = readings cs :=
  readings_append [] cs

/-! ### Serials that were listed before -/

variable {known : List Entry} {e : Entry}

theorem addNew_of_mem (h : e.serial ∈ known.map (·.serial)) : addNew known e = known := by
  obtain ⟨e', he', heq⟩ := List.mem_map.1 h
  rw [addNew, if_pos (List.any_eq_true.2 ⟨e', he', decide_eq_true heq⟩)]

theorem addNew_of_notMem (h : e.serial ∉ known.map (·.serial)) : addNew known e = known ++ [e] := by
  rw [addNew, if_neg]
  intro hany
  obtain ⟨e', he', heq⟩ := List.any_eq_true.1 hany
  exact h (List.mem_map.2 ⟨e', he', of_decide_eq_true heq⟩)

theorem firsts_concat (new : List Entry) (e : Entry) :
    firsts (new ++ [e]) = addNew (firsts new) e :=
  List.foldl_concat ..

/-- **Entries that are added to others** (`addNew`) are those whose serials are new. -/
theorem foldl_addNew (known new : List Entry) :
    new.foldl addNew known =
      known ++ (firsts new).filter fun e ↦ e.serial ∉ known.map (·.serial) := by
  induction new using List.reverseRecOn with
  | nil => exact (List.append_nil known).symm
  | append_singleton new e ih =>
    rw [List.foldl_concat, ih, firsts_concat]
    by_cases hnew : e.serial ∈ (firsts new).map (·.serial)
    · -- The serial came before, and was passed over then if it was known.
      rw [addNew_of_mem hnew, addNew_of_mem]
      rw [List.map_append, List.mem_append]
      by_cases hknown : e.serial ∈ known.map (·.serial)
      · exact .inl hknown
      · obtain ⟨e', he', heq⟩ := List.mem_map.1 hnew
        rw [← heq] at hknown
        exact .inr (List.mem_map.2 ⟨e', List.mem_filter.2 ⟨he', decide_eq_true hknown⟩, heq⟩)
    · rw [addNew_of_notMem hnew]
      by_cases hknown : e.serial ∈ known.map (·.serial)
      · rw [filter_concat_of_neg _ (by simpa using hknown), addNew_of_mem]
        rw [List.map_append]
        exact List.mem_append_left _ hknown
      · rw [filter_concat_of_pos _ (by simpa using hknown), ← List.append_assoc, addNew_of_notMem]
        rw [List.map_append, List.mem_append, not_or]
        exact ⟨hknown, fun hmem ↦ hnew ((List.filter_sublist.map _).subset hmem)⟩

theorem firsts_append (es fs : List Entry) :
    firsts (es ++ fs) =
      firsts es ++ (firsts fs).filter fun f ↦ f.serial ∉ (firsts es).map (·.serial) := by
  rw [firsts, List.foldl_append, foldl_addNew, ← firsts]

/-! ### What precedes the header -/

/-- The first letter of the header does not come again in it. -/
theorem header_eq : header = 'L' :: header.tail := by decide +kernel

theorem capital_notMem_tail : 'L' ∉ header.tail := by decide +kernel

/-- A complaint about the bridge has neither that letter nor a line feed. -/
theorem capital_notMem : 'L' ∉ unreachable := by decide +kernel

theorem feed_notMem : '\n' ∉ unreachable := by decide +kernel

theorem not_unreachable_infix_tail : ¬ unreachable <:+: header.tail := by decide +kernel

section Prelude

variable {P : String} (A : String)

theorem toList_prelude : (P ++ heading ++ A).toList = P.toList ++ (header ++ '\n' :: A.toList) := by
  rw [heading, String.toList_append, String.toList_append, String.toList_append,
    String.toList_ofList, List.append_assoc, List.append_assoc]
  rfl

/-- The header is found behind whatever does not have it. -/
theorem afterFirst?_header (hP : ¬ header <:+: P.toList) :
    afterFirst? header (P ++ heading ++ A).toList = some ('\n' :: A.toList) := by
  rw [header_eq] at hP
  rw [toList_prelude, header_eq]
  exact Text.afterFirst?_append capital_notMem_tail hP _

/-- A complaint about the bridge lies before the header or on the lines behind it. -/
theorem unreachable_infix_iff :
    unreachable <:+: (P ++ heading ++ A).toList ↔
      unreachable <:+: P.toList ∨ unreachable <:+: A.toList := by
  rw [toList_prelude, header_eq, List.cons_append, Text.infix_append_cons_iff capital_notMem,
    Text.infix_append_cons_iff feed_notMem, or_iff_right not_unreachable_infix_tail]

/-- **What an output tells** (`parse`) behind anything that neither has the header nor complains. -/
theorem parse_prelude (hP : ¬ header <:+: P.toList) (hP' : ¬ unreachable <:+: P.toList) :
    parse (P ++ heading ++ A) =
      if unreachable <:+: A.toList then .error (complaint (P ++ heading ++ A))
      else .ok (firsts (readings A.toList)) := by
  rw [parse, filterMap_deviceLines, afterFirst?_header A hP, Option.getD_some, readings_cons]
  refine if_congr ?_ rfl rfl
  rw [occursIn_iff, unreachable_infix_iff, or_iff_right hP']

/-- What an output tells that begins with the header. -/
theorem parse_heading :
    parse (heading ++ A) = if unreachable <:+: A.toList then .error (complaint (heading ++ A))
      else .ok (firsts (readings A.toList)) := by
  have h := parse_prelude (P := "") A (by decide +kernel) (by decide +kernel)
  rwa [String.empty_append] at h

end Prelude

theorem parse_heading_fails_iff (A : String) :
    (∃ e, parse (heading ++ A) = .error e) ↔ unreachable <:+: A.toList := by
  rw [parse_heading]
  split <;> simp [*]

theorem parse_heading_eq_ok {A : String} {es : List Entry} (h : parse (heading ++ A) = .ok es) :
    ¬ unreachable <:+: A.toList ∧ es = firsts (readings A.toList) := by
  rw [parse_heading] at h
  split at h
  · cases h
  · next hA => exact ⟨hA, (Except.ok.inj h).symm⟩

/-! ### Looking for a serial -/

section Finding

variable {output : String} {es : List Entry} (h : parse output = .ok es) (s : Serial)

include h

theorem find?_of_parse : find? s output = .ok (es.find? (·.serial.value = s.value)) := by
  rw [find?, h]
  rfl

/-- **What is found for a serial (`find?`) is the entry with its value**, whatever the kind of the
serial. -/
theorem find?_eq_ok_some_iff (e : Entry) :
    find? s output = .ok (some e) ↔ e ∈ es ∧ e.serial.value = s.value := by
  rw [find?_of_parse h, Except.ok.injEq]
  exact find?_key_eq_some_iff (proper_of_parse h).nodup_values s.value

theorem find?_eq_ok_none_iff :
    find? s output = .ok none ↔ ∀ e ∈ es, e.serial.value ≠ s.value := by
  rw [find?_of_parse h, Except.ok.injEq, List.find?_eq_none]
  simp

end Finding

/-! ### The theorem -/

/-- **A listing is read line by line.** A listing of two parts cannot be read exactly if one of them
cannot, and otherwise it tells the first part, followed by the entries of the second whose serials
are not in the first. Whatever stands before the `heading`, without a `header` or a complaint in it,
changes nothing but the text that a complaint repeats. In everything that is read the values are
distinct, and looking for a serial finds the one entry with its value, of whatever kind the serial
is. -/
theorem parse_local (A B P output : String) :
    ((∃ e, parse (heading ++ A ++ "\n" ++ B) = .error e) ↔
        (∃ e, parse (heading ++ A) = .error e) ∨ ∃ e, parse (heading ++ B) = .error e) ∧
      (∀ es fs, parse (heading ++ A) = .ok es → parse (heading ++ B) = .ok fs →
        parse (heading ++ A ++ "\n" ++ B) =
          .ok (es ++ fs.filter fun f ↦ f.serial ∉ es.map (·.serial))) ∧
      (¬ header <:+: P.toList → ¬ unreachable <:+: P.toList →
        parse (P ++ heading ++ A) =
          (parse (heading ++ A)).mapError fun _ ↦ complaint (P ++ heading ++ A)) ∧
      (∀ es, parse output = .ok es → (es.map (·.serial.value)).Nodup ∧
        (∀ s e, find? s output = .ok (some e) ↔ e ∈ es ∧ e.serial.value = s.value) ∧
        ∀ s, find? s output = .ok none ↔ ∀ e ∈ es, e.serial.value ≠ s.value) ∧
      ∀ value, find? (.attached value) output = find? (.remote value) output := by
  have htext : heading ++ A ++ "\n" ++ B = heading ++ (A ++ "\n" ++ B) := by
    rw [String.append_assoc, String.append_assoc, String.append_assoc]
  have hlist : (A ++ "\n" ++ B).toList = A.toList ++ '\n' :: B.toList := by
    rw [String.toList_append, String.toList_append, List.append_assoc]
    rfl
  have hparts : unreachable <:+: (A ++ "\n" ++ B).toList ↔
      unreachable <:+: A.toList ∨ unreachable <:+: B.toList := by
    rw [hlist, Text.infix_append_cons_iff feed_notMem]
  refine ⟨?_, ?_, ?_, ?_, fun _ ↦ rfl⟩
  · rw [htext, parse_heading_fails_iff, parse_heading_fails_iff, parse_heading_fails_iff, hparts]
  · intro es fs hA hB
    obtain ⟨hokA, rfl⟩ := parse_heading_eq_ok hA
    obtain ⟨hokB, rfl⟩ := parse_heading_eq_ok hB
    rw [htext, parse_heading, if_neg (mt hparts.1 (not_or.2 ⟨hokA, hokB⟩)), hlist, readings_append,
      firsts_append]
  · intro hP hP'
    rw [parse_prelude A hP hP', parse_heading]
    split <;> rfl
  · intro es h
    exact ⟨(proper_of_parse h).nodup_values, find?_eq_ok_some_iff h, find?_eq_ok_none_iff h⟩

/-- A device is listed again in the second part, in another state, beside one that is new; the
listing stands behind a remark of the bridge. -/
theorem parse_local_of_relisted :
    let A := "emulator-5554\tdevice model:pixel\r"
    let B := "emulator-5554 offline\n10.0.0.1:5555 \t device"
    let P := "* daemon started successfully\n"
    let first : Entry := ⟨.attached "emulator-5554", "pixel", true⟩
    let again : Entry := ⟨.attached "emulator-5554", "", false⟩
    let second : Entry := ⟨.remote "10.0.0.1:5555", "", true⟩
    parse (heading ++ A) = .ok [first] ∧ parse (heading ++ B) = .ok [again, second] ∧
      ¬ header <:+: P.toList ∧ ¬ unreachable <:+: P.toList ∧
      parse (heading ++ A ++ "\n" ++ B) = .ok [first, second] ∧
      parse (P ++ heading ++ A) = .ok [first] ∧
      find? (.remote "emulator-5554") (heading ++ A) = .ok (some first) := by
  intro A B P first again second
  have hA : parse (heading ++ A) = .ok [first] := by decide +kernel
  have hB : parse (heading ++ B) = .ok [again, second] := by decide +kernel
  have hP : ¬ header <:+: P.toList := by decide +kernel
  have hP' : ¬ unreachable <:+: P.toList := by decide +kernel
  obtain ⟨-, hjoin, hnoise, hfind, -⟩ := parse_local A B P (heading ++ A)
  have hnew : [first] ++ [again, second].filter (fun f ↦ f.serial ∉ [first].map (·.serial)) =
      [first, second] := by decide
  refine ⟨hA, hB, hP, hP', hnew ▸ hjoin _ _ hA hB, ?_, ?_⟩
  · rw [hnoise hP hP', hA]
    rfl
  · exact ((hfind _ hA).2.1 (.remote "emulator-5554") first).2 ⟨List.mem_singleton_self _, rfl⟩

end DeviceLab.Listing
