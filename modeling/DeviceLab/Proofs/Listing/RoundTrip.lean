import DeviceLab.Proofs.Listing.Locality
import DeviceLab.Simulation.Bridge

/-!
# What was listed is read back

A `Row` is what a bridge writes about one device: the serial, how the device is connected, and its
model behind a tag, with blanks or tabulators in between. A row is `Row.Legible` if its words are
words, that is without white space, and if it is not taken for a remark. Such a row is read as what
it says (`Row.Legible.reading?_text`), whatever the lengths of the gaps (`Row.Legible.words_text`),
and no row, nor the seam between two of them, is taken for a header or for a complaint
(`not_unreachable_body`). With `readings_append` and `firsts_of_nodup` many rows are read back
(`parse_body`).

A scripted bridge that lists the devices on its shelf writes such rows
(`Simulation.Bridge.render_eq`). However it comes about (`Simulation.Bridge.Stocked`), its shelf
holds one device under each serial (`Simulation.Bridge.Stocked.keyed`), so every device of the shelf
is read from them once (`Simulation.Bridge.Keyed.parse_render`).

`reads_back` says both, and with `classify_ofHost` also that a device behind a port of a host is
read back under its serial.
-/

namespace DeviceLab

namespace Listing

open Text (isBlank words)

/-! ### Rows -/

/-- How a device that can be of use is connected. -/
inductive Connection
  | device
  | online
  | offline
  deriving DecidableEq

/-- The word for a connection. -/
def Connection.text : Connection → String
  | device => "device"
  | online => "online"
  | offline => "offline"

/-- Whether a device that is connected so accepts commands. -/
def Connection.isOnline : Connection → Bool
  | device => true
  | online => true
  | offline => false

/-- The words of a line, and what stands between them. -/
structure Row where
  raw : String
  gap : String := "\t"
  connection : Connection := .device
  space : String := " "
  model : String

namespace Row

/-- The line of a row. -/
def text (r : Row) : String :=
  r.raw ++ (r.gap ++ (r.connection.text ++ (r.space ++ ("model:" ++ r.model))))

/-- What a row says. -/
def entry (r : Row) : Entry :=
  ⟨classify r.raw, r.model, r.connection.isOnline⟩

end Row

/-- The lines of rows, each of them ended. -/
def body (rows : List Row) : String :=
  String.join (rows.map fun r ↦ r.text ++ "\n")

/-- A text has no white space in it. -/
def IsUnbroken (s : String) : Prop :=
  ∀ c ∈ s.toList, isBlank c = false

/-- A text can be listed as the value of a serial. -/
structure IsListable (raw : String) : Prop where
  ne_empty : raw ≠ ""
  unbroken : IsUnbroken raw
  unmarked : raw.toList.head? ≠ some '*'

/-- A text consists of blanks and tabulators. -/
structure IsGap (s : String) : Prop where
  ne_empty : s ≠ ""
  blank : ∀ c ∈ s.toList, c = ' ' ∨ c = '\t'

/-- The words of a row are words (`IsListable`, `IsUnbroken`), with gaps in between (`IsGap`). -/
structure Row.Legible (r : Row) : Prop where
  raw : IsListable r.raw
  gap : IsGap r.gap
  space : IsGap r.space
  model : IsUnbroken r.model

instance (s : String) : Decidable (IsUnbroken s) :=
  List.decidableBAll _ s.toList

instance (raw : String) : Decidable (IsListable raw) :=
  decidable_of_iff (raw ≠ "" ∧ IsUnbroken raw ∧ raw.toList.head? ≠ some '*')
    ⟨fun h ↦ ⟨h.1, h.2.1, h.2.2⟩, fun h ↦ ⟨h.1, h.2, h.3⟩⟩

instance (s : String) : Decidable (IsGap s) :=
  haveI : Decidable (∀ c ∈ s.toList, c = ' ' ∨ c = '\t') := List.decidableBAll _ s.toList
  decidable_of_iff (s ≠ "" ∧ ∀ c ∈ s.toList, c = ' ' ∨ c = '\t')
    ⟨fun h ↦ ⟨h.1, h.2⟩, fun h ↦ ⟨h.1, h.2⟩⟩

instance (r : Row) : Decidable r.Legible :=
  decidable_of_iff (IsListable r.raw ∧ IsGap r.gap ∧ IsGap r.space ∧ IsUnbroken r.model)
    ⟨fun h ↦ ⟨h.1, h.2.1, h.2.2.1, h.2.2.2⟩, fun h ↦ ⟨h.1, h.2, h.3, h.4⟩⟩

/-! ### Reading a row -/

theorem IsGap.isBlank {s : String} (h : IsGap s) {c : Char} (hc : c ∈ s.toList) :
    isBlank c = true := by
  obtain rfl | rfl := h.blank c hc <;> decide

theorem Connection.ne_empty (k : Connection) : k.text ≠ "" := by
  cases k <;> decide

theorem Connection.unbroken (k : Connection) : IsUnbroken k.text := by
  cases k <;> decide +kernel

theorem Connection.online?_text (k : Connection) : online? k.text = some k.isOnline := by
  cases k <;> decide +kernel

theorem toList_ne_nil {s : String} (h : s ≠ "") : s.toList ≠ [] := by
  simpa using h

namespace Row.Legible

variable {r : Row} (h : r.Legible)

include h

/-- The model and its tag are one word. -/
theorem tagged_unbroken : IsUnbroken ("model:" ++ r.model) := by
  have htag : IsUnbroken "model:" := by decide +kernel
  intro c hc
  rw [String.toList_append, List.mem_append] at hc
  exact hc.elim (htag c) (h.model c)

/-- **A row has three words**: its serial, its connection, and its model with the tag. -/
theorem words_text :
    words r.text.toList =
      [r.raw.toList, r.connection.text.toList, ("model:" ++ r.model).toList] := by
  have hmodel : ("model:" ++ r.model).toList ≠ [] := by
    rw [String.toList_append]
    exact List.append_ne_nil_of_left_ne_nil (by decide +kernel) _
  rw [Row.text, String.toList_append, String.toList_append, String.toList_append,
    String.toList_append,
    Text.words_append_gap (toList_ne_nil h.raw.ne_empty) h.raw.unbroken
      (toList_ne_nil h.gap.ne_empty) fun c ↦ h.gap.isBlank,
    Text.words_append_gap (toList_ne_nil r.connection.ne_empty) r.connection.unbroken
      (toList_ne_nil h.space.ne_empty) fun c ↦ h.space.isBlank,
    Text.words_of_unbroken hmodel h.tagged_unbroken]

/-- A row begins with the serial. -/
theorem head?_text : r.text.toList.head? = r.raw.toList.head? := by
  obtain ⟨c, cs, hraw⟩ := List.exists_cons_of_ne_nil (toList_ne_nil h.raw.ne_empty)
  rw [Row.text, String.toList_append, hraw]
  rfl

/-- A row is trimmed as it stands. -/
theorem trim_text : Text.trim r.text.toList = r.text.toList := by
  refine Text.trim_eq_self ?_ ?_
  · rw [h.head?_text]
    exact fun c hc ↦ h.raw.unbroken c (List.mem_of_head? hc)
  · intro c hc
    -- The last word is not empty, since the tag is a part of it.
    have htext : r.text.toList =
        (r.raw ++ r.gap ++ r.connection.text ++ r.space).toList ++
          ("model:" ++ r.model).toList := by
      simp [Row.text]
    have htag : ("model:".toList).getLast? = some ':' := by decide +kernel
    have hlast : ("model:" ++ r.model).toList.getLast? = some c := by
      rw [Option.mem_def, htext, List.getLast?_append, String.toList_append, List.getLast?_append,
        htag] at hc
      rw [String.toList_append, List.getLast?_append, htag]
      cases hm : r.model.toList.getLast? <;> simpa [hm] using hc
    exact h.tagged_unbroken c (List.mem_of_getLast? hlast)

/-- **A row is read as what it says** (`Row.entry`). -/
theorem reading?_text : reading? r.text.toList = some r.entry := by
  have hmodel : [("model:" ++ r.model).toList].findSome? (untag? "model:".toList) =
      some r.model := by
    have huntag : untag? "model:".toList ("model:" ++ r.model).toList = some r.model := by
      rw [untag?, String.toList_append,
        if_pos (List.isPrefixOf_iff_prefix.2 (List.prefix_append _ _)), List.drop_left,
        String.ofList_toList]
    rw [List.findSome?_cons, huntag]
  have hne : r.text.toList ≠ [] := by
    intro he
    have hhead := h.head?_text
    rw [he] at hhead
    exact toList_ne_nil h.raw.ne_empty (List.head?_eq_none_iff.1 hhead.symm)
  rw [reading?, h.trim_text, h.head?_text, if_pos (by simp [hne, h.raw.unmarked]), entry?,
    h.words_text]
  show (online? (String.ofList r.connection.text.toList)).bind _ = _
  rw [String.ofList_toList, r.connection.online?_text, hmodel, String.ofList_toList]
  rfl

/-- A row is one line. -/
theorem feed_notMem : '\n' ∉ r.text.toList := by
  have hfeed : isBlank '\n' = true := by decide
  have hword {s : String} (hs : IsUnbroken s) : '\n' ∉ s.toList := fun hmem ↦ by
    have := hs _ hmem
    simp [hfeed] at this
  have hgap {s : String} (hs : IsGap s) : '\n' ∉ s.toList := fun hmem ↦
    absurd (hs.blank _ hmem) (by decide)
  simp only [Row.text, String.toList_append, List.mem_append, not_or]
  have htagged := hword h.tagged_unbroken
  rw [String.toList_append, List.mem_append, not_or] at htagged
  exact ⟨hword h.raw.unbroken, hgap h.gap, hword r.connection.unbroken, hgap h.space, htagged⟩

theorem readings_text : readings r.text.toList = [r.entry] := by
  rw [readings, Text.lines_of_notMem h.feed_notMem, List.filterMap_cons_some h.reading?_text,
    List.filterMap_nil]

/-- A row does not complain: the words of a complaint do not stand in the place of a connection. -/
theorem not_unreachable : ¬ unreachable <:+: r.text.toList := by
  have hwords : unreachable =
      "cannot".toList ++ ' ' ::
        ("connect".toList ++ ' ' :: ("to".toList ++ ' ' :: "daemon".toList)) := by
    decide +kernel
  have hblank : isBlank ' ' = true := by decide
  have hconnect : words "connect".toList = ["connect".toList] := by decide +kernel
  have hto : words "to".toList = ["to".toList] := by decide +kernel
  rintro ⟨before, after, htext⟩
  have hthree := h.words_text
  rw [← htext, hwords] at hthree
  simp only [List.append_assoc, List.cons_append] at hthree
  rw [← List.append_assoc, Text.words_append_cons hblank, Text.words_append_cons hblank,
    Text.words_append_cons hblank, hconnect, hto] at hthree
  -- One of the two would be the middle word.
  have hmiddle : r.connection.text.toList = "connect".toList ∨
      r.connection.text.toList = "to".toList := by
    generalize words (before ++ "cannot".toList) = front at hthree
    rcases front with - | ⟨w, - | ⟨w', front⟩⟩
    · exact .inr (List.cons.inj (List.cons.inj hthree).2).1.symm
    · exact .inl (List.cons.inj (List.cons.inj hthree).2).1.symm
    · have hlength := congrArg List.length hthree
      simp at hlength
      omega
  cases hk : r.connection <;> rw [hk] at hmiddle <;> revert hmiddle <;> decide +kernel

end Row.Legible

/-! ### Reading many rows -/

section Rows

variable {rows : List Row}

theorem toList_body_cons (r : Row) (rows : List Row) :
    (body (r :: rows)).toList = r.text.toList ++ '\n' :: (body rows).toList := by
  rw [body, List.map_cons, String.join_cons, String.toList_append, String.toList_append,
    List.append_assoc, body]
  rfl

/-- Legible rows are read one by one. -/
theorem readings_body (hl : ∀ r ∈ rows, r.Legible) :
    readings (body rows).toList = rows.map Row.entry := by
  induction rows with
  | nil => decide +kernel
  | cons r rows ih =>
    rw [toList_body_cons, readings_append, (hl r List.mem_cons_self).readings_text,
      ih fun r' hr' ↦ hl r' (List.mem_cons_of_mem r hr')]
    rfl

/-- Legible rows do not complain. -/
theorem not_unreachable_body (hl : ∀ r ∈ rows, r.Legible) :
    ¬ unreachable <:+: (body rows).toList := by
  induction rows with
  | nil => decide +kernel
  | cons r rows ih =>
    rw [toList_body_cons, Text.infix_append_cons_iff feed_notMem, not_or]
    exact ⟨(hl r List.mem_cons_self).not_unreachable,
      ih fun r' hr' ↦ hl r' (List.mem_cons_of_mem r hr')⟩

theorem classify_injective : Function.Injective classify :=
  Function.LeftInverse.injective value_classify

/-- Entries with distinct serials are all kept. -/
theorem firsts_of_nodup {es : List Entry} (h : (es.map (·.serial)).Nodup) : firsts es = es := by
  induction es using List.reverseRecOn with
  | nil => rfl
  | append_singleton es e ih =>
    rw [List.map_append, List.map_singleton, List.nodup_append] at h
    obtain ⟨hes, -, hnew⟩ := h
    rw [firsts_concat, ih hes, addNew_of_notMem]
    exact fun hmem ↦ hnew _ hmem _ (List.mem_singleton_self _) rfl

/-- Rows with distinct values have distinct serials. -/
theorem nodup_serials (hd : (rows.map Row.raw).Nodup) :
    ((rows.map Row.entry).map (·.serial)).Nodup := by
  rw [List.map_map]
  have hmap := hd.map classify_injective
  rwa [List.map_map] at hmap

/-- **Rows are read back** from their `body`, whether the last line is ended or not. -/
theorem parse_body (hl : ∀ r ∈ rows, r.Legible) (hd : (rows.map Row.raw).Nodup) {text : String}
    (ht : text = body rows ∨ text ++ "\n" = body rows) :
    parse (heading ++ text) = .ok (rows.map Row.entry) := by
  have htext : ¬ unreachable <:+: text.toList ∧ readings text.toList = rows.map Row.entry := by
    obtain rfl | ht := ht
    · exact ⟨not_unreachable_body hl, readings_body hl⟩
    · -- A line feed at the end adds an empty line.
      have hbody : (body rows).toList = text.toList ++ '\n' :: [] := by
        rw [← ht, String.toList_append]
        rfl
      have hread := readings_body hl
      have hquiet := not_unreachable_body hl
      rw [hbody, readings_append] at hread
      rw [hbody, Text.infix_append_cons_iff feed_notMem, not_or] at hquiet
      exact ⟨hquiet.1, (List.append_nil _).symm.trans hread⟩
  rw [parse_heading, if_neg htext.1, htext.2, firsts_of_nodup (nodup_serials hd)]

end Rows

end Listing

/-! ### Scripted bridges -/

namespace Simulation.Bridge

open Listing (Row IsListable IsUnbroken)

/-- A bridge as it comes about: devices are put on its shelf (`Bridge.put`), are made on demand
(`Bridge.resolve`), and change (`Bridge.set`). -/
inductive Stocked : Bridge → Prop
  | bare {b : Bridge} (h : b.shelf = []) : Stocked b
  | register {b : Bridge} (d : Device) (h : Stocked b) : Stocked { b with shelf := put b.shelf d }
  | resolve {b : Bridge} (c : Coordinate) (h : Stocked b) : Stocked (b.resolve c).1
  | set {b : Bridge} (d : Device) (h : Stocked b) : Stocked (b.set d)

/-- Devices stand under their serials, one under each. -/
structure Keyed (ds : List (String × Device)) : Prop where
  nodup : (ds.map (·.1)).Nodup
  key : ∀ e ∈ ds, e.1 = e.2.serial

/-- A device takes the place of the one with its serial, or a new place. -/
theorem Keyed.put {ds : List (String × Device)} (h : Keyed ds) (d : Device) :
    Keyed (put ds d) := by
  rw [Bridge.put]
  split
  · constructor
    · have hkeys : (ds.map fun e ↦ if e.1 = d.serial then (d.serial, d) else e).map (·.1) =
          ds.map (·.1) := by
        rw [List.map_map]
        refine List.map_congr_left fun e _ ↦ ?_
        show (if e.1 = d.serial then (d.serial, d) else e).1 = e.1
        split
        · next heq => exact heq.symm
        · rfl
      rw [hkeys]
      exact h.nodup
    · intro e he
      obtain ⟨e', he', rfl⟩ := List.mem_map.1 he
      split
      · rfl
      · exact h.key e' he'
  · next hnew =>
    constructor
    · rw [List.map_append, List.map_singleton, List.nodup_append]
      refine ⟨h.nodup, List.nodup_singleton _, fun a ha b hb hab ↦ hnew ?_⟩
      obtain ⟨e, he, rfl⟩ := List.mem_map.1 ha
      rw [List.mem_singleton.1 hb] at hab
      exact List.any_eq_true.2 ⟨e, he, decide_eq_true hab⟩
    · intro e he
      rcases List.mem_append.1 he with he | he
      · exact h.key e he
      · rw [List.mem_singleton.1 he]

/-- **However a bridge comes about, its shelf holds one device under each serial** (`Keyed`). -/
theorem Stocked.keyed {b : Bridge} (h : Stocked b) : Keyed b.shelf := by
  induction h with
  | bare h =>
    rw [h]
    exact ⟨List.nodup_nil, List.forall_mem_nil _⟩
  | register d _ ih => exact ih.put d
  | @resolve b c _ ih =>
    rw [Bridge.resolve]
    split
    · exact ih
    · exact ih
    · exact ih.put _
  | @set b d _ ih =>
    rw [Bridge.set]
    split
    · exact ih
    · exact ih.put d

/-- The row for a device on the shelf. -/
def row (d : Device) : Row where
  raw := d.serial
  model := d.model

/-- A bridge writes rows. -/
theorem render_eq {ds : List (String × Device)} (h : ∀ e ∈ ds, e.1 = e.2.serial) :
    Listing.render (ds.map fun e ↦ (e.1, e.2.model)) =
      Listing.heading ++ Listing.body (ds.map fun e ↦ row e.2) := by
  have hfold (text : String) : (ds.map fun e ↦ (e.1, e.2.model)).foldl
      (fun text d ↦ text ++ Listing.line d.1 d.2) text =
        text ++ Listing.body (ds.map fun e ↦ row e.2) := by
    induction ds generalizing text with
    | nil => exact String.append_empty.symm
    | cons e ds ih =>
      have hline : Listing.line e.1 e.2.model = (row e.2).text ++ "\n" := by
        rw [h e List.mem_cons_self, ← String.toList_inj]
        simp [Listing.line, row, Row.text, Listing.Connection.text]
      rw [List.map_cons, List.foldl_cons, ih fun e' he' ↦ h e' (List.mem_cons_of_mem e he'), hline,
        String.append_assoc, Listing.body, Listing.body, List.map_cons, List.map_cons,
        String.join_cons]
  have hheading : String.ofList (Listing.header ++ ['\n']) = Listing.heading := by
    rw [Listing.heading, String.ofList_append]
  rw [Listing.render, hfold, hheading]

/-- The rows of a shelf are read back, in whatever order the shelf is listed. -/
theorem Keyed.parse_render {ds : List (String × Device)} (hk : Keyed ds)
    (hs : ∀ e ∈ ds, IsListable e.2.serial ∧ IsUnbroken e.2.model) :
    Listing.parse (Listing.render (ds.map fun e ↦ (e.1, e.2.model))) =
      .ok (ds.map fun e ↦ (row e.2).entry) := by
  have hgap : Listing.IsGap "\t" ∧ Listing.IsGap " " := by decide +kernel
  have hl : ∀ r ∈ ds.map (fun e ↦ row e.2), r.Legible := by
    intro r hr
    obtain ⟨e, he, rfl⟩ := List.mem_map.1 hr
    exact ⟨(hs e he).1, hgap.1, hgap.2, (hs e he).2⟩
  have hraw : (ds.map fun e ↦ row e.2).map Row.raw = ds.map (·.1) := by
    rw [List.map_map]
    exact List.map_congr_left fun e he ↦ (hk.key e he).symm
  have hparse := Listing.parse_body hl (hraw ▸ hk.nodup) (.inl rfl)
  rw [List.map_map] at hparse
  rw [render_eq hk.key]
  exact hparse

theorem stocked_ofDevices (devices shelf : List Device) : Stocked (ofDevices devices shelf) := by
  have hput (b : Bridge) (hb : Stocked b) :
      Stocked { b with shelf := shelf.foldl put b.shelf } := by
    induction shelf generalizing b with
    | nil => exact hb
    | cons d shelf ih => exact ih _ (hb.register d)
  exact hput { devices := devices.foldl put [] } (.bare rfl)

end Simulation.Bridge

/-! ### The theorem -/

namespace Listing

open Simulation (Device Bridge)
open Simulation.Bridge (Stocked)

/-- **What was listed is read back.** Rows that are `Legible` and have distinct values are read from
a listing in order, as what they say, whether its last line is ended or not. The serial of a row is
remote if its value is a host and a port (`IsHostPort`), and attached otherwise; in particular the
serial of a port of a host is read back as it was. However a scripted bridge came about (`Stocked`),
in whatever order it lists the devices of its shelf, if their serials and models can be listed, then
each device of the shelf is read once, as one that accepts commands. -/
theorem reads_back {rows : List Row} (hl : ∀ r ∈ rows, r.Legible)
    (hd : (rows.map Row.raw).Nodup) :
    (∀ text, text = body rows ∨ text ++ "\n" = body rows →
        parse (heading ++ text) = .ok (rows.map Row.entry)) ∧
      (∀ r ∈ rows, r.entry.model = r.model ∧ (r.entry.online = true ↔ r.connection ≠ .offline) ∧
        (r.entry.serial = .remote r.raw ↔ IsHostPort r.raw) ∧
        (r.entry.serial = .attached r.raw ↔ ¬ IsHostPort r.raw) ∧
        ∀ host port, host ≠ "" → r.raw = (Serial.ofHost host port).value →
          r.entry.serial = .ofHost host port) ∧
      ∀ b : Bridge, Stocked b → b.listing = none → b.listError = none →
        (∀ e ∈ b.shelf, IsListable e.2.serial ∧ IsUnbroken e.2.model) →
        b.output = .ok (render (b.shelf.map fun e ↦ (e.1, e.2.model))) ∧
          ∀ listed : List (String × Device), listed.Perm b.shelf →
            let es := listed.map fun e ↦ (⟨classify e.2.serial, e.2.model, true⟩ : Entry)
            parse (render (listed.map fun e ↦ (e.1, e.2.model))) = .ok es ∧
              ∀ e ∈ b.shelf, es.count ⟨classify e.2.serial, e.2.model, true⟩ = 1 := by
  refine ⟨fun text ↦ parse_body hl hd, ?_, ?_⟩
  · intro r _
    refine ⟨rfl, ?_, classify_eq_remote_iff, classify_eq_attached_iff, ?_⟩
    · cases hk : r.connection <;> simp [Row.entry, hk, Connection.isOnline]
    · rintro host port hhost hraw
      rw [Row.entry, hraw, classify_ofHost hhost]
  · intro b hb hnone herror hs
    refine ⟨by rw [Bridge.output, hnone, herror], fun listed hperm ↦ ?_⟩
    have hkeyed : Bridge.Keyed listed :=
      ⟨(hperm.map _).nodup_iff.2 hb.keyed.nodup, fun e he ↦ hb.keyed.key e (hperm.subset he)⟩
    have hparse := hkeyed.parse_render fun e he ↦ hs e (hperm.subset he)
    refine ⟨hparse,
      fun e he ↦ List.count_eq_one_of_mem ?_ (List.mem_map.2 ⟨e, hperm.symm.subset he, rfl⟩)⟩
    exact (proper_of_parse hparse).nodup.of_map

/-- A listing with a port that is spelled with a zero in front, a serial that looks like a port
without a host, and gaps of several kinds; and a bridge on which a device was put twice. -/
theorem reads_back_of_samples :
    let rows : List Row :=
      [⟨"emulator-5554", "\t", .device, " ", "pixel"⟩,
        ⟨"10.0.0.1:05555", " \t ", .offline, "  ", ""⟩,
        ⟨":80", "\t", .online, "\t", "model:é"⟩]
    let pixel : Device := { coordinate := .attached "emulator-5554" }
    let nexus : Device := { coordinate := .attached "emulator-5554", model := "nexus" }
    let remote : Device := { coordinate := .hosted "10.0.0.1:5555" "pod" }
    parse (heading ++ body rows) =
        .ok [⟨.attached "emulator-5554", "pixel", true⟩, ⟨.remote "10.0.0.1:05555", "", false⟩,
          ⟨.attached ":80", "model:é", true⟩] ∧
      (Bridge.ofDevices [] [pixel, remote, nexus]).output.bind parse =
        .ok [⟨.attached "emulator-5554", "nexus", true⟩,
          ⟨.ofHost "10.0.0.1" 5555, "pixel", true⟩] := by
  intro rows pixel nexus remote
  have hl : ∀ r ∈ rows, r.Legible := by decide +kernel
  have hd : (rows.map Row.raw).Nodup := by decide
  obtain ⟨hparse, -, hbridge⟩ := reads_back hl hd
  have hentries : rows.map Row.entry =
      [⟨.attached "emulator-5554", "pixel", true⟩, ⟨.remote "10.0.0.1:05555", "", false⟩,
        ⟨.attached ":80", "model:é", true⟩] := by decide +kernel
  refine ⟨hentries ▸ hparse _ (.inl rfl), ?_⟩
  have hshelf : (Bridge.ofDevices [] [pixel, remote, nexus]).shelf =
      [("emulator-5554", nexus), ("10.0.0.1:5555", remote)] := rfl
  have hs : ∀ e ∈ (Bridge.ofDevices [] [pixel, remote, nexus]).shelf,
      IsListable e.2.serial ∧ IsUnbroken e.2.model := by
    rw [hshelf]
    decide +kernel
  obtain ⟨houtput, hread⟩ := hbridge _ (Bridge.stocked_ofDevices _ _) rfl rfl hs
  rw [houtput]
  show parse _ = _
  rw [(hread _ (.refl _)).1, hshelf]
  decide +kernel

end Listing

end DeviceLab
