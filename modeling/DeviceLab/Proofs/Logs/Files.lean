import DeviceLab.Logs
import DeviceLab.Proofs.Distinct
import DeviceLab.Proofs.Text.Cutting

/-!
# Laws of files

A written path leads to a place, whatever files there are: `Files.target`. Making folders changes no
file (`Files.reach_entries`), and writing changes only the file that the path leads to
(`Files.write_of_ok`).

The name of a log file is one part of a path (`IsPart`). That is what the characters of a serial are
replaced for: a name behind the path to a folder leads to a file directly in that folder, as long as
it has no slash and is not one of the parts that lead elsewhere (`target_joined`). A path is taken
apart at its slashes (`pieces`), and a part behind a slash goes on from where the rest leads
(`destination_pieces`).
-/

namespace DeviceLab.Logs

namespace Place

/-- Goes on from a place by a part of a path, wherever that may lead. -/
def toward (place : Place) (part : String) : Place :=
  if Files.isIdle part then place else if part = ".." then place.outer else place ++ [part]

theorem toward_of_named {name : String} (hidle : Files.isIdle name = false) (hup : name ≠ "..")
    (place : Place) : place.toward name = place ++ [name] := by
  rw [toward, hidle, if_neg hup]
  rfl

end Place

namespace Files

variable {fs fs' : Files} {place : Place} {parts : List String} {path name content : String}

/-! ### Where paths lead -/

/-- Where the parts of a path lead. -/
def destination (parts : List String) : Place :=
  parts.foldl Place.toward []

/-- Where a written path leads. -/
def target (path : String) : Place :=
  destination (partsOf path)

theorem enter_of_ok {part : String} (h : fs.enter place part = .ok place') :
    place' = place.toward part := by
  rw [enter] at h
  rw [Place.toward]
  split at h
  · next hidle =>
    rw [if_pos hidle]
    exact (Except.ok.inj h).symm
  · next hidle =>
    rw [if_neg hidle]
    split at h
    · next hup =>
      rw [if_pos hup]
      exact (Except.ok.inj h).symm
    · next hup =>
      rw [if_neg hup]
      repeat' split at h
      all_goals first
        | exact (Except.ok.inj h).symm
        | cases h

/-- A `walk` that comes to an end ends where its parts lead. -/
theorem walk_of_ok (h : fs.walk parts = .ok place) : place = destination parts := by
  suffices hgo : ∀ (parts : List String) (start : Place), parts.foldlM fs.enter start = .ok place →
      place = parts.foldl Place.toward start from hgo parts [] h
  intro parts
  induction parts with
  | nil => exact fun start h ↦ (Except.ok.inj h).symm
  | cons part parts ih =>
    intro start h
    rw [List.foldlM_cons] at h
    cases he : fs.enter start part with
    | error e => rw [he] at h; cases h
    | ok next =>
      rw [he] at h
      rw [List.foldl_cons, ← enter_of_ok he]
      exact ih next h

/-! ### Folders -/

/-- Making a folder changes no file. -/
theorem make_entries (h : fs.make parts = .ok fs') : fs'.entries = fs.entries := by
  simp only [make, bind, Except.bind] at h
  repeat' split at h
  all_goals first
    | cases h; done
    | rw [← Except.ok.inj h]

theorem settled_make_entries (fs : Files) (parts : List String) :
    (fs.settled parts (fs.make parts)).1.entries = fs.entries := by
  cases h : fs.make parts with
  | ok fs' => exact make_entries h
  | error e => cases e <;> rfl

theorem makeAll_entries (fuel : Nat) (fs : Files) (parts : List String) :
    (makeAll fuel fs parts).1.entries = fs.entries := by
  induction fuel generalizing fs parts with
  | zero => rfl
  | succ fuel ih =>
    have houter := ih fs (outerParts parts)
    rw [makeAll]
    split
    · split
      · next hall =>
        rw [hall] at houter
        exact (settled_make_entries ..).trans houter
      · next hall => rwa [hall] at houter
    · exact settled_make_entries fs parts

/-- **Making sure of a folder changes no file.** -/
@[simp] theorem reach_entries (fs : Files) (path : String) :
    (fs.reach path).1.entries = fs.entries := by
  rw [reach]
  split
  · exact makeAll_entries ..
  · rfl

/-! ### Contents -/

/-- What the file at a place holds, if there is one. -/
def content? (fs : Files) (place : Place) : Option String :=
  fs.entries.lookup place

/-- The files with a content at a place, instead of what was there. -/
def put (fs : Files) (place : Place) (content : String) : Files :=
  { fs with entries := fs.entries.filter (·.1 ≠ place) ++ [(place, content)] }

theorem content?_congr (h : fs'.entries = fs.entries) (place : Place) :
    fs'.content? place = fs.content? place := by
  rw [content?, h, content?]

/-- What a file holds after a content was `put` at a place. -/
theorem content?_put (fs : Files) (place other : Place) (content : String) :
    (fs.put place content).content? other =
      if other = place then some content else fs.content? other :=
  lookup_filter_key_ne_concat fs.entries place other content

/-- **Writing changes the file that the path leads to** (`target`), and nothing else; and a file may
have its name. -/
theorem write_of_ok (h : fs.write path content = .ok fs') :
    fs' = fs.put (target path) content ∧
      ∃ front name, target path = front ++ [name] ∧ isName name = true := by
  rw [write] at h
  split at h
  · next folder name hwalk hlast =>
    dsimp only at h
    split at h
    · next hname =>
      rw [Bool.and_eq_true, Bool.and_eq_true, isFileName, Bool.and_eq_true, Bool.and_eq_true,
        Bool.not_eq_true', decide_eq_true_eq] at hname
      obtain ⟨⟨⟨⟨hidle, hup⟩, hname⟩, -⟩, -⟩ := hname
      have hparts : partsOf path = (partsOf path).dropLast ++ [name] :=
        (List.dropLast_append_getLast? name hlast).symm
      have htarget : target path = folder ++ [name] := by
        rw [target, hparts, destination, List.foldl_concat, walk_of_ok hwalk,
          Place.toward_of_named hidle hup, destination]
      rw [← Except.ok.inj h]
      refine ⟨?_, folder, name, htarget, hname⟩
      rw [htarget]
      rfl
    · cases h
  · cases h

/-! ### Names behind folders -/

/-- A name that is one part of a path, and not one that leads elsewhere. -/
structure IsPart (name : String) : Prop where
  unbroken : '/' ∉ name.toList
  idle : isIdle name = false
  up : name ≠ ".."

theorem IsPart.head?_ne (h : IsPart name) : name.toList.head? ≠ some '/' :=
  fun hhead ↦ h.unbroken (List.mem_of_mem_head? hhead)

/-- The parts that lead elsewhere are short. -/
theorem isPart_of_length (h : '/' ∉ name.toList) (hlength : 2 < name.length) : IsPart name where
  unbroken := h
  idle := by
    rw [isIdle, Bool.or_eq_false_iff, decide_eq_false_iff_not, decide_eq_false_iff_not]
    constructor
    all_goals rintro rfl; exact absurd hlength (by decide)
  up := by
    rintro rfl
    exact absurd hlength (by decide)

/-- The part in front of a path that starts with a slash. -/
def lead (cs : List Char) : List String :=
  if cs.head? = some '/' then [".."] else []

/-- What is between the slashes of a path. -/
def pieces (cs : List Char) : List String :=
  (Text.splitWhere (· == '/') cs).map String.ofList

theorem partsOf_eq (path : String) : partsOf path = lead path.toList ++ pieces path.toList := by
  rw [partsOf, lead, pieces]
  split <;> rfl

theorem pieces_of_notMem {cs : List Char} (h : '/' ∉ cs) : pieces cs = [String.ofList cs] := by
  have hwhole : ∀ c ∈ cs, (c == '/') = false := fun c hc ↦ beq_false_of_ne fun he ↦ h (he ▸ hc)
  rw [pieces, Text.splitWhere_eq_splitOnP, List.splitOnP_eq_singleton hwhole, List.map_singleton]

theorem pieces_append_cons (xs ys : List Char) :
    pieces (xs ++ '/' :: ys) = pieces xs ++ pieces ys := by
  rw [pieces, pieces, pieces, ← List.map_append, Text.splitWhere_eq_splitOnP,
    Text.splitWhere_eq_splitOnP, Text.splitWhere_eq_splitOnP, List.splitOnP_append_cons xs ys rfl]

/-- A part behind a slash goes on (`toward`) from where the rest of the path leads. -/
theorem destination_pieces {ys : List Char} (h : '/' ∉ ys) (front : List String) (xs : List Char) :
    destination (front ++ pieces (xs ++ '/' :: ys)) =
      (destination (front ++ pieces xs)).toward (String.ofList ys) := by
  rw [pieces_append_cons, pieces_of_notMem h, ← List.append_assoc, destination, List.foldl_concat,
    destination]

/-- **A name behind a folder leads to a file directly in the folder**, if it `IsPart` of a path. -/
theorem target_joined (h : IsPart name) (folder : String) :
    target (joined folder name) = target folder ++ [name] := by
  have hname (place : Place) : place.toward (String.ofList name.toList) = place ++ [name] := by
    rw [String.ofList_toList, Place.toward_of_named h.idle h.up]
  rw [target, target, partsOf_eq, partsOf_eq, joined, if_neg h.head?_ne]
  by_cases hnil : folder = ""
  · have hlead : lead name.toList = [] := if_neg h.head?_ne
    rw [hnil, if_pos (by rfl), String.empty_append, hlead, pieces_of_notMem h.unbroken]
    exact hname []
  rcases List.eq_nil_or_concat' folder.toList with hempty | ⟨xs, c, hfolder⟩
  · exact absurd (String.toList_eq_nil_iff.1 hempty) hnil
  by_cases hlast : folder.toList.getLast? = some '/'
  · have hc : c = '/' := by
      rw [hfolder, List.getLast?_concat] at hlast
      exact Option.some.inj hlast
    subst hc
    have hlead : lead (xs ++ '/' :: name.toList) = lead (xs ++ ['/']) := by
      cases xs <;> rfl
    have hsplit : folder.toList ++ name.toList = xs ++ '/' :: name.toList := by
      rw [hfolder, List.append_assoc, List.singleton_append]
    rw [if_pos (by simp [hlast]), String.toList_append, hsplit, hfolder, hlead,
      destination_pieces h.unbroken, destination_pieces List.not_mem_nil, hname]
    rfl
  · have hlead : lead (folder.toList ++ '/' :: name.toList) = lead folder.toList := by
      rw [hfolder]
      cases xs <;> rfl
    rw [if_neg (by simp [hnil, hlast]), String.toList_append, String.toList_append,
      List.append_assoc,
      show "/".toList ++ name.toList = '/' :: name.toList from rfl, hlead,
      destination_pieces h.unbroken, hname]

/-- Writing a name behind a folder changes the file of that name in the folder. -/
theorem write_joined_of_ok {folder : String} (hpart : IsPart name)
    (h : fs.write (joined folder name) content = .ok fs') :
    fs' = fs.put (target folder ++ [name]) content ∧ isName name = true := by
  obtain ⟨hfs, front, last, htarget, hlast⟩ := write_of_ok h
  rw [target_joined hpart] at hfs htarget
  obtain ⟨-, heq⟩ := List.append_inj' htarget rfl
  exact ⟨hfs, List.singleton_inj.1 heq ▸ hlast⟩

/-! ### Under the root -/

theorem reach_root (hroot : fs.rootBytes < maxPathBytes) : fs.reach "" = (fs, true) := by
  have hpath : fs.isPath "" = true := by
    rw [isPath, Bool.and_eq_true, decide_eq_true_eq]
    exact ⟨hroot, rfl⟩
  rw [reach, if_pos hpath]
  rfl

/-- A name that a file may have (`IsPart`) can be written directly under the root, where there are
no folders. -/
theorem write_root (hpart : IsPart name) (hname : isName name = true) (hfolders : fs.folders = [])
    (hroot : fs.rootBytes + maxNameBytes < maxPathBytes) (content : String) :
    fs.write (joined "" name) content = .ok (fs.put [name] content) := by
  have hjoined : joined "" name = name := by
    rw [joined, if_neg hpart.head?_ne, if_pos (by rfl), String.empty_append]
  have hparts : partsOf name = [name] := by
    rw [partsOf_eq, lead, if_neg hpart.head?_ne, pieces_of_notMem hpart.unbroken,
      String.ofList_toList, List.nil_append]
  have hpath : fs.isPath name = true := by
    rw [isName, Bool.and_eq_true, decide_eq_true_eq] at hname
    rw [isPath, Bool.and_eq_true, decide_eq_true_eq]
    exact ⟨by omega, hname.2⟩
  have hfile : isFileName name = true := by
    simp [isFileName, hpart.idle, hpart.up, hname]
  have hfree : fs.isFolder [name] = false := by
    simp [isFolder, hpart.up, hfolders]
  rw [hjoined, write, hparts]
  show (if (isFileName name && fs.isPath name && !fs.isFolder [name]) = true then _ else _) = _
  rw [hfile, hpath, hfree]
  rfl

end Files

end DeviceLab.Logs
