import DeviceLab.Text.Digits
import DeviceLab.Toml

/-!
# Reading TOML documents

The grammar of TOML 1.0 over a list of characters (`Toml.parse`). A `Reader` returns what it read
and the rest of the text, and `none` if the text is not a document; no reader accepts a part of
something longer where the grammar wants the whole, since every line has to end after its comment
(`lineEnd?`).
-/

namespace DeviceLab.Toml

open Text (isDigit number? hexValue?)

/-- A reader of some kind of thing. -/
abbrev Reader (α : Type) :=
  List Char → Option (α × List Char)

/-- How deep values may be nested, and how many parts a dotted key may have. -/
def depthLimit : Nat :=
  80

/-! ### Blanks, comments and line ends -/

/-- Drops spaces and tabs. -/
def skipBlanks (cs : List Char) : List Char :=
  cs.dropWhile fun c ↦ c = ' ' || c = '\t'

/-- Whether a character may stand in a comment or a literal string. -/
def isPlain (c : Char) : Bool :=
  c = '\t' || (0x20 ≤ c.toNat && c.toNat ≠ 0x7F)

/-- Drops a comment, if there is one. -/
def skipComment (cs : List Char) : List Char :=
  match cs with
  | '#' :: rest => rest.dropWhile isPlain
  | _ => cs

/-- Reads a line end. -/
def newline? : List Char → Option (List Char)
  | '\n' :: rest => some rest
  | '\r' :: '\n' :: rest => some rest
  | _ => none

/-- Reads the end of a line after its expression: blanks, a comment, and a line end or the end of
the text. -/
def lineEnd? (cs : List Char) : Option (List Char) :=
  let rest := skipComment (skipBlanks cs)
  if rest.isEmpty then some [] else newline? rest

/-- Drops blanks, comments and line ends, as they may stand between the items of an array. -/
def skipLines : Nat → List Char → List Char
  | 0, cs => cs
  | fuel + 1, cs =>
    let rest := skipComment (skipBlanks cs)
    match newline? rest with
    | some rest => skipLines fuel rest
    | none => rest

/-! ### Strings -/

/-- The character of a code point that is one. -/
def scalar? (n : Nat) : Option Char :=
  if n < 0xD800 || (0xE000 ≤ n && n < 0x110000) then some (Char.ofNat n) else none

/-- Reads an escape after its backslash. -/
def escape? : Reader Char
  | 'b' :: rest => some ('\x08', rest)
  | 't' :: rest => some ('\t', rest)
  | 'n' :: rest => some ('\n', rest)
  | 'f' :: rest => some ('\x0c', rest)
  | 'r' :: rest => some ('\r', rest)
  | '"' :: rest => some ('"', rest)
  | '\\' :: rest => some ('\\', rest)
  | 'u' :: rest => do
    if rest.length < 4 then none
    return (← scalar? (← number? 16 (rest.take 4)), rest.drop 4)
  | 'U' :: rest => do
    if rest.length < 8 then none
    return (← scalar? (← number? 16 (rest.take 8)), rest.drop 8)
  | _ => none

/-- Reads a basic string of one line after its opening mark. -/
def basic? : Nat → Reader (List Char)
  | 0, _ => none
  | _ + 1, [] => none
  | fuel + 1, c :: cs =>
    if c = '"' then some ([], cs)
    else if c = '\\' then do
      let (e, rest) ← escape? cs
      (basic? fuel rest).map fun r ↦ (e :: r.1, r.2)
    else if isPlain c then (basic? fuel cs).map fun r ↦ (c :: r.1, r.2)
    else none

/-- Reads a literal string of one line after its opening mark. -/
def literal? : Reader (List Char)
  | [] => none
  | c :: cs =>
    if c = '\'' then some ([], cs)
    else if isPlain c then (literal? cs).map fun r ↦ (c :: r.1, r.2)
    else none

/-- Drops the blanks and line ends after a backslash at the end of a line. -/
def skipFold : Nat → List Char → List Char
  | 0, cs => cs
  | fuel + 1, cs =>
    let rest := skipBlanks cs
    match newline? rest with
    | some rest => skipFold fuel rest
    | none => rest

/-- Reads a string of several lines after its opening marks; `mark` closes it, and only between
quotation marks there are escapes. Up to two marks may stand in front of the closing ones. -/
def block? (mark : Char) : Nat → Reader (List Char)
  | 0, _ => none
  | _ + 1, [] => none
  | fuel + 1, c :: cs =>
    if c = mark then
      let run := cs.takeWhile (· = mark)
      if run.length ≥ 2 then
        some (List.replicate (min run.length 4 - 2) mark, cs.drop (min run.length 4))
      else (block? mark fuel cs).map fun r ↦ (c :: r.1, r.2)
    else if c = '\\' && mark = '"' then
      match newline? (skipBlanks cs) with
      | some rest => block? mark fuel (skipFold rest.length rest)
      | none => do
        let (e, rest) ← escape? cs
        (block? mark fuel rest).map fun r ↦ (e :: r.1, r.2)
    else match newline? (c :: cs) with
      | some rest => (block? mark fuel rest).map fun r ↦ ('\n' :: r.1, r.2)
      | none =>
        if isPlain c then (block? mark fuel cs).map fun r ↦ (c :: r.1, r.2) else none

/-- Drops the line end that may follow the opening marks of a string of several lines. -/
def afterOpening (cs : List Char) : List Char :=
  (newline? cs).getD cs

/-- Reads a string of any kind. -/
def string? (cs : List Char) : Option (List Char × List Char) :=
  match cs with
  | '"' :: '"' :: '"' :: rest => block? '"' rest.length (afterOpening rest)
  | '\'' :: '\'' :: '\'' :: rest => block? '\'' rest.length (afterOpening rest)
  | '"' :: rest => basic? rest.length rest
  | '\'' :: rest => literal? rest
  | _ => none

/-! ### Keys -/

/-- Whether a character may stand in a key without quotation marks. -/
def isBare (c : Char) : Bool :=
  c.isAlphanum || c = '-' || c = '_'

/-- Reads one part of a key. -/
def simpleKey? (cs : List Char) : Option (String × List Char) :=
  match cs with
  | '"' :: rest => (basic? rest.length rest).map fun r ↦ (String.ofList r.1, r.2)
  | '\'' :: rest => (literal? rest).map fun r ↦ (String.ofList r.1, r.2)
  | _ =>
    let run := cs.takeWhile isBare
    if run.isEmpty then none else some (String.ofList run, cs.dropWhile isBare)

/-- Reads a dotted key, with blanks around its parts. -/
def keyParts? : Nat → Reader (List String)
  | 0, _ => none
  | fuel + 1, cs => do
    let (part, rest) ← simpleKey? (skipBlanks cs)
    match skipBlanks rest with
    | '.' :: rest => (keyParts? fuel rest).map fun r ↦ (part :: r.1, r.2)
    | rest => some ([part], rest)

/-- Reads a dotted key as the path to its table and its last part. -/
def key? (cs : List Char) : Option ((List String × String) × List Char) := do
  let (parts, rest) ← keyParts? (cs.length + 1) cs
  if parts.length ≥ depthLimit then none
  return ((parts.dropLast, ← parts.getLast?), rest)

/-! ### Numbers and times -/

/-- Reads digits of a base, single underscores between them allowed; the underscores are dropped. -/
def digitRun? (ok : Char → Bool) : Reader (List Char)
  | [] => none
  | c :: cs =>
    if !ok c then none
    else match cs with
      | '_' :: rest => (digitRun? ok rest).map fun r ↦ (c :: r.1, r.2)
      | d :: ds =>
        if ok d then (digitRun? ok (d :: ds)).map fun r ↦ (c :: r.1, r.2)
        else some ([c], d :: ds)
      | [] => some ([c], [])

/-- Reads a sign, if there is one; says whether it is negative. -/
def sign (cs : List Char) : Bool × List Char :=
  match cs with
  | '+' :: rest => (false, rest)
  | '-' :: rest => (true, rest)
  | _ => (false, cs)

/-- Reads the digits of a decimal integer: no leading zero before another digit. -/
def decimal? (cs : List Char) : Option (List Char × List Char) :=
  match cs with
  | '0' :: rest => some (['0'], rest)
  | _ => digitRun? isDigit cs

/-- Reads an integer of a base that a letter after a zero announces. -/
def based? (base : Nat) (cs : List Char) : Option (Int × List Char) := do
  let (ds, rest) ← digitRun? (fun c ↦ (number? base [c]).isSome) cs
  let n ← number? base ds
  if n < Nat.pow 2 63 then some (n, rest) else none

/-- Reads an integer of 64 bits. -/
def integer? (cs : List Char) : Option (Int × List Char) :=
  match cs with
  | '0' :: 'x' :: rest => based? 16 rest
  | '0' :: 'o' :: rest => based? 8 rest
  | '0' :: 'b' :: rest => based? 2 rest
  | _ => do
    let (negative, rest) := sign cs
    let (ds, rest) ← decimal? rest
    let n ← number? 10 ds
    if negative then if n ≤ Nat.pow 2 63 then some (-(n : Int), rest) else none
    else if n < Nat.pow 2 63 then some (n, rest) else none

/-- Whether `m * 10 ^ e` is too large for a binary64 number, where `m` has at most `width`
digits. -/
def overflows (m : Nat) (width : Nat) (e : Int) : Bool :=
  if m = 0 || (width : Int) + e < 300 then false
  else if e > 400 then true
  else
    let bound := Nat.pow 2 1024 - Nat.pow 2 970
    if e ≥ 0 then bound ≤ m * Nat.pow 10 e.toNat else bound * Nat.pow 10 (-e).toNat ≤ m

/-- Reads a floating-point number that is written with digits. -/
def digitFloat? (cs : List Char) : Option (List Char) := do
  let (negative, rest) := sign cs
  let (whole, rest) ← decimal? rest
  let (part, rest) ← match rest with
    | '.' :: rest => digitRun? isDigit rest
    | _ => some ([], rest)
  let (power, rest) ← match rest with
    | c :: more =>
      if c = 'e' || c = 'E' then do
        let (down, more) := sign more
        let (ds, more) ← digitRun? isDigit more
        let n ← number? 10 ds
        some (some (if down then -(n : Int) else n), more)
      else some (none, rest)
    | [] => some (none, rest)
  if part.isEmpty && power.isNone then none
  let digits := whole ++ part
  let m ← number? 10 digits
  let e := power.getD 0 - part.length
  if !negative && overflows m digits.length e then none
  return rest

/-- Reads a floating-point number, special ones included. -/
def float? (cs : List Char) : Option (List Char) :=
  (digitFloat? cs).or (match (sign cs).2 with
    | 'i' :: 'n' :: 'f' :: rest => some rest
    | 'n' :: 'a' :: 'n' :: rest => some rest
    | _ => none)

/-- Reads a number of exactly `width` digits between two bounds. -/
def field? (width low high : Nat) (cs : List Char) : Option (Nat × List Char) := do
  let ds := cs.take width
  if ds.length < width || !ds.all isDigit then none
  let n ← number? 10 ds
  if low ≤ n && n ≤ high then some (n, cs.drop width) else none

/-- Reads a fixed character. -/
def char? (c : Char) : List Char → Option (List Char)
  | d :: rest => if d = c then some rest else none
  | [] => none

/-- The number of days of a month. -/
def daysIn (year month : Nat) : Nat :=
  if month = 2 then
    if year % 4 = 0 && (year % 100 ≠ 0 || year % 400 = 0) then 29 else 28
  else if month = 4 || month = 6 || month = 9 || month = 11 then 30
  else 31

/-- Reads a date. -/
def date? (cs : List Char) : Option (List Char) := do
  let (year, rest) ← field? 4 0 9999 cs
  let (month, rest) ← field? 2 1 12 (← char? '-' rest)
  let (_, rest) ← field? 2 1 (daysIn year month) (← char? '-' rest)
  return rest

/-- Reads a time of day. -/
def time? (cs : List Char) : Option (List Char) := do
  let (_, rest) ← field? 2 0 23 cs
  let (_, rest) ← field? 2 0 59 (← char? ':' rest)
  let (_, rest) ← field? 2 0 60 (← char? ':' rest)
  match rest with
  | '.' :: ds => if (ds.takeWhile isDigit).isEmpty then none else some (ds.dropWhile isDigit)
  | _ => some rest

/-- Reads an offset from universal time, if there is one. -/
def offset? (cs : List Char) : Option (List Char) :=
  match cs with
  | c :: rest =>
    if c = 'Z' || c = 'z' then some rest
    else if c = '+' || c = '-' then do
      let (_, rest) ← field? 2 0 23 rest
      let (_, rest) ← field? 2 0 59 (← char? ':' rest)
      return rest
    else some cs
  | [] => some []

/-- Whether a text starts like a date or a time of day. -/
def looksDated (cs : List Char) : Bool :=
  let n := (cs.takeWhile isDigit).length
  match cs.drop n with
  | '-' :: _ => n = 4
  | ':' :: _ => n = 2
  | _ => false

/-- Reads a date, a time of day, or both with an offset. -/
def moment? (cs : List Char) : Option (List Char) :=
  match cs.drop 2 with
  | ':' :: _ => time? cs
  | _ => do
    let rest ← date? cs
    match rest with
    | c :: more =>
      if c = 'T' || c = 't' then offset? (← time? more)
      else if c = ' ' && (more.take 2).all isDigit && (more.drop 2).head? = some ':' then
        offset? (← time? more)
      else some rest
    | [] => some []

/-! ### Values -/

mutual
/-- Reads a value; the fuel bounds the depth of nesting. -/
def value? : Nat → Nat → Reader Value
  | 0, _, _ => none
  | fuel + 1, depth, cs =>
    match cs with
    | [] => none
    | c :: rest =>
      if c = '"' || c = '\'' then
        (string? cs).map fun r ↦ (.text (String.ofList r.1), r.2)
      else if c = '[' then
        if depth + 1 ≥ depthLimit then none
        else (items? fuel (depth + 1) rest).map fun r ↦ (.list r.1, r.2)
      else if c = '{' then
        if depth + 1 ≥ depthLimit then none
        else match skipBlanks rest with
          | '}' :: rest => some (.table [], rest)
          | rest => do
            let (es, rest) ← members? fuel (depth + 1) [] rest
            return (.table (closeEntries es), rest)
      else if c = 't' then
        if "true".toList.isPrefixOf cs then some (.boolean true, cs.drop 4) else none
      else if c = 'f' then
        if "false".toList.isPrefixOf cs then some (.boolean false, cs.drop 5) else none
      else if looksDated cs then (moment? cs).map fun rest ↦ (.moment, rest)
      else match float? cs with
        | some rest => some (.float, rest)
        | none => (integer? cs).map fun r ↦ (.integer r.1, r.2)

/-- Reads the items of an array up to its closing bracket; a comma may follow the last one. -/
def items? : Nat → Nat → Reader (List Value)
  | 0, _, _ => none
  | fuel + 1, depth, cs =>
    match skipLines (cs.length + 1) cs with
    | ']' :: rest => some ([], rest)
    | rest => do
      let (v, rest) ← value? fuel depth rest
      match skipLines (rest.length + 1) rest with
      | ',' :: rest => (items? fuel depth rest).map fun r ↦ (v :: r.1, r.2)
      | ']' :: rest => some ([v], rest)
      | _ => none

/-- Reads the entries of an inline table up to its closing brace and adds them to what it holds. -/
def members? : Nat → Nat → List (String × Item) → Reader (List (String × Item))
  | 0, _, _, _ => none
  | fuel + 1, depth, es, cs => do
    let ((path, key), rest) ← key? cs
    let rest ← char? '=' rest
    let (v, rest) ← value? fuel depth (skipBlanks rest)
    let es ← Entries.addValue path key v es
    match skipBlanks rest with
    | ',' :: rest => members? fuel depth es rest
    | '}' :: rest => some (es, rest)
    | _ => none
end

/-! ### Documents -/

/-- A document as far as it is read: its entries, and the path of the table that the last header
opened. -/
structure Document where
  entries : Entries
  opened : List String

/-- Reads the line of a header after its first bracket. -/
def header? (d : Document) (cs : List Char) : Option (Document × List Char) :=
  match cs with
  | '[' :: rest => do
    let ((path, key), rest) ← key? rest
    let rest ← char? ']' (← char? ']' rest)
    return (⟨← Entries.openRow path key d.entries, path ++ [key]⟩, rest)
  | _ => do
    let ((path, key), rest) ← key? cs
    let rest ← char? ']' rest
    return (⟨← Entries.openTable path key d.entries, path ++ [key]⟩, rest)

/-- Reads a line with a key and a value. -/
def keyValue? (d : Document) (cs : List Char) : Option (Document × List Char) := do
  let ((path, key), rest) ← key? cs
  let rest := skipBlanks (← char? '=' rest)
  let (v, rest) ← value? (rest.length + 1) 0 rest
  return (⟨← Entries.addUnder d.opened path key v d.entries, d.opened⟩, rest)

/-- Reads the lines of a document. -/
def lines? : Nat → Document → List Char → Option Document
  | 0, _, _ => none
  | fuel + 1, d, cs =>
    match skipBlanks cs with
    | [] => some d
    | '[' :: rest => do
      let (d, rest) ← header? d rest
      lines? fuel d (← lineEnd? rest)
    | c :: rest =>
      if c = '#' || c = '\n' || c = '\r' then do
        lines? fuel d (← lineEnd? (c :: rest))
      else do
        let (d, rest) ← keyValue? d (c :: rest)
        lines? fuel d (← lineEnd? rest)

/-- Reads a document; a byte order mark may stand in front of it. -/
def parse (s : String) : Option Entries :=
  let cs := match s.toList with
    | '\ufeff' :: rest => rest
    | cs => cs
  (lines? (cs.length + 1) ⟨[], []⟩ cs).map (·.entries)

end DeviceLab.Toml
