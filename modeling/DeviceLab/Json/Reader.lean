import DeviceLab.Json
import DeviceLab.Text.Digits

/-!
# Reading JSON text

The grammar of RFC 8259 over a list of characters. `Json.parse` reads one value with blanks around
it and accepts nothing else; every reader below returns what it read and the rest of the text. The
readers of nested values (`value?`, `items?`, `members?`) count their depth by fuel, and the length
of the text is always enough.
-/

namespace DeviceLab.Json

open Text (hexValue? isDigit number?)

/-! ### Blanks and words -/

/-- Whether a character may stand between the tokens of a JSON text. -/
def isSpace (c : Char) : Bool :=
  c = ' ' || c = '\n' || c = '\t' || c = '\r'

/-- Drops the blanks in front of a token. -/
def skip (cs : List Char) : List Char :=
  cs.dropWhile isSpace

/-- Reads a fixed word. -/
def word? (w : String) (cs : List Char) : Option (List Char) :=
  if w.toList.isPrefixOf cs then some (cs.drop w.length) else none

/-! ### Numbers -/

/-- Reads the part of a number from the decimal point on; says whether there was one. -/
def fraction? (cs : List Char) : Option (Bool × List Char) :=
  match cs with
  | '.' :: ds =>
    let run := ds.takeWhile isDigit
    if run.isEmpty then none else some (true, ds.dropWhile isDigit)
  | _ => some (false, cs)

/-- Reads the exponent of a number; says whether there was one. -/
def exponent? (cs : List Char) : Option (Bool × List Char) :=
  match cs with
  | c :: ds =>
    if c = 'e' || c = 'E' then
      let es := match ds with
        | '+' :: es => es
        | '-' :: es => es
        | es => es
      if (es.takeWhile isDigit).isEmpty then none else some (true, es.dropWhile isDigit)
    else some (false, cs)
  | [] => some (false, [])

/-- Reads a number: no leading zeros, digits on both sides of a point. -/
def numeral? (cs : List Char) : Option (Numeral × List Char) := do
  let (negative, cs) := match cs with
    | '-' :: ds => (true, ds)
    | ds => (false, ds)
  let run := cs.takeWhile isDigit
  if run.length > 1 && run.head? = some '0' then none
  let magnitude ← number? 10 run
  let (point, cs) ← fraction? (cs.dropWhile isDigit)
  let (power, cs) ← exponent? cs
  return (⟨negative, magnitude, !point && !power⟩, cs)

/-! ### Strings -/

/-- The value of four hexadecimal digits. -/
def unit? (a b c d : Char) : Option Nat :=
  number? 16 [a, b, c, d]

/-- Whether a number is the first half of a surrogate pair. -/
def isHigh (n : Nat) : Bool :=
  0xD800 ≤ n && n < 0xDC00

/-- Whether a number is the second half of a surrogate pair. -/
def isLow (n : Nat) : Bool :=
  0xDC00 ≤ n && n < 0xE000

/-- The character of an escape with one letter. -/
def plainEscape? (c : Char) : Option Char :=
  match c with
  | '"' => some '"'
  | '\\' => some '\\'
  | '/' => some '/'
  | 'b' => some '\x08'
  | 'f' => some '\x0c'
  | 'n' => some '\n'
  | 'r' => some '\r'
  | 't' => some '\t'
  | _ => none

/-- A character in front of a string that may have no text. -/
def consChar (c : Char) (s : Option (List Char)) : Option (List Char) :=
  s.map (c :: ·)

/-- Reads a string after its opening quotation mark. The text is `none` if a surrogate in it has no
partner. -/
def stringBody? : Nat → List Char → Option (Option (List Char) × List Char)
  | 0, _ => none
  | _ + 1, [] => none
  | fuel + 1, c :: cs =>
    if c = '"' then some (some [], cs)
    else if c.toNat < 0x20 then none
    else if c ≠ '\\' then (stringBody? fuel cs).map fun r ↦ (consChar c r.1, r.2)
    else match cs with
      | 'u' :: a :: b :: d :: e :: rest => do
        let n ← unit? a b d e
        if isHigh n then
          match rest with
          | '\\' :: 'u' :: a' :: b' :: d' :: e' :: rest' => do
            let m ← unit? a' b' d' e'
            if isLow m then
              let c := Char.ofNat (0x10000 + (n - 0xD800) * 0x400 + (m - 0xDC00))
              (stringBody? fuel rest').map fun r ↦ (consChar c r.1, r.2)
            else (stringBody? fuel rest).map fun r ↦ (none, r.2)
          | _ => (stringBody? fuel rest).map fun r ↦ (none, r.2)
        else if isLow n then (stringBody? fuel rest).map fun r ↦ (none, r.2)
        else (stringBody? fuel rest).map fun r ↦ (consChar (Char.ofNat n) r.1, r.2)
      | e :: rest => do
        let c ← plainEscape? e
        (stringBody? fuel rest).map fun r ↦ (consChar c r.1, r.2)
      | [] => none

/-- Reads a string after its opening quotation mark, as a value or a key. -/
def string? (cs : List Char) : Option (Option String × List Char) :=
  (stringBody? cs.length cs).map fun r ↦ (r.1.map String.ofList, r.2)

/-! ### Values -/

mutual
/-- Reads a value; there are no blanks in front of it. -/
def value? : Nat → List Char → Option (Json × List Char)
  | 0, _ => none
  | fuel + 1, cs =>
    match cs with
    | 'n' :: _ => (word? "null" cs).map (.null, ·)
    | 't' :: _ => (word? "true" cs).map (.bool true, ·)
    | 'f' :: _ => (word? "false" cs).map (.bool false, ·)
    | '"' :: rest => (string? rest).map fun r ↦ (.text r.1, r.2)
    | '[' :: rest =>
      match skip rest with
      | ']' :: rest => some (.list [], rest)
      | rest => (items? fuel rest).map fun r ↦ (.list r.1, r.2)
    | '{' :: rest =>
      match skip rest with
      | '}' :: rest => some (.object [], rest)
      | rest => (members? fuel rest).map fun r ↦ (.object r.1, r.2)
    | _ => (numeral? cs).map fun r ↦ (.num r.1, r.2)

/-- Reads the items of a list up to its closing bracket; there is at least one. -/
def items? : Nat → List Char → Option (List Json × List Char)
  | 0, _ => none
  | fuel + 1, cs => do
    let (item, rest) ← value? fuel cs
    match skip rest with
    | ',' :: rest => (items? fuel (skip rest)).map fun r ↦ (item :: r.1, r.2)
    | ']' :: rest => some ([item], rest)
    | _ => none

/-- Reads the members of an object up to its closing brace; there is at least one. -/
def members? : Nat → List Char → Option (List (Option String × Json) × List Char)
  | 0, _ => none
  | fuel + 1, cs => do
    match cs with
    | '"' :: rest =>
      let (key, rest) ← string? rest
      match skip rest with
      | ':' :: rest =>
        let (item, rest) ← value? fuel (skip rest)
        match skip rest with
        | ',' :: rest => (members? fuel (skip rest)).map fun r ↦ ((key, item) :: r.1, r.2)
        | '}' :: rest => some ([(key, item)], rest)
        | _ => none
      | _ => none
    | _ => none
end

/-- Reads a whole text as one value. -/
def parse (s : String) : Option Json := do
  let cs := skip s.toList
  let (j, rest) ← value? (cs.length + 1) cs
  if (skip rest).isEmpty then some j else none

end DeviceLab.Json
