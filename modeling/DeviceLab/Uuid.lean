import DeviceLab.Text.Digits

/-!
# Universally unique identifiers

A `Uuid` is its thirty-two hexadecimal digits. It is written in lower case with hyphens
(`Uuid.text`), and read back (`Uuid.ofText?`) from that form, from the form without hyphens, and
from the hyphenated form in braces or after `urn:uuid:`.
-/

namespace DeviceLab

open Text (hexDigit hexValue? hexDigits)

/-- An identifier of 128 bits, as its hexadecimal digits. -/
structure Uuid where
  digits : Vector (Fin 16) 32
  deriving DecidableEq

namespace Uuid

/-- The identifier with the given digits, missing ones taken as zero. -/
def ofDigits (ds : List (Fin 16)) : Uuid :=
  ⟨Vector.ofFn fun i ↦ ds.getD i.val 0⟩

/-- The identifier of version 4 that ends in a number and starts with the digits of a family. -/
def numbered (family : Nat) (n : Nat) : Uuid :=
  ofDigits (hexDigits 8 family ++ hexDigits 4 0 ++ hexDigits 4 0x4000 ++ hexDigits 4 0x8000 ++
    hexDigits 12 n)

/-! ### Text -/

/-- The groups of digits that hyphens separate. -/
def groups : List Nat :=
  [8, 4, 4, 4, 12]

/-- Writes digits in groups with hyphens between them. -/
def hyphenate : List Nat → List Char → List Char
  | [], _ => []
  | [n], cs => cs.take n
  | n :: ns, cs => cs.take n ++ '-' :: hyphenate ns (cs.drop n)

/-- The hyphenated lower-case text. -/
def text (u : Uuid) : String :=
  String.ofList (hyphenate groups (u.digits.toList.map hexDigit))

/-- The digits of a list of characters, all of which have to be hexadecimal. -/
def digits? (cs : List Char) : Option (List (Fin 16)) :=
  cs.mapM hexValue?

/-- Undoes `hyphenate`: the characters without their hyphens, if these stand where they belong. -/
def unhyphenate? : List Nat → List Char → Option (List Char)
  | [], cs => if cs.isEmpty then some [] else none
  | [n], cs => if cs.length = n then some cs else none
  | n :: ns, cs =>
    match cs.drop n with
    | '-' :: rest => (unhyphenate? ns rest).map (cs.take n ++ ·)
    | _ => none

/-- What stands inside braces or after the name of the scheme; any other text is its own core. -/
def core (cs : List Char) : List Char :=
  match cs with
  | '{' :: rest =>
    if cs.length = 38 && rest.getLast? = some '}' then rest.dropLast else cs
  | _ =>
    if cs.length = 45 && (cs.take 9).map Char.toLower = "urn:uuid:".toList then cs.drop 9 else cs

/-- The identifier with exactly the given digits. -/
def exactly? (ds : List (Fin 16)) : Option Uuid :=
  if h : ds.length = 32 then some ⟨⟨ds.toArray, by simpa using h⟩⟩ else none

/-- Reads an identifier in any of its forms. -/
def ofText? (s : String) : Option Uuid := do
  let cs := s.toList
  let bare ← if cs.length = 32 then some cs else unhyphenate? groups (core cs)
  exactly? (← digits? bare)

end Uuid

end DeviceLab
