/-!
# JSON values

A `Json` value keeps what its text said and no more: the fields of an object stay in order and may
repeat (`valuesOf`), a number remembers whether it was written as an integer (`Json.Numeral`), and a
string that holds an unpaired surrogate has no text. What a reader of a particular type makes of
repetitions or of such numbers is for that reader to say.
-/

namespace DeviceLab

/-- A number as it was written: its sign, its digits if it is an integer, and whether it is one. -/
structure Json.Numeral where
  negative : Bool
  magnitude : Nat
  integral : Bool
  deriving DecidableEq

/-- A JSON value. A string or a key is `none` when it holds an unpaired surrogate. -/
inductive Json
  | null
  | bool (b : Bool)
  | num (n : Json.Numeral)
  | text (s : Option String)
  | list (items : List Json)
  | object (fields : List (Option String × Json))

namespace Json

/-- A natural number as a value. -/
def nat (n : Nat) : Json :=
  .num ⟨false, n, true⟩

/-- A text as a value. -/
def str (s : String) : Json :=
  .text (some s)

/-- An object with the given fields. -/
def fields (fs : List (String × Json)) : Json :=
  .object (fs.map fun f ↦ (some f.1, f.2))

/-- An object with one field, the form of a variant that carries data. -/
def tagged (tag : String) (j : Json) : Json :=
  fields [(tag, j)]

/-- The values stored under a key, in order. -/
def valuesOf (key : String) (fs : List (Option String × Json)) : List Json :=
  fs.filterMap fun f ↦ if f.1 = some key then some f.2 else none

/-- The last value stored under a key of an object. -/
def field? (j : Json) (key : String) : Option Json :=
  match j with
  | .object fs => (valuesOf key fs).getLast?
  | _ => none

/-- An object with what is stored under a key changed. -/
def mapMember (key : String) (f : Json → Json) : Json → Json
  | .object fs => .object (fs.map fun e ↦ if e.1 = some key then (e.1, f e.2) else e)
  | j => j

end Json

end DeviceLab
