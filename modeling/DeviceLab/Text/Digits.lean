/-!
# Digits

Numbers as text, in the two bases that this library writes: `decimal` for counts and lengths,
hexadecimal (`hexText`) for digests and identifiers. A reader stands beside each writer (`number?`,
`hexValue?`).
-/

namespace DeviceLab.Text

/-! ### Hexadecimal -/

/-- The lower-case digit of a value below sixteen. -/
def hexDigit (d : Fin 16) : Char :=
  if d.val < 10 then Char.ofNat (48 + d.val) else Char.ofNat (87 + d.val)

/-- The value of a hexadecimal digit of either case. -/
def hexValue? (c : Char) : Option (Fin 16) :=
  let n := c.toNat
  if h : 48 ≤ n ∧ n ≤ 57 then some ⟨n - 48, by omega⟩
  else if h : 97 ≤ n ∧ n ≤ 102 then some ⟨n - 87, by omega⟩
  else if h : 65 ≤ n ∧ n ≤ 70 then some ⟨n - 55, by omega⟩
  else none

/-- The two digits of a byte. -/
def hexByte (b : UInt8) : List Char :=
  [hexDigit ⟨b.toNat / 16, by have := b.toNat_lt; omega⟩, hexDigit ⟨b.toNat % 16, by omega⟩]

/-- The least significant `width` hexadecimal digits of a number, most significant first. -/
def hexDigits : Nat → Nat → List (Fin 16)
  | 0, _ => []
  | width + 1, n => hexDigits width (n / 16) ++ [⟨n % 16, by omega⟩]

/-- The hexadecimal text of a number, without leading zeros. -/
def hexText (n : Nat) : List Char :=
  if _h : n < 16 then [hexDigit ⟨n, by assumption⟩]
  else hexText (n / 16) ++ [hexDigit ⟨n % 16, by omega⟩]
termination_by n
decreasing_by omega

/-! ### Decimal -/

/-- Whether a character is an ASCII decimal digit. -/
def isDigit (c : Char) : Bool :=
  48 ≤ c.toNat && c.toNat ≤ 57

/-- The decimal text of a number, without leading zeros. -/
def decimal (n : Nat) : List Char :=
  if n < 10 then [Char.ofNat (48 + n)]
  else decimal (n / 10) ++ [Char.ofNat (48 + n % 10)]
termination_by n
decreasing_by omega

/-- The number a run of digits of a base spells; `none` for an empty run or a foreign character. -/
def number? (base : Nat) (cs : List Char) : Option Nat :=
  if cs.isEmpty then none
  else cs.foldl (fun acc c ↦ do
    let n ← acc
    let d ← hexValue? c
    if d.val < base then some (n * base + d.val) else none) (some 0)

end DeviceLab.Text
