import DeviceLab.Json
import DeviceLab.Text.Digits

/-!
# Writing JSON text

The shortest text of a value (`render`): no blanks, escapes only where the grammar asks for them
(`spellChar`).
-/

namespace DeviceLab.Json

open Text (decimal hexDigits hexDigit)

/-- The spelling of one character inside a string. -/
def spellChar (c : Char) : List Char :=
  if c = '"' then ['\\', '"']
  else if c = '\\' then ['\\', '\\']
  else if c = '\x08' then ['\\', 'b']
  else if c = '\x0c' then ['\\', 'f']
  else if c = '\n' then ['\\', 'n']
  else if c = '\r' then ['\\', 'r']
  else if c = '\t' then ['\\', 't']
  else if c.toNat < 0x20 then ['\\', 'u'] ++ (hexDigits 4 c.toNat).map hexDigit
  else [c]

/-- The spelling of a string; one without a text is written as a lone surrogate. -/
def spellText : Option String → String
  | some s => String.ofList ('"' :: (s.toList.flatMap spellChar ++ ['"']))
  | none => "\"\\ud800\""

/-- The spelling of a number. -/
def Numeral.spell (n : Numeral) : String :=
  String.ofList ((if n.negative then ['-'] else []) ++ decimal n.magnitude ++
    (if n.integral then [] else ['.', '0']))

mutual
/-- The text of a value. -/
def render : Json → String
  | .null => "null"
  | .bool true => "true"
  | .bool false => "false"
  | .num n => n.spell
  | .text s => spellText s
  | .list items => "[" ++ renderItems items ++ "]"
  | .object fs => "\x7b" ++ renderMembers fs ++ "\x7d"

/-- The items of a list with commas between them. -/
def renderItems : List Json → String
  | [] => ""
  | [j] => render j
  | j :: js => render j ++ "," ++ renderItems js

/-- The members of an object with commas between them. -/
def renderMembers : List (Option String × Json) → String
  | [] => ""
  | [(k, j)] => spellText k ++ ":" ++ render j
  | (k, j) :: fs => spellText k ++ ":" ++ render j ++ "," ++ renderMembers fs
end

end DeviceLab.Json
