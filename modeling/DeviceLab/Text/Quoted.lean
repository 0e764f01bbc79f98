import DeviceLab.Text.Digits
import DeviceLab.Text.Mark

/-!
# Quoted text

How log lines show a text between quotation marks (`quoted`): what can be seen stands for itself,
the usual controls have an escape of two characters, and everything else is spelled by its code
point (`quotedChar`).
-/

namespace DeviceLab.Text

/-- The spelling of one character between quotation marks. -/
def quotedChar (c : Char) : List Char :=
  if c = '\x00' then ['\\', '0']
  else if c = '\t' then ['\\', 't']
  else if c = '\n' then ['\\', 'n']
  else if c = '\r' then ['\\', 'r']
  else if c = '"' then ['\\', '"']
  else if c = '\\' then ['\\', '\\']
  else if hasMark c then [c]
  else ['\\', 'u', '{'] ++ hexText c.toNat ++ ['}']

/-- A text between quotation marks. -/
def quoted (s : String) : String :=
  String.ofList ('"' :: (s.toList.flatMap quotedChar ++ ['"']))

end DeviceLab.Text
