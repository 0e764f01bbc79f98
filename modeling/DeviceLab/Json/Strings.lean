import DeviceLab.Alias
import DeviceLab.Json

/-!
# The strings in a value

A function on texts is carried to all strings and keys of a value (`mapText`), so that made-up names
can be shown by their aliases wherever they stand (`aliased`).
-/

namespace DeviceLab.Json

mutual
/-- A value with all its strings and keys changed. -/
def mapText (f : String → String) : Json → Json
  | .text s => .text (s.map f)
  | .list items => .list (mapItems f items)
  | .object fs => .object (mapMembers f fs)
  | j => j

/-- The items of a list with all their strings and keys changed. -/
def mapItems (f : String → String) : List Json → List Json
  | [] => []
  | j :: js => mapText f j :: mapItems f js

/-- The members of an object with all their strings and keys changed. -/
def mapMembers (f : String → String) : List (Option String × Json) → List (Option String × Json)
  | [] => []
  | (k, j) :: fs => (k.map f, mapText f j) :: mapMembers f fs
end

/-- A value in which made-up names are replaced by their aliases. -/
def aliased : Json → Json :=
  mapText Alias.shown

end DeviceLab.Json
