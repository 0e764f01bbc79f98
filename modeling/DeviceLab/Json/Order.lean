import DeviceLab.Json.Printer

/-!
# Order of JSON values

Values are put in order by their texts (`sorted`), in which the keys of objects are in order too
(`canonical`).
-/

namespace DeviceLab.Json

/-- Items in the order of a text. -/
def sortBy (text : α → String) (items : List α) : List α :=
  items.mergeSort fun a b ↦ !(text b < text a)

mutual
/-- A value with the keys of all objects in order. -/
def canonical : Json → Json
  | .list items => .list (canonicalItems items)
  | .object fs => .object (sortBy (fun f ↦ f.1.getD "") (canonicalMembers fs))
  | j => j

/-- The items of a list with the keys of all objects in order. -/
def canonicalItems : List Json → List Json
  | [] => []
  | j :: js => canonical j :: canonicalItems js

/-- The members of an object with the keys of all objects in their values in order. -/
def canonicalMembers : List (Option String × Json) → List (Option String × Json)
  | [] => []
  | (k, j) :: fs => (k, canonical j) :: canonicalMembers fs
end

/-- A list of values in order. -/
def sorted (items : List Json) : Json :=
  .list (sortBy (fun j ↦ render (canonical j)) items)

/-- Values collected under their keys. -/
def grouped (items : List (String × Json)) : Json :=
  fields ((items.map (·.1)).eraseDups.map fun k ↦
    (k, .list (items.filterMap fun e ↦ if e.1 = k then some e.2 else none)))

end DeviceLab.Json
