/-!
# TOML documents

The values of a document (`Value`) and the tables it is built from (`Item`). A table knows how it
came about, since that decides what may still be added to it: a table is implicit until a header
names it (`openTable`), and dotted if a dotted key created it (`addUnder`). Inline tables and arrays
are values, and values are never extended.
-/

namespace DeviceLab.Toml

/-- A value behind a key. What a document only has to spell correctly is kept as its kind. -/
inductive Value
  | integer (n : Int)
  | text (s : String)
  | boolean (b : Bool)
  | float
  | moment
  | list (items : List Value)
  | table (entries : List (String × Value))

/-- What stands under a key of a table. -/
inductive Item
  | leaf (v : Value)
  | table (implicit dotted : Bool) (entries : List (String × Item))
  | tables (rows : List (List (String × Item)))

/-- The entries of a table. -/
abbrev Entries :=
  List (String × Item)

namespace Entries

/-- Replaces what stands under a key that is there. -/
def replace (key : String) (item : Item) (es : Entries) : Entries :=
  es.map fun e ↦ if e.1 = key then (key, item) else e

/-- Puts an item under a key, in the place of what stands there. -/
def put (key : String) (item : Item) (es : Entries) : Entries :=
  if (es.lookup key).isSome then replace key item es else es ++ [(key, item)]

/-- Changes the table that a path leads to, by `f`, creating tables on the way. `dotted` says that
the path belongs to a dotted key, which may not enter a table that a header named. -/
def descend (dotted : Bool) (f : Bool → Entries → Option Entries) :
    List String → Bool → Entries → Option Entries
  | [], isDotted, es => f isDotted es
  | key :: path, _, es =>
    match es.lookup key with
    | none => (descend dotted f path dotted []).map fun sub ↦ put key (.table true dotted sub) es
    | some (.table implicit isDotted sub) =>
      if dotted && !implicit then none
      else (descend dotted f path isDotted sub).map fun sub ↦
        put key (.table implicit isDotted sub) es
    | some (.tables rows) =>
      match rows.getLast? with
      | none => none
      | some row => (descend dotted f path false row).map fun row ↦
          put key (.tables (rows.dropLast ++ [row])) es
    | some (.leaf _) => none

/-- Adds a value under a dotted path in a table. A path of one key adds to the table itself, a
longer one only to tables that dotted keys created; what is there already is never replaced. -/
def addValue (path : List String) (key : String) (v : Value) (es : Entries) : Option Entries :=
  descend true (fun isDotted sub ↦
    if isDotted = path.isEmpty || (sub.lookup key).isSome then none
    else some (sub ++ [(key, .leaf v)])) path false es

/-- Opens the table of a header: it has to be new or implicit. -/
def openTable (path : List String) (key : String) (es : Entries) : Option Entries :=
  descend false (fun _ sub ↦
    match sub.lookup key with
    | none => some (sub ++ [(key, .table false false [])])
    | some (.table true false inner) => some (put key (.table false false inner) sub)
    | some _ => none) path false es

/-- Opens a further table of an array of tables. -/
def openRow (path : List String) (key : String) (es : Entries) : Option Entries :=
  descend false (fun _ sub ↦
    match sub.lookup key with
    | none => some (sub ++ [(key, .tables [[]])])
    | some (.tables rows) => some (put key (.tables (rows ++ [[]])) sub)
    | some _ => none) path false es

/-- Adds a value to the table that the last header opened. -/
def addUnder (opened : List String) (path : List String) (key : String) (v : Value)
    (es : Entries) : Option Entries :=
  descend false (fun _ sub ↦ addValue path key v sub) opened false es

end Entries

/-- The integer under a top-level key; `none` if another kind of value stands there. -/
def Item.integer? : Item → Option Int
  | .leaf (.integer n) => some n
  | _ => none

/-- The text under a top-level key; `none` if another kind of value stands there. -/
def Item.text? : Item → Option String
  | .leaf (.text s) => some s
  | _ => none

mutual
/-- A closed value for the entries of an inline table. -/
def Item.close : Item → Value
  | .leaf v => v
  | .table _ _ es => .table (closeEntries es)
  | .tables rows => .list (closeRows rows)

/-- Closed values for the entries of a table. -/
def closeEntries : List (String × Item) → List (String × Value)
  | [] => []
  | (k, i) :: es => (k, i.close) :: closeEntries es

/-- Closed values for the tables of an array of tables. -/
def closeRows : List (List (String × Item)) → List Value
  | [] => []
  | r :: rs => .table (closeEntries r) :: closeRows rs
end

end DeviceLab.Toml
