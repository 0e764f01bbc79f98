import DeviceLab.Uuid

/-!
# Aliases of names that differ from run to run

Reports that are to be compared show names that a run made up by *aliases* (`shown`): an identifier
of version 4 (`isRandom`) as `{uuid}`, one that a deployment is named after as `{d0}`, `{d1}` and so
on in the order in which the deployments were made up (`identifiers`), and the number of a task as
`#` (`tasks`). Identifiers of the plain family, which count from zero after zeros, are nobody's
invention and stand for themselves.
-/

namespace DeviceLab.Alias

open Text (isDigit number?)

/-! ### Made-up identifiers -/

/-- The digits that the identifiers of deployments start with. -/
def deploymentFamily : Nat :=
  0xd1000000

/-- The identifier that the deployment with a number is named after. -/
def deploymentId (n : Nat) : Uuid :=
  .numbered deploymentFamily n

/-- The identifier that the intention with a number is given. -/
def intentionId (n : Nat) : Uuid :=
  .numbered 0xf1000000 n

/-! ### Identifiers in a text -/

/-- The number of characters of an identifier with hyphens. -/
def width : Nat :=
  36

/-- Whether an identifier says of itself that it was drawn at random. -/
def isRandom (cs : List Char) : Bool :=
  cs[14]? = some '4' && (cs[19]?.map fun c ↦ "89ab".toList.contains c).getD false

/-- The identifier of version 4 that a text starts with. -/
def random? (cs : List Char) : Option Uuid := do
  let head := cs.take width
  guard (isRandom head && head.all fun c ↦ c.toLower = c)
  Uuid.exactly? (← Uuid.digits? (← Uuid.unhyphenate? Uuid.groups head))

/-- The number of an identifier in a family. -/
def numberIn? (family : Nat) (u : Uuid) : Option Nat :=
  let n := (u.digits.toList.drop 20).foldl (fun n d ↦ n * 16 + d.val) 0
  if u = .numbered family n then some n else none

/-- The alias of a deployment. -/
def ofDeployment (n : Nat) : List Char :=
  ['\x7b', 'd'] ++ Text.decimal n ++ ['\x7d']

/-- The alias of an identifier of version 4, if it has one. -/
def ofUuid? (u : Uuid) : Option (List Char) :=
  if (numberIn? 0 u).isSome then none
  else some (match numberIn? deploymentFamily u with
    | some n => ofDeployment n
    | none => "\x7buuid\x7d".toList)

/-- A text with identifiers replaced by their aliases. -/
def identifiers : Nat → List Char → List Char
  | 0, cs => cs
  | _ + 1, [] => []
  | fuel + 1, c :: cs =>
    match (random? (c :: cs)).bind ofUuid? with
    | some short => short ++ identifiers fuel ((c :: cs).drop width)
    | none => c :: identifiers fuel cs

/-! ### Numbers of tasks -/

/-- What stands in front of the number of a task. -/
def taskMark : List Char :=
  "task ".toList

/-- A text with the numbers of tasks replaced by their alias. -/
def tasks : Nat → List Char → List Char
  | 0, cs => cs
  | _ + 1, [] => []
  | fuel + 1, c :: cs =>
    let rest := (c :: cs).drop taskMark.length
    if taskMark.isPrefixOf (c :: cs) && (rest.head?.map isDigit).getD false then
      taskMark ++ '#' :: tasks fuel (rest.dropWhile isDigit)
    else c :: tasks fuel cs

/-- A text with made-up names replaced by their aliases. -/
def shown (s : String) : String :=
  let cs := identifiers s.length s.toList
  String.ofList (tasks cs.length cs)

/-! ### Names behind aliases -/

/-- The number of the deployment whose alias a text starts with, and the rest of the text. -/
def deployment? (cs : List Char) : Option (Nat × List Char) :=
  match cs with
  | '\x7b' :: 'd' :: ds => do
    let n ← number? 10 (ds.takeWhile isDigit)
    match ds.dropWhile isDigit with
    | '\x7d' :: rest => some (n, rest)
    | _ => none
  | _ => none

/-- A text with the aliases of deployments replaced by their identifiers. -/
def resolve : Nat → List Char → List Char
  | 0, cs => cs
  | _ + 1, [] => []
  | fuel + 1, c :: cs =>
    match deployment? (c :: cs) with
    | some (n, rest) => (deploymentId n).text.toList ++ resolve fuel rest
    | none => c :: resolve fuel cs

/-- A text with the names that its aliases stand for. -/
def meant (s : String) : String :=
  String.ofList (resolve s.length s.toList)

end DeviceLab.Alias
