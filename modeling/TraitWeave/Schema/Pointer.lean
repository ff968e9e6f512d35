import TraitWeave.Json.Basic
import TraitWeave.Text.Pieces

/-!
# Pointers into values

A pointer names a part of a value by the steps that lead to it, each behind a slash. Inside a step a tilde
and a slash are written as `~0` and `~1`.

* `Pointer.escape`, `Pointer.unescape`: a step as it is written, and back.
* `Pointer.text`: the pointer of steps.
* `Pointer.field?`: the steps as a field is named in messages.
* `Pointer.follow`: the part of a value.
-/

namespace TraitWeave.Pointer

/-- A step as it is written. -/
def escape (step : String) : String :=
  String.ofList (step.toList.flatMap fun c =>
    if c = '~' then ['~', '0'] else if c = '/' then ['~', '1'] else [c])

/-- Replace a tilde and the mark after it by a character. -/
def replaceMark (mark sign : Char) : List Char → List Char
  | [] => []
  | [c] => [c]
  | c :: d :: cs => if c = '~' ∧ d = mark then sign :: replaceMark mark sign cs
    else c :: replaceMark mark sign (d :: cs)

/-- A written step read back: the slashes first, then the tildes. -/
def unescape (written : String) : String :=
  String.ofList (replaceMark '0' '~' (replaceMark '1' '/' written.toList))

/-- The pointer of steps; the whole value has the empty one. -/
def text (steps : List String) : String :=
  Text.joined "" (steps.map fun s => "/" ++ escape s)

/-- The steps of a pointer, read back. -/
def steps (pointer : String) : List String :=
  ((Text.pieces (· == '/') pointer.toList).drop 1).map fun p => unescape (String.ofList p)

/-- The number that a step writes, if it fits into 64 bits; a plus sign may stand in front. -/
def position? (step : String) : Option Nat :=
  let digits := match step.toList with
    | '+' :: ds => ds
    | ds => ds
  if digits.isEmpty || !digits.all Char.isDigit then none
  else
    let n := digits.foldl (fun n d => 10 * n + (d.toNat - 48)) 0
    if n < UInt64.size then some n else none

/-- A step added to the name of a field: positions in brackets, other steps after a dot. -/
def addToField (field step : String) : String :=
  if (position? step).isSome then field ++ "[" ++ step ++ "]"
  else (if field.isEmpty then field else field ++ ".") ++ step

/-- The field that a pointer names; that of the whole value has no name. -/
def field? (pointer : String) : Option String :=
  let field := (steps pointer).foldl addToField ""
  if field.isEmpty then none else some field

/-- The part of a value to which a step leads. -/
def step? (v : Json) (s : String) : Option Json :=
  match v with
  | .obj ms => Table.get? ms s
  | .arr items => (position? s).bind (items[·]?)
  | _ => none

/-- The part of a value to which steps lead. -/
def follow (v : Json) : List String → Option Json
  | [] => some v
  | s :: rest => (step? v s).bind fun w => follow w rest

end TraitWeave.Pointer
