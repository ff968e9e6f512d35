import TraitWeave.Json.Basic

/-!
# Encoding values

Definitions are written back as JSON values. A record is an object whose members come in the order of its
fields; fields that hold nothing are left out.

* `Encode.some?`, `Encode.nonEmpty`, `Encode.whenTrue`: members that may be left out.
* `Encode.record`: the object of the members that are not.
-/

namespace TraitWeave.Encode

variable {α : Type}

/-- Texts as an array. -/
def texts (ss : List String) : Json := .arr (ss.map .str)

/-- A member that is always written. -/
def always (key : String) (v : Json) : Option (String × Json) := some (key, v)

/-- A member that is written if there is a value. -/
def some? (key : String) (encode : α → Json) : Option α → Option (String × Json)
  | some a => some (key, encode a)
  | none => none

/-- A member that is written if the list has items. -/
def nonEmpty (key : String) (encode : List α → Json) : List α → Option (String × Json)
  | [] => none
  | as => some (key, encode as)

/-- A member that is written if it is true. -/
def whenTrue (key : String) (b : Bool) : Option (String × Json) :=
  if b then some (key, .bool true) else none

/-- A natural number. -/
def natural (n : Nat) : Json := .num (.int n)

/-- A double, also where it is whole. -/
def real (x : Double) : Json := .num (.real x)

/-- The members that are not left out. -/
def record (members : List (Option (String × Json))) : Json := .obj (members.filterMap id)

end TraitWeave.Encode
