import TraitWeave.Schema.Draft

/-!
# Values as schemas see them

Schemas tell values apart by their types and compare them: numbers by value, all else part by part.

* `hasType`: the types of a value.
* `equal`, `nearlyEqual`: equality of values.
* `allDistinct`: no two items are equal.
-/

namespace TraitWeave.Schema

/-- A value that counts as an integer. -/
def isInteger (d : Draft) : Json → Bool
  | .num (.int _) => true
  | .num (.real x) => d != .four && x.isWhole
  | _ => false

/-- The value has a type. -/
def hasType (d : Draft) (type : String) (v : Json) : Bool :=
  match v with
  | .null => type == "null"
  | .bool _ => type == "boolean"
  | .num _ => type == "number" || (type == "integer" && isInteger d v)
  | .str _ => type == "string"
  | .arr _ => type == "array"
  | .obj _ => type == "object"

/-- Integers are equal when they are the same, other numbers when their doubles are. -/
def sameNumber : Number → Number → Bool
  | .int a, .int b => a == b
  | a, b => a.toDouble.sameValue b.toDouble

mutual

/-- Equality of values as schemas see it: `1` and `1.0` are equal, and members count in their order. -/
def equal : Json → Json → Bool
  | .null, .null => true
  | .bool a, .bool b => a == b
  | .num a, .num b => sameNumber a b
  | .str a, .str b => a == b
  | .arr xs, .arr ys => equalItems xs ys
  | .obj ms, .obj ns => equalMembers ms ns
  | _, _ => false

/-- Item by item. -/
def equalItems : List Json → List Json → Bool
  | [], [] => true
  | x :: xs, y :: ys => equal x y && equalItems xs ys
  | _, _ => false

/-- Member by member. -/
def equalMembers : List (String × Json) → List (String × Json) → Bool
  | [], [] => true
  | (k, v) :: ms, (l, w) :: ns => k == l && equal v w && equalMembers ms ns
  | _, _ => false

end

/-- The distance from one to the next double. -/
def tolerance : Double := ⟨false, Nat.pow 2 52, -104⟩

/-- Equality of an expected value and another: between numbers, a small distance does not count. -/
def nearlyEqual : Json → Json → Bool
  | .num a, .num b => ((a.toDouble.distance b.toDouble).any fun x => x.compare tolerance == .lt)
  | v, w => equal v w

/-- Whether two equal numbers are not the two zeros of doubles. -/
def sameZero (a b : Number) : Bool := !a.toDouble.isZero || a.toDouble.negative == b.toDouble.negative

mutual

/-- Whether equal values have the same zeros. -/
def sameZeros : Json → Json → Bool
  | .num a, .num b => sameZero a b
  | .arr xs, .arr ys => sameZerosOfItems xs ys
  | .obj ms, .obj ns => sameZerosOfMembers ms ns
  | _, _ => true

/-- Item by item. -/
def sameZerosOfItems : List Json → List Json → Bool
  | x :: xs, y :: ys => sameZeros x y && sameZerosOfItems xs ys
  | _, _ => true

/-- Member by member. -/
def sameZerosOfMembers : List (String × Json) → List (String × Json) → Bool
  | (_, v) :: ms, (_, w) :: ns => sameZeros v w && sameZerosOfMembers ms ns
  | _, _ => true

end

/-- No two items are the same. -/
def distinctBy (same : Json → Json → Bool) : List Json → Bool
  | [] => true
  | v :: vs => !(vs.any (same v)) && distinctBy same vs

/-- No two items are equal; among more than fifteen the two zeros of doubles are not. -/
def allDistinct (items : List Json) : Bool :=
  if items.length ≤ 15 then distinctBy equal items
  else distinctBy (fun v w => equal v w && sameZeros v w) items

end TraitWeave.Schema
