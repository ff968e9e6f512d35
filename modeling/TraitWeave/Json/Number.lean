import TraitWeave.Decimal.Shortest

/-!
# Numbers of JSON

A number is an integer between `-2 ^ 63` and `2 ^ 64 - 1`, or a finite double. An integer outside that
range, and minus zero, are doubles; `1` and `1.0` are different numbers.

* `Number.ofInt`, `Number.ofReadInteger`: the number an integer stands for.
* `Number.same`: equality of numbers, under which the two zeros of the doubles are equal.
* `Number.text`: the written form.
-/

namespace TraitWeave

/-- A number as a document holds it. -/
inductive Number where
  | int (value : Int)
  | real (value : Double)
  deriving DecidableEq, Repr

namespace Number

/-- The least integer that is kept as an integer. -/
def leastInt : Int := -(Nat.pow 2 63)

/-- The greatest integer that is kept as an integer. -/
def greatestInt : Int := Nat.pow 2 64 - 1

/-- An integer in the range of integers. -/
def fitsInt (n : Int) : Bool := leastInt ≤ n && n ≤ greatestInt

/-- The number for an integer: a double where it leaves the range. -/
def ofInt (n : Int) : Number :=
  if fitsInt n then .int n else .real (Double.ofInt n)

/-- Numbers that compare equal: of one kind and of one value. -/
def same : Number → Number → Bool
  | .int a, .int b => a == b
  | .real x, .real y => x.sameValue y
  | _, _ => false

/-- The double nearest to the number. -/
def toDouble : Number → Double
  | .int n => Double.ofInt n
  | .real x => x

/-- The order of two numbers by value, whatever their kind. -/
def compareValue : Number → Number → Ordering
  | .int a, .int b => compare a b
  | .real x, .int b => x.compareInt b
  | .int a, .real y => (y.compareInt a).swap
  | .real x, .real y => x.compare y

/-- Doubles are written positionally from `1e-5` to below `1e16`, and else with a signed exponent. -/
def style : DecimalStyle := ⟨-5, 15, true⟩

/-- The written form. -/
def text : Number → String
  | .int n => toString n
  | .real x => x.text style

end Number

end TraitWeave
