/-!
# Finite doubles

Binary floating-point numbers of 64 bits, without infinities and the value that is no number, kept as an
exact sign, mantissa and exponent. All arithmetic is exact up to one rounding to the nearest double, a
tie going to the even mantissa.

* `Double.nearest`: the double nearest to a quotient of natural numbers.
* `Double.ofInt`, `Double.ofDecimal`: the double nearest to an integer, to `digits * 10 ^ e`.
* `Double.mul`, `Double.div`: correctly rounded products and quotients.
* `Double.compare`: the order of the values; the two zeros are equal in it.
-/

namespace TraitWeave

/-- The number `mantissa * 2 ^ exponent` with a sign. Either the mantissa has 53 bits, or the exponent
is the least one, -1074. -/
structure Double where
  negative : Bool
  mantissa : Nat
  exponent : Int
  deriving DecidableEq, Repr

namespace Double

/-- Zero with a sign. -/
def zero (negative : Bool) : Double := ⟨negative, 0, -1074⟩

/-- A zero of either sign. -/
def isZero (x : Double) : Bool := x.mantissa == 0

/-- The size of the value as a quotient, the second component positive. -/
def quotient (x : Double) : Nat × Nat :=
  if 0 ≤ x.exponent then (x.mantissa * Nat.pow 2 x.exponent.toNat, 1)
  else (x.mantissa, Nat.pow 2 (-x.exponent).toNat)

/-- The exponent for which `num / den` has a mantissa of 53 bits, or the least exponent. -/
def fittingExponent (num den : Nat) : Int :=
  let guess : Int := (Nat.log2 num : Int) - (Nat.log2 den : Int) - 52
  -- the quotient lies in [2 ^ (guess + 51), 2 ^ (guess + 53))
  let tooBig : Bool :=
    if 0 ≤ guess + 52 then num < den * Nat.pow 2 (guess + 52).toNat
    else num * Nat.pow 2 (-(guess + 52)).toNat < den
  max (if tooBig then guess - 1 else guess) (-1074)

/-- `a / b` to the nearest integer, a tie to the even one. -/
def divNearest (a b : Nat) : Nat :=
  let q := a / b
  let twice := 2 * (a % b)
  if twice < b then q
  else if b < twice then q + 1
  else if q % 2 = 0 then q else q + 1

/-- The double nearest to `num / den`, or nothing when that is beyond the largest double. -/
def nearest (negative : Bool) (num den : Nat) : Option Double :=
  if num = 0 then some (zero negative)
  else
    let e := fittingExponent num den
    let m := if 0 ≤ e then divNearest num (den * Nat.pow 2 e.toNat) else divNearest (num * Nat.pow 2 (-e).toNat) den
    let x : Double := if m = Nat.pow 2 53 then ⟨negative, Nat.pow 2 52, e + 1⟩ else ⟨negative, m, e⟩
    if 971 < x.exponent then none else some x

/-- The double nearest to an integer that a double can hold. -/
def ofInt (n : Int) : Double :=
  (nearest (n < 0) n.natAbs 1).getD (zero false)

/-- The double nearest to `digits * 10 ^ e`, or nothing when that is beyond the largest double. -/
def ofDecimal (negative : Bool) (digits : Nat) (e : Int) : Option Double :=
  if digits = 0 then some (zero negative)
  else
    let size : Int := Nat.log2 digits
    -- far outside the doubles; the powers of ten would only be large
    if 320 < e then none
    else if e * 3 + size < -1100 then some (zero negative)
    else if 0 ≤ e then nearest negative (digits * Nat.pow 10 e.toNat) 1
    else nearest negative digits (Nat.pow 10 (-e).toNat)

/-- The product, or nothing when it is beyond the largest double. -/
def mul (x y : Double) : Option Double :=
  let (a, b) := x.quotient
  let (c, d) := y.quotient
  nearest (x.negative != y.negative) (a * c) (b * d)

/-- The quotient by a number that is no zero, or nothing when it is beyond the largest double. -/
def div (x y : Double) : Option Double :=
  let (a, b) := x.quotient
  let (c, d) := y.quotient
  nearest (x.negative != y.negative) (a * d) (b * c)

/-- The value times the denominator of its quotient, with the sign. -/
def signedNumerator (x : Double) : Int :=
  if x.negative then -(x.quotient.1 : Int) else x.quotient.1

/-- The order of the values. -/
def compare (x y : Double) : Ordering :=
  Ord.compare (x.signedNumerator * y.quotient.2) (y.signedNumerator * x.quotient.2)

/-- The order of a value and an integer. -/
def compareInt (x : Double) (n : Int) : Ordering :=
  Ord.compare x.signedNumerator (n * x.quotient.2)

/-- A value without a fraction. -/
def isWhole (x : Double) : Bool :=
  x.quotient.1 % x.quotient.2 == 0

/-- The size of what the value is beyond the whole number below its size, as a quotient. -/
def fraction (x : Double) : Nat × Nat :=
  (x.quotient.1 % x.quotient.2, x.quotient.2)

/-- The distance of two values, or nothing when it is beyond the largest double. -/
def distance (x y : Double) : Option Double :=
  nearest false (x.signedNumerator * y.quotient.2 - y.signedNumerator * x.quotient.2).natAbs
    (x.quotient.2 * y.quotient.2)

/-- Equality of values: the two zeros are the same value. -/
def sameValue (x y : Double) : Bool :=
  x.compare y == .eq

end Double

end TraitWeave
