import TraitWeave.Decimal.Double

/-!
# Shortest decimals

The decimal with the fewest digits that reads back as a given double; of several, the one nearest to
it, and of two equally near the even one.

* `Double.shortest`: its digits and its power of ten.
* `DecimalStyle`: where positional notation ends and how an exponent is written.
* `Double.text`: the digits written in a style.
-/

namespace TraitWeave

/-- A decimal `digits * 10 ^ exponent`. -/
structure Decimal where
  digits : Nat
  exponent : Int

namespace Double

/-- The number of decimal digits of `n`; zero has one. -/
def digitCount (n : Nat) : Nat := (Nat.toDigits 10 n).length

/-- The greatest `k` with `10 ^ k ≤ num / den`, for a positive quotient. -/
def decimalExponent (num den : Nat) : Int :=
  if den ≤ num then (digitCount (num / den) : Int) - 1
  else
    let t := digitCount (den / num)
    if den ≤ num * Nat.pow 10 (t - 1) then -((t : Int) - 1) else -(t : Int)

/-- The reals that round to a positive double lie between `low * unit` and `high * unit`, and the double
is `mid * unit`, where `unit` is `2 ^ exponent`. -/
structure Neighbourhood where
  low : Nat
  mid : Nat
  high : Nat
  exponent : Int
  /-- The two ends round to the double as well. -/
  closed : Bool

/-- The reals that round to `x`: half-way to each neighbour, and the one below is only half as far when
the mantissa is the least of 53 bits. -/
def neighbourhood (x : Double) : Neighbourhood :=
  let below := if x.mantissa = Nat.pow 2 52 ∧ -1074 < x.exponent then 1 else 2
  ⟨4 * x.mantissa - below, 4 * x.mantissa, 4 * x.mantissa + 2, x.exponent - 2, x.mantissa % 2 = 0⟩

/-- Two natural numbers in the ratio of `c * 10 ^ k` to `n * 2 ^ e`. -/
def scaled (c : Nat) (k : Int) (n : Nat) (e : Int) : Nat × Nat :=
  let a := if 0 ≤ k then c * Nat.pow 10 k.toNat else c
  let b := if 0 ≤ e then n * Nat.pow 2 e.toNat else n
  (if 0 ≤ e then a else a * Nat.pow 2 (-e).toNat, if 0 ≤ k then b else b * Nat.pow 10 (-k).toNat)

/-- Whether `c * 10 ^ k` rounds to the double. -/
def Neighbourhood.holds (h : Neighbourhood) (c : Nat) (k : Int) : Bool :=
  let (a, b) := scaled c k h.low h.exponent
  let (a', b') := scaled c k h.high h.exponent
  if h.closed then b ≤ a && a' ≤ b' else b < a && a' < b'

/-- The neighbour of the double on the grid of multiples of `10 ^ k` that rounds to it, if one does. -/
def Neighbourhood.onGrid (h : Neighbourhood) (k : Int) : Option Decimal :=
  let (a, b) := scaled 1 k h.mid h.exponent
  let below := b / a
  match h.holds below k, h.holds (below + 1) k with
  | true, false => some ⟨below, k⟩
  | false, true => some ⟨below + 1, k⟩
  | false, false => none
  | true, true =>
    let twice := 2 * (b % a)
    if twice < a then some ⟨below, k⟩
    else if a < twice then some ⟨below + 1, k⟩
    else if below % 2 = 0 then some ⟨below, k⟩ else some ⟨below + 1, k⟩

/-- The first of the grids from `10 ^ k` downwards that holds a decimal rounding to the double. -/
def Neighbourhood.search (h : Neighbourhood) (k : Int) : Nat → Option Decimal
  | 0 => none
  | n + 1 =>
    match h.onGrid k with
    | some d => some d
    | none => h.search (k - 1) n

/-- The shortest decimal that reads back as the size of `x`. -/
def shortest (x : Double) : Decimal :=
  if x.isZero then ⟨0, 0⟩
  else
    let (num, den) := x.quotient
    ((neighbourhood x).search (decimalExponent num den) 18).getD ⟨x.mantissa, 0⟩

end Double

/-- How a decimal is written: positionally while its leading digit stands for a power of ten between
`10 ^ least` and `10 ^ most`, else with an exponent, and `plus` tells whether a positive one has its
sign. -/
structure DecimalStyle where
  least : Int
  most : Int
  plus : Bool

namespace Decimal

/-- The zeros at the end of the digits, up to `fuel` of them, moved into the exponent. -/
def strip (d : Decimal) : Nat → Decimal
  | 0 => d
  | n + 1 => if d.digits ≠ 0 ∧ d.digits % 10 = 0 then strip ⟨d.digits / 10, d.exponent + 1⟩ n else d

/-- Digits with a point after `point` of them; at least one digit stands on either side. -/
def positional (digits : List Char) (point : Int) : String :=
  if point ≤ 0 then
    "0." ++ String.ofList (List.replicate (-point).toNat '0' ++ digits)
  else if digits.length ≤ point.toNat then
    String.ofList (digits ++ List.replicate (point.toNat - digits.length) '0') ++ ".0"
  else
    String.ofList (digits.take point.toNat) ++ "." ++ String.ofList (digits.drop point.toNat)

/-- One digit, the others after a point, and the power of ten. -/
def scientific (plus : Bool) (digits : List Char) (power : Int) : String :=
  let lead := String.ofList (digits.take 1)
  let rest := digits.drop 1
  let sign := if power < 0 then "-" else if plus then "+" else ""
  lead ++ (if rest.isEmpty then "" else "." ++ String.ofList rest) ++ "e" ++ sign ++ toString power.natAbs

/-- The decimal written in a style. -/
def text (style : DecimalStyle) (d : Decimal) : String :=
  if d.digits = 0 then "0.0"
  else
    let d := d.strip (Double.digitCount d.digits)
    let digits := Nat.toDigits 10 d.digits
    let power : Int := d.exponent + digits.length - 1
    if style.least ≤ power ∧ power ≤ style.most then positional digits (power + 1)
    else scientific style.plus digits power

/-- The decimal written positionally, with a point only before a fraction. -/
def plain (d : Decimal) : String :=
  if d.digits = 0 then "0"
  else
    let d := d.strip (Double.digitCount d.digits)
    let digits := Nat.toDigits 10 d.digits
    if 0 ≤ d.exponent then String.ofList (digits ++ List.replicate d.exponent.toNat '0')
    else positional digits (d.exponent + digits.length)

end Decimal

/-- The shortest decimal of `x`, with its sign, written positionally. -/
def Double.plain (x : Double) : String :=
  (if x.negative then "-" else "") ++ x.shortest.plain

/-- The shortest decimal of `x`, with its sign, in a style. -/
def Double.text (style : DecimalStyle) (x : Double) : String :=
  (if x.negative then "-" else "") ++ x.shortest.text style

end TraitWeave
