import TraitWeave.Json.Number

/-!
# What a plain scalar means

A plain scalar is null, a truth value, an integer, a floating-point number or else a text.

* `Plain.ofText`: what a text stands for when it is written plain.
* `integer?`, `real?`: the numbers, for scalars that are tagged as such.

Integers may be written in base 16, 8 or 2 with `0x`, `0o`, `0b`. A text of digits with a leading zero is
no number.
-/

namespace TraitWeave.Yaml

/-- What a plain scalar means. -/
inductive Plain where
  | null
  | bool (value : Bool)
  /-- An integer between `-2 ^ 63` and `2 ^ 64 - 1`. -/
  | int (value : Int)
  /-- An integer outside that range, of at most 128 bits. -/
  | wideInt (value : Int)
  | real (value : Double)
  /-- An infinity, or the value that is no number, by its name. -/
  | notFinite (name : String)
  | text (value : String)
  deriving DecidableEq, Repr

/-- The ways to write null. -/
def isNullWord (s : String) : Bool := ["null", "Null", "NULL", "~"].contains s

/-- A truth value. -/
def bool? (s : String) : Option Bool :=
  if ["true", "True", "TRUE"].contains s then some true
  else if ["false", "False", "FALSE"].contains s then some false
  else none

/-- A sign or nothing, then a zero and more digits. -/
def hasLeadingZero (cs : List Char) : Bool :=
  let cs := match cs with
    | '-' :: r => r
    | '+' :: r => r
    | r => r
  match cs with
  | '0' :: r => !r.isEmpty && r.all Char.isDigit
  | _ => false

/-- The value of a digit in a base up to sixteen. -/
def digitIn? (base : Nat) (c : Char) : Option Nat :=
  let v :=
    if c.isDigit then some (c.toNat - 48)
    else if 'a' ≤ c ∧ c ≤ 'f' then some (c.toNat - 87)
    else if 'A' ≤ c ∧ c ≤ 'F' then some (c.toNat - 55)
    else none
  v.filter (· < base)

/-- The number that digits write; there must be one digit at least. -/
def numberIn? (base : Nat) (cs : List Char) : Option Nat :=
  if cs.isEmpty then none
  else cs.foldl (fun acc c => acc.bind fun n => (digitIn? base c).map (n * base + ·)) (some 0)

/-- Digits behind the mark of a base, or decimal digits without a leading zero. -/
def magnitude? (cs : List Char) : Option Nat :=
  match cs with
  | '0' :: 'x' :: r => numberIn? 16 r
  | '0' :: 'o' :: r => numberIn? 8 r
  | '0' :: 'b' :: r => numberIn? 2 r
  | r => if hasLeadingZero r then none else numberIn? 10 r

/-- An integer of at most 128 bits: a sign or nothing, then its magnitude. -/
def integer? (s : String) : Option Int :=
  let n := match s.toList with
    | '+' :: r => (magnitude? r).map fun n => (n : Int)
    | '-' :: r => (magnitude? r).map fun n => -(n : Int)
    | r => (magnitude? r).map fun n => (n : Int)
  n.filter fun n => -(Nat.pow 2 127 : Int) ≤ n && n < (Nat.pow 2 128 : Int)

/-- The parts of a decimal: its digits as a number, and the power of ten they are multiplied by. -/
def decimal? (cs : List Char) : Option (Nat × Int) :=
  let whole := cs.takeWhile Char.isDigit
  let rest := cs.dropWhile Char.isDigit
  let (fraction, rest) :=
    match rest with
    | '.' :: r => (r.takeWhile Char.isDigit, r.dropWhile Char.isDigit)
    | r => ([], r)
  let power : Option Int :=
    match rest with
    | [] => some 0
    | m :: r =>
      if m = 'e' ∨ m = 'E' then
        match r with
        | '+' :: r => (numberIn? 10 r).map fun n => (n : Int)
        | '-' :: r => (numberIn? 10 r).map fun n => -(n : Int)
        | r => (numberIn? 10 r).map fun n => (n : Int)
      else none
  match power, numberIn? 10 (whole ++ fraction) with
  | some p, some digits => some (digits, p - fraction.length)
  | _, _ => none

/-- A floating-point number, or the name of one that is not finite. -/
def real? (s : String) : Option (Except String Double) :=
  let cs := s.toList
  let unsigned? :=
    match cs with
    | '+' :: '+' :: _ => none
    | '+' :: '-' :: _ => none
    | '+' :: r => some r
    | r => some r
  match unsigned? with
  | none => none
  | some r =>
    let word := String.ofList r
    if [".inf", ".Inf", ".INF"].contains word then some (.error "inf")
    else if ["-.inf", "-.Inf", "-.INF"].contains s then some (.error "-inf")
    else if [".nan", ".NaN", ".NAN"].contains s then some (.error "NaN")
    else
      let (negative, digits) :=
        match r with
        | '-' :: r => (true, r)
        | r => (false, r)
      match (decimal? digits).bind fun (n, p) => Double.ofDecimal negative n p with
      | some x => some (.ok x)
      | none => none

/-- What a text stands for when it is written plain. -/
def Plain.ofText (s : String) : Plain :=
  if s.isEmpty || isNullWord s then .null
  else
    match bool? s with
    | some b => .bool b
    | none =>
      match integer? s with
      | some n => if Number.fitsInt n then .int n else .wideInt n
      | none =>
        if hasLeadingZero s.toList then .text s
        else
          match real? s with
          | some (.ok x) => .real x
          | some (.error name) => .notFinite name
          | none => .text s

end TraitWeave.Yaml
