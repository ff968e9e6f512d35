import TraitWeave.Json.Reader
import TraitWeave.Pattern.Basic
import TraitWeave.Schema.Fault
import TraitWeave.Schema.Format
import TraitWeave.Schema.Value
import TraitWeave.Text.Bytes

/-!
# What keywords say of a value alone

Some keywords speak of a value without applying another schema to it or to its parts. Most of them speak of
values of one kind and allow all others.

* `Check`: what such a keyword says, with its arguments.
* `Check.faults`: what it finds wrong with a value.
-/

namespace TraitWeave.Schema

/-- What a keyword says of a value alone. -/
inductive Check where
  /-- Nothing is allowed. -/
  | nothing
  | types (draft : Draft) (names : List String)
  | options (values : List Json)
  | expected (value : Json)
  | multipleOf (step : Double)
  | minimum (limit : Number)
  | maximum (limit : Number)
  | exclusiveMinimum (limit : Number)
  | exclusiveMaximum (limit : Number)
  | minLength (limit : Nat)
  | maxLength (limit : Nat)
  | minItems (limit : Nat)
  | maxItems (limit : Nat)
  | minProperties (limit : Nat)
  | maxProperties (limit : Nat)
  /-- A text must match a pattern, given as it is written and as it is read. -/
  | pattern (source : String) (pattern : Pattern)
  | uniqueItems
  | required (keys : List String)
  /-- No items beyond some. -/
  | itemsUpTo (limit : Nat)
  /-- No members, where the fault lies with the first of them. -/
  | noMembers
  /-- No members, where the fault lies with the whole. -/
  | noNames
  | format (format : Format)
  | encoding (name : String)
  | mediaType (name : String)
  /-- A text in an encoding, with content of a media type. -/
  | encodedMediaType (encoding mediaType : String)

namespace Check

/-- A fault, if a condition holds. -/
def when (b : Bool) (f : Fault) : List Fault := if b then [f] else []

/-- Whether a decimal is a whole number of times another. -/
def dividesDecimal (a b : Decimal) : Bool :=
  let shift := min a.exponent b.exponent
  let x := a.digits * Nat.pow 10 (a.exponent - shift).toNat
  let y := b.digits * Nat.pow 10 (b.exponent - shift).toNat
  x % y == 0

/-- Whether the fraction of a quotient is below the tolerance; negative ones are. -/
def fractionIsSmall (q : Double) : Bool :=
  let (a, b) := q.fraction
  q.negative || a * tolerance.quotient.2 < tolerance.quotient.1 * b

/-- Whether a value is a multiple of a step. Whole steps divide exactly, and nothing is a multiple of zero;
others divide up to the tolerance of doubles. -/
def isMultiple (x step : Double) : Bool :=
  if step.isZero then false
  else if step.isWhole then
    x.isWhole && (x.quotient.1 / x.quotient.2) % (step.quotient.1 / step.quotient.2) == 0
  else
    match x.div step with
    | some q => fractionIsSmall q
    | none => dividesDecimal x.shortest step.shortest

/-- What is wrong with a number. -/
def ofNumber (v : Json) (faults : Number → List Fault) : List Fault :=
  match v with
  | .num n => faults n
  | _ => []

/-- What is wrong with a text. -/
def ofText (v : Json) (faults : String → List Fault) : List Fault :=
  match v with
  | .str s => faults s
  | _ => []

/-- What is wrong with a list. -/
def ofItems (v : Json) (faults : List Json → List Fault) : List Fault :=
  match v with
  | .arr items => faults items
  | _ => []

/-- What is wrong with an object. -/
def ofMembers (v : Json) (faults : Table Json → List Fault) : List Fault :=
  match v with
  | .obj ms => faults ms
  | _ => []

/-- What is wrong with a text that must match a pattern. -/
def matchFaults (v : Json) (source : String) (p : Pattern) : List Fault :=
  ofText v fun s =>
    match p.occursIn? s with
    | some true => []
    | some false => [.noMatch v source]
    | none => [.tooManyWays]

/-- Whether a text holds a JSON value. -/
def isJson (s : String) : Bool :=
  match Json.parse s with
  | .ok _ => true
  | .error _ => false

/-- Whether a text has content of a media type. -/
def hasMediaType (mediaType s : String) : Bool := mediaType != "application/json" || isJson s

/-- What is wrong with a text in an encoding, with content of a media type. -/
def encodedFaults (v : Json) (encoding mediaType s : String) : List Fault :=
  match Base64.decode? s with
  | none => [.wrongEncoding v encoding]
  | some bytes =>
    match Utf8.read bytes with
    | .error reason => [.undecodable reason]
    | .ok text => when (!hasMediaType mediaType text) (.wrongMediaType v mediaType)

/-- What is wrong with a value. -/
def faults (c : Check) (v : Json) : List Fault :=
  match c with
  | nothing => [.forbidden v]
  | types d names => when (!names.any (hasType d · v)) (.wrongType v names)
  | options vs => when (!vs.any (equal v)) (.notListed v vs)
  | expected w => when (!nearlyEqual w v) (.notExpected w)
  | multipleOf step => ofNumber v fun n => when (!isMultiple n.toDouble step) (.notMultiple v step)
  | minimum limit => ofNumber v fun n => when (n.compareValue limit == .lt) (.below v limit)
  | maximum limit => ofNumber v fun n => when (n.compareValue limit == .gt) (.above v limit)
  | exclusiveMinimum limit => ofNumber v fun n => when (n.compareValue limit != .gt) (.notAbove v limit)
  | exclusiveMaximum limit => ofNumber v fun n => when (n.compareValue limit != .lt) (.notBelow v limit)
  | minLength limit => ofText v fun s => when (s.length < limit) (.tooShort v limit)
  | maxLength limit => ofText v fun s => when (limit < s.length) (.tooLong v limit)
  | minItems limit => ofItems v fun items => when (items.length < limit) (.tooFewItems v limit)
  | maxItems limit => ofItems v fun items => when (limit < items.length) (.tooManyItems v limit)
  | minProperties limit => ofMembers v fun ms => when (ms.length < limit) (.tooFewMembers v limit)
  | maxProperties limit => ofMembers v fun ms => when (limit < ms.length) (.tooManyMembers v limit)
  | pattern source p => matchFaults v source p
  | uniqueItems => ofItems v fun items => when (!allDistinct items) (.repeated v)
  | required keys => ofMembers v fun ms => (keys.filter fun k => !ms.has k).map .missing
  | itemsUpTo n => ofItems v fun items => when (n < items.length) (.surplusItems (items.drop n))
  | noMembers => ofMembers v fun ms => (ms.head?.map fun p => Fault.forbidden p.2).toList
  | noNames => ofMembers v fun ms => when (!ms.isEmpty) (.forbidden v)
  | format f => ofText v fun s => when (!f.allows s) (.wrongFormat v f.name)
  | encoding e => ofText v fun s => when (Base64.decode? s).isNone (.wrongEncoding v e)
  | mediaType m => ofText v fun s => when (!hasMediaType m s) (.wrongMediaType v m)
  | encodedMediaType e m => ofText v fun s => encodedFaults v e m s

end Check

end TraitWeave.Schema
