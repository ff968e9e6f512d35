import TraitWeave.Json.Printer
import TraitWeave.Schema.Pointer

/-!
# Faults

What can be wrong with a value that a schema does not allow, and where.

* `Schema.Fault`, `Fault.message`: the faults and their wording.
* `Schema.Finding`, `Finding.code`: a fault with the place of the rule in the schema and of the value.
-/

namespace TraitWeave.Schema

/-- The types of values that schemas know, by their names in order. -/
def typeNames : List String := ["array", "boolean", "integer", "null", "number", "object", "string"]

/-- What is wrong with a value. -/
inductive Fault where
  | wrongType (found : Json) (types : List String)
  | notListed (found : Json) (options : List Json)
  | notExpected (expected : Json)
  | below (found : Json) (limit : Number)
  | above (found : Json) (limit : Number)
  | notAbove (found : Json) (limit : Number)
  | notBelow (found : Json) (limit : Number)
  | notMultiple (found : Json) (step : Double)
  | tooShort (found : Json) (limit : Nat)
  | tooLong (found : Json) (limit : Nat)
  | noMatch (found : Json) (pattern : String)
  | wrongFormat (found : Json) (format : String)
  | tooFewItems (found : Json) (limit : Nat)
  | tooManyItems (found : Json) (limit : Nat)
  | repeated (found : Json)
  | containsNone (found : Json)
  | surplusItems (items : List Json)
  | tooFewMembers (found : Json) (limit : Nat)
  | tooManyMembers (found : Json) (limit : Nat)
  | missing (key : String)
  | surplusMembers (keys : List String)
  | unevaluatedMembers (keys : List String)
  | unevaluatedItems (items : List Json)
  | noneOfAny (found : Json)
  | noneOfOne (found : Json)
  | severalOfOne (found : Json)
  | excluded (found : Json) (schema : Json)
  | forbidden (found : Json)
  | wrongEncoding (found : Json) (encoding : String)
  | wrongMediaType (found : Json) (mediaType : String)
  /-- The content does not decode to a text. -/
  | undecodable (reason : String)
  /-- A match was not found before too many ways had been tried. -/
  | tooManyWays
  | unknownType

namespace Fault

/-- One thing or several. -/
def counted (n : Nat) (one many : String) : String := toString n ++ " " ++ (if n = 1 then one else many)

/-- What was not expected. -/
def unexpected (items : List String) : String :=
  Text.joined ", " items ++ (if items.length = 1 then " was unexpected)" else " were unexpected)")

/-- Something between single quotes. -/
def single (s : String) : String := "'" ++ s ++ "'"

/-- The wording of a fault. -/
def message : Fault → String
  | wrongType v [t] => v.compact ++ " is not of type \"" ++ t ++ "\""
  | wrongType v ts =>
    v.compact ++ " is not of types " ++ Text.joined ", " (ts.map fun t => "\"" ++ t ++ "\"")
  | notListed v options => v.compact ++ " is not one of " ++ (Json.arr options).compact
  | notExpected expected => expected.compact ++ " was expected"
  | below v limit => v.compact ++ " is less than the minimum of " ++ limit.text
  | above v limit => v.compact ++ " is greater than the maximum of " ++ limit.text
  | notAbove v limit => v.compact ++ " is less than or equal to the minimum of " ++ limit.text
  | notBelow v limit => v.compact ++ " is greater than or equal to the maximum of " ++ limit.text
  | notMultiple v step => v.compact ++ " is not a multiple of " ++ step.plain
  | tooShort v n => v.compact ++ " is shorter than " ++ counted n "character" "characters"
  | tooLong v n => v.compact ++ " is longer than " ++ counted n "character" "characters"
  | noMatch v pattern => v.compact ++ " does not match \"" ++ pattern ++ "\""
  | wrongFormat v format => v.compact ++ " is not a \"" ++ format ++ "\""
  | tooFewItems v n => v.compact ++ " has less than " ++ counted n "item" "items"
  | tooManyItems v n => v.compact ++ " has more than " ++ counted n "item" "items"
  | repeated v => v.compact ++ " has non-unique elements"
  | containsNone v => "None of " ++ v.compact ++ " are valid under the given schema"
  | surplusItems items =>
    "Additional items are not allowed (" ++ unexpected (items.map Json.compact)
  | tooFewMembers v n => v.compact ++ " has less than " ++ counted n "property" "properties"
  | tooManyMembers v n => v.compact ++ " has more than " ++ counted n "property" "properties"
  | missing key => (Json.str key).compact ++ " is a required property"
  | surplusMembers keys => "Additional properties are not allowed (" ++ unexpected (keys.map single)
  | unevaluatedMembers keys =>
    "Unevaluated properties are not allowed (" ++ unexpected (keys.map single)
  | unevaluatedItems items =>
    "Unevaluated items are not allowed (" ++ unexpected (items.map fun v => single v.compact)
  | noneOfAny v =>
    v.compact ++ " is not valid under any of the schemas listed in the 'anyOf' keyword"
  | noneOfOne v =>
    v.compact ++ " is not valid under any of the schemas listed in the 'oneOf' keyword"
  | severalOfOne v =>
    v.compact ++ " is valid under more than one of the schemas listed in the 'oneOf' keyword"
  | excluded v schema => schema.compact ++ " is not allowed for " ++ v.compact
  | forbidden v => "False schema does not allow " ++ v.compact
  | wrongEncoding v e => v.compact ++ " is not compliant with \"" ++ e ++ "\" content encoding"
  | wrongMediaType v m => v.compact ++ " is not compliant with \"" ++ m ++ "\" media type"
  | undecodable reason => reason
  | tooManyWays => "Error executing regex: Max limit for backtracking count exceeded"
  | unknownType => "Unexpected type"

end Fault

/-- A fault, the place of the rule in the schema and the place of the value. -/
structure Finding where
  fault : Fault
  rule : List String
  place : List String

namespace Finding

/-- Whether a step of a rule's place can stand as the code of what it found. -/
def namesRule (step : String) : Bool := !step.isEmpty && (Pointer.position? step).isNone

/-- The last step of the rule's place that is a name, as it is written in a pointer. -/
def code (f : Finding) : String :=
  match (f.rule.reverse).find? namesRule with
  | some step => Pointer.escape step
  | none => "schema"

end Finding

end TraitWeave.Schema
