import TraitWeave.Check.Issue
import TraitWeave.Json.Printer
import TraitWeave.Trait.Resolved

/-!
# Values taken from other parameters

The rules of a parameter may name another parameter, which must then hold a list of literal values; the
value of the first one, or each of its items, must be among them.

* `Trait.enumFromIssues`: the issues of all parameters with such a rule.
-/

namespace TraitWeave

namespace EnumFrom

/-- The named parameter is not declared. -/
def undeclared (name source : String) : Issue :=
  .ofField .warning "enum_from" ("enum_from references undeclared parameter \"" ++ source ++ "\"") name none

/-- The named parameter does not hold a list of literal values. -/
def notList (source : String) (found : Json) : Issue :=
  .ofField .error "enum_from"
    ("parameter \"" ++ source ++ "\" must be an array of literal values, got " ++ found.compact) source
    (some ("Set \"" ++ source ++ "\" to a list such as [\"a\", \"b\"]"))

/-- A value is not in the list. -/
def notInList (name source : String) (allowed : List Json) (v : Json) : Issue :=
  .ofField .error "enum_from"
    (v.compact ++ " is not one of the values of parameter \"" ++ source ++ "\"") name
    (some ("Use one of " ++ (Json.arr allowed).compact))

/-- The values that must be in the list: the items of an array, or the value itself. -/
def valuesOf : Json → List Json
  | .arr items => items
  | v => [v]

/-- The issues of a parameter whose rules name the parameter `source`. -/
def issuesOf (t : Trait) (parameters : Table Json) (name source : String) : List Issue :=
  if (t.parameter? source).isNone then [undeclared name source]
  else
    match parameters.get? name, parameters.get? source with
    | some v, some found =>
      match allowedFrom? parameters source with
      | none => [notList source found]
      | some allowed =>
        ((valuesOf v).filter fun w => !Json.elem w allowed).map (notInList name source allowed)
    | _, _ => []

end EnumFrom

/-- The issues of all parameters whose rules name another one. -/
def Trait.enumFromIssues (t : Trait) (parameters : Table Json) : List Issue :=
  t.parameters.flatMap fun p =>
    match p.rules.enumFrom with
    | none => []
    | some source => EnumFrom.issuesOf t parameters p.name source

end TraitWeave
