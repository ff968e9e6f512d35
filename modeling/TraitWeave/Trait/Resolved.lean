import TraitWeave.Trait.Loader

/-!
# Resolved references

A reference is resolved to its trait and the values of its parameters: the declared defaults, and over
them the values that the reference gives.

* `Resolved`, `Resolved.name`: a resolved reference and the name under which it is used.
* `Trait.parametersWith`: the values of the parameters.
* `allowedFrom?`: the literal values that a parameter lists.
-/

namespace TraitWeave

/-- A reference with its trait and the values of its parameters. -/
structure Resolved where
  reference : Reference
  trait : Trait
  parameters : Table Json
  path : Path

/-- The nickname where one is given, or the name that the trait declares. -/
def Reference.nameOf (r : Reference) (t : Trait) : String :=
  match r.nickname with
  | some a => if a.isEmpty then t.name else a
  | none => t.name

/-- The name under which the trait is used. -/
def Resolved.name (r : Resolved) : String := r.reference.nameOf r.trait

/-- The declared defaults in their order, overlaid with given values. -/
def Trait.parametersWith (t : Trait) (given : Table Json) : Table Json := t.defaults.putAll given

/-- The values that a parameter lists, when it holds an array of literals. -/
def allowedFrom? (parameters : Table Json) (source : String) : Option (List Json) :=
  match parameters.get? source with
  | some (.arr vs) => if vs.all Json.isLiteral then some vs else none
  | _ => none

end TraitWeave
