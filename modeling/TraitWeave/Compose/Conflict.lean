import TraitWeave.Compose.Layer
import TraitWeave.Json.Printer
import TraitWeave.Trait.Graph
import TraitWeave.Trait.Resolved

/-!
# Conflicts

Two traits are in conflict where they declare a field or a parameter differently, in type or in literal
values, and where one refuses the other. Conflicts are noted and never fatal.

* `Conflict`, `Conflict.message`.
* `fieldConflicts`, `parameterConflicts`, `incompatibilities`: the three kinds.
-/

namespace TraitWeave

/-- The kinds of conflicts. -/
inductive Conflict.Kind where
  | field
  | parameter
  | incompatible
  deriving DecidableEq, Repr

/-- The name of a kind. -/
def Conflict.Kind.name : Conflict.Kind → String
  | field => "field"
  | parameter => "parameter"
  | incompatible => "incompatible"

/-- Two sources that do not agree on a key; for traits that refuse each other it is the second one. -/
structure Conflict where
  kind : Conflict.Kind
  key : String
  first : String
  second : String
  deriving DecidableEq, Repr

/-- The wording of a conflict. -/
def Conflict.message (c : Conflict) : String :=
  let both := "\"" ++ c.first ++ "\" and \"" ++ c.second ++ "\""
  match c.kind with
  | .field => "Field \"" ++ c.key ++ "\" is declared differently by " ++ both
  | .parameter => "Parameter \"" ++ c.key ++ "\" is declared differently by " ++ both
  | .incompatible => "Traits " ++ both ++ " are declared incompatible"

/-- A conflict as a value. -/
def Conflict.encode (c : Conflict) : Json :=
  .obj [("kind", .str c.kind.name), ("key", .str c.key), ("sources", Encode.texts [c.first, c.second]),
    ("message", .str c.message)]

/-- A trait's declaration of a parameter, with the value it has there. -/
structure Contribution where
  source : String
  kind : String
  values : Option (List Json)
  value : Option Json

namespace Contribution

/-- The fields of the record. -/
def record : Decode.Record Contribution :=
  Decode.Record.start Contribution.mk
    |>.require "source" Decode.text
    |>.require "type" Decode.text
    |>.optional "values" (Decode.list Decode.value)
    |>.optional "value" Decode.value

/-- A contribution from a value. -/
def decode : Decoder Contribution := record.decode "struct ParameterContribution"

/-- A contribution as a value. -/
def encode (c : Contribution) : Json :=
  Encode.record [
    Encode.always "source" (.str c.source),
    Encode.always "type" (.str c.kind),
    Encode.some? "values" .arr c.values,
    Encode.some? "value" id c.value]

/-- The contributions of all parameters as a value. -/
def encodeTable (t : Table (List Contribution)) : Json :=
  .obj (t.mapValues fun cs => .arr (cs.map encode))

end Contribution

namespace Compose

/-- The letters of a type name in lower case; only those of ASCII change. -/
def foldKind (kind : String) : String := String.ofList (kind.toList.map Char.toLower)

/-- Whether all values of one list are written like values of the other. -/
def coveredBy (vs ws : List Json) : Bool :=
  vs.all fun v => ws.any fun w => v.compact == w.compact

/-- The same values, in any order and number. -/
def sameLiterals : Option (List Json) → Option (List Json) → Bool
  | none, none => true
  | some vs, some ws => coveredBy vs ws && coveredBy ws vs
  | _, _ => false

/-- Whether two declarations differ in type or in literal values. -/
def differs (kindA kindB : Option String) (valuesA valuesB : Option (List Json)) : Bool :=
  kindA.map foldKind != kindB.map foldKind || !sameLiterals valuesA valuesB

/-- Two declarations of a field differ. -/
def fieldsDiffer (a b : Field) : Bool := differs a.kind b.kind a.literals? b.literals?

/-- Two declarations of a parameter differ. -/
def contributionsDiffer (a b : Contribution) : Bool :=
  differs (some a.kind) (some b.kind) a.values b.values

/-- The pairs of traits that declare a field differently. -/
def fieldConflicts (fields : Table (List (Candidate Field))) : List Conflict :=
  fields.flatMap fun (key, cs) =>
    ((Graph.pairs (cs.filter fun c => c.layer == .trait)).filter fun (a, b) =>
      fieldsDiffer a.value b.value).map fun (a, b) => ⟨.field, key, a.source, b.source⟩

/-- The contributions of a trait. -/
def contributionsOf (r : Resolved) : List (String × Contribution) :=
  r.trait.parameters.map fun p => (p.name, ⟨r.name, p.kind, p.literals?, r.parameters.get? p.name⟩)

/-- All contributions, sorted by parameter. -/
def contributions (resolved : List Resolved) : Table (List Contribution) :=
  (resolved.flatMap contributionsOf).foldl
    (fun (t : Table (List Contribution)) p => t.put p.1 ((t.get? p.1).getD [] ++ [p.2])) []

/-- The pairs of contributions that declare a parameter differently. -/
def parameterConflicts (parameters : Table (List Contribution)) : List Conflict :=
  parameters.flatMap fun (key, cs) =>
    ((Graph.pairs cs).filter fun (a, b) => contributionsDiffer a b).map fun (a, b) =>
      ⟨.parameter, key, a.source, b.source⟩

/-- The pairs of traits of which one refuses the other. -/
def incompatibilities (resolved : List Resolved) : List Conflict :=
  let nameAt := fun i => (resolved[i]?.map Resolved.name).getD ""
  (Graph.conflictingPairs (resolved.map Resolved.trait)).map fun (i, j) =>
    ⟨.incompatible, nameAt j, nameAt i, nameAt j⟩

end Compose

end TraitWeave
