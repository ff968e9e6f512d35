import TraitWeave.Field
import TraitWeave.Json.Printer
import TraitWeave.Text.Lower
import TraitWeave.Text.Pieces

/-!
# Types of fields

A field's type is written as a type expression of TypeScript: a basic type, an array, or the union of the
literal values that the field may take.

* `TypeExpr`, `TypeExpr.text`: type expressions and how they are written.
* `TypeExpr.literals`: the union of literal values.
* `TypeExpr.ofField`: the type of a field.
-/

namespace TraitWeave

/-- A type expression. -/
inductive TypeExpr where
  | string
  | number
  | boolean
  | unknown
  | record
  | array (element : TypeExpr)
  /-- A union of scalars, each written as JSON. -/
  | union (scalars : List Json)

namespace TypeExpr

/-- How a type expression is written. -/
def text : TypeExpr → String
  | string => "string"
  | number => "number"
  | boolean => "boolean"
  | unknown => "unknown"
  | record => "Record<string, unknown>"
  | array t => "Array<" ++ t.text ++ ">"
  | union scalars => Text.joined " | " (scalars.map Json.compact)

/-- Values without parts, null among them. -/
def isScalar : Json → Bool
  | .arr _ => false
  | .obj _ => false
  | _ => true

/-- Add a value unless one that is written like it is there. -/
def addWritten (vs : List Json) (v : Json) : List Json :=
  if vs.any fun w => w.compact == v.compact then vs else vs ++ [v]

/-- The union of the scalars among values; without any, nothing is known. -/
def literals (vs : List Json) : TypeExpr :=
  match (vs.filter isScalar).foldl addWritten [] with
  | [] => unknown
  | scalars => union scalars

/-- The type that a type name means, with the type of the elements for arrays. -/
def ofKind (kind : Option String) (element : TypeExpr) : TypeExpr :=
  match kind.map Text.lower with
  | none => unknown
  | some k =>
    if ["string", "text", "date", "datetime", "uuid", "email"].contains k then string
    else if ["number", "integer", "float", "decimal"].contains k then number
    else if k = "boolean" then boolean
    else if k = "array" then array element
    else if ["object", "json"].contains k then record
    else unknown

/-- The type of a declaration, given the type of its elements: its literal values come first. -/
def ofDeclaration (f : Field) (element : TypeExpr) : TypeExpr :=
  match f.literals? with
  | some (v :: vs) => literals (v :: vs)
  | _ => ofKind f.kind element

mutual

/-- The type of the elements that are declared by a value: a type name or a declaration. -/
def ofItems : Json → TypeExpr
  | .str kind => ofKind (some kind) unknown
  | .obj ms =>
    match Field.decode (.obj ms) with
    | .ok f => ofDeclaration f (ofItemsMember ms)
    | .error _ => unknown
  | _ => unknown

/-- The type of the elements that the members of a declaration declare. -/
def ofItemsMember : List (String × Json) → TypeExpr
  | [] => unknown
  | (key, v) :: rest => if key = "items" then ofItems v else ofItemsMember rest

end

/-- The type of a field. -/
def ofField (f : Field) : TypeExpr :=
  ofDeclaration f (match f.items with
    | some v => ofItems v
    | none => unknown)

end TypeExpr

end TraitWeave
