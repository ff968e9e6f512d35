import TraitWeave.Trait.Basic

/-!
# Schemas for parameters

From the declarations of a trait's parameters follows a schema for their values.

* `jsonType?`: the type of JSON that a type name means.
* `Trait.parameterSchema`: the schema.
-/

namespace TraitWeave

/-- The type of JSON that a type name means; only the case of ASCII letters is ignored. -/
def jsonType? (kind : String) : Option String :=
  let k := String.ofList (kind.toList.map Char.toLower)
  if ["string", "text", "date", "datetime", "uuid", "email"].contains k then some "string"
  else if ["number", "float", "decimal"].contains k then some "number"
  else if k = "integer" then some "integer"
  else if k = "boolean" then some "boolean"
  else if k = "array" then some "array"
  else if ["object", "json"].contains k then some "object"
  else none

namespace Parameter

/-- The parameter holds an array. -/
def isArray (p : Parameter) : Bool := jsonType? p.kind == some "array"

/-- The keyword for literal values: those of the items for arrays. -/
def literalsMember (p : Parameter) : Option (String × Json) :=
  p.literals?.map fun vs =>
    if p.isArray then ("items", .obj [("enum", .arr vs)]) else ("enum", .arr vs)

/-- The schema of a parameter. -/
def schema (p : Parameter) : Json :=
  Encode.record [
    (jsonType? p.kind).map fun t => ("type", .str t),
    p.description.map fun d => ("description", .str d),
    p.literalsMember,
    Encode.some? "minimum" Encode.real p.rules.minimum,
    Encode.some? "maximum" Encode.real p.rules.maximum,
    Encode.some? (if p.isArray then "minItems" else "minLength") Encode.natural p.rules.minLength,
    Encode.some? (if p.isArray then "maxItems" else "maxLength") Encode.natural p.rules.maxLength,
    Encode.some? "pattern" .str p.rules.pattern,
    Encode.whenTrue "deprecated" p.deprecated]

end Parameter

/-- The schema for the values of a trait's parameters. -/
def Trait.parameterSchema (t : Trait) : Json :=
  .obj [
    ("title", .str (t.name ++ " parameters")),
    ("type", .str "object"),
    ("properties", .obj (Table.ofPairs (t.parameters.map fun p => (p.name, p.schema)))),
    ("required", Encode.texts ((t.parameters.filter Parameter.required).map Parameter.name))]

end TraitWeave
