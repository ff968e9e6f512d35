import TraitWeave.Schema.Draft

/-!
# The schemas of the early drafts

Every draft is described by a schema of its own. Those of the drafts four, six and seven are one document
each.

* `Standard.four`, `Standard.six`, `Standard.seven`: the documents.
-/

namespace TraitWeave.Schema.Standard

open Json

/-- A schema for values of one type. -/
def typed (type : String) : Json := obj [("type", str type)]

/-- A schema for values of one type, with more keywords. -/
def typedWith (type : String) (more : List (String × Json)) : Json := obj (("type", str type) :: more)

/-- A reference. -/
def ref (target : String) : Json := obj [("$ref", str target)]

/-- A schema for texts of a format. -/
def formatted (format : String) : Json := typedWith "string" [("format", str format)]

/-- A schema for values that one of some schemas allows. -/
def anyOf (options : List Json) : Json := obj [("anyOf", arr options)]

/-- A number of the document. -/
def whole (n : Int) : Json := num (.int n)

/-- The keywords under a name, all with one schema. -/
def each (names : List String) (schema : Json) : List (String × Json) := names.map fun n => (n, schema)

/-- The names of the types. -/
def simpleTypes : Json :=
  obj [("enum", arr (["array", "boolean", "integer", "null", "number", "object", "string"].map str))]

/-- A type name or a list of them, given where the names are defined. -/
def typeForm (names : Json) : Json :=
  anyOf [names, typedWith "array" [("items", names), ("minItems", whole 1), ("uniqueItems", bool true)]]

/-- An object whose values have a schema, empty by default. -/
def mapOf (schema : Json) : Json :=
  typedWith "object" [("additionalProperties", schema), ("default", obj [])]

/-- A truth value that is false by default. -/
def flag : Json := typedWith "boolean" [("default", bool false)]

/-- Something is a schema or a list of schemas, with a default. -/
def schemaOrList (default : Json) : Json :=
  obj [("anyOf", arr [ref "#", ref "#/definitions/schemaArray"]), ("default", default)]

/-- A list of schemas. -/
def schemaArray : Json :=
  typedWith "array" [("minItems", whole 1), ("items", ref "#")]

/-- A natural number, with another name for one that is zero by default. -/
def naturals (name : String) : List (String × Json) := [
  (name, typedWith "integer" [("minimum", whole 0)]),
  (name ++ "Default0", obj [("allOf", arr [ref ("#/definitions/" ++ name), obj [("default", whole 0)]])])]

/-- The keywords for choices between schemas. -/
def choices : List (String × Json) :=
  each ["allOf", "anyOf", "oneOf"] (ref "#/definitions/schemaArray") ++ [("not", ref "#")]

/-- What depends on members: a schema or names. -/
def dependencyForm : Json :=
  typedWith "object"
    [("additionalProperties", anyOf [ref "#", ref "#/definitions/stringArray"])]

/-! ### Draft four -/

/-- The keywords of draft four. -/
def fourProperties : List (String × Json) :=
  let most := ref "#/definitions/positiveInteger"
  let least := ref "#/definitions/positiveIntegerDefault0"
  let more := obj [("anyOf", arr [typed "boolean", ref "#"]), ("default", obj [])]
  each ["id", "$schema", "title", "description"] (typed "string") ++ [
    ("default", obj []),
    ("multipleOf", typedWith "number" [("minimum", whole 0), ("exclusiveMinimum", bool true)]),
    ("maximum", typed "number"), ("exclusiveMaximum", typed "boolean"), ("minimum", typed "number"),
    ("exclusiveMinimum", typed "boolean"), ("maxLength", most), ("minLength", least),
    ("pattern", formatted "regex"), ("additionalItems", more), ("items", schemaOrList (obj [])),
    ("maxItems", most), ("minItems", least), ("uniqueItems", flag), ("maxProperties", most),
    ("minProperties", least), ("required", ref "#/definitions/stringArray"),
    ("additionalProperties", more)] ++
  each ["definitions", "properties", "patternProperties"] (mapOf (ref "#")) ++ [
    ("dependencies", dependencyForm),
    ("enum", typedWith "array" [("minItems", whole 1), ("uniqueItems", bool true)]),
    ("type", typeForm (ref "#/definitions/simpleTypes")), ("format", typed "string")] ++ choices

/-- The schema of draft four. -/
def four : Json := obj [
  ("id", str (Draft.four.uri ++ "#")), ("$schema", str (Draft.four.uri ++ "#")),
  ("description", str "Core schema meta-schema"),
  ("definitions", obj ([("schemaArray", schemaArray)] ++ naturals "positiveInteger" ++ [
    ("simpleTypes", simpleTypes),
    ("stringArray", typedWith "array"
      [("items", typed "string"), ("minItems", whole 1), ("uniqueItems", bool true)])])),
  ("type", str "object"), ("properties", obj fourProperties),
  ("dependencies", obj [("exclusiveMaximum", arr [str "maximum"]), ("exclusiveMinimum", arr [str "minimum"])]),
  ("default", obj [])]

/-! ### Drafts six and seven -/

/-- The keywords of drafts six and seven for numbers and texts, which follow each other. -/
def sizeProperties : List (String × Json) :=
  [("multipleOf", typedWith "number" [("exclusiveMinimum", whole 0)])] ++
  each ["maximum", "exclusiveMaximum", "minimum", "exclusiveMinimum"] (typed "number") ++ [
    ("maxLength", ref "#/definitions/nonNegativeInteger"),
    ("minLength", ref "#/definitions/nonNegativeIntegerDefault0"), ("pattern", formatted "regex")]

/-- The keywords of drafts six and seven for items and members, which follow each other. -/
def partProperties (any patternNames : List (String × Json)) (anything : Json) : List (String × Json) :=
  let most := ref "#/definitions/nonNegativeInteger"
  let least := ref "#/definitions/nonNegativeIntegerDefault0"
  [("additionalItems", ref "#"), ("items", schemaOrList anything), ("maxItems", most), ("minItems", least),
    ("uniqueItems", flag), ("contains", ref "#"), ("maxProperties", most), ("minProperties", least),
    ("required", ref "#/definitions/stringArray"), ("additionalProperties", ref "#")] ++
  each ["definitions", "properties"] (mapOf (ref "#")) ++ [
    ("patternProperties",
      typedWith "object" ([("additionalProperties", ref "#")] ++ patternNames ++ [("default", obj [])])),
    ("dependencies", dependencyForm), ("propertyNames", ref "#"), ("const", anything),
    ("enum", typedWith "array" any), ("type", typeForm (ref "#/definitions/simpleTypes")),
    ("format", typed "string")]

/-- The schema of draft six or seven, given its keywords and what allows everything in it. -/
def sixOrSeven (d : Draft) (properties : List (String × Json)) (anything : Json) : Json := obj [
  ("$schema", str (d.uri ++ "#")), ("$id", str (d.uri ++ "#")), ("title", str "Core schema meta-schema"),
  ("definitions", obj ([("schemaArray", schemaArray)] ++ naturals "nonNegativeInteger" ++ [
    ("simpleTypes", simpleTypes),
    ("stringArray", typedWith "array"
      [("items", typed "string"), ("uniqueItems", bool true), ("default", arr [])])])),
  ("type", arr [str "object", str "boolean"]), ("properties", obj properties), ("default", anything)]

/-- The schema of draft six. -/
def six : Json :=
  sixOrSeven .six (
    [("$id", formatted "uri-reference"), ("$schema", formatted "uri"), ("$ref", formatted "uri-reference")] ++
    each ["title", "description"] (typed "string") ++ [
      ("default", obj []), ("examples", typedWith "array" [("items", obj [])])] ++
    sizeProperties ++
    partProperties [("minItems", whole 1), ("uniqueItems", bool true)] [] (obj []) ++ choices) (obj [])

/-- The schema of draft seven. -/
def seven : Json :=
  sixOrSeven .seven (
    [("$id", formatted "uri-reference"), ("$schema", formatted "uri"), ("$ref", formatted "uri-reference")] ++
    each ["$comment", "title", "description"] (typed "string") ++ [
      ("default", bool true), ("readOnly", flag), ("examples", typedWith "array" [("items", bool true)])] ++
    sizeProperties ++
    partProperties [("items", bool true)] [("propertyNames", obj [("format", str "regex")])] (bool true) ++
    each ["contentMediaType", "contentEncoding"] (typed "string") ++
    each ["if", "then", "else"] (ref "#") ++ choices) (bool true)

end TraitWeave.Schema.Standard
