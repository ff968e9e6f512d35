import TraitWeave.Schema.Standard.Early

/-!
# The schemas of the later drafts

From 2019 on a draft is described by a document for each of its vocabularies, and by one that puts them
together.

* `Standard.documents2019`, `Standard.documents2020`: the documents by their addresses.
-/

namespace TraitWeave.Schema.Standard

open Json

/-- What the two later drafts write differently. -/
structure Edition where
  draft : Draft
  /-- A reference to the document as a whole, which may be extended. -/
  self : Json
  /-- The keyword that allows the extension. -/
  anchor : String × Json

/-- The way of 2019. -/
def edition2019 : Edition := ⟨.y2019, obj [("$recursiveRef", str "#")], ("$recursiveAnchor", bool true)⟩

/-- The way of 2020. -/
def edition2020 : Edition := ⟨.y2020, obj [("$dynamicRef", str "#meta")], ("$dynamicAnchor", str "meta")⟩

/-- Schemas are objects or truth values. -/
def objectOrFlag : String × Json := ("type", arr [str "object", str "boolean"])

/-- The document of a vocabulary. -/
def Edition.vocabulary (e : Edition) (name title : String) (properties : List (String × Json))
    (definitions : List (String × Json)) : String × Json :=
  let address := e.draft.address ("meta/" ++ name)
  (address, obj ([
    ("$schema", str e.draft.uri), ("$id", str address),
    ("$vocabulary", obj [(e.draft.address ("vocab/" ++ name), bool true)]), e.anchor,
    ("title", str (title ++ " vocabulary meta-schema")), objectOrFlag, ("properties", obj properties)] ++
    if definitions.isEmpty then [] else [("$defs", obj definitions)]))

/-- A pattern that keeps fragments away, unless they are empty. -/
def noFragment : List (String × Json) := [("pattern", str "^[^#]*#?$")]

/-- Schemas by name, given a reference to schemas. -/
def Edition.mapOfSchemas (e : Edition) : Json := mapOf e.self

/-- Schemas by pattern. -/
def Edition.patternMap (e : Edition) : Json :=
  typedWith "object" [("additionalProperties", e.self), ("propertyNames", obj [("format", str "regex")]),
    ("default", obj [])]

/-- The keywords that apply schemas to the whole value. -/
def Edition.inPlace (e : Edition) : List (String × Json) :=
  each ["propertyNames", "if", "then", "else"] e.self ++
    each ["allOf", "anyOf", "oneOf"] (ref "#/$defs/schemaArray") ++ [("not", e.self)]

/-- A list of schemas. -/
def Edition.schemaArray (e : Edition) : String × Json :=
  ("schemaArray", typedWith "array" [("minItems", whole 1), ("items", e.self)])

/-- The keywords for sizes. -/
def sizes : List (String × Json) :=
  let most := ref "#/$defs/nonNegativeInteger"
  let least := ref "#/$defs/nonNegativeIntegerDefault0"
  [("multipleOf", typedWith "number" [("exclusiveMinimum", whole 0)])] ++
  each ["maximum", "exclusiveMaximum", "minimum", "exclusiveMinimum"] (typed "number") ++ [
    ("maxLength", most), ("minLength", least), ("pattern", formatted "regex"), ("maxItems", most),
    ("minItems", least), ("uniqueItems", flag), ("maxContains", most),
    ("minContains", obj [("$ref", str "#/$defs/nonNegativeInteger"), ("default", whole 1)]),
    ("maxProperties", most), ("minProperties", least), ("required", ref "#/$defs/stringArray"),
    ("dependentRequired", typedWith "object" [("additionalProperties", ref "#/$defs/stringArray")])]

/-- What the keywords for sizes and types refer to. -/
def sizeDefinitions : List (String × Json) := [
  ("nonNegativeInteger", typedWith "integer" [("minimum", whole 0)]),
  ("nonNegativeIntegerDefault0", obj [("$ref", str "#/$defs/nonNegativeInteger"), ("default", whole 0)]),
  ("simpleTypes", simpleTypes),
  ("stringArray", typedWith "array"
    [("items", typed "string"), ("uniqueItems", bool true), ("default", arr [])])]

/-- The keyword for types. -/
def typeProperty : String × Json := ("type", typeForm (ref "#/$defs/simpleTypes"))

/-- The keyword for a choice of values. -/
def enumProperty : String × Json := ("enum", typedWith "array" [("items", bool true)])

/-- The keywords that only describe. -/
def descriptions : List (String × Json) :=
  each ["title", "description"] (typed "string") ++ [("default", bool true)] ++
    each ["deprecated", "readOnly", "writeOnly"] flag ++
    [("examples", typedWith "array" [("items", bool true)])]

/-- What is kept of the earlier drafts. -/
def Edition.kept (e : Edition) : List (String × Json) := [
  ("definitions", e.mapOfSchemas),
  ("dependencies", typedWith "object"
    [("additionalProperties", anyOf [e.self, ref "meta/validation#/$defs/stringArray"])])]

/-- The document that puts vocabularies together. -/
def Edition.whole (e : Edition) (vocabularies : List String) (properties : List (String × Json)) :
    String × Json :=
  (e.draft.uri, obj [
    ("$schema", str e.draft.uri), ("$id", str e.draft.uri),
    ("$vocabulary", obj (vocabularies.map fun n => (e.draft.address ("vocab/" ++ n), bool (n != "format")))),
    e.anchor, ("title", str "Core and Validation specifications meta-schema"),
    ("allOf", arr (vocabularies.map fun n => ref ("meta/" ++ n))), objectOrFlag,
    ("properties", obj properties)])

/-- The documents of 2019. -/
def documents2019 : List (String × Json) :=
  let e := edition2019
  let self := e.self
  [e.whole ["core", "applicator", "validation", "meta-data", "format", "content"] e.kept,
    e.vocabulary "core" "Core" [
      ("$id", typedWith "string" (("format", str "uri-reference") :: noFragment)),
      ("$schema", formatted "uri"),
      ("$anchor", typedWith "string" [("pattern", str "^[A-Za-z][-A-Za-z0-9.:_]*$")]),
      ("$ref", formatted "uri-reference"), ("$recursiveRef", formatted "uri-reference"),
      ("$recursiveAnchor", flag),
      ("$vocabulary", typedWith "object"
        [("propertyNames", formatted "uri"), ("additionalProperties", typed "boolean")]),
      ("$comment", typed "string"), ("$defs", e.mapOfSchemas)] [],
    e.vocabulary "applicator" "Applicator"
      ([("additionalItems", self), ("unevaluatedItems", self),
        ("items", anyOf [self, ref "#/$defs/schemaArray"]), ("contains", self), ("additionalProperties", self),
        ("unevaluatedProperties", self), ("properties", e.mapOfSchemas), ("patternProperties", e.patternMap),
        ("dependentSchemas", typedWith "object" [("additionalProperties", self)])] ++ e.inPlace)
      [e.schemaArray],
    e.vocabulary "validation" "Validation" (sizes ++ [("const", bool true), enumProperty, typeProperty])
      sizeDefinitions,
    e.vocabulary "meta-data" "Meta-data" descriptions [],
    e.vocabulary "format" "Format" [("format", typed "string")] [],
    e.vocabulary "content" "Content"
      [("contentMediaType", typed "string"), ("contentEncoding", typed "string"), ("contentSchema", self)] []]

/-- The documents of 2020. -/
def documents2020 : List (String × Json) :=
  let e := edition2020
  let self := e.self
  let name := ref "#/$defs/anchorString"
  let reference := ref "#/$defs/uriReferenceString"
  [e.whole ["core", "applicator", "unevaluated", "validation", "meta-data", "format-annotation", "content"]
      (e.kept ++ [
        ("$recursiveAnchor", ref "meta/core#/$defs/anchorString"),
        ("$recursiveRef", ref "meta/core#/$defs/uriReferenceString")]),
    e.vocabulary "core" "Core" [
      ("$id", obj (("$ref", str "#/$defs/uriReferenceString") :: noFragment)),
      ("$schema", ref "#/$defs/uriString"), ("$ref", reference), ("$anchor", name), ("$dynamicRef", reference),
      ("$dynamicAnchor", name),
      ("$vocabulary", typedWith "object"
        [("propertyNames", ref "#/$defs/uriString"), ("additionalProperties", typed "boolean")]),
      ("$comment", typed "string"), ("$defs", typedWith "object" [("additionalProperties", self)])] [
      ("anchorString", typedWith "string" [("pattern", str "^[A-Za-z_][-A-Za-z0-9._]*$")]),
      ("uriString", formatted "uri"), ("uriReferenceString", formatted "uri-reference")],
    e.vocabulary "applicator" "Applicator"
      ([("prefixItems", ref "#/$defs/schemaArray"), ("items", self), ("contains", self),
        ("additionalProperties", self), ("properties", e.mapOfSchemas), ("patternProperties", e.patternMap),
        ("dependentSchemas", e.mapOfSchemas)] ++ e.inPlace)
      [e.schemaArray],
    e.vocabulary "unevaluated" "Unevaluated applicator"
      [("unevaluatedItems", self), ("unevaluatedProperties", self)] [],
    e.vocabulary "validation" "Validation"
      ([typeProperty, ("const", bool true), enumProperty] ++ sizes) sizeDefinitions,
    e.vocabulary "meta-data" "Meta-data" descriptions [],
    e.vocabulary "format-annotation" "Format"
      [("format", typed "string")] [],
    e.vocabulary "format-assertion" "Format"
      [("format", typed "string")] [],
    e.vocabulary "content" "Content"
      [("contentEncoding", typed "string"), ("contentMediaType", typed "string"), ("contentSchema", self)] []]

/-- All documents by their addresses. -/
def documents : List (String × Json) :=
  [(Draft.four.uri, four), (Draft.six.uri, six), (Draft.seven.uri, seven)] ++ documents2019 ++ documents2020

end TraitWeave.Schema.Standard
