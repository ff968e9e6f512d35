import TraitWeave.Json.Printer
import TraitWeave.Pattern.Basic
import TraitWeave.Schema.Draft
import TraitWeave.Schema.Fault
import TraitWeave.Schema.Format
import TraitWeave.Schema.Value

/-!
# The form of schemas

A schema is an object or a truth value, and each draft says which form the values of its keywords have.
The keywords are listed by the vocabularies of the draft, and the first one with a fault counts.

* `Form`, `Form.fault`: forms, and what is wrong with a value that does not have one.
* `Draft.formTables`: the forms of the keywords.
* `formFault`: what is wrong with the form of a schema.
-/

namespace TraitWeave.Schema

/-- The form of a value. -/
inductive Form where
  | anything
  | schema
  | text
  | flag
  | number
  /-- A number above zero. -/
  | positive
  /-- A natural number, which may be written with a fraction of zero where doubles count as integers. -/
  | natural
  /-- A text that matches a pattern. -/
  | matching (pattern : String)
  /-- A text that writes a pattern. -/
  | pattern
  /-- A text in some format. -/
  | formatted (format : Format)
  /-- One of the names of types. -/
  | typeName
  /-- A list whose items have a form. -/
  | list (item : Form) (least : Nat) (distinct : Bool)
  /-- An object whose values have a form. -/
  | map (value : Form)
  /-- An object whose names write patterns and whose values have a form. -/
  | patternMap (value : Form)
  /-- One of two forms. -/
  | either (left right : Form)

namespace Form

/-- What is wrong with a value that must have a type. -/
def typeFault (d : Draft) (type : String) (v : Json) : Option Fault :=
  if hasType d type v then none else some (.wrongType v [type])

/-- What is wrong with a text that must match a pattern; other values are passed over. -/
def matchFault (pattern : String) (v : Json) : Option Fault :=
  match v with
  | .str s =>
    match Pattern.read pattern with
    | some p => if p.occursIn? s = some true then none else some (.noMatch v pattern)
    | none => none
  | _ => none

/-- What is wrong with a text that must write a pattern; from 2019 on that is not a matter of form. -/
def writesPattern (d : Draft) (s : String) : Option Fault :=
  if d.since .y2019 || (Pattern.read s).isSome then none else some (.wrongFormat (.str s) "regex")

/-- What is wrong with a value that must have a form, given what is wrong with schemas. -/
def fault (d : Draft) (schemaFault : Json → Option Fault) : Form → Json → Option Fault
  | anything, _ => none
  | schema, v => schemaFault v
  | text, v => typeFault d "string" v
  | flag, v => typeFault d "boolean" v
  | number, v => typeFault d "number" v
  | positive, v =>
    match v with
    | .num n => if n.compareValue (.int 0) == .gt then none else some (.notAbove v (.int 0))
    | v => typeFault d "number" v
  | natural, v =>
    (typeFault d "integer" v).or
      (match v with
        | .num n => if n.compareValue (.int 0) == .lt then some (.below v (.int 0)) else none
        | _ => none)
  | matching expr, v => (typeFault d "string" v).or (matchFault expr v)
  | pattern, v =>
    match v with
    | .str s => writesPattern d s
    | v => typeFault d "string" v
  | formatted format, v =>
    match v with
    | .str s => if format.allows s then none else some (.wrongFormat v format.name)
    | v => typeFault d "string" v
  | typeName, v =>
    match v with
    | .str s => if typeNames.contains s then none else some (.notListed v (typeNames.map .str))
    | v => some (.notListed v (typeNames.map .str))
  | list item least distinct, v =>
    match v with
    | .arr items =>
      if items.length < least then some (.tooFewItems v least)
      else
        (items.findSome? (fault d schemaFault item)).or
          (if distinct && !allDistinct items then some (.repeated v) else none)
    | v => typeFault d "array" v
  | map value, v =>
    match v with
    | .obj ms => ms.findSome? fun p => fault d schemaFault value p.2
    | v => typeFault d "object" v
  | patternMap value, v =>
    match v with
    | .obj ms =>
      (ms.findSome? fun p => fault d schemaFault value p.2).or
        (ms.findSome? fun p => writesPattern d p.1)
    | v => typeFault d "object" v
  | either left right, v =>
    if (fault d schemaFault left v).isNone || (fault d schemaFault right v).isNone then none
    else some (.noneOfAny v)

/-- A list of schemas that is not empty. -/
def schemas : Form := list schema 1 false

/-- A list of distinct texts. -/
def names : Form := list text 0 true

/-- A type name or a list of them. -/
def types : Form := either typeName (list typeName 1 true)

/-- A reference without a fragment that says something. -/
def identifier : Form := matching "^[^#]*#?$"

end Form

open Form

/-- The forms of some keywords, in order. -/
abbrev FormTable := List (String × Form)

/-- The keywords about identity, in 2020. -/
def coreVocabulary : FormTable := [
  ("$id", identifier), ("$schema", text), ("$ref", text), ("$anchor", matching "^[A-Za-z_][-A-Za-z0-9._]*$"),
  ("$dynamicRef", text), ("$dynamicAnchor", matching "^[A-Za-z_][-A-Za-z0-9._]*$"),
  ("$vocabulary", map flag), ("$comment", text), ("$defs", map schema)]

/-- The keywords that apply schemas to parts, in 2020. -/
def applicatorVocabulary : FormTable := [
  ("prefixItems", schemas), ("items", schema), ("contains", schema), ("additionalProperties", schema),
  ("properties", map schema), ("patternProperties", patternMap schema), ("dependentSchemas", map schema),
  ("propertyNames", schema), ("if", schema), ("then", schema), ("else", schema), ("allOf", schemas),
  ("anyOf", schemas), ("oneOf", schemas), ("not", schema)]

/-- The keywords about sizes and ranges. -/
def sizeVocabulary : FormTable := [
  ("multipleOf", positive), ("maximum", number), ("exclusiveMaximum", number), ("minimum", number),
  ("exclusiveMinimum", number), ("maxLength", natural), ("minLength", natural), ("pattern", pattern),
  ("maxItems", natural), ("minItems", natural), ("uniqueItems", flag), ("maxContains", natural),
  ("minContains", natural), ("maxProperties", natural), ("minProperties", natural), ("required", names),
  ("dependentRequired", map names)]

/-- The keywords about the value itself. -/
def valueVocabulary : FormTable := [("type", types), ("const", anything), ("enum", list anything 0 false)]

/-- The keywords that only describe. -/
def describingVocabulary : FormTable := [
  ("title", text), ("description", text), ("default", anything), ("deprecated", flag), ("readOnly", flag),
  ("writeOnly", flag), ("examples", list anything 0 false)]

/-- The keywords of earlier drafts that are still known. -/
def formerVocabulary : FormTable := [
  ("definitions", map schema), ("dependencies", map (either schema names)),
  ("$recursiveAnchor", matching "^[A-Za-z_][-A-Za-z0-9._]*$"), ("$recursiveRef", text)]

/-- The vocabularies of 2020. -/
def vocabularies2020 : List FormTable := [
  coreVocabulary, applicatorVocabulary, [("unevaluatedItems", schema), ("unevaluatedProperties", schema)],
  valueVocabulary ++ sizeVocabulary, describingVocabulary, [("format", text)],
  [("contentEncoding", text), ("contentMediaType", text), ("contentSchema", schema)], formerVocabulary]

/-- The vocabularies of 2019. -/
def vocabularies2019 : List FormTable := [
  [("$id", identifier), ("$schema", text), ("$anchor", matching "^[A-Za-z][-A-Za-z0-9.:_]*$"), ("$ref", text),
    ("$recursiveRef", text), ("$recursiveAnchor", flag), ("$vocabulary", map flag), ("$comment", text),
    ("$defs", map schema)],
  [("additionalItems", schema), ("unevaluatedItems", schema), ("items", either schema schemas),
    ("contains", schema), ("additionalProperties", schema), ("unevaluatedProperties", schema),
    ("properties", map schema), ("patternProperties", patternMap schema), ("dependentSchemas", map schema),
    ("propertyNames", schema), ("if", schema), ("then", schema), ("else", schema), ("allOf", schemas),
    ("anyOf", schemas), ("oneOf", schemas), ("not", schema)],
  sizeVocabulary ++ [("const", anything), ("enum", list anything 0 false), ("type", types)],
  describingVocabulary, [("format", text)],
  [("contentMediaType", text), ("contentEncoding", text), ("contentSchema", schema)],
  [("definitions", map schema), ("dependencies", map (either schema names))]]

/-- The keywords of draft seven. -/
def vocabularySeven : FormTable := [
  ("$id", formatted .uriReference), ("$schema", formatted .uri), ("$ref", formatted .uriReference), ("$comment", text), ("title", text),
  ("description", text), ("default", anything), ("readOnly", flag), ("examples", list anything 0 false),
  ("multipleOf", positive), ("maximum", number), ("exclusiveMaximum", number), ("minimum", number),
  ("exclusiveMinimum", number), ("maxLength", natural), ("minLength", natural), ("pattern", pattern),
  ("additionalItems", schema), ("items", either schema schemas), ("maxItems", natural),
  ("minItems", natural), ("uniqueItems", flag), ("contains", schema), ("maxProperties", natural),
  ("minProperties", natural), ("required", names), ("additionalProperties", schema),
  ("definitions", map schema), ("properties", map schema), ("patternProperties", patternMap schema),
  ("dependencies", map (either schema names)), ("propertyNames", schema), ("const", anything),
  ("enum", list anything 0 false), ("type", types), ("format", text), ("contentMediaType", text),
  ("contentEncoding", text), ("if", schema), ("then", schema), ("else", schema), ("allOf", schemas),
  ("anyOf", schemas), ("oneOf", schemas), ("not", schema)]

/-- The keywords of draft six. -/
def vocabularySix : FormTable := [
  ("$id", formatted .uriReference), ("$schema", formatted .uri), ("$ref", formatted .uriReference), ("title", text), ("description", text),
  ("default", anything), ("examples", list anything 0 false), ("multipleOf", positive),
  ("maximum", number), ("exclusiveMaximum", number), ("minimum", number), ("exclusiveMinimum", number),
  ("maxLength", natural), ("minLength", natural), ("pattern", pattern), ("additionalItems", schema),
  ("items", either schema schemas), ("maxItems", natural), ("minItems", natural), ("uniqueItems", flag),
  ("contains", schema), ("maxProperties", natural), ("minProperties", natural), ("required", names),
  ("additionalProperties", schema), ("definitions", map schema), ("properties", map schema),
  ("patternProperties", map schema), ("dependencies", map (either schema names)),
  ("propertyNames", schema), ("const", anything), ("enum", list anything 1 true), ("type", types),
  ("format", text), ("allOf", schemas), ("anyOf", schemas), ("oneOf", schemas), ("not", schema)]

/-- The keywords of draft four. -/
def vocabularyFour : FormTable := [
  ("id", text), ("$schema", text), ("title", text), ("description", text), ("default", anything),
  ("multipleOf", positive), ("maximum", number), ("exclusiveMaximum", flag), ("minimum", number),
  ("exclusiveMinimum", flag), ("maxLength", natural), ("minLength", natural), ("pattern", pattern),
  ("additionalItems", either flag schema), ("items", either schema schemas), ("maxItems", natural),
  ("minItems", natural), ("uniqueItems", flag), ("maxProperties", natural), ("minProperties", natural),
  ("required", list text 1 true), ("additionalProperties", either flag schema), ("definitions", map schema),
  ("properties", map schema), ("patternProperties", map schema),
  ("dependencies", map (either schema (list text 1 true))), ("enum", list anything 1 true),
  ("type", types), ("format", text), ("allOf", schemas), ("anyOf", schemas), ("oneOf", schemas),
  ("not", schema)]

/-- The vocabularies of a draft. -/
def Draft.formTables : Draft → List FormTable
  | .four => [vocabularyFour]
  | .six => [vocabularySix]
  | .seven => [vocabularySeven]
  | .y2019 => vocabularies2019
  | .y2020 => vocabularies2020

/-- The types that schemas have in a draft. -/
def Draft.schemaTypes : Draft → List String
  | .four => ["object"]
  | _ => ["boolean", "object"]

/-- In draft four, the keywords that make limits exclusive need the limits. -/
def dependencyFault (d : Draft) (v : Json) : Option Fault :=
  let missing := [("exclusiveMaximum", "maximum"), ("exclusiveMinimum", "minimum")].find? fun (key, needed) =>
    (v.member? key).isSome && (v.member? needed).isNone
  if d = .four then missing.map fun p => .missing p.2 else none

/-- What is wrong with the form of a schema nested `fuel` deep at most. -/
def formFaultIn (d : Draft) : Nat → Json → Option Fault
  | 0, _ => none
  | fuel + 1, v =>
    if !d.schemaTypes.any (hasType d · v) then some (.wrongType v d.schemaTypes)
    else
      (d.formTables.flatten.findSome? fun (key, form) =>
        (v.member? key).bind (form.fault d (formFaultIn d fuel))).or (dependencyFault d v)

/-- What is wrong with the form of a schema. -/
def formFault (d : Draft) (v : Json) : Option Fault := formFaultIn d v.depth v

end TraitWeave.Schema
