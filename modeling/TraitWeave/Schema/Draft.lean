import TraitWeave.Json.Basic
import TraitWeave.Text.Pieces

/-!
# Drafts

Schemas are written in one of several drafts of JSON Schema, of which the latest is meant where a schema
names none. The drafts differ in the keywords they know, and in where a schema may hold further schemas.

* `Draft.detect`: the draft that a schema names.
* `Draft.Vocabulary`, `Draft.knows`: whether a keyword means something in a draft.
* `Draft.holding?`, `Draft.subschemas`: the schemas that a schema holds.
-/

namespace TraitWeave.Schema

/-- The drafts. -/
inductive Draft where
  | four
  | six
  | seven
  | y2019
  | y2020
  deriving DecidableEq, Repr

namespace Draft

/-- The place of a draft in their order. -/
def rank : Draft → Nat
  | four => 4
  | six => 6
  | seven => 7
  | y2019 => 8
  | y2020 => 9

/-- A draft, or a later one. -/
def since (d e : Draft) : Bool := e.rank ≤ d.rank

/-- All drafts, the latest one first. -/
def all : List Draft := [y2020, y2019, seven, six, four]

/-- How a draft is called in its address. -/
def path : Draft → String
  | four => "draft-04"
  | six => "draft-06"
  | seven => "draft-07"
  | y2019 => "draft/2019-09"
  | y2020 => "draft/2020-12"

/-- The address of a document about a draft; those from 2019 on have a safe one. -/
def address (d : Draft) (document : String) : String :=
  (if d.since y2019 then "https" else "http") ++ "://json-schema.org/" ++ d.path ++ "/" ++ document

/-- The address by which schemas name a draft. -/
def uri (d : Draft) : String := d.address "schema"

/-- Without the number signs at the end. -/
def withoutHash (uri : String) : String :=
  String.ofList (uri.toList.reverse.dropWhile (· == '#')).reverse

/-- The draft that a schema names, or another where it names none; or the name that is not known. -/
def detectOr (otherwise : Draft) (schema : Json) : Except String Draft :=
  match (schema.member? "$schema").bind Json.asStr? with
  | none => .ok otherwise
  | some uri =>
    match all.find? fun d => d.uri == withoutHash uri with
    | some d => .ok d
    | none => .error (withoutHash uri)

/-- The draft that a schema names, the latest one where it names none, or the name that is not known. -/
def detect (schema : Json) : Except String Draft := detectOr y2020 schema

/-- The draft that a schema names, or another where it names none; a name that is not known counts as the
latest one. -/
def named (otherwise : Draft) (schema : Json) : Draft :=
  match detectOr otherwise schema with
  | .ok d => d
  | .error _ => y2020

/-! ### Keywords -/

/-- The parts of a draft that a schema may be restricted to. -/
inductive Vocabulary where
  | core
  | applicator
  | unevaluated
  | validation
  deriving DecidableEq, Repr

/-- The vocabularies that a schema of a draft uses. Earlier drafts do not tell any. -/
def vocabularies : Draft → List Vocabulary
  | y2020 => [.core, .applicator, .unevaluated, .validation]
  | y2019 => [.core, .applicator, .validation]
  | _ => []

/-- The keywords that say something about the value alone, in all drafts. -/
def commonAssertions : List String := [
  "enum", "maximum", "maxItems", "maxLength", "maxProperties", "minimum", "minItems", "minLength",
  "minProperties", "multipleOf", "pattern", "required", "type", "uniqueItems"]

/-- The keywords that apply schemas, in all drafts. -/
def commonApplicators : List String := [
  "additionalProperties", "allOf", "anyOf", "dependencies", "items", "not", "oneOf", "patternProperties",
  "properties"]

/-- The vocabulary of a keyword that means something in a draft. -/
def vocabularyOf? (d : Draft) (keyword : String) : Option Vocabulary :=
  if keyword == "$ref" then some .core
  else if commonAssertions.contains keyword then some .validation
  else if commonApplicators.contains keyword then some .applicator
  else if ["const", "exclusiveMaximum", "exclusiveMinimum"].contains keyword then
    if d.since six then some .validation else none
  else if ["contains", "propertyNames"].contains keyword then
    if d.since six then some .applicator else none
  else if keyword == "if" then if d.since seven then some .applicator else none
  else if keyword == "dependentRequired" then if d.since y2019 then some .validation else none
  else if keyword == "dependentSchemas" then if d.since y2019 then some .applicator else none
  else if ["unevaluatedItems", "unevaluatedProperties"].contains keyword then
    match d with
    | y2020 => some .unevaluated
    | y2019 => some .applicator
    | _ => none
  else if keyword == "$recursiveRef" then if d == y2019 then some .core else none
  else if keyword == "additionalItems" then if d.since y2020 then none else some .applicator
  else if keyword == "$dynamicRef" then if d.since y2020 then some .core else none
  else if keyword == "prefixItems" then if d.since y2020 then some .applicator else none
  else if keyword == "format" then if d.since y2019 then none else some .validation
  else if ["contentEncoding", "contentMediaType"].contains keyword then
    if d == six || d == seven then some .validation else none
  else none

/-- Whether a keyword means something in a draft, with some vocabularies in use. The core is always in use,
and earlier drafts are not restricted. -/
def knows (d : Draft) (inUse : List Vocabulary) (keyword : String) : Bool :=
  match d.vocabularyOf? keyword with
  | none => false
  | some v => !d.since y2019 || v == .core || inUse.contains v

/-- Whether a reference may have other keywords beside it. -/
def refHasSiblings (d : Draft) : Bool := d.since y2019

/-! ### Schemas inside of schemas -/

/-- How a keyword holds schemas. -/
inductive Holding where
  /-- Its value is a schema. -/
  | one
  /-- Its value is a schema if it is an object. -/
  | oneObject
  /-- Its value is a list of schemas. -/
  | items
  /-- Its value maps names to schemas. -/
  | members
  /-- Its value is a schema or a list of them. -/
  | itemsOrOne
  /-- Its value maps names to schemas, if the first of them is an object. -/
  | membersByFirst
  deriving DecidableEq, Repr

/-- The keywords whose value is a schema, in the drafts since the sixth. -/
def singles (d : Draft) : List String :=
  ["additionalProperties", "contains", "not", "propertyNames"] ++
    (if d.since seven then ["else", "if", "then"] else []) ++
    (if d.since y2019 then ["contentSchema", "unevaluatedItems", "unevaluatedProperties"] else []) ++
    (if d.since y2020 then ["items"] else ["additionalItems"])

/-- How a keyword holds schemas in a draft, if it does. -/
def holding? (d : Draft) (keyword : String) : Option Holding :=
  if ["allOf", "anyOf", "oneOf"].contains keyword then some .items
  else if ["definitions", "patternProperties", "properties"].contains keyword then some .members
  else if d == four then
    if keyword == "not" then some .one
    else if ["additionalItems", "additionalProperties"].contains keyword then some .oneObject
    else if keyword == "items" then some .itemsOrOne
    else if keyword == "dependencies" then some .membersByFirst
    else none
  else if d.singles.contains keyword then some .one
  else if keyword == "items" then some .itemsOrOne
  else if keyword == "dependencies" then if d.since y2019 then none else some .membersByFirst
  else if ["$defs", "dependentSchemas"].contains keyword then if d.since y2019 then some .members else none
  else if keyword == "prefixItems" then if d.since y2020 then some .items else none
  else none

/-- Whether a value is an object. -/
def isObject (v : Json) : Bool := v.kind == .obj

/-- The schemas that the value of a keyword is. -/
def Holding.schemas (h : Holding) (v : Json) : List Json :=
  match h, v with
  | one, v => [v]
  | oneObject, v => if isObject v then [v] else []
  | items, .arr vs => vs
  | members, .obj ms => ms.map Prod.snd
  | itemsOrOne, .arr vs => vs
  | itemsOrOne, v => [v]
  | membersByFirst, .obj ms => if (ms.head?.any fun p => isObject p.2) then ms.map Prod.snd else []
  | _, _ => []

/-- The schemas that a schema holds, in its order. -/
def subschemas (d : Draft) (schema : Json) : List Json :=
  ((schema.asObj?).getD []).flatMap fun (key, v) =>
    match d.holding? key with
    | some h => h.schemas v
    | none => []

/-- A step into a value: to a member or to an item. -/
inductive Step where
  | member (key : String)
  | item
  deriving DecidableEq, Repr

/-- Whether steps from a schema lead to a place where schemas stand. Where one keyword may hold a schema or
several, an object counts as a schema at once. -/
def leadsToSchema (d : Draft) (object : Bool) : List Step → Bool
  | [] => true
  | .item :: rest => leadsToSchema d object rest
  | .member key :: rest =>
    match d.holding? key with
    | some .one => leadsToSchema d object rest
    | some .oneObject => leadsToSchema d object rest
    | some .items =>
      match rest with
      | [] => false
      | _ :: rest => leadsToSchema d object rest
    | some .members =>
      match rest with
      | [] => false
      | _ :: rest => leadsToSchema d object rest
    | some .itemsOrOne => object
    | some .membersByFirst => object
    | none => false

/-! ### Names of schemas -/

/-- The keyword that names a schema. -/
def idKey : Draft → String
  | four => "id"
  | _ => "$id"

/-- The name of a schema, which makes it a resource of its own; number signs at its end do not count. In
earlier drafts a name beside a reference, and one that is an anchor, does not count. -/
def identifier? (d : Draft) (v : Json) : Option String :=
  match (v.member? d.idKey).bind Json.asStr? with
  | some id =>
    if !d.since y2019 && ((v.member? "$ref").isSome || id.toList.head? == some '#') then none
    else some (withoutHash id)
  | none => none

/-- The anchors of a schema, and whether they are dynamic. -/
def anchors (d : Draft) (v : Json) : List (String × Bool) :=
  let texts := fun (key : String) => ((v.member? key).bind Json.asStr?).toList
  match d with
  | y2020 => (texts "$anchor").map (·, false) ++ (texts "$dynamicAnchor").map (·, true)
  | y2019 => (texts "$anchor").map (·, false)
  | d =>
    (texts d.idKey).filterMap fun id =>
      match id.toList with
      | '#' :: name => some (String.ofList name, false)
      | _ => none

end Draft

end TraitWeave.Schema
