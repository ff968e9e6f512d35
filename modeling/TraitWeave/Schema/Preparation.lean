import TraitWeave.Schema.Rule

/-!
# Making schemas ready

A schema is made ready keyword by keyword, in the order in which they stand. A keyword whose value does not
have the right form, a text that writes no pattern and a reference that leads nowhere end that.

* `Refusal`, `Refusal.message`: why a schema cannot be used.
* `Preparing`: making ready, with the references that were followed so far.
* `prepareIn`: a schema made ready.
-/

namespace TraitWeave.Schema

/-- Why a schema cannot be used. -/
inductive Refusal where
  | form (fault : Fault)
  | lost (reference : Lost)

/-- The wording. -/
def Refusal.message : Refusal → String
  | form f => f.message
  | lost l => l.message

/-- Making schemas ready, with the places to which references were followed. -/
abbrev Preparing := StateT (List Uri) (Except Refusal)

/-- Makes a schema ready at some place. -/
abbrev Prepare := Context → Json → Preparing Node

namespace Preparing

/-- Stop with a fault. -/
def refuse {α : Type} (f : Fault) : Preparing α := throw (.form f)

/-- Stop where a reference leads nowhere. -/
def reach {α : Type} (e : Except Lost α) : Preparing α :=
  match e with
  | .ok a => pure a
  | .error l => throw (.lost l)

/-- Go through a list. -/
def each {α β : Type} (f : α → Preparing β) : List α → Preparing (List β)
  | [] => pure []
  | x :: xs => do
    let y ← f x
    let ys ← each f xs
    pure (y :: ys)

end Preparing

open Preparing

/-- The context inside of a schema, which may be of another draft and a resource of its own. -/
def Context.inside (c : Context) (schema : Json) : Except Lost Context :=
  let d := c.draft.named schema
  (c.scope.inside ⟨d, schema⟩).map fun scope => { c with scope, draft := d }

namespace Keyword

/-! ### Arguments -/

/-- A value of some type. -/
def mustBe {α : Type} (type : String) (arg : Json) (read : Json → Option α) : Preparing α :=
  match read arg with
  | some a => pure a
  | none => refuse (.wrongType arg [type])

/-- A list. -/
def list (arg : Json) : Preparing (List Json) := mustBe "array" arg Json.asArr?

/-- An object. -/
def table (arg : Json) : Preparing (Table Json) := mustBe "object" arg Json.asObj?

/-- A text. -/
def text (arg : Json) : Preparing String := mustBe "string" arg Json.asStr?

/-- A number. -/
def number (arg : Json) : Preparing Number :=
  mustBe "number" arg fun v =>
    match v with
    | .num n => some n
    | _ => none

/-- The greatest limit of a size. -/
def greatestLimit : Nat := UInt64.size - 1

/-- A double without a fraction as a limit; what lies below zero counts as zero. -/
def limitOf (x : Double) : Nat :=
  if x.negative then 0 else min greatestLimit (x.quotient.1 / x.quotient.2)

/-- The limit of a size. From the sixth draft on a number without a fraction will do, else only a natural
number. -/
def sizeLimit (d : Draft) (arg : Json) : Preparing Nat :=
  match arg with
  | .num (.int n) =>
    if 0 ≤ n ∨ d.since .six then pure n.toNat else refuse (.below arg (.int 0))
  | .num (.real x) =>
    if d.since .six ∧ x.isWhole then pure (limitOf x) else refuse (.wrongType arg ["integer"])
  | arg => refuse (.wrongType arg ["integer"])

/-- A number of items that must be allowed, if it is told. -/
def countLimit? (schema : Table Json) (keyword : String) : Preparing (Option Nat) :=
  match schema.get? keyword with
  | none => pure none
  | some arg =>
    match arg with
    | .num (.int n) => if 0 ≤ n then pure (some n.toNat) else refuse (.below arg (.int 0))
    | .num (.real x) => if x.isWhole then pure (some (limitOf x)) else refuse (.wrongType arg ["integer"])
    | arg => refuse (.wrongType arg ["integer"])

/-- The names of types, in their own order. -/
def types (arg : Json) : Preparing (List String) :=
  let single := fun (t : String) => if typeNames.contains t then pure [t] else refuse .unknownType
  match arg with
  | .str t => single t
  | .arr [v] => do single (← text v)
  | .arr vs => do
    let named ← each (fun v => do
      let t ← text v
      if typeNames.contains t then pure t else refuse (.notListed v (typeNames.map .str))) vs
    pure (typeNames.filter named.contains)
  | v => refuse (.wrongType v ["array", "string"])

/-- A pattern; `shown` stands in the message if it is none. -/
def pattern (source : String) (shown : Json) : Preparing Pattern :=
  match Pattern.read source with
  | some p => pure p
  | none => refuse (.wrongFormat shown "regex")

/-- The names that are needed. -/
def names (arg : Json) : Preparing (List String) := do each text (← list arg)

/-! ### Keywords that speak of the value alone -/

/-- The check of a format, where a draft knows it. -/
def formatChecks (d : Draft) (arg : Json) : Preparing (List Check) := do
  let name ← text arg
  pure ((Format.ofName? d name).map Check.format).toList

/-- The encodings that are known. -/
def knowsEncoding (name : String) : Bool := name == "base64"

/-- The media types that are known. -/
def knowsMediaType (name : String) : Bool := name == "application/json"

/-- The check of an encoding, where no media type is told. -/
def encodingChecks (schema : Table Json) (arg : Json) : Preparing (List Check) := do
  if schema.has "contentMediaType" then pure []
  else
    let name ← text arg
    pure (if knowsEncoding name then [.encoding name] else [])

/-- The check of a media type, inside of an encoding where one is told. -/
def mediaTypeChecks (schema : Table Json) (arg : Json) : Preparing (List Check) := do
  let name ← text arg
  if !knowsMediaType name then pure []
  else
    match schema.get? "contentEncoding" with
    | none => pure [.mediaType name]
    | some e => do
      let encoding ← text e
      pure (if knowsEncoding encoding then [.encodedMediaType encoding name] else [])

/-- The keyword that makes a limit of draft four exclusive, where it is there and true. -/
def exclusion? (d : Draft) (schema : Table Json) (keyword : String) : Option String :=
  let name := if keyword = "minimum" then "exclusiveMinimum" else "exclusiveMaximum"
  if d = .four ∧ (keyword = "minimum" ∨ keyword = "maximum") ∧
      (schema.get? name).bind Json.asBool? = some true then
    some name
  else none

/-- The checks of a keyword that speaks of the value alone. -/
def checks (c : Context) (schema : Table Json) (keyword : String) (arg : Json) : Preparing (List Check) :=
  let size := fun (check : Nat → Check) => do pure [check (← sizeLimit c.draft arg)]
  let bound := fun (check : Number → Check) => do pure [check (← number arg)]
  match keyword with
  | "type" => do pure [.types c.draft (← types arg)]
  | "enum" => do pure [.options (← list arg)]
  | "const" => pure [.expected arg]
  | "multipleOf" => bound fun n => .multipleOf n.toDouble
  | "minimum" => bound .minimum
  | "maximum" => bound .maximum
  | "exclusiveMinimum" => bound .exclusiveMinimum
  | "exclusiveMaximum" => bound .exclusiveMaximum
  | "minLength" => size .minLength
  | "maxLength" => size .maxLength
  | "minItems" => size .minItems
  | "maxItems" => size .maxItems
  | "minProperties" => size .minProperties
  | "maxProperties" => size .maxProperties
  | "pattern" => do
    let source ← text arg
    pure [.pattern source (← pattern source arg)]
  | "uniqueItems" => pure (if arg.asBool? = some true then [.uniqueItems] else [])
  | "required" => do pure [.required (← names arg)]
  | "format" => formatChecks c.draft arg
  | "contentEncoding" => encodingChecks schema arg
  | "contentMediaType" => mediaTypeChecks schema arg
  | _ => pure []

/-- The rules of a keyword that speaks of the value alone. -/
def checkRules (c : Context) (schema : Table Json) (keyword : String) (arg : Json) :
    Preparing (List Rule) := do
  match exclusion? c.draft schema keyword with
  | some exclusive =>
    let n ← number arg
    let check := if keyword = "minimum" then Check.exclusiveMinimum n else Check.exclusiveMaximum n
    pure [.check (c.path ++ [exclusive]) check]
  | none => pure ((← checks c schema keyword arg).map fun check => .check (c.path ++ [keyword]) check)

/-! ### References -/

variable (prepare : Prepare)

/-- A schema below, which may be a resource of its own. -/
def below (c : Context) (schema : Json) : Preparing Node := do
  prepare (← reach (c.inside schema)) schema

/-- A reference to a schema that is being made ready. One that leads to the same reference says nothing. -/
def putOff (c : Context) (keyword reference : String) (t : Target) : Preparing (List Rule) :=
  if (t.schema.member? "$ref").bind Json.asStr? = some reference then pure []
  else
    pure [.apply (.later ⟨t.scope, c.draft, c.vocabularies, c.path ++ [keyword]⟩ t.schema)]

/-- A reference to the resource itself, or to an outer one. -/
def recursiveRules (c : Context) (keyword reference : String) : Preparing (List Rule) := do
  putOff c keyword reference (← reach c.scope.lookupRecursive)

/-- A reference. The first one to a place is followed at once. -/
def referenceRules (c : Context) (schema : Table Json) (keyword reference : String) :
    Preparing (List Rule) := do
  if reference = "#" then recursiveRules c keyword reference
  else
    let uri ← reach (Reach.resolve c.scope.base reference)
    if (← get).contains uri then putOff c keyword reference (← reach (c.scope.lookup reference))
    else
      if !Scope.isRecursive (.obj schema) then modify (uri :: ·)
      let t ← reach (c.scope.lookup reference)
      let d := t.draft.named t.schema
      let node ← prepare ⟨t.scope, d, d.vocabularies, c.path ++ [keyword]⟩ t.schema
      pure [.apply node]

/-! ### Keywords that apply schemas -/

/-- The schemas of a list, at their positions. -/
def listed (c : Context) (keyword : String) (schemas : List Json) : Preparing (List Node) :=
  each (fun (schema, i) => below prepare ((c.under keyword).under (toString i)) schema) schemas.zipIdx

/-- The schemas of a table, under their names. -/
def byName (c : Context) (keyword : String) (schemas : Table Json) : Preparing (List (String × Node)) :=
  each (fun (key, schema) => do
    pure (key, ← below prepare ((c.under keyword).under key) schema)) schemas

/-- The schemas of a table, under the patterns that their names write. -/
def byPattern (c : Context) (schemas : Table Json) : Preparing (List (Pattern × Node)) :=
  each (fun (source, schema) => do
    let p ← pattern source schema
    pure (p, ← below prepare ((c.under "patternProperties").under source) schema)) schemas

/-- Whether the keyword for further members also does the work of those for known ones. -/
def takesMembers (schema : Table Json) : Bool :=
  match schema.get? "additionalProperties" with
  | some (.bool false) => true
  | some (.obj _) => true
  | _ => false

/-- The schemas of the members that are known by name. -/
def knownMembers (c : Context) (schema : Table Json) : Preparing (List (String × Node)) :=
  match schema.get? "properties" with
  | some arg => do byName prepare c "properties" (← table arg)
  | none => pure []

/-- The schemas of the members that are known by pattern. -/
def knownPatterns (c : Context) (schema : Table Json) : Preparing (List (Pattern × Node)) :=
  match schema.get? "patternProperties" with
  | some arg => do byPattern prepare c (← table arg)
  | none => pure []

/-- The rules for all members. -/
def memberRules (c : Context) (schema : Table Json) (arg : Json) : Preparing (List Rule) := do
  let matching ← knownPatterns prepare c schema
  let path := c.path ++ ["additionalProperties"]
  match arg with
  | .bool true => pure []
  | .bool false =>
    if !schema.has "properties" && !schema.has "patternProperties" then pure [.check path .noMembers]
    else pure [.members path (← knownMembers prepare c schema) matching none]
  | arg =>
    let named ← knownMembers prepare c schema
    let further ← below prepare (c.under "additionalProperties") arg
    pure [.members path named matching (some further)]

/-- The rules for the names of members. -/
def nameRules (c : Context) (arg : Json) : Preparing (List Rule) := do
  match arg with
  | .bool false => pure [.check (c.path ++ ["propertyNames"]) .noNames]
  | .obj _ => pure [.names (← below prepare (c.under "propertyNames") arg)]
  | _ => pure []

/-- The rules for names that are needed with a member; they must be distinct. -/
def neededRules (c : Context) (arg : Json) : Preparing (List Rule) := do
  each (fun (key, needed) => do
    let items ← list needed
    if !allDistinct items then refuse (.repeated needed)
    pure (.needed (c.path ++ ["dependentRequired"]) key (← names needed))) (← table arg)

/-- The rules for schemas that apply where a member is there. -/
def dependentRules (c : Context) (arg : Json) : Preparing (List Rule) := do
  let nodes ← byName prepare c "dependentSchemas" (← table arg)
  pure (nodes.map fun (key, node) => .dependent key node)

/-- The rules for names or schemas that depend on a member. -/
def dependencyRules (c : Context) (arg : Json) : Preparing (List Rule) := do
  each (fun (key, needed) => do
    match needed with
    | .arr _ => pure (Rule.needed (c.path ++ ["dependencies"]) key (← names needed))
    | schema => pure (Rule.dependent key (← below prepare ((c.under "dependencies").under key) schema)))
    (← table arg)

/-- The rules for items: by position or, after those that the keyword for the first ones knows, all. -/
def itemRules (c : Context) (schema : Table Json) (arg : Json) : Preparing (List Rule) := do
  match arg with
  | .arr schemas => pure [.tuple (← listed prepare c "items" schemas)]
  | .obj _ | .bool _ =>
    let first := ((schema.get? "prefixItems").bind Json.asArr?).getD []
    pure [.items first.length (← below prepare (c.under "items") arg)]
  | _ => pure []

/-- The rules for items beyond those that are known by position. -/
def furtherItemRules (c : Context) (schema : Table Json) (arg : Json) : Preparing (List Rule) := do
  let path := c.path ++ ["additionalItems"]
  match schema.get? "items", arg with
  | some (.bool false), _ => pure [.check path .nothing]
  | some (.arr known), .bool false => pure [.check path (.itemsUpTo known.length)]
  | some (.arr known), .obj _ =>
    pure [.items known.length (← below prepare (c.under "additionalItems") arg)]
  | _, _ => pure []

/-- The rules for items of which some must be allowed. Bounds are known since 2019. -/
def containsRules (c : Context) (schema : Table Json) (arg : Json) : Preparing (List Rule) := do
  let bounded := c.draft.since .y2019
  let least ← if bounded then countLimit? schema "minContains" else pure none
  let most ← if bounded then countLimit? schema "maxContains" else pure none
  let path := c.path ++ ["contains"]
  let node ← below prepare (c.under "contains") arg
  pure [.contains path (path ++ ["minContains"]) (path ++ ["maxContains"]) node least most]

/-- The rules of a condition, where a branch follows. -/
def conditionRules (c : Context) (schema : Table Json) (arg : Json) : Preparing (List Rule) := do
  if !schema.has "then" && !schema.has "else" then pure []
  else
    let branch := fun (keyword : String) =>
      match schema.get? keyword with
      | some v => do pure (some (← below prepare (c.under keyword) v))
      | none => pure none
    let condition ← below prepare (c.under "if") arg
    let yes ← branch "then"
    let no ← branch "else"
    pure [.branch condition yes no]

/-! ### What is looked at -/

/-- The ways of a keyword whose value is an object or missing. -/
def whereObject (schema : Table Json) (keyword : String) (ways : Table Json → Preparing (List Way)) :
    Preparing (List Way) :=
  match schema.get? keyword with
  | some (.obj ms) => ways ms
  | _ => pure []

/-- The ways of a keyword that is there. -/
def wherePresent (schema : Table Json) (keyword : String) (ways : Json → Preparing (List Way)) :
    Preparing (List Way) :=
  match schema.get? keyword with
  | some v => ways v
  | none => pure []

/-- What a schema looks at through a reference. -/
def throughTarget (cover : Context → Table Json → Preparing Cover) (c : Context) (keyword : String)
    (t : Target) : Preparing (List Way) :=
  match t.schema with
  | .obj ms => do
    pure [.through (← cover { c with scope := t.scope, draft := t.draft, path := c.path ++ [keyword] } ms)]
  | _ => pure []

/-- What a schema looks at through its references. -/
def referenceWays (cover : Context → Table Json → Preparing Cover) (d : Draft) (c : Context)
    (schema : Table Json) : Preparing (List Way) := do
  let follow := fun (keyword : String) => wherePresent schema keyword fun v => do
    throughTarget cover c keyword (← reach (c.scope.lookup (← text v)))
  let plain ← follow "$ref"
  let moving ←
    if d = .y2019 then
      wherePresent schema "$recursiveRef" fun _ => do
        throughTarget cover c "$recursiveRef" (← reach c.scope.lookupRecursive)
    else follow "$dynamicRef"
  pure (plain ++ moving)

/-- The schemas of a list that are objects, with what they look at. -/
def options (cover : Context → Table Json → Preparing Cover) (c : Context) (keyword : String) (arg : Json) :
    Preparing (List (Node × Cover)) := do
  let found ← each (fun (schema, i) =>
    match schema with
    | .obj ms => do
      let c := (c.under keyword).under (toString i)
      pure [(← below prepare c schema, ← cover c ms)]
    | _ => pure []) (arg.asArr?.getD []).zipIdx
  pure found.flatten

/-- What a schema looks at through a schema that is an object. -/
def optionalCover (cover : Context → Table Json → Preparing Cover) (c : Context) (schema : Table Json)
    (keyword : String) : Preparing (Option Cover) :=
  match schema.get? keyword with
  | some (.obj ms) => do pure (some (← cover (c.under keyword) ms))
  | _ => pure none

/-- What a schema looks at through schemas that apply to the whole value. -/
def inPlaceWays (cover : Context → Table Json → Preparing Cover) (forItems : Bool) (c : Context)
    (schema : Table Json) : Preparing (List Way) := do
  let choice := fun (keyword : String) (way : List (Node × Cover) → Way) =>
    wherePresent schema keyword fun v => do pure [way (← options prepare cover c keyword v)]
  let condition ← whereObject schema "if" fun ms => do
    let node ← below prepare (c.under "if") (.obj ms)
    let own ← cover (c.under "if") ms
    let yes ← optionalCover cover c schema "then"
    let no ← optionalCover cover c schema "else"
    pure [.branch node own yes no]
  let all ← choice "allOf" .ifAll
  let any ← choice "anyOf" (if forItems then .ifAll else .ifAny)
  let one ← choice "oneOf" .ifOne
  pure (condition ++ all ++ any ++ one)

/-- The members that the keywords of a schema look at. -/
def memberWays (cover : Context → Table Json → Preparing Cover) (c : Context) (schema : Table Json) :
    Preparing (List Way) := do
  let parts := fun (keyword : String) => wherePresent schema keyword fun v => do
    pure [.allowed (← below prepare (c.under keyword) v)]
  let named ← whereObject schema "properties" fun ms => do
    pure [.named (← byName prepare c "properties" ms)]
  let matching ← whereObject schema "patternProperties" fun ms => do
    pure [.matching (← byPattern prepare c ms)]
  let further ← parts "additionalProperties"
  let rest ← parts "unevaluatedProperties"
  let dependent ← whereObject schema "dependentSchemas" fun ms => do
    let found ← each (fun (key, v) =>
      match v with
      | .obj ns => do
        pure [Way.dependent key (← cover ((c.under "dependentSchemas").under key) ns)]
      | _ => pure []) ms
    pure found.flatten
  pure (named ++ matching ++ further ++ rest ++ dependent)

/-- The items that the keywords of a schema look at. -/
def itemWays (d : Draft) (c : Context) (schema : Table Json) : Preparing (List Way) := do
  let parts := fun (keyword : String) => wherePresent schema keyword fun v => do
    pure [.allowed (← below prepare (c.under keyword) v)]
  let byPosition :=
    if d = .y2019 then
      match schema.get? "items" with
      | some (.arr known) => if schema.has "additionalItems" then [Way.all] else [.first known.length]
      | some _ => [.all]
      | none => []
    else
      (match (schema.get? "prefixItems").bind Json.asArr? with
        | some known => [Way.first known.length]
        | none => []) ++ if schema.has "items" then [.all] else []
  let containing ← parts "contains"
  let rest ← parts "unevaluatedItems"
  pure (byPosition ++ containing ++ rest)

/-- What a schema looks at, itself and through schemas in its place. -/
def coverIn (d : Draft) (forItems : Bool) : Nat → Context → Table Json → Preparing Cover
  | 0, _, _ => pure (.ways [])
  | fuel + 1, c, schema => do
    let cover := coverIn d forItems fuel
    let references ← referenceWays cover d c schema
    let own ← if forItems then itemWays prepare d c schema else memberWays prepare cover c schema
    let inPlace ← inPlaceWays prepare cover forItems c schema
    pure (.ways (references ++ own ++ inPlace))

/-- The rule for what no other keyword looks at. -/
def restRules (fuel : Nat) (c : Context) (schema : Table Json) (keyword : String) (arg : Json) :
    Preparing (List Rule) := do
  let forItems := keyword == "unevaluatedItems"
  let cover ← coverIn prepare c.draft forItems fuel c (schema.erase keyword)
  let node ← below prepare (c.under keyword) arg
  let path := c.path ++ [keyword]
  pure [if forItems then .unevaluatedItems path cover node else .unevaluatedMembers path cover node]

/-! ### All keywords -/

/-- The rules of a keyword. -/
def rules (fuel : Nat) (c : Context) (schema : Table Json) (keyword : String) (arg : Json) :
    Preparing (List Rule) :=
  let path := c.path ++ [keyword]
  let schemas := fun () => do listed prepare c keyword (← list arg)
  match keyword with
  | "$ref" => do referenceRules prepare c schema keyword (← text arg)
  | "$dynamicRef" => do referenceRules prepare c schema keyword (← text arg)
  | "$recursiveRef" => do recursiveRules c keyword (← text arg)
  | "properties" =>
    if takesMembers schema then pure []
    else do pure [.named (← byName prepare c keyword (← table arg))]
  | "patternProperties" =>
    if takesMembers schema then pure []
    else do pure [.matching (← byPattern prepare c (← table arg))]
  | "additionalProperties" => memberRules prepare c schema arg
  | "propertyNames" => nameRules prepare c arg
  | "dependentRequired" => neededRules c arg
  | "dependentSchemas" => dependentRules prepare c arg
  | "dependencies" => dependencyRules prepare c arg
  | "prefixItems" => do pure [.tuple (← schemas ())]
  | "items" => itemRules prepare c schema arg
  | "additionalItems" => furtherItemRules prepare c schema arg
  | "contains" => containsRules prepare c schema arg
  | "allOf" => do pure [.allOf (← schemas ())]
  | "anyOf" => do pure [.anyOf path (← schemas ())]
  | "oneOf" => do pure [.oneOf path (← schemas ())]
  | "not" => do pure [.not path arg (← below prepare (c.under keyword) arg)]
  | "if" => conditionRules prepare c schema arg
  | "unevaluatedProperties" => restRules prepare fuel c schema keyword arg
  | "unevaluatedItems" => restRules prepare fuel c schema keyword arg
  | _ => checkRules c schema keyword arg

end Keyword

/-- The keywords of a schema that count: in earlier drafts a reference stands alone. -/
def countingKeywords (d : Draft) (schema : Table Json) : Table Json :=
  if !d.refHasSiblings && schema.has "$ref" then schema.filter fun p => p.1 == "$ref" else schema

/-- A schema made ready. Every step leads to a part of a schema or through a reference that was not followed
before, and `fuel` bounds their number. -/
def prepareIn : Nat → Prepare
  | 0 => fun _ _ => pure .allow
  | fuel + 1 => fun c schema =>
    match schema with
    | .bool true => pure .allow
    | .bool false => pure (.deny c.path)
    | .obj ms => do
      let rules ← each (fun (keyword, arg) =>
        if c.knows keyword then Keyword.rules (prepareIn fuel) fuel c ms keyword arg else pure [])
        (countingKeywords c.draft ms)
      pure (.rules rules.flatten)
    | v => refuse (.wrongType v ["boolean", "object"])

end TraitWeave.Schema
