import TraitWeave.Compose.Conflict

/-!
# Composed objects

An object is composed by folding layers: the foundation that all objects share, the object it extends,
its traits in order, its own declarations, and last the values that its resolutions put on top. For every
field of the result it is noted which layer and which source gave it.

* `Composed`: the result.
* `Object.fieldLayers`, `Object.sectionLayers`: what the layers declare, in order.
* `Object.compose`: the composition.
-/

namespace TraitWeave

/-- What a resolution speaks of. -/
inductive Section where
  | fields
  | semantics
  | tokens
  | views
  deriving DecidableEq, Repr

namespace Section

/-- The name of a section. -/
def name : Section → String
  | fields => "fields"
  | semantics => "semantics"
  | tokens => "tokens"
  | views => "views"

/-- What an object's resolutions say about the keys of a section. -/
def resolutions (r : Resolutions) : Section → Table Resolution
  | fields => r.fields
  | semantics => r.semantics
  | tokens => r.tokens
  | views => r.views

end Section

/-- A resolution that took effect. -/
structure Applied where
  place : Section
  key : String
  strategy : Option Strategy
  overridden : Bool
  deriving DecidableEq, Repr

/-- An applied resolution as a value. -/
def Applied.encode (a : Applied) : Json :=
  Encode.record [
    Encode.always "section" (.str a.place.name),
    Encode.always "key" (.str a.key),
    Encode.some? "strategy" (fun s => .str s.name) a.strategy,
    Encode.always "overridden" (.bool a.overridden)]

/-- An object with all its layers folded into one. -/
structure Composed where
  name : String
  description : Option String
  schema : Table Field
  semantics : Table Json
  tokens : Table Json
  views : Table Json
  actions : List Json
  parameters : Table (List Contribution)
  conflicts : List Conflict
  traitOrder : List String
  provenance : Table Provenance
  applied : List Applied
  base : Option String

namespace Composed

/-- An object composed from nothing. -/
def empty (name : String) : Composed where
  name := name
  description := none
  schema := []
  semantics := []
  tokens := []
  views := []
  actions := []
  parameters := []
  conflicts := []
  traitOrder := []
  provenance := []
  applied := []
  base := none

/-- The conflicts of a kind. -/
def conflictsOf (c : Composed) (kind : Conflict.Kind) : List Conflict :=
  c.conflicts.filter fun x => x.kind == kind

/-- When and how fast an object was composed; these are told by a clock. -/
structure Timing where
  moment : String
  milliseconds : Double

/-- Provenance as a value. -/
def encodeProvenance (p : Provenance) : Json :=
  .obj [("layer", .str p.layer.name), ("source", .str p.source)]

/-- A composed object as a value. -/
def encode (timing : Timing) (c : Composed) : Json :=
  Encode.record [
    Encode.always "name" (.str c.name),
    Encode.some? "description" .str c.description,
    Encode.always "schema" (Field.encodeTable c.schema),
    Encode.always "semantics" (.obj c.semantics),
    Encode.always "tokens" (.obj c.tokens),
    Encode.always "views" (.obj c.views),
    Encode.always "actions" (.arr c.actions),
    Encode.always "parameters" (Contribution.encodeTable c.parameters),
    Encode.always "conflicts" (.arr (c.conflicts.map Conflict.encode)),
    Encode.always "metadata" (Encode.record [
      Encode.always "trait_order" (Encode.texts c.traitOrder),
      Encode.always "trait_count" (Encode.natural c.traitOrder.length),
      Encode.always "provenance" (.obj (c.provenance.mapValues encodeProvenance)),
      Encode.always "resolutions_applied" (.arr (c.applied.map Applied.encode)),
      Encode.some? "extends" .str c.base,
      Encode.always "composed_at" (.str timing.moment),
      Encode.always "duration_ms" (Encode.real timing.milliseconds)])]

end Composed

namespace Field

/-- Where the rules of a trait's field name a parameter that lists literal values, these values in place
of the name. -/
def bindEnumFrom (parameters : Table Json) (f : Field) : Field :=
  match f.rules.enumFrom with
  | none => f
  | some source =>
    match allowedFrom? parameters source with
    | none => f
    | some vs => { f with allowed := some vs, rules := { f.rules with enumFrom := none } }

end Field

namespace Object

/-- How the declarations of the object itself are named as a source. -/
def sourceName (o : Object) : String := o.name ++ " (object override)"

/-- The override values for the fields, where they are declarations. -/
def fieldOverrides (o : Object) : Table Field :=
  o.resolutions.fields.filterMap fun (key, r) =>
    match r.override with
    | none => none
    | some v => ((Field.decode v).toOption).map (key, ·)

/-- The fields that the layers declare, in order. -/
def fieldLayers (foundation : Table Field) (o : Object) (resolved : List Resolved)
    (base : Option Composed) : List (String × Candidate Field) :=
  Candidate.ofTable .foundation "foundation" foundation ++
    (match base with
      | some b => Candidate.ofTable .base b.name b.schema
      | none => []) ++
    (resolved.flatMap fun r =>
      Candidate.ofTable .trait r.name (r.trait.schema.mapValues (Field.bindEnumFrom r.parameters))) ++
    Candidate.ofTable .object o.sourceName o.schema ++
    Candidate.ofTable .context o.sourceName o.fieldOverrides

/-- What a composed object has in a section of values. -/
def valuesOfBase (b : Composed) : Section → Table Json
  | .fields => []
  | .semantics => b.semantics
  | .tokens => b.tokens
  | .views => b.views

/-- What a trait has in a section of values. -/
def valuesOfTrait (t : Trait) : Section → Table Json
  | .fields => []
  | .semantics => t.semantics
  | .tokens => t.tokens
  | .views => t.viewExtensions

/-- What an object itself has in a section of values. -/
def ownValues (o : Object) : Section → Table Json
  | .fields => []
  | .semantics => o.semantics
  | .tokens => o.tokens
  | .views => o.views

/-- The values that the layers declare in a section, in order. -/
def sectionLayers (o : Object) (resolved : List Resolved) (base : Option Composed) (s : Section) :
    List (String × Candidate Json) :=
  (match base with
    | some b => Candidate.ofTable .base "base" (valuesOfBase b s)
    | none => []) ++
    (resolved.flatMap fun r => Candidate.ofTable .trait r.name (valuesOfTrait r.trait s)) ++
    Candidate.ofTable .object o.sourceName (o.ownValues s) ++
    Candidate.ofTable .context o.sourceName
      ((s.resolutions o.resolutions).filterMap fun (key, r) => r.override.map (key, ·))

variable {α : Type}

/-- The declaration that stands for each key. -/
def settleAll (merge : α → α → α) (resolutions : Table Resolution)
    (layered : Table (List (Candidate α))) : Table (Candidate α) :=
  layered.filterMap fun (key, cs) =>
    (Candidate.settle? merge (resolutions.get? key) cs).map (key, ·)

/-- The resolutions for keys that some layer declares. -/
def appliedTo (o : Object) (s : Section) (layered : Table (List (Candidate α))) : List Applied :=
  layered.filterMap fun (key, _) =>
    ((s.resolutions o.resolutions).get? key).map fun r => ⟨s, key, r.strategy, r.override.isSome⟩

/-- The values of a section, settled. -/
def settledSection (o : Object) (s : Section) (layered : Table (List (Candidate Json))) : Table Json :=
  (settleAll (Json.merge o.resolutions.depth) (s.resolutions o.resolutions) layered).mapValues
    Candidate.value

/-- The object composed of foundation, base, resolved traits and its own declarations. -/
def compose (foundation : Table Field) (o : Object) (resolved : List Resolved)
    (base : Option Composed) : Composed :=
  let fields := Candidate.gather (o.fieldLayers foundation resolved base)
  let settled := settleAll (Field.merge o.resolutions.depth) o.resolutions.fields fields
  let layered := fun s => Candidate.gather (o.sectionLayers resolved base s)
  let parameters := Compose.contributions resolved
  { name := o.name
    description := o.info.description
    schema := settled.mapValues Candidate.value
    semantics := o.settledSection .semantics (layered .semantics)
    tokens := o.settledSection .tokens (layered .tokens)
    views := o.settledSection .views (layered .views)
    actions := (base.map Composed.actions).getD [] ++
      (resolved.flatMap fun r => r.trait.actions) ++ o.actions
    parameters := parameters
    conflicts := Compose.fieldConflicts fields ++ Compose.parameterConflicts parameters ++
      Compose.incompatibilities resolved
    traitOrder := resolved.map Resolved.name
    provenance := settled.mapValues Candidate.toProvenance
    applied := o.appliedTo .fields fields ++ o.appliedTo .semantics (layered .semantics) ++
      o.appliedTo .tokens (layered .tokens) ++ o.appliedTo .views (layered .views)
    base := o.base? }

end Object

end TraitWeave
