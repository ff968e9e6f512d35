import TraitWeave.Object.Basic

/-!
# Merging

A later layer is merged over an earlier one. Objects keep the keys of both, and the later value stands
where both have one; with depth, objects inside objects are merged again. Anything else is replaced.

* `Json.merge`: two values.
* `Field.merge`: two declarations, attribute by attribute.
-/

namespace TraitWeave

namespace Json

mutual

/-- Two values merged. -/
def merge (depth : Depth) : Json → Json → Json
  | obj earlier, obj later => obj (mergeMembers depth earlier later)
  | _, later => later

/-- Members put over others, one after the other. -/
def mergeMembers (depth : Depth) (earlier : List (String × Json)) :
    List (String × Json) → List (String × Json)
  | [] => earlier
  | (k, v) :: rest =>
    let next :=
      match depth, Table.get? earlier k with
      | .deep, some w => merge depth w v
      | _, _ => v
    mergeMembers depth (Table.put earlier k next) rest

end

end Json

/-- Rules over rules: each rule that the later ones have stands. -/
def Rules.merge (earlier later : Rules) : Rules where
  allowed := later.allowed.or earlier.allowed
  enumFrom := later.enumFrom.or earlier.enumFrom
  minimum := later.minimum.or earlier.minimum
  maximum := later.maximum.or earlier.maximum
  minLength := later.minLength.or earlier.minLength
  maxLength := later.maxLength.or earlier.maxLength
  pattern := later.pattern.or earlier.pattern

namespace Field

/-- Defaults are merged as values where both declarations have one. -/
def mergeDefault (depth : Depth) : Option Json → Option Json → Option Json
  | some a, some b => some (a.merge depth b)
  | a, b => b.or a

/-- Further attributes put over others; where both have one, the values are merged. -/
def mergeExtra (depth : Depth) (earlier later : Table Json) : Table Json :=
  later.foldl (fun acc p =>
    acc.put p.1 (match acc.get? p.1 with
      | some w => w.merge depth p.2
      | none => p.2)) earlier

/-- A declaration over another: each attribute that the later one has stands. -/
def merge (depth : Depth) (earlier later : Field) : Field where
  kind := later.kind.or earlier.kind
  required := later.required.or earlier.required
  default := mergeDefault depth earlier.default later.default
  description := later.description.or earlier.description
  items := later.items.or earlier.items
  allowed := later.allowed.or earlier.allowed
  rules := earlier.rules.merge later.rules
  extra := mergeExtra depth earlier.extra later.extra

end Field

end TraitWeave
