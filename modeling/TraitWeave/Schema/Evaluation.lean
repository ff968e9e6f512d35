import TraitWeave.Schema.Preparation

/-!
# What schemas find

A schema allows a value or finds faults with it. Its rules are asked in their order, and each of them says
what it finds on its own.

* `Rule.findings`: what one rule finds, given what schemas find with parts.
* `Cover.steps`: the parts of a value that a schema looks at.
* `findingsIn`: what a schema finds.
-/

namespace TraitWeave.Schema

/-- What a schema finds with a value at some place. -/
abbrev Asked := Node → List String → Json → List Finding

/-- Whether a schema allows a value. -/
def Asked.allows (ask : Asked) (node : Node) (v : Json) : Bool := (ask node [] v).isEmpty

/-- Whether the name of a member matches a pattern. -/
def nameMatches (p : Pattern) (key : String) : Bool := (p.occursIn? key).getD false

/-! ### What is looked at -/

/-- The parts of a value by the steps that lead to them. -/
def parts (v : Json) : List (String × Json) :=
  match v with
  | .obj ms => ms
  | .arr items => items.zipIdx.map fun (w, i) => (toString i, w)
  | _ => []

/-- The steps to members that some schema allows. -/
def allowedMembers (ask : Asked) (v : Json) (applies : String → List Node) : List String :=
  ((v.asObj?.getD []).filter fun (key, w) => (applies key).any fun node => ask.allows node w).map Prod.fst

mutual

/-- The steps to the parts of a value that a schema looks at. -/
def Cover.steps (ask : Asked) : Nat → Cover → Json → List String
  | 0, _, _ => []
  | fuel + 1, .ways ways, v => ways.flatMap fun w => Way.steps ask fuel w v

/-- The steps to the parts of a value to which a way leads. -/
def Way.steps (ask : Asked) : Nat → Way → Json → List String
  | 0, _, _ => []
  | fuel + 1, way, v =>
    match way with
    | .named members =>
      allowedMembers ask v fun key => (members.filter fun p => p.1 == key).map Prod.snd
    | .matching members =>
      allowedMembers ask v fun key => (members.filter fun p => nameMatches p.1 key).map Prod.snd
    | .allowed node => ((parts v).filter fun p => ask.allows node p.2).map Prod.fst
    | .first count => ((parts v).take count).map Prod.fst
    | .all => (parts v).map Prod.fst
    | .through cover => cover.steps ask fuel v
    | .dependent key cover => if (v.member? key).isSome then cover.steps ask fuel v else []
    | .branch condition own yes no =>
      let optional := fun (cover : Option Cover) => (cover.map fun c => c.steps ask fuel v).getD []
      if ask.allows condition v then own.steps ask fuel v ++ optional yes else optional no
    | .ifAll options =>
      if options.all fun p => ask.allows p.1 v then options.flatMap fun p => p.2.steps ask fuel v else []
    | .ifAny options =>
      (options.filter fun p => ask.allows p.1 v).flatMap fun p => p.2.steps ask fuel v
    | .ifOne options =>
      if (options.filter fun p => ask.allows p.1 v).length = 1 then
        options.flatMap fun p => p.2.steps ask fuel v
      else []

end

/-! ### What rules find -/

namespace Rule

/-- Faults that a rule finds with the value itself. -/
def report (path place : List String) (faults : List Fault) : List Finding :=
  faults.map fun f => ⟨f, path, place⟩

variable (ask : Asked)

/-- Members under the schemas of their names, in the order of the schemas. -/
def namedFindings (members : List (String × Node)) (place : List String) (ms : Table Json) : List Finding :=
  members.flatMap fun (key, node) =>
    match ms.get? key with
    | some v => ask node (place ++ [key]) v
    | none => []

/-- Members under the schemas of the patterns that their names match. -/
def matchingFindings (members : List (Pattern × Node)) (place : List String) (ms : Table Json) :
    List Finding :=
  members.flatMap fun (p, node) =>
    ms.flatMap fun (key, v) => if nameMatches p key then ask node (place ++ [key]) v else []

/-- One member under the schema of its name and those of the patterns it matches; nothing where there is no
such schema. -/
def memberFindings? (byName : List (String × Node)) (byPattern : List (Pattern × Node)) (place : List String)
    (key : String) (v : Json) : Option (List Finding) :=
  let own := Table.get? byName key
  let matched := byPattern.filter fun p => nameMatches p.1 key
  let ofPatterns := matched.flatMap fun p => ask p.2 (place ++ [key]) v
  match own with
  | some node => some (ask node (place ++ [key]) v ++ ofPatterns)
  | none => if matched.isEmpty then none else some ofPatterns

/-- All members, known ones and further ones. -/
def membersFindings (path : List String) (byName : List (String × Node)) (byPattern : List (Pattern × Node))
    (further : Option Node) (place : List String) (ms : Table Json) : List Finding :=
  let known := memberFindings? ask byName byPattern place
  match further with
  | some node => ms.flatMap fun (key, v) => (known key v).getD (ask node (place ++ [key]) v)
  | none =>
    let surplus := ms.filter fun (key, v) => (known key v).isNone
    ms.flatMap (fun (key, v) => (known key v).getD []) ++
      if surplus.isEmpty then [] else report path place [.surplusMembers (Table.keys surplus)]

/-- Some items must be allowed, within bounds. -/
def containsFindings (path lowPath highPath : List String) (node : Node) (least most : Option Nat)
    (place : List String) (v : Json) (items : List Json) : List Finding :=
  let n := (items.filter (ask.allows node)).length
  let at_ := fun (path : List String) => report path place [Fault.containsNone v]
  match least, most with
  | none, none => if n = 0 then at_ path else []
  | some least, none => if n < least then at_ lowPath else []
  | none, some most => if n = 0 ∨ most < n then at_ highPath else []
  | some least, some most => if most < n then at_ highPath else if n < least then at_ lowPath else []

/-- What a rule finds. -/
def findings (fuel : Nat) (rule : Rule) (place : List String) (v : Json) : List Finding :=
  let items := v.asArr?
  let members := v.asObj?
  let whole := fun (node : Node) => ask node place v
  match rule with
  | .check path c => report path place (c.faults v)
  | .apply node => whole node
  | .allOf nodes => nodes.flatMap whole
  | .anyOf path nodes => if nodes.any (ask.allows · v) then [] else report path place [.noneOfAny v]
  | .oneOf path nodes =>
    match (nodes.filter (ask.allows · v)).length with
    | 0 => report path place [.noneOfOne v]
    | 1 => []
    | _ => report path place [.severalOfOne v]
  | .not path schema node => if ask.allows node v then report path place [.excluded v schema] else []
  | .branch condition yes no => ((if ask.allows condition v then yes else no).map whole).getD []
  | .named ns => (members.map (namedFindings ask ns place)).getD []
  | .matching ns => (members.map (matchingFindings ask ns place)).getD []
  | .members path byName byPattern further =>
    (members.map (membersFindings ask path byName byPattern further place)).getD []
  | .names node => (members.getD []).flatMap fun (key, _) => ask node place (.str key)
  | .needed path key keys =>
    match members with
    | some ms =>
      if Table.has ms key then
        report path place ((keys.filter fun k => !Table.has ms k).map Fault.missing)
      else []
    | none => []
  | .dependent key node => if (v.member? key).isSome then whole node else []
  | .tuple nodes =>
    ((nodes.zip (items.getD [])).zipIdx).flatMap fun ((node, w), i) => ask node (place ++ [toString i]) w
  | .items start node =>
    (((items.getD []).zipIdx).drop start).flatMap fun (w, i) => ask node (place ++ [toString i]) w
  | .contains path lowPath highPath node least most =>
    (items.map (containsFindings ask path lowPath highPath node least most place v)).getD []
  | .unevaluatedMembers path cover node =>
    let seen := cover.steps ask fuel v
    let rest := (members.getD []).filter fun (key, w) => !seen.contains key && !ask.allows node w
    if rest.isEmpty then [] else report path place [.unevaluatedMembers (Table.keys rest)]
  | .unevaluatedItems path cover node =>
    let seen := cover.steps ask fuel v
    let rest := if items.isNone then [] else
      (parts v).filter fun (step, w) => !seen.contains step && !ask.allows node w
    if rest.isEmpty then [] else report path place [.unevaluatedItems (rest.map Prod.snd)]

end Rule

/-- What a schema finds with a value. Every step leads to a part of the schema or of the value, or to a
schema that is made ready now; `fuel` bounds their number, and `size` that of the steps by which a schema is
made ready. -/
def findingsIn (size : Nat) : Nat → Asked
  | 0 => fun _ _ _ => []
  | fuel + 1 => fun node place v =>
    match node with
    | .rules rules => rules.flatMap fun r => r.findings (findingsIn size fuel) size place v
    | .later c schema =>
      match (Keyword.below (prepareIn size) c schema).run [] with
      | .ok (ready, _) => findingsIn size fuel ready place v
      | .error _ => []

end TraitWeave.Schema
