import TraitWeave.Schema.Draft
import TraitWeave.Schema.Lost
import TraitWeave.Schema.Pointer

/-!
# Libraries of schemas

A reference may lead to any schema that has a name, or to an anchor beside such a name. The named schemas
of a document and their anchors are gathered before the document is used, and references out of it are
looked for at the same time.

* `Library`: resources by their URIs, and anchors.
* `Library.gather`: the library of documents.
* `Scope`, `Scope.lookup`, `Scope.lookupRecursive`: the schema to which a reference leads.
-/

namespace TraitWeave.Schema

/-- A schema that can be referred to, and the draft in which it is written. -/
structure Resource where
  draft : Draft
  schema : Json

/-- A place with a name of its own beside the URI of the resource. -/
structure Anchor where
  base : Uri
  name : String
  /-- References to it may lead to an anchor of the same name in an outer resource. -/
  dynamic : Bool
  target : Resource

/-- The named schemas, the last one first. -/
structure Library where
  resources : List (Uri × Resource)
  anchors : List Anchor

namespace Library

/-- No schemas. -/
def empty : Library := ⟨[], []⟩

/-- The resource of a URI. -/
def resource? (l : Library) (uri : Uri) : Option Resource :=
  (l.resources.find? (·.1 == uri)).map Prod.snd

/-- The anchor of some name at a URI. -/
def anchor? (l : Library) (uri : Uri) (name : String) : Option Anchor :=
  l.anchors.find? fun a => a.base == uri && a.name == name

/-- With one more resource. -/
def insert (l : Library) (uri : Uri) (r : Resource) : Library :=
  { l with resources := (uri, r) :: l.resources }

/-- With the anchors of a resource. -/
def insertAnchors (l : Library) (uri : Uri) (r : Resource) : Library :=
  (r.draft.anchors r.schema).foldl
    (fun l (name, dynamic) => { l with anchors := ⟨uri, name, dynamic, r⟩ :: l.anchors }) l

end Library

/-! ### Gathering -/

/-- What has been gathered: the library, the references that were seen and where, and those to other
documents. -/
structure Gathered where
  library : Library
  seen : List (Uri × String)
  outside : List Uri

namespace Gathered

/-- A position without a sign and without zeros in front. -/
def plainPosition? (step : String) : Option Nat :=
  match step.toList with
  | '+' :: _ => none
  | '0' :: _ :: _ => none
  | _ => Pointer.position? step

/-- One step along a pointer. -/
def step? (v : Json) (step : String) : Option Json :=
  match v with
  | .obj ms => Table.get? ms step
  | .arr items => (plainPosition? step).bind (items[·]?)
  | _ => none

/-- The part of a document that a pointer names. -/
def follow? (root : Json) (pointer : String) : Option Json :=
  match pointer.toList with
  | [] => some root
  | '/' :: _ => (Pointer.steps pointer).foldl (fun v step => v.bind (step? · step)) (some root)
  | _ => none

/-- The address of a draft begins a reference. -/
def isKnown (reference : String) : Bool := Draft.all.any fun d => d.uri.toList.isPrefixOf reference.toList

/-- The references of a schema that may lead out of the document. -/
def references (schema : Json) : List String :=
  (["$ref", "$schema"].filterMap fun key => (schema.member? key).bind Json.asStr?).filter fun r =>
    !isKnown r && r != "#"

/-- Note the references of a schema, and of the schemas in the same resource to which they lead. Every new
reference is noted, so the number of references bounds the way. -/
def noteReferences : Nat → Uri → Json → Json → Gathered → Except Lost Gathered
  | 0, _, _, _, g => .ok g
  | fuel + 1, base, root, schema, g =>
    if base.scheme = some "urn".toList then .ok g
    else
      (references schema).foldlM (fun g r =>
        if g.seen.contains (base, r) then .ok g
        else
          let g := { g with seen := (base, r) :: g.seen }
          match r.toList with
          | '#' :: _ =>
            match follow? root (String.ofList (r.toList.dropWhile (· == '#'))) with
            | some part => noteReferences fuel base root part g
            | none => .ok g
          | _ => (Reach.resolve base r).map fun uri => { g with outside := g.outside ++ [uri] }) g

/-- The URI of a schema inside a resource. -/
def baseOf (base : Uri) (r : Resource) : Except Lost Uri :=
  match r.draft.identifier? r.schema with
  | some id => Reach.resolve base id
  | none => .ok base

/-- A schema inside of one of another draft. -/
def nested (d : Draft) (schema : Json) : Except Lost Resource :=
  match d.detectOr schema with
  | .ok d => .ok ⟨d, schema⟩
  | .error name => .error (.unknownDraft name)

/-- Gather one resource, and tell what it holds. -/
def visit (fuel : Nat) (base : Uri) (r : Resource) (g : Gathered) :
    Except Lost (List (Uri × Resource) × Gathered) := do
  let own ← baseOf base r
  let library := g.library.insertAnchors own r
  let library := if (r.draft.identifier? r.schema).isSome then library.insert own r else library
  let g ← noteReferences fuel own r.schema r.schema { g with library }
  (r.draft.subschemas r.schema).foldlM (fun (held, g) schema => do
    let sub ← nested r.draft schema
    let subBase ← baseOf own sub
    let g ← noteReferences fuel subBase sub.schema sub.schema g
    pure (held ++ [(own, sub)], g)) ([], g)

/-- Gather resources level by level. Each of them is another part of the document, whose size bounds their
number. -/
def visitAll (size : Nat) : Nat → List (Uri × Resource) → Gathered → Except Lost Gathered
  | 0, _, g => .ok g
  | _ + 1, [], g => .ok g
  | fuel + 1, (base, r) :: rest, g => do
    let (held, g) ← visit size base r g
    visitAll size fuel (rest ++ held) g

/-- The first document that is referred to and not at hand. -/
def absent? (g : Gathered) : Option Uri :=
  (g.outside.map Uri.withoutFragment).find? fun uri => (g.library.resource? uri).isNone

end Gathered

/-- A library with the schemas of some documents added. -/
def Library.gather (l : Library) (documents : List (Uri × Resource)) : Except Lost Library :=
  let size := documents.foldl (fun n p => n + p.2.schema.parts) 0
  let start := documents.foldl (fun l (uri, r) => l.insert uri r) l
  match Gathered.visitAll (size + 1) (size + 1) documents ⟨start, [], []⟩ with
  | .error e => .error e
  | .ok g =>
    match g.absent? with
    | some uri => .error (.noResource uri.text (Reach.whyAbsent uri))
    | none => .ok g.library

/-! ### Looking up -/

/-- Where a schema stands: the library, the URI of its resource, and the URIs of the resources through which
the way led to it, the last one first. -/
structure Scope where
  library : Library
  base : Uri
  visited : List Uri

/-- The schema to which a reference leads, where it stands, and its draft. -/
structure Target where
  schema : Json
  scope : Scope
  draft : Draft

namespace Scope

/-- Go on to a resource. -/
def enter (s : Scope) (uri : Uri) : Scope :=
  { s with base := uri, visited := if s.visited.isEmpty || uri != s.base then s.base :: s.visited else s.visited }

/-- The scope inside of a schema, which may be a resource of its own. -/
def inside (s : Scope) (r : Resource) : Except Lost Scope :=
  match r.draft.identifier? r.schema with
  | some id => (Reach.resolve s.base id).map fun uri => { s with base := uri }
  | none => .ok s

/-- Follow a pointer through a resource. On the way lie schemas that are resources of their own; `trail`
holds the steps since the last of them. -/
def followSteps (d : Draft) (pointer : String) :
    Scope → List Draft.Step → Json → List String → Except Lost (Json × Scope)
  | s, _, v, [] => .ok (v, s)
  | s, trail, v, step :: rest =>
    let found : Except Lost (Json × Draft.Step) :=
      match v with
      | .arr items =>
        match Pointer.position? step with
        | none => .error (.badIndex pointer step)
        | some i =>
          match items[i]? with
          | some w => .ok (w, .item)
          | none => .error (.noPart pointer)
      | v =>
        let key := Pointer.unescape step
        match v.member? key with
        | some w => .ok (w, .member key)
        | none => .error (.noPart pointer)
    match found with
    | .error e => .error e
    | .ok (w, st) =>
      let trail := trail ++ [st]
      if d.leadsToSchema (Draft.isObject w) trail then
        match s.inside ⟨d, w⟩ with
        | .error e => .error e
        | .ok t => followSteps d pointer t (if t.base = s.base then trail else []) w rest
      else followSteps d pointer s trail w rest

/-- The part of a resource that a pointer names. -/
def followPointer (s : Scope) (r : Resource) (pointer : String) : Except Lost Target :=
  match Uri.percentDecode? (String.ofList (pointer.toList.drop 1)) with
  | none => .error (.badEncoding pointer)
  | some text =>
    let steps := (Text.pieces (· == '/') text.toList).map String.ofList
    (followSteps r.draft pointer s [] r.schema steps).map fun (v, s) => ⟨v, s, r.draft⟩

/-- The anchor of some name at a URI, or at that by which the resource calls itself. -/
def findAnchor (s : Scope) (uri : Uri) (name : String) : Except Lost Anchor :=
  let byName : Except Lost (Option Anchor) :=
    match s.library.anchor? uri name with
    | some a => .ok (some a)
    | none =>
      match (s.library.resource? uri).bind fun r => r.draft.identifier? r.schema with
      | none => .ok none
      | some id => (Reach.ofName id).map fun own => s.library.anchor? own name
  match byName with
  | .error e => .error e
  | .ok (some a) => .ok a
  | .ok none => .error (if name.toList.contains '/' then .badAnchor name else .noAnchor name)

/-- The last dynamic anchor of some name among those of some resources. -/
def outermost (s : Scope) (name : String) : List Uri → Resource → Except Lost Resource
  | [], last => .ok last
  | uri :: rest, last =>
    match s.findAnchor uri name with
    | .ok a => outermost s name rest (if a.dynamic then a.target else last)
    | .error (.noAnchor _) => outermost s name rest last
    | .error e => .error e

/-- The schema that an anchor means here. -/
def meaningOf (s : Scope) (a : Anchor) : Except Lost Target := do
  if a.dynamic then
    let r ← s.outermost a.name s.visited a.target
    pure ⟨r.schema, ← s.inside r, r.draft⟩
  else pure ⟨a.target.schema, s, a.target.draft⟩

/-- What stands before the last number sign, and after it. -/
def splitFragment (reference : String) : String × String :=
  let cs := reference.toList
  let after := cs.reverse.takeWhile (· ≠ '#')
  if after.length = cs.length then (reference, "")
  else (String.ofList (cs.take (cs.length - after.length - 1)), String.ofList after.reverse)

/-- The part of a resource that a fragment names. -/
def lookupIn (s : Scope) (uri : Uri) (fragment : String) : Except Lost Target :=
  match s.library.resource? uri with
  | none =>
    .error (.noResource uri.text
      "Retrieving external resources is not supported once the registry is populated")
  | some r =>
    match fragment.toList with
    | [] => .ok ⟨r.schema, s.enter uri, r.draft⟩
    | '/' :: _ => (s.enter uri).followPointer r fragment
    | _ => do
      let a ← s.findAnchor uri fragment
      (s.enter uri).meaningOf a

/-- The schema to which a reference leads. -/
def lookup (s : Scope) (reference : String) : Except Lost Target :=
  match reference.toList with
  | '#' :: fragment => s.lookupIn s.base (String.ofList fragment)
  | _ => do
    let (address, fragment) := splitFragment reference
    let uri ← Reach.resolve s.base address
    s.lookupIn uri fragment

/-- Whether recursive references may go on from a schema to an outer resource. -/
def isRecursive (v : Json) : Bool := (v.member? "$recursiveAnchor").bind Json.asBool? == some true

/-- Go on to outer resources as long as they allow it. -/
def outward (s : Scope) : List Uri → Target → Except Lost Target
  | [], last => .ok last
  | uri :: rest, last =>
    match s.lookup uri.text with
    | .error e => .error e
    | .ok t => if isRecursive t.schema then outward s rest t else .ok last

/-- The schema to which a recursive reference leads: the resource itself, or an outer one. -/
def lookupRecursive (s : Scope) : Except Lost Target := do
  let own ← s.lookup "#"
  if isRecursive own.schema then s.outward s.visited own else pure own

end Scope

end TraitWeave.Schema
