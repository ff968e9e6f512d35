import TraitWeave.Compose.Composed
import TraitWeave.Interface.Basic
import TraitWeave.Registry.Contents
import TraitWeave.Trait.Resolution

/-!
# Registries

A registry keeps the objects of some roots, tells a listener what a refresh changes, and composes objects
with all that they extend.

* `Registry.open?`, `Registry.refresh`, `Registry.close`.
* `Registry.follow`: what a refresh does with what is found, and what it tells.
* `Registry.listen`, `Registry.takeEvents`: the listener.
* `Registry.resolve`: the composed object of a name.
-/

namespace TraitWeave

/-- How a registry is set up. -/
structure RegistryOptions where
  roots : List Path
  rules : ScanRules
  watch : Bool
  /-- The time between two refreshes of a watched registry, in milliseconds. -/
  interval : Nat
  /-- Whether opening the registry also fills it. -/
  autoLoad : Bool

/-- The options where only the roots are given. -/
def RegistryOptions.ofRoots (roots : List Path) : RegistryOptions where
  roots := roots
  rules := .standard
  watch := false
  interval := 750
  autoLoad := true

/-- The options as a value. -/
def RegistryOptions.encode (o : RegistryOptions) : Json :=
  .obj [("roots", Encode.texts (o.roots.map Path.text)),
    ("extensions", Encode.texts o.rules.extensions),
    ("ignore_directories", Encode.texts o.rules.ignored),
    ("watch", .bool o.watch),
    ("polling_interval_ms", Encode.natural o.interval),
    ("auto_load", .bool o.autoLoad)]

/-- Why a registry cannot answer. -/
inductive RegistryError where
  | noRoots
  | notFound (name : String)
  /-- The names on the way, the last of which was met before. -/
  | circularExtends (stack : List String)
  | resolution (e : ResolveError)
  | closed

/-- The wording. -/
def RegistryError.message : RegistryError → String
  | noRoots => "Object registry requires at least one root directory"
  | notFound name => "Object \"" ++ name ++ "\" not found in registry"
  | circularExtends stack => "Circular extends chain: " ++ Text.joined " -> " stack
  | resolution e => e.message
  | closed => "Object registry is closed"

/-- A registry. -/
structure Registry where
  options : RegistryOptions
  resolver : Resolver
  /-- The fields that every object has. -/
  foundation : Table Field
  contents : Contents
  learned : Learned
  /-- A refresh was done. -/
  ready : Bool
  closed : Bool
  watching : Bool
  listening : Bool
  /-- What the listener has not taken yet. -/
  inbox : List Event

namespace Registry

/-- Tell the listener, if there is one. -/
def tell (rg : Registry) (events : List Event) : Registry :=
  if rg.listening then { rg with inbox := rg.inbox ++ events } else rg

/-- A registry after it followed a survey, with what was done and what is told of it. -/
structure Followed where
  registry : Registry
  tally : RefreshTally
  events : List Event

/-- Follow the files. The first time it is told that the registry is ready. -/
def follow (rg : Registry) (w : Survey) : Followed :=
  let s := rg.contents.refresh w.files w.scan
  let events := if rg.ready then s.events else s.events ++ [.ready s.tally.total]
  { registry := { rg with contents := s.contents, ready := true }.tell events
    tally := s.tally
    events := events }

/-- Look at the roots and follow the files. -/
def refresh (t : Tree) (rg : Registry) : Except RegistryError (Registry × RefreshTally) :=
  if rg.closed then .error .closed
  else
    let f := rg.follow (.of t rg.options.rules rg.options.roots)
    .ok (f.registry, f.tally)

/-- A registry that has not looked at its roots. `traitRoots` are the roots of the traits. -/
def start (options : RegistryOptions) (resolver : Resolver) (traitRoots : List Path)
    (foundation : Table Field) : Registry where
  options := options
  resolver := resolver
  foundation := foundation
  contents := .empty
  learned := Resolver.start traitRoots
  ready := false
  closed := false
  watching := options.watch
  listening := false
  inbox := []

/-- A registry on a tree. -/
def open? (t : Tree) (options : RegistryOptions) (resolver : Resolver) (traitRoots : List Path)
    (foundation : Table Field) : Except RegistryError Registry :=
  if options.roots.isEmpty then .error .noRoots
  else
    let rg := start options resolver traitRoots foundation
    if options.autoLoad then (rg.refresh t).map Prod.fst else .ok rg

/-- From now on a new listener is told everything. -/
def listen (rg : Registry) : Registry := { rg with listening := !rg.closed, inbox := [] }

/-- What the listener was told since it last asked. -/
def takeEvents (rg : Registry) : Registry × List Event := ({ rg with inbox := [] }, rg.inbox)

/-- Refresh from time to time from now on. -/
def watch (rg : Registry) : Except RegistryError Registry :=
  if rg.closed then .error .closed else .ok { rg with watching := true }

/-- The time for a refresh has come, if the registry is watched. -/
def tick (t : Tree) (rg : Registry) : Registry :=
  if rg.watching then
    match rg.refresh t with
    | .ok (rg, _) => rg
    | .error _ => rg
  else rg

/-- Forget everything; nothing is told any more. -/
def close (rg : Registry) : Registry :=
  { rg with contents := .empty, closed := true, watching := false, listening := false }

/-- Compose an object after all that it extends. `stack` names the objects on the way, each of which is a
record of its own, so `fuel` is the number of records that are left. -/
def composeChain (files : Files) (rg : Registry) :
    Nat → Learned → List String → String → Learned × Except RegistryError Composed
  | fuel, known, stack, name =>
    if stack.any fun n => Name.normalize n == Name.normalize name then
      (known, .error (.circularExtends (stack ++ [name])))
    else
      match rg.contents.index.get? name with
      | none => (known, .error (.notFound name))
      | some r =>
        let settle := fun (known : Learned) (base : Option Composed) =>
          match rg.resolver.resolve files known r.definition.traits ⟨some r.name, some r.path⟩ with
          | (known, .error e) => (known, .error (.resolution e))
          | (known, .ok resolved) => (known, .ok (r.definition.compose rg.foundation resolved base))
        match r.definition.base?, fuel with
        | none, _ => settle known none
        | some _, 0 => (known, .error (.circularExtends (stack ++ [name])))
        | some parent, fuel + 1 =>
          match composeChain files rg fuel known (stack ++ [r.name]) parent with
          | (known, .error e) => (known, .error e)
          | (known, .ok base) => settle known (some base)

/-- The composed object of a name; the registry is filled first if that was not done. -/
def resolve (t : Tree) (rg : Registry) (name : String) : Registry × Except RegistryError Composed :=
  match if rg.ready then .ok rg else (rg.refresh t).map Prod.fst with
  | .error e => (rg, .error e)
  | .ok rg =>
    let (known, answer) := rg.composeChain t.files rg.contents.index.size rg.learned [] name
    ({ rg with learned := known }, answer)

end Registry

end TraitWeave
