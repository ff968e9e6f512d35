import TraitWeave.Compose.Merge

/-!
# Layers

What is declared for a key comes in layers: foundation, base, traits, object, context. The declarations
for a key are kept in the order of the layers until it is settled which one stands.

* `gather`: declarations sorted by key.
* `settle`: the declaration that stands, by strategy, with the context on top.
-/

namespace TraitWeave

/-- The layers, in the order in which they are put over each other. -/
inductive Layer where
  | foundation
  | base
  | trait
  | object
  | context
  deriving DecidableEq, Repr

/-- The name of a layer. -/
def Layer.name : Layer → String
  | foundation => "foundation"
  | base => "base"
  | trait => "trait"
  | object => "object"
  | context => "context"

/-- All layers, by name. -/
def Layer.cases : List (String × Layer) :=
  [Layer.foundation, .base, .trait, .object, .context].map fun l => (l.name, l)

/-- A layer and the source in it that declares something. -/
structure Provenance where
  layer : Layer
  source : String
  deriving DecidableEq, Repr

/-- A declaration and where it comes from. -/
structure Candidate (α : Type) extends Provenance where
  value : α

namespace Candidate

variable {α : Type}

/-- One declaration merged with the next; the next one gives the name. -/
def mergeWith (merge : α → α → α) (a b : Candidate α) : Candidate α :=
  { b with value := merge a.value b.value }

/-- Add a declaration for a key. -/
def addTo (t : Table (List (Candidate α))) (key : String) (c : Candidate α) :
    Table (List (Candidate α)) :=
  t.put key ((t.get? key).getD [] ++ [c])

/-- Declarations sorted by key, keys in the order in which they first come. -/
def gather (entries : List (String × Candidate α)) : Table (List (Candidate α)) :=
  entries.foldl (fun t p => addTo t p.1 p.2) []

/-- The declarations of a table in one layer. -/
def ofTable (layer : Layer) (source : String) (t : Table α) : List (String × Candidate α) :=
  t.map fun p => (p.1, ⟨⟨layer, source⟩, p.2⟩)

/-- The declaration of the first trait. -/
def firstTrait? (cs : List (Candidate α)) : Option (Candidate α) :=
  cs.find? fun c => c.layer == .trait

/-- The declaration of the object. -/
def lastObject? (cs : List (Candidate α)) : Option (Candidate α) :=
  (cs.filter fun c => c.layer == .object).getLast?

/-- All declarations merged, the first one first. -/
def mergeAll? (merge : α → α → α) : List (Candidate α) → Option (Candidate α)
  | [] => none
  | c :: cs => some (cs.foldl (mergeWith merge) c)

/-- The declaration that a strategy chooses; without one, or where it finds nothing, the last. -/
def choose? (merge : α → α → α) (strategy : Option Strategy) (cs : List (Candidate α)) :
    Option (Candidate α) :=
  match strategy with
  | some .useTrait => (firstTrait? cs).or cs.getLast?
  | some .useObject => (lastObject? cs).or cs.getLast?
  | some .merge => mergeAll? merge cs
  | none => cs.getLast?

/-- Put a declaration on top of what is chosen so far. -/
def putOver (merge : α → α → α) (current : Option (Candidate α)) (c : Candidate α) :
    Option (Candidate α) :=
  match current with
  | some b => some (mergeWith merge b c)
  | none => some c

/-- The declaration that stands: the one that the strategy chooses among the layers below the context,
with those of the context on top. -/
def settle? (merge : α → α → α) (resolution : Option Resolution) (cs : List (Candidate α)) :
    Option (Candidate α) :=
  let (context, layered) := cs.partition fun c => c.layer == .context
  context.foldl (putOver merge) (choose? merge (resolution.bind Resolution.strategy) layered)

end Candidate

end TraitWeave
