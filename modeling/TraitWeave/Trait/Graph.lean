import TraitWeave.Digraph
import TraitWeave.Trait.Basic

/-!
# The dependency graph of traits

The traits of a library depend on each other by name. A name is looked up as it stands and, where that
finds nothing, by its last segment. Of several traits with one name the first counts.

* `Graph.ofTraits`, `Graph.lookup`: the graph and the trait that a name means.
* `Graph.validate`: what is missing, circular or incompatible.
* `Graph.checkSelection`: the incompatible pairs of a selection.
* `Graph.order`: an order in which every trait comes after what it depends on.
* `Graph.conflictingPairs`: the incompatible pairs of a list of traits.
-/

namespace TraitWeave

/-- A trait as the graph sees it. -/
structure Graph.Node where
  name : String
  dependencies : List String
  conflicts : List String

/-- The graph of some traits. -/
structure Graph where
  nodes : List Graph.Node
  edges : Digraph

/-- What is wrong with a graph. -/
inductive Graph.Error where
  | cycle (path : List String)
  | missingDependency (trait dependency : String)
  | incompatible (first second reason : String)
  deriving DecidableEq, Repr

namespace Graph

/-- The wording of an error. -/
def Error.message : Error → String
  | cycle path => "Circular dependency: " ++ Text.joined " -> " path
  | missingDependency t d => "Trait \"" ++ t ++ "\" depends on missing trait \"" ++ d ++ "\""
  | incompatible a b reason =>
    "Traits \"" ++ a ++ "\" and \"" ++ b ++ "\" are incompatible (" ++ reason ++ ")"

/-- The first node whose name has this normalized form. -/
def position? (nodes : List Node) (key : String) : Option Nat :=
  nodes.findIdx? fun n => Name.normalize n.name == key

/-- The node that a name means: by the whole name, or else by its last segment. -/
def lookupIn (nodes : List Node) (name : String) : Option Nat :=
  (position? nodes (Name.normalize name)).or
    (position? nodes (Name.normalize (Name.lastSegment name)))

/-- A trait as the graph sees it. -/
def Node.ofTrait (t : Trait) : Node := ⟨t.name, t.dependencyNames, t.metadata.conflictsWith⟩

/-- Add a node unless one of its name is there. -/
def addNode (nodes : List Node) (n : Node) : List Node :=
  if (position? nodes (Name.normalize n.name)).isSome then nodes else nodes ++ [n]

/-- Without repetitions; the first of equal items stays. -/
def distinct (is : List Nat) : List Nat :=
  is.foldl (fun acc i => if acc.contains i then acc else acc ++ [i]) []

/-- The graph of some nodes, the first of each name. -/
def ofNodes (given : List Node) : Graph :=
  let nodes := given.foldl addNode []
  ⟨nodes, ⟨nodes.map fun n => distinct (n.dependencies.filterMap (lookupIn nodes))⟩⟩

/-- The graph of some traits. -/
def ofTraits (ts : List Trait) : Graph := ofNodes (ts.map Node.ofTrait)

/-- The node that a name means. -/
def lookup (g : Graph) (name : String) : Option Nat := lookupIn g.nodes name

/-- The name of a node. -/
def nameAt (g : Graph) (i : Nat) : String := (g.nodes[i]?.map Node.name).getD ""

/-- The direct dependencies that are in the graph. -/
def dependenciesOf (g : Graph) (name : String) : List String :=
  match g.lookup name with
  | some i => (g.edges.succ i).map g.nameAt
  | none => []

/-- Whether the node names another one among its conflicts. -/
def Node.refuses (n m : Node) : Bool :=
  n.conflicts.any fun c => Name.normalize c == Name.normalize m.name

/-- Whether one of two nodes refuses the other. -/
def declaresConflict (g : Graph) (i j : Nat) : Bool :=
  match g.nodes[i]?, g.nodes[j]? with
  | some n, some m => n.refuses m || m.refuses n
  | _, _ => false

/-- Every pair of a list, each item with all later ones. -/
def pairs {α : Type} : List α → List (α × α)
  | [] => []
  | a :: as => as.map (a, ·) ++ pairs as

/-- The dependencies that are missing. -/
def missing (g : Graph) : List Error :=
  g.nodes.flatMap fun n =>
    (n.dependencies.filter fun d => (g.lookup d).isNone).map fun d => .missingDependency n.name d

/-- The cycles, as names. -/
def cycles (g : Graph) : List (List String) := g.edges.cycles.map (·.map g.nameAt)

/-- A node with all that it needs. -/
def group (g : Graph) (i : Nat) : List Nat := i :: g.edges.closure i

/-- The conflicts among what one node needs that were not reported yet; each pair is in rising order. -/
def conflictsIn (g : Graph) (reported : List (Nat × Nat)) (i : Nat) : List (Nat × Nat) :=
  (pairs (g.group i)).foldl (fun found p =>
    let pair := (min p.1 p.2, max p.1 p.2)
    if g.declaresConflict p.1 p.2 && !reported.contains pair && !found.contains pair then
      found ++ [pair]
    else found) []

/-- The conflicts among traits that are always needed together, each with the first trait that needs both. -/
def conflicts (g : Graph) : List ((Nat × Nat) × Nat) :=
  (List.range g.nodes.length).foldl (fun acc i =>
    acc ++ (g.conflictsIn (acc.map Prod.fst) i).map (·, i)) []

/-- The conflicts as errors. -/
def incompatibilities (g : Graph) : List Error :=
  g.conflicts.map fun (pair, i) =>
    .incompatible (g.nameAt pair.1) (g.nameAt pair.2) ("both are required by \"" ++ g.nameAt i ++ "\"")

/-- Everything that is wrong. -/
def validate (g : Graph) : List Error :=
  g.missing ++ g.cycles.map .cycle ++ g.incompatibilities

/-- The incompatible pairs of a selection; names that are not in the graph are passed over. -/
def checkSelection (g : Graph) (names : List String) : List Error :=
  ((pairs (names.filterMap g.lookup)).filter fun p =>
    p.1 != p.2 && g.declaresConflict p.1 p.2).map fun p =>
      .incompatible (g.nameAt p.1) (g.nameAt p.2) "declared in conflicts_with"

/-- The names in an order in which every trait comes after what it depends on, or a cycle. -/
def order (g : Graph) : Except Error (List String) :=
  match g.edges.order? with
  | some is => .ok (is.map g.nameAt)
  | none => .error (.cycle (g.cycles.head?.getD []))

/-- The positions of traits of which one refuses the other. -/
def conflictingPairs (ts : List Trait) : List (Nat × Nat) :=
  ((pairs ts.zipIdx).filter fun (a, b) =>
    a.1.declaresConflictWith b.1.name || b.1.declaresConflictWith a.1.name).map fun (a, b) => (a.2, b.2)

end Graph

end TraitWeave
