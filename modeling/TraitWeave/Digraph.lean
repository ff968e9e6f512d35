/-!
# Directed graphs

A graph on the positions `0, 1, …` is given by the successors of each. A successor is what must come first.

* `cycles`: cycles found by a depth-first search, each from its least position on and closed.
* `closure`: what can be reached from a position.
* `order?`: all positions, each after its successors, the least possible one first; none on a cycle.
-/

namespace TraitWeave

/-- A graph: for each position its successors, without repetitions. -/
structure Digraph where
  next : List (List Nat)
  deriving DecidableEq, Repr

namespace Digraph

/-- The number of positions. -/
def size (g : Digraph) : Nat := g.next.length

/-- The successors of a position. -/
def succ (g : Digraph) (i : Nat) : List Nat := g.next.getD i []

/-- The positions that have `i` as a successor. -/
def pred (g : Digraph) (i : Nat) : List Nat :=
  (List.range g.size).filter fun j => (g.succ j).contains i

/-! ### Cycles -/

/-- A cycle from its least position on, with that position again at the end. -/
def canonical (cycle : List Nat) : List Nat :=
  match cycle.min? with
  | none => []
  | some least =>
    cycle.dropWhile (· ≠ least) ++ cycle.takeWhile (· ≠ least) ++ [least]

/-- A depth-first search: the path to where it is, innermost first, what it is done with, and the
cycles it has found. -/
structure Search where
  path : List Nat
  done : List Nat
  found : List (List Nat)
  deriving DecidableEq, Repr

/-- Note the cycle that an edge back to `i` closes, unless it is known. -/
def Search.close (s : Search) (i : Nat) : Search :=
  let cycle := canonical (i :: (s.path.takeWhile (· ≠ i)).reverse)
  if s.found.contains cycle then s else { s with found := s.found ++ [cycle] }

/-- Search from a position on. A path has no repetitions, so the number of positions is enough fuel. -/
def visit (g : Digraph) : Nat → Nat → Search → Search
  | 0, _, s => s
  | fuel + 1, i, s =>
    let entered := { s with path := i :: s.path }
    let left := (g.succ i).foldl (fun (s : Search) j =>
      if s.done.contains j then s
      else if s.path.contains j then s.close j
      else visit g fuel j s) entered
    { left with path := s.path, done := i :: left.done }

/-- The cycles found from every position in turn. -/
def cycles (g : Digraph) : List (List Nat) :=
  ((List.range g.size).foldl (fun (s : Search) i =>
    if s.done.contains i then s else g.visit g.size i s) ⟨[], [], []⟩).found

/-! ### Reachability -/

/-- A collection of what can be reached: all that was found, in order, and what is still to be looked at,
the latest first. -/
structure Reach where
  found : List Nat
  pending : List Nat
  deriving DecidableEq, Repr

/-- Add a position unless it is the start or known. -/
def Reach.add (start : Nat) (r : Reach) (i : Nat) : Reach :=
  if i == start || r.found.contains i then r else ⟨r.found ++ [i], i :: r.pending⟩

/-- Look at what is pending. Each position is pending once, so the number of positions is enough fuel. -/
def reach (g : Digraph) (start : Nat) : Nat → Reach → Reach
  | 0, r => r
  | fuel + 1, r =>
    match r.pending with
    | [] => r
    | i :: rest => reach g start fuel ((g.succ i).foldl (Reach.add start) ⟨r.found, rest⟩)

/-- What can be reached from a position, in the order in which it is found; the position itself is left out. -/
def closure (g : Digraph) (start : Nat) : List Nat :=
  (g.reach start g.size ⟨[], [start]⟩).found

/-! ### Order -/

/-- Insert into an increasing list, once. -/
def insertOnce (i : Nat) : List Nat → List Nat
  | [] => [i]
  | j :: js => if i < j then i :: j :: js else if i = j then j :: js else j :: insertOnce i js

/-- The state of the ordering: how many successors of each position are not placed yet, the positions
that have none left, increasing, and what is placed. -/
structure Sorting where
  awaiting : List Nat
  ready : List Nat
  placed : List Nat
  deriving DecidableEq, Repr

/-- One successor of `i` has been placed. -/
def Sorting.release (s : Sorting) (i : Nat) : Sorting :=
  let left := s.awaiting.getD i 0 - 1
  { s with
    awaiting := s.awaiting.set i left
    ready := if left = 0 then insertOnce i s.ready else s.ready }

/-- Place the least position that is ready, until there is none. Each position is placed once at most, so
their number is enough fuel. -/
def sort (g : Digraph) : Nat → Sorting → Sorting
  | 0, s => s
  | fuel + 1, s =>
    match s.ready with
    | [] => s
    | i :: rest =>
      sort g fuel ((g.pred i).foldl Sorting.release { s with ready := rest, placed := s.placed ++ [i] })

/-- The start of the ordering. -/
def sortingStart (g : Digraph) : Sorting where
  awaiting := g.next.map List.length
  ready := (List.range g.size).filter fun i => (g.succ i).isEmpty
  placed := []

/-- All that can be placed, in order. -/
def placed (g : Digraph) : List Nat := (g.sort g.size g.sortingStart).placed

/-- All positions, each after its successors, if that is possible. -/
def order? (g : Digraph) : Option (List Nat) :=
  if g.placed.length = g.size then some g.placed else none

end Digraph

end TraitWeave
