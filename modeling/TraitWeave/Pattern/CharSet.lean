import TraitWeave.Pattern.Property.Folding

/-!
# Sets of characters

A set of characters is held as ranges of code points, rising and apart from each other.

* `CharSet.has`: membership.
* `CharSet.union`, `CharSet.inter`, `CharSet.diff`, `CharSet.complement`: the operations of sets.
* `CharSet.folded`: the set where case does not count.
-/

namespace TraitWeave

/-- A set of characters, as rising ranges of code points. -/
structure CharSet where
  ranges : List (Nat × Nat)
  deriving DecidableEq, Repr

namespace CharSet

/-- No character. -/
def empty : CharSet := ⟨[]⟩

/-- All characters; the code points of halves of pairs are none. -/
def all : CharSet := ⟨[(0, 0xd7ff), (0xe000, 0x10ffff)]⟩

/-- The characters between two. -/
def range (low high : Nat) : CharSet := ⟨[(low, high)]⟩

/-- One character. -/
def single (c : Char) : CharSet := range c.toNat c.toNat

/-- Whether a code point is in a set. -/
def hasPoint (s : CharSet) (n : Nat) : Bool := s.ranges.any fun (a, b) => a ≤ n && n ≤ b

/-- Whether a character is in a set. -/
def has (s : CharSet) (c : Char) : Bool := s.hasPoint c.toNat

/-- Put a range in front of rising ranges, which it may touch. -/
def addRange (low high : Nat) : List (Nat × Nat) → List (Nat × Nat)
  | [] => [(low, high)]
  | (a, b) :: rest =>
    if a ≤ high + 1 then addRange (min low a) (max high b) rest else (low, high) :: (a, b) :: rest

/-- The set of the code points in ranges of any order. -/
def ofRanges (ranges : List (Nat × Nat)) : CharSet :=
  ⟨(ranges.mergeSort fun p q => p.1 ≤ q.1).foldr (fun (a, b) rest => addRange a b rest) []⟩

/-- The characters of either set. -/
def union (s t : CharSet) : CharSet := ofRanges (s.ranges ++ t.ranges)

/-- The gaps between rising ranges, from `low` to `high`. -/
def gaps (low high : Nat) : List (Nat × Nat) → List (Nat × Nat)
  | [] => if low ≤ high then [(low, high)] else []
  | (a, b) :: rest =>
    (if low < a ∧ low ≤ high then [(low, min (a - 1) high)] else []) ++ gaps (max low (b + 1)) high rest

/-- The characters that are not in a set. -/
def complement (s : CharSet) : CharSet := ⟨gaps 0 0xd7ff s.ranges ++ gaps 0xe000 0x10ffff s.ranges⟩

/-- The characters of both sets. -/
def inter (s t : CharSet) : CharSet := (s.complement.union t.complement).complement

/-- The characters of the first set that are not in the second one. -/
def diff (s t : CharSet) : CharSet := (s.complement.union t).complement

/-- The characters of exactly one of two sets. -/
def symmDiff (s t : CharSet) : CharSet := (s.diff t).union (t.diff s)

/-- The code points of a set that are taken for others where case does not count. -/
def casedPoints (s : CharSet) : List Nat :=
  Property.foldRuns.flatMap fun r =>
    ((List.range ((r.last - r.first) / r.step + 1)).map fun i => r.first + i * r.step).flatMap fun n =>
      (if s.hasPoint n then [n] else []) ++ if s.hasPoint (n + r.distance) then [n + r.distance] else []

/-- The set where case does not count: all characters that are taken for one of it. -/
def folded (s : CharSet) : CharSet :=
  ofRanges (s.ranges ++ (s.casedPoints.flatMap Property.caseVariants).map fun n => (n, n))

/-- The set, where case counts or not. -/
def foldedIf (fold : Bool) (s : CharSet) : CharSet := if fold then s.folded else s

end CharSet

end TraitWeave
