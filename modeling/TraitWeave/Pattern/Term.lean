import TraitWeave.Pattern.Simple

/-!
# Patterns as they are written

A pattern as it is written may look around, refer to what a group matched, keep what it matched once, and
choose by a condition. Parts that do none of this are simple.

* `Term`: the patterns.
* `Term.least`, `Term.isFixed`: how many characters a match takes at least, and whether it always takes as
  many.
* `Term.isHard`, `Term.simple`: which patterns are not simple, and the simple pattern of the others.
* `Term.isSmall`: whether a simple pattern is small enough to be matched.
-/

namespace TraitWeave.Pattern

/-- A pattern as it is written. -/
inductive Term where
  | empty
  | one (set : CharSet)
  | place (p : Place)
  | seq (parts : List Term)
  | alt (parts : List Term)
  /-- A group that is counted. -/
  | group (index : Nat) (inner : Term)
  | times (inner : Term) (least : Nat) (most : Option Nat) (greedy : Bool)
  /-- Something stands ahead, or behind; or it does not. -/
  | look (ahead expected : Bool) (inner : Term)
  /-- What a group matched, once more. -/
  | again (index : Nat)
  /-- A group has been entered. -/
  | entered (index : Nat)
  /-- Only the match that is preferred. -/
  | once (inner : Term)
  | choice (condition yes no : Term)
  /-- The start of the search. -/
  | origin
  /-- Where what counts of the match starts. -/
  | cut

namespace Term

/-- Whether a pattern is empty. -/
def isEmpty : Term → Bool
  | empty => true
  | _ => false

/-- Whether a pattern may be repeated. -/
def isRepeatable : Term → Bool
  | empty | place _ | look .. => false
  | _ => true

/-- One pattern after the other. -/
def ofParts (parts : List Term) : Term :=
  match parts with
  | [] => empty
  | [t] => t
  | parts => seq parts

mutual

/-- How many characters a match takes at least. -/
def least : Term → Nat
  | one _ => 1
  | seq parts => leastOfAll parts
  | alt parts => (leastOfAny parts).getD 0
  | group _ inner => inner.least
  | times inner low _ _ => inner.least * low
  | once inner => inner.least
  | choice condition yes no => condition.least + min yes.least no.least
  | empty | place _ | look .. | again _ | entered _ | origin | cut => 0

/-- How many characters a match of all patterns takes at least. -/
def leastOfAll : List Term → Nat
  | [] => 0
  | t :: ts => t.least + leastOfAll ts

/-- How many characters a match of any of some patterns takes at least. -/
def leastOfAny : List Term → Option Nat
  | [] => none
  | t :: ts => some (match leastOfAny ts with
    | some n => min t.least n
    | none => t.least)

end

/-- Whether matches of all patterns take at least as many characters. -/
def areAlike : List Term → Bool
  | [] => true
  | t :: ts => ts.all (fun u => u.least == t.least)

mutual

/-- Whether all matches take as many characters. -/
def isFixed : Term → Bool
  | seq parts => areFixed parts
  | alt parts => areFixed parts && areAlike parts
  | group _ inner => inner.isFixed
  | times inner low high _ => inner.isFixed && high == some low
  | once inner => inner.isFixed
  | choice condition yes no =>
    condition.isFixed && yes.isFixed && no.isFixed && condition.least + yes.least == no.least
  | again _ => false
  | empty | one _ | place _ | look .. | entered _ | origin | cut => true

/-- Whether all matches of each pattern take as many characters. -/
def areFixed : List Term → Bool
  | [] => true
  | t :: ts => t.isFixed && areFixed ts

end

mutual

/-- Whether a pattern is not simple; `referred` are the groups to which something refers. -/
def isHard (referred : List Nat) : Term → Bool
  | seq parts => areHard referred parts
  | alt parts => areHard referred parts
  | group index inner => inner.isHard referred || referred.contains index
  | times inner _ _ _ => inner.isHard referred
  | place p => !([Place.start, .finish, .lineStart, .lineEnd].contains p)
  | look .. | again _ | entered _ | once _ | choice .. | origin | cut => true
  | empty | one _ => false

/-- Whether some pattern is not simple. -/
def areHard (referred : List Nat) : List Term → Bool
  | [] => false
  | t :: ts => t.isHard referred || areHard referred ts

end

mutual

/-- The simple pattern of a pattern that is not hard. -/
def simple : Term → Simple
  | one set => .one set
  | place p => .place p
  | seq parts => simpleOfAll parts
  | alt parts => simpleOfAny parts
  | group _ inner => inner.simple
  | times inner low high greedy => .times inner.simple low high greedy
  | empty | look .. | again _ | entered _ | once _ | choice .. | origin | cut => .empty

/-- One simple pattern after the other. -/
def simpleOfAll : List Term → Simple
  | [] => .empty
  | t :: ts => .seq t.simple (simpleOfAll ts)

/-- Any of some simple patterns. -/
def simpleOfAny : List Term → Simple
  | [] => .empty
  | [t] => t.simple
  | t :: ts => .alt t.simple (simpleOfAny ts)

end

/-! ### Size

A simple pattern is matched by a machine with a state for every step, and repetitions with bounds repeat the
states. The machine may take ten mebibytes. -/

/-- The size of the states for one character of a set. Most characters take several bytes, and a state for
each of them. -/
def sizeOfSet (s : CharSet) : Nat :=
  match s.ranges with
  | [_] => if s.ranges.all (fun r => r.2 < 128) then 32 else 310
  | ranges => if ranges.all (fun r => r.2 < 128) then 32 + 8 * ranges.length else 250 + 60 * ranges.length

mutual

/-- The size of the machine of a pattern; none if bounds are the wrong way round. -/
def size? : Term → Option Nat
  | one set => some (sizeOfSet set)
  | place _ => some 32
  | seq parts => sizeOfAll? parts
  | alt parts => (sizeOfAll? parts).map (40 + ·)
  | group _ inner => inner.size?.map (64 + ·)
  | times inner low high _ =>
    inner.size?.bind fun n =>
      match high with
      | some high => if low ≤ high then some (high * n + 48 * (high - low)) else none
      | none => some (max low 1 * n + 48)
  | empty | look .. | again _ | entered _ | once _ | choice .. | origin | cut => some 0

/-- The size of the machine of some patterns. -/
def sizeOfAll? : List Term → Option Nat
  | [] => some 0
  | t :: ts => t.size?.bind fun n => (sizeOfAll? ts).map (n + ·)

end

/-- Whether a simple pattern is small enough to be matched. -/
def isSmall (t : Term) : Bool := t.size?.any (· ≤ 10485760)

end Term

end TraitWeave.Pattern
