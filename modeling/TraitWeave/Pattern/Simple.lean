import TraitWeave.Pattern.CharSet

/-!
# Patterns of characters and places

Most patterns hold nothing but characters, places in the text, choices and repetitions. They are matched by
following all ways through them at once: from some spots in a text they lead to the spots at which what they
matched may end.

* `Subject`, `Place`: a text and the places in it that a pattern can ask for.
* `Simple`, `Simple.ends`: the patterns and the spots to which they lead.
* `Simple.firstEnd`: the end that is preferred.
-/

namespace TraitWeave.Pattern

/-- A text, with what its characters are. A spot in it is told by the number of characters in front. -/
structure Subject where
  chars : Array Char
  /-- Which of the characters belong to words. -/
  words : Array Bool

/-- Places in a text. -/
inductive Place where
  | start
  | finish
  | lineStart
  | lineEnd
  /-- Where a word starts or ends, and anywhere else. -/
  | wordEdge
  | noEdge
  | wordStart
  | wordEnd
  deriving DecidableEq, Repr

namespace Subject

/-- The character in front of a spot. -/
def before? (t : Subject) (i : Nat) : Option Char := if i = 0 then none else t.chars[i - 1]?

/-- Whether a character of a word stands in front of a spot. -/
def isWordBefore (t : Subject) (i : Nat) : Bool := i != 0 && t.words[i - 1]?.getD false

/-- Whether a character of a word follows a spot. -/
def isWordAfter (t : Subject) (i : Nat) : Bool := t.words[i]?.getD false

/-- How many spots a text has. -/
def size (t : Subject) : Nat := t.chars.size + 1

/-- The spots of a text. -/
def spots (t : Subject) : List Nat := List.range t.size

end Subject

/-- Whether a spot is at a place. -/
def Place.holds (p : Place) (t : Subject) (i : Nat) : Bool :=
  match p with
  | start => i == 0
  | finish => i == t.chars.size
  | lineStart => i == 0 || t.before? i == some '\n'
  | lineEnd => i == t.chars.size || t.chars[i]? == some '\n'
  | wordEdge => t.isWordBefore i != t.isWordAfter i
  | noEdge => t.isWordBefore i == t.isWordAfter i
  | wordStart => !t.isWordBefore i && t.isWordAfter i
  | wordEnd => t.isWordBefore i && !t.isWordAfter i

/-- A pattern of characters and places. -/
inductive Simple where
  /-- Nothing. -/
  | empty
  /-- One character of a set. -/
  | one (set : CharSet)
  /-- A place. -/
  | place (p : Place)
  /-- One pattern after the other. -/
  | seq (first second : Simple)
  /-- Either of two patterns, the first one if possible. -/
  | alt (first second : Simple)
  /-- A pattern again and again within bounds, as often as possible or as rarely. -/
  | times (inner : Simple) (least : Nat) (most : Option Nat) (greedy : Bool)
  deriving DecidableEq, Repr

namespace Simple

/-! ### All ends -/

/-- The spots of two lists, each once. -/
def join (xs ys : List Nat) : List Nat := xs ++ ys.filter fun y => !xs.contains y

/-- Go on exactly `n` times. -/
def goOn (step : List Nat → List Nat) : Nat → List Nat → List Nat
  | 0, spots => spots
  | n + 1, spots => if spots.isEmpty then [] else goOn step n (step spots)

/-- Mark spots. -/
def mark (marks : Array Bool) (spots : List Nat) : Array Bool :=
  spots.foldl (fun marks i => marks.setIfInBounds i true) marks

/-- Go on from the latest of the spots found up to `n` times, and add the spots that are reached and have no
mark yet. -/
def spreadFrom (step : List Nat → List Nat) : Nat → Array Bool → List Nat → List Nat → List Nat
  | 0, _, found, _ => found
  | n + 1, marks, found, latest =>
    let fresh := (step latest).filter fun j => marks[j]? == some false
    if fresh.isEmpty then found else spreadFrom step n (mark marks fresh) (fresh ++ found) fresh

/-- The spots that are reached from some spots in up to `n` steps, in a text with `size` spots. -/
def spread (step : List Nat → List Nat) (size n : Nat) (spots : List Nat) : List Nat :=
  spreadFrom step n (mark (.replicate size false) spots) spots spots

/-- How often one may go on after `least` times. No more than there are spots in the text: each further time
reaches another spot. -/
def further (t : Subject) (least : Nat) (most : Option Nat) : Nat :=
  match most with
  | some m => m - least
  | none => t.size

/-- The spots at which a match from some spots may end. -/
def ends (t : Subject) : Simple → List Nat → List Nat
  | empty, spots => spots
  | one set, spots => spots.filterMap fun i => if t.chars[i]?.any set.has then some (i + 1) else none
  | place p, spots => spots.filter (p.holds t)
  | seq a b, spots => ends t b (ends t a spots)
  | alt a b, spots => join (ends t a spots) (ends t b spots)
  | times p least most _, spots =>
    spread (ends t p) t.size (further t least most) (goOn (ends t p) least spots)

/-- Whether some part of a text matches. -/
def occursIn (s : Simple) (t : Subject) : Bool := !(s.ends t t.spots).isEmpty

/-! ### The end that is preferred -/

/-- A spot if it is good. -/
def keep (good : Nat → Bool) (i : Nat) : Option Nat := if good i then some i else none

/-- Repeat up to `n` times, as long as a good spot can be reached, as `reaches` tells of a spot and the times
that are left. A match of nothing ends the repetition. -/
def firstFurther (first : (Nat → Bool) → Nat → Option Nat) (reaches : Nat → Nat → Bool) (greedy : Bool)
    (good : Nat → Bool) : Nat → Nat → Option Nat
  | 0, i => keep good i
  | n + 1, i =>
    let onward := fun (_ : Unit) =>
      match first (fun j => if j = i then good i else reaches n j) i with
      | some j => if j = i then some i else firstFurther first reaches greedy good n j
      | none => none
    if greedy then (onward ()).or (keep good i) else (keep good i).or (onward ())

/-- Repeat exactly `n` times and go on with `next`, as long as a good spot can be reached, as `reaches` tells
of a spot and the times that are left. -/
def firstTimes (first : (Nat → Bool) → Nat → Option Nat) (reaches : Nat → Nat → Bool)
    (next : Nat → Option Nat) : Nat → Nat → Option Nat
  | 0, i => next i
  | n + 1, i =>
    match first (reaches n) i with
    | some j => firstTimes first reaches next n j
    | none => none

/-- The end of the match from a spot that is preferred among those at good spots. -/
def firstEnd (t : Subject) : Simple → (Nat → Bool) → Nat → Option Nat
  | empty, good, i => keep good i
  | one set, good, i => if t.chars[i]?.any set.has then keep good (i + 1) else none
  | place p, good, i => if p.holds t i then keep good i else none
  | seq a b, good, i => (firstEnd t a (fun j => (b.ends t [j]).any good) i).bind (firstEnd t b good)
  | alt a b, good, i => (firstEnd t a good i).or (firstEnd t b good i)
  | times p least most greedy, good, i =>
    let more := further t least most
    let reaches := fun n j => (spread (p.ends t) t.size n [j]).any good
    let reachesAfter := fun n j => (spread (p.ends t) t.size more (goOn (p.ends t) n [j])).any good
    firstTimes (firstEnd t p) reachesAfter (firstFurther (firstEnd t p) reaches greedy good more) least i

end Simple

end TraitWeave.Pattern
