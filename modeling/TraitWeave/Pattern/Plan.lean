import TraitWeave.Pattern.Term

/-!
# Matching with second thoughts

A pattern that is not simple is matched by one way after another: where a way fails, the last choice is
taken back and the next way is tried. The number of choices that may be taken back is limited. Simple parts
lead to one end only where no other end can help.

* `Plan`, `Term.plan?`: what is done to match a pattern.
* `Plan.run`: a match from a spot, and what follows it.
* `Plan.search`: whether some part of a text matches.
-/

namespace TraitWeave.Pattern

/-- What is done to match a pattern. -/
inductive Plan where
  | done
  /-- Take the end of a simple pattern that is preferred. -/
  | simple (s : Simple)
  | place (p : Place)
  | seq (first second : Plan)
  | alt (first second : Plan)
  /-- Note where a group starts and ends. -/
  | group (index : Nat) (inner : Plan)
  /-- Repeat; where `guarded`, not from the spot of the time before. -/
  | times (inner : Plan) (least : Nat) (most : Option Nat) (greedy guarded : Bool)
  /-- Match without moving on, some characters back. -/
  | look (back : Nat) (inner : Plan)
  /-- Do not match, some characters back. -/
  | avoid (back : Nat) (inner : Plan)
  | again (index : Nat)
  | entered (index : Nat)
  | once (inner : Plan)
  | choice (condition yes no : Plan)
  | origin

/-! ### Making plans -/

/-- One plan after the other. -/
def Plan.ofList : List Plan → Plan
  | [] => .done
  | [p] => p
  | p :: ps => .seq p (ofList ps)

/-- Any of some plans. -/
def Plan.ofChoices : List Plan → Plan
  | [] => .done
  | [p] => p
  | p :: ps => .alt p (ofChoices ps)

namespace Term

/-- The plan of a pattern that is not hard, if it is small enough. -/
def simplePlan? (t : Term) : Option Plan := if t.isSmall then some (.simple t.simple) else none

/-- The plan of some patterns that are not hard, one after the other. -/
def simplePlans? (parts : List Term) : Option (List Plan) :=
  if parts.isEmpty then some [] else (simplePlan? (seq parts)).map fun p => [p]

/-- How many patterns at the start are not hard and take a fixed number of characters. -/
def countFixed (referred : List Nat) (parts : List Term) : Nat :=
  (parts.takeWhile fun t => t.isFixed && !t.isHard referred).length

/-- How many patterns at the start are not hard. -/
def countSimple (referred : List Nat) (parts : List Term) : Nat :=
  (parts.takeWhile fun t => !t.isHard referred).length

/-- Put the plans of patterns together that follow each other; `plans` are those of the patterns alone. Simple
patterns at both ends are taken together: in front, those of a fixed size; at the end too where `open`, for
other ends may help what follows. -/
def sequence? (referred : List Nat) (isOpen : Bool) (parts : List Term) (plans : List (Option Plan)) :
    Option Plan :=
  let front := countFixed referred parts
  let others := (parts.drop front).reverse
  let back := if isOpen then countFixed referred others else countSimple referred others
  let middle := parts.length - front - back
  (simplePlans? (parts.take front)).bind fun first =>
    (((plans.drop front).take middle).mapM id).bind fun second =>
      (simplePlans? (parts.drop (front + middle))).map fun third => Plan.ofList (first ++ second ++ third)

/-- The plan to look ahead or behind for a pattern. Behind, the pattern has to take a fixed number of
characters. -/
def lookPlan? (ahead expected : Bool) (t : Term) (inner : Option Plan) : Option Plan :=
  if ahead || t.isFixed then
    inner.map fun p =>
      let back := if ahead then 0 else t.least
      if expected then .look back p else .avoid back p
  else none

/-- The plan to look behind for any of some patterns, each of them taking a fixed number of characters. -/
def lookPlans? (expected : Bool) (parts : List Term) (plans : List (Option Plan)) : Option Plan :=
  ((parts.zip plans).mapM fun (t, p) => lookPlan? false expected t p).map fun ps =>
    if expected then Plan.ofChoices ps else Plan.ofList ps

mutual

/-- The plan of a pattern; where `isOpen`, what follows may ask for another end. -/
def plan? (referred : List Nat) (isOpen : Bool) (t : Term) : Option Plan :=
  if !isOpen && !t.isHard referred then simplePlan? t
  else
    match t with
    | empty | cut => some .done
    | one set => some (.simple (.one set))
    | place p => some (.place p)
    | seq parts => sequence? referred isOpen parts (plansOf referred true parts)
    | alt parts => ((plansOf referred isOpen parts).mapM id).map Plan.ofChoices
    | group index inner =>
      (plan? referred isOpen inner).map fun p => if referred.contains index then .group index p else p
    | times inner low high greedy =>
      let isOption := low == 0 && high == some 1
      (plan? referred (isOpen || !isOption && inner.isHard referred) inner).map fun p =>
        .times p low high greedy (high.isNone && inner.least == 0)
    | look ahead expected inner =>
      let whole := fun (_ : Unit) => lookPlan? ahead expected inner (plan? referred false inner)
      match inner with
      | alt parts =>
        if ahead || areFixed parts && areAlike parts then whole ()
        else lookPlans? expected parts (plansOf referred false parts)
      | _ => whole ()
    | again index => some (.again index)
    | entered index => some (.entered index)
    | once inner => (plan? referred false inner).map .once
    | choice condition yes no =>
      (plan? referred isOpen condition).bind fun c =>
        (plan? referred isOpen yes).bind fun y => (plan? referred isOpen no).map fun n => .choice c y n
    | origin => some .origin

/-- The plans of some patterns. -/
def plansOf (referred : List Nat) (isOpen : Bool) : List Term → List (Option Plan)
  | [] => []
  | t :: ts => plan? referred isOpen t :: plansOf referred isOpen ts

end

end Term

/-! ### Running plans -/

/-- How far a match has come. -/
structure Progress where
  spot : Nat
  /-- Where groups start and end, the latest first. -/
  starts : List (Nat × Nat)
  ends : List (Nat × Nat)

/-- What comes of a run, with the number of choices taken back so far. -/
inductive Outcome where
  | found (p : Progress) (count : Nat)
  | failed (count : Nat)
  | tooMany

/-- What is done after a match. -/
abbrev Next := Progress → Nat → Outcome

/-- How many choices may be taken back. -/
def Outcome.limit : Nat := 1000000

/-- Take one more choice back. -/
def Outcome.takeBack (count : Nat) (other : Nat → Outcome) : Outcome :=
  if count < limit then other (count + 1) else tooMany

/-- Where a run fails, take the last choice back. -/
def Outcome.orElse (o : Outcome) (other : Nat → Outcome) : Outcome :=
  match o with
  | failed count => takeBack count other
  | o => o

namespace Plan

/-- Whether the characters from one spot to another stand at a spot once more. -/
def isRepeated (t : Subject) (low high spot : Nat) : Bool :=
  (List.range (high - low)).all fun k => t.chars[low + k]? == t.chars[spot + k]? && spot + k < t.chars.size

/-- Repeat a step. After `least` times there is a choice: once more, or what comes next. The fuel bounds how
often the step is taken. -/
def repeated (step : Progress → Nat → Next → Outcome) (least : Nat) (most : Option Nat) (greedy guarded : Bool)
    (next : Next) : Nat → Nat → Option Nat → Next
  | 0, _, _, p, count => next p count
  | fuel + 1, n, last, p, count =>
    if most == some n then next p count
    else if guarded && last == some p.spot then .failed count
    else if n < least then step p count (repeated step least most greedy guarded next fuel (n + 1) last)
    else
      let onward := fun count =>
        step p count (repeated step least most greedy guarded next fuel (n + 1) (some p.spot))
      if greedy then (onward count).orElse (next p) else (next p count).orElse onward

/-- Match from a spot and go on with what comes next. -/
def run (t : Subject) : Plan → Progress → Nat → Next → Outcome
  | done, p, count, next => next p count
  | simple s, p, count, next =>
    match s.firstEnd t (fun _ => true) p.spot with
    | some j => next { p with spot := j } count
    | none => .failed count
  | place q, p, count, next => if q.holds t p.spot then next p count else .failed count
  | seq a b, p, count, next => a.run t p count fun p count => b.run t p count next
  | alt a b, p, count, next => (a.run t p count next).orElse fun count => b.run t p count next
  | group index inner, p, count, next =>
    inner.run t { p with starts := (index, p.spot) :: p.starts } count fun p count =>
      next { p with ends := (index, p.spot) :: p.ends } count
  | times inner least most greedy guarded, p, count, next =>
    let fuel := (match most with
      | some m => m
      | none => least + (t.chars.size - p.spot)) + 2
    repeated (inner.run t) least most greedy guarded next fuel 0 none p count
  | look back inner, p, count, next =>
    if p.spot < back then .failed count
    else inner.run t { p with spot := p.spot - back } count fun q count => next { q with spot := p.spot } count
  | avoid back inner, p, count, next =>
    let inside := if p.spot < back then .failed count
      else inner.run t { p with spot := p.spot - back } count Outcome.found
    match inside with
    | .found _ count => .failed count
    | .failed count => .takeBack count (next p)
    | .tooMany => .tooMany
  | again index, p, count, next =>
    match p.starts.lookup index, p.ends.lookup index with
    | some low, some high =>
      if isRepeated t low high p.spot then next { p with spot := p.spot + (high - low) } count
      else .failed count
    | _, _ => .failed count
  | entered index, p, count, next =>
    if (p.starts.lookup index).isSome then next p count else .failed count
  | once inner, p, count, next =>
    match inner.run t p count Outcome.found with
    | .found p count => next p count
    | o => o
  | choice condition yes no, p, count, next =>
    match condition.run t p count Outcome.found with
    | .found p count => yes.run t p count next
    | .failed count => .takeBack count fun count => no.run t p count next
    | .tooMany => .tooMany
  | origin, p, count, next => if p.spot = 0 then next p count else .failed count

/-- Match from a spot or, where that fails, from one of `n` spots after it. -/
def searchFrom (t : Subject) (plan : Plan) : Nat → Nat → Nat → Outcome
  | 0, i, count => (plan.run t ⟨i, [], []⟩ count Outcome.found).orElse Outcome.failed
  | n + 1, i, count => (plan.run t ⟨i, [], []⟩ count Outcome.found).orElse (searchFrom t plan n (i + 1))

/-- Whether some part of a text matches, unless too many choices are taken back to find out. -/
def occursIn? (plan : Plan) (t : Subject) : Option Bool :=
  match searchFrom t plan t.chars.size 0 0 with
  | .found .. => some true
  | .failed _ => some false
  | .tooMany => none

end Plan

end TraitWeave.Pattern
