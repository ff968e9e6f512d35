import TraitWeave.Pattern.Escape

/-!
# Sets in brackets

Brackets hold characters, ranges of them, named sets and further brackets. Two signs between them take the
intersection, the difference or the symmetric difference of what stands on both sides.

* `Pattern.Bracket`, `Pattern.readBracket`: what brackets hold.
* `Pattern.Bracket.set?`: the set of characters.
-/

namespace TraitWeave.Pattern

/-- What is done with two sets. -/
inductive SetOperation where
  | inter
  | diff
  | symmDiff
  deriving DecidableEq, Repr

mutual

/-- What brackets hold. -/
inductive Bracket where
  | union (items : List BracketItem)
  | operation (kind : SetOperation) (left right : Bracket)

/-- A part of what brackets hold. -/
inductive BracketItem where
  | range (low high : Char)
  /-- A set of ASCII by its name. -/
  | ascii (name : String) (negated : Bool)
  | escape (e : Escape)
  | nested (negated : Bool) (inner : Bracket)

end

/-! ### Reading -/

/-- The ranges of the sets of ASCII that have names. -/
def asciiSets : List (String × List (Nat × Nat)) := [
  ("alnum", [(48, 57), (65, 90), (97, 122)]), ("alpha", [(65, 90), (97, 122)]), ("ascii", [(0, 127)]),
  ("blank", [(9, 9), (32, 32)]), ("cntrl", [(0, 31), (127, 127)]), ("digit", [(48, 57)]),
  ("graph", [(33, 126)]), ("lower", [(97, 122)]), ("print", [(32, 126)]),
  ("punct", [(33, 47), (58, 64), (91, 96), (123, 126)]), ("space", [(9, 13), (32, 32)]),
  ("upper", [(65, 90)]), ("word", [(48, 57), (65, 90), (95, 95), (97, 122)]),
  ("xdigit", [(48, 57), (65, 70), (97, 102)])]

/-- The name of a set of ASCII between colons, if one stands there; `cs` follows the opening bracket. -/
def readAsciiName? (cs : List Char) : Option (BracketItem × List Char) :=
  match cs with
  | ':' :: rest =>
    let (negated, rest) := match rest with
      | '^' :: r => (true, r)
      | r => (false, r)
    let name := rest.takeWhile (· ≠ ':')
    match rest.drop name.length with
    | ':' :: ']' :: after =>
      let n := String.ofList name
      if asciiSets.any fun p => p.1 == n then some (.ascii n negated, after) else none
    | _ => none
  | _ => none

/-- Read the hyphens at the start of brackets. -/
def readHyphens (spaced : Bool) : Nat → List BracketItem → List Char → List BracketItem × List Char
  | 0, items, cs => (items, cs)
  | fuel + 1, items, '-' :: cs =>
    readHyphens spaced fuel (items ++ [.range '-' '-']) (skipGap spaced cs)
  | _ + 1, items, cs => (items, cs)

/-- Read the start of brackets: a sign that negates them, hyphens, and a bracket that closes nothing yet. -/
def readOpening (spaced : Bool) (cs : List Char) : Bool × List BracketItem × List Char :=
  let cs := skipGap spaced cs
  let (negated, cs) := match cs with
    | '^' :: r => (true, skipGap spaced r)
    | r => (false, r)
  match readHyphens spaced cs.length [] cs with
  | ([], ']' :: rest) => (negated, [.range ']' ']'], skipGap spaced rest)
  | (items, rest) => (negated, items, rest)

/-- Read a character or an escape. -/
def readMember (spaced : Bool) : List Char → Read Escape
  | [] => .error .bad
  | '\\' :: rest => readEscape spaced rest
  | c :: rest => .ok (.literal c, rest)

/-- The character that a member is. -/
def literalOf : Escape → Except Stop Char
  | .literal c => .ok c
  | .bell => .ok '\x07'
  | _ => .error .bad

/-- A member on its own. -/
def itemOf : Escape → Except Stop BracketItem
  | .literal c => .ok (.range c c)
  | .bell => .ok (.range '\x07' '\x07')
  | .place => .error .bad
  | e => .ok (.escape e)

/-- Read a character, a range of them or a named set. -/
def readRange (spaced : Bool) (cs : List Char) : Except Stop (BracketItem × List Char) := do
  let (first, rest) ← readMember spaced cs
  match skipGap spaced rest with
  | [] => .error .bad
  | '-' :: after =>
    let ahead := (skipGap spaced after).head?
    if ahead = some ']' ∨ ahead = some '-' then pure (← itemOf first, '-' :: after)
    else
      let (last, rest) ← readMember spaced (skipGap spaced after)
      let low ← literalOf first
      let high ← literalOf last
      if low ≤ high then pure (.range low high, rest) else .error .bad
  | rest => pure (← itemOf first, rest)

/-- What stands on the left of an operation. -/
abbrev LeftSide := Option (SetOperation × Bracket)

/-- Put the two sides of an operation together. -/
def withLeft (left : LeftSide) (right : Bracket) : Bracket :=
  match left with
  | some (kind, l) => .operation kind l right
  | none => right

/-- Read what brackets hold up to the closing one. Every step reads a character, so their number is enough
fuel. -/
def readInside (spaced : Bool) : Nat → LeftSide → List BracketItem → List Char → Read Bracket
  | 0, _, _, _ => .error .bad
  | fuel + 1, left, items, cs =>
    let operation := fun (kind : SetOperation) (rest : List Char) =>
      readInside spaced fuel (some (kind, withLeft left (.union items))) [] rest
    match skipGap spaced cs with
    | [] => .error .bad
    | ']' :: rest => .ok (withLeft left (.union items), rest)
    | '[' :: rest =>
      match readAsciiName? rest with
      | some (item, rest) => readInside spaced fuel left (items ++ [item]) rest
      | none =>
        let (negated, first, rest) := readOpening spaced rest
        match readInside spaced fuel none first rest with
        | .error e => .error e
        | .ok (inner, rest) => readInside spaced fuel left (items ++ [.nested negated inner]) rest
    | '&' :: '&' :: rest => operation .inter rest
    | '-' :: '-' :: rest => operation .diff rest
    | '~' :: '~' :: rest => operation .symmDiff rest
    | cs =>
      match readRange spaced cs with
      | .error e => .error e
      | .ok (item, rest) => readInside spaced fuel left (items ++ [item]) rest

/-- Read brackets; `cs` follows the opening one. -/
def readBracket (spaced : Bool) (cs : List Char) : Read BracketItem :=
  let (negated, first, rest) := readOpening spaced cs
  (readInside spaced (cs.length + 1) none first rest).map fun (inner, rest) => (.nested negated inner, rest)

/-! ### Sets -/

/-- Which characters the short names of sets stand for. -/
inductive Alphabet where
  /-- Those that JSON Schema tells: digits and words of ASCII, and some blanks. -/
  | narrow
  /-- Those of all scripts. -/
  | wide
  deriving DecidableEq, Repr

/-- The set of a short name. -/
def Alphabet.set (a : Alphabet) (kind : Char) : CharSet :=
  match a, kind with
  | .narrow, 'd' => ⟨[(48, 57)]⟩
  | .narrow, 'w' => ⟨[(48, 57), (65, 90), (95, 95), (97, 122)]⟩
  | .narrow, _ =>
    ⟨[(9, 13), (32, 32), (0xa0, 0xa0), (0x2003, 0x2003), (0x2029, 0x2029), (0xfeff, 0xfeff)]⟩
  | .wide, 'd' => Property.digitSet ()
  | .wide, 'w' => Property.wordSet ()
  | .wide, _ => Property.blankSet ()

/-- A set or all other characters. -/
def negatedIf (negated : Bool) (s : CharSet) : CharSet := if negated then s.complement else s

/-- The set of a property, if there is one of that name. -/
def PropertyName.set? (fold negated : Bool) : PropertyName → Option CharSet
  | .plain text => (Property.ofName? (String.ofList text)).map fun s => negatedIf negated (s.foldedIf fold)
  | .value key told equal =>
    (Property.ofValue? (String.ofList key) (String.ofList told)).map fun s =>
      negatedIf (negated == equal) (s.foldedIf fold)

/-- The set of an escape. -/
def Escape.set? (a : Alphabet) (fold : Bool) : Escape → Option CharSet
  | .literal c => some ((CharSet.single c).foldedIf fold)
  | .bell => some (.range 7 7)
  | .short kind negated => some (negatedIf negated ((a.set kind).foldedIf fold))
  | .property name negated => name.set? fold negated
  | .place => none

mutual

/-- The set of what brackets hold. -/
def Bracket.set? (a : Alphabet) (fold : Bool) : Bracket → Option CharSet
  | .union items => BracketItem.setOfAll? a fold items
  | .operation kind left right => do
    let l := (← left.set? a fold).foldedIf fold
    let r := (← right.set? a fold).foldedIf fold
    match kind with
    | .inter => pure (l.inter r)
    | .diff => pure (l.diff r)
    | .symmDiff => pure (l.symmDiff r)

/-- The set of a part. Case is left out of account before a set is negated. -/
def BracketItem.set? (a : Alphabet) (fold : Bool) : BracketItem → Option CharSet
  | .range low high => some (.range low.toNat high.toNat)
  | .ascii name negated =>
    (asciiSets.find? fun p => p.1 == name).map fun p =>
      negatedIf negated ((CharSet.mk p.2).foldedIf fold)
  | .escape e => e.set? a fold
  | .nested negated inner => (inner.set? a fold).map fun s => negatedIf negated (s.foldedIf fold)

/-- The set of all parts together. -/
def BracketItem.setOfAll? (a : Alphabet) (fold : Bool) : List BracketItem → Option CharSet
  | [] => some .empty
  | item :: items => do
    let s ← item.set? a fold
    let t ← BracketItem.setOfAll? a fold items
    pure (s.union t)

end

end TraitWeave.Pattern
