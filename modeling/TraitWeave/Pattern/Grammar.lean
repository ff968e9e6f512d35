import TraitWeave.Pattern.Bracket

/-!
# The grammar of patterns

Every pattern is checked as a whole before it is read: groups are closed, names of groups are good and
differ, and what is repeated stands in front of the sign that repeats it. The check stops at the first part
that looks around or refers to what a group matched; such a pattern is left to the reader.

* `Pattern.Grammar.check`: the check.
* `Pattern.accepted?`: what the reader gets, with control characters in place of the letters that write them.
-/

namespace TraitWeave.Pattern

namespace Grammar

/-- Where the check stands. -/
structure Stand where
  /-- Whether blanks and comments count for nothing. -/
  spaced : Bool
  /-- The same for what stands around each open group, the innermost first. -/
  outer : List Bool
  /-- The names of the groups so far. -/
  names : List (List Char)
  /-- Whether something stands here that can be repeated. -/
  repeatable : Bool

/-- What was read of a group's start: flags alone, or the start of a group with what the flags say about
blanks. -/
inductive Opening where
  | flags (spaced : Option Bool)
  | group (name : Option (List Char)) (spaced : Option Bool)

/-- Whether a character may stand in the name of a group. -/
def isNameChar (first : Bool) (c : Char) : Bool :=
  if c = '_' then true
  else if c.toNat < 128 then c.isAlpha || !first && (c.isDigit || ['.', '[', ']'].contains c)
  else (Property.letterSet ()).has c || !first && (Property.numberSet ()).has c

/-- Read the name of a group up to the sign that closes it. -/
def readName (taken : List (List Char)) (cs : List Char) : Except Stop (List Char × List Char) :=
  let name := cs.takeWhile (· ≠ '>')
  let good := match name with
    | [] => false
    | c :: rest => isNameChar true c && rest.all (isNameChar false)
  match cs.drop name.length with
  | _ :: rest => if good && !taken.contains name then .ok (name, rest) else .error .bad
  | [] => .error .bad

/-- Read flags up to the sign that ends them. A hyphen turns off all after it; it may not stand last, and
nothing may stand twice. -/
def readFlags : List Char → List Char → Except Stop (List Char × List Char)
  | _, [] => .error .bad
  | flags, c :: cs =>
    if c = ':' ∨ c = ')' then
      if flags.getLast? = some '-' then .error .bad else .ok (flags, c :: cs)
    else if ['i', 'm', 's', 'U', 'u', 'R', 'x', '-'].contains c ∧ !flags.contains c then
      readFlags (flags ++ [c]) cs
    else .error .bad

/-- What flags say about blanks. -/
def spacedBy? (flags : List Char) : Option Bool :=
  if flags.contains 'x' then some !(flags.takeWhile (· ≠ 'x')).contains '-' else none

/-- Read the start of a group; `cs` follows the parenthesis and its gap. -/
def readOpening (names : List (List Char)) (cs : List Char) : Except Stop (Opening × List Char) :=
  match cs with
  | '?' :: '=' :: _ => .error .looksAround
  | '?' :: '!' :: _ => .error .looksAround
  | '?' :: '<' :: '=' :: _ => .error .looksAround
  | '?' :: '<' :: '!' :: _ => .error .looksAround
  | '?' :: 'P' :: '<' :: rest => do
    let (name, rest) ← readName names rest
    pure (.group (some name) none, rest)
  | '?' :: '<' :: rest => do
    let (name, rest) ← readName names rest
    pure (.group (some name) none, rest)
  | '?' :: rest => do
    let (flags, rest) ← readFlags [] rest
    match rest with
    | ')' :: rest => if flags.isEmpty then .error .bad else pure (.flags (spacedBy? flags), rest)
    | _ :: rest => pure (.group none (spacedBy? flags), rest)
    | [] => .error .bad
  | rest => .ok (.group none none, rest)

/-- Read decimal digits. -/
def readDigits (spaced : Bool) : Nat → List Char → List Char → List Char × List Char
  | 0, digits, cs => (digits, cs)
  | fuel + 1, digits, c :: cs =>
    if c.isDigit then readDigits spaced fuel (digits ++ [c]) (skipGap spaced cs) else (digits, c :: cs)
  | _ + 1, digits, [] => (digits, [])

/-- Leave out blanks. -/
def dropBlanks (cs : List Char) : List Char := cs.dropWhile Text.isBlank

/-- The number that decimal digits write. -/
def decimal (digits : List Char) : Nat := digits.foldl (fun n c => 10 * n + (c.toNat - 48)) 0

/-- Read a bound of a repetition, with blanks around it. There may be none, and it has at most 32 bits. -/
def readBound (spaced : Bool) (cs : List Char) : Except Stop (Option Nat × List Char) :=
  let (digits, rest) := readDigits spaced cs.length [] (dropBlanks cs)
  let rest := skipGap spaced (dropBlanks rest)
  if digits.isEmpty then .ok (none, rest)
  else if decimal digits < 0x100000000 then .ok (some (decimal digits), rest)
  else .error .bad

/-- Leave out the sign of a repetition that takes as little as it can. -/
def dropLazy (cs : List Char) : List Char :=
  match cs with
  | '?' :: rest => rest
  | cs => cs

/-- Read the bounds of a repetition in braces; `cs` follows the opening one. -/
def readBounds (spaced : Bool) (cs : List Char) : Except Stop (List Char) := do
  let (low, rest) ← readBound spaced (skipGap spaced cs)
  match low, rest with
  | none, _ => .error .bad
  | some _, '\x7d' :: rest => pure (dropLazy (skipGap spaced rest))
  | some low, ',' :: rest =>
    let rest := skipGap spaced rest
    match rest with
    | '\x7d' :: rest => pure (dropLazy (skipGap spaced rest))
    | rest =>
      let (high, rest) ← readBound spaced rest
      match high, rest with
      | some high, '\x7d' :: rest =>
        if low ≤ high then pure (dropLazy (skipGap spaced rest)) else .error .bad
      | _, _ => .error .bad
  | some _, _ => .error .bad

/-- Check one part; nothing is left at the end. -/
def step (s : Stand) (c : Char) (cs : List Char) : Except Stop (Stand × List Char) :=
  match c with
  | '(' => do
    let (opening, rest) ← readOpening s.names (skipGap s.spaced cs)
    match opening with
    | .flags spaced => pure ({ s with spaced := spaced.getD s.spaced, repeatable := false }, rest)
    | .group name spaced =>
      pure ({ spaced := spaced.getD s.spaced, outer := s.spaced :: s.outer, names := name.toList ++ s.names,
              repeatable := false }, rest)
  | ')' =>
    match s.outer with
    | [] => .error .bad
    | spaced :: outer => .ok ({ s with spaced, outer, repeatable := true }, cs)
  | '|' => .ok ({ s with repeatable := false }, cs)
  | '[' => (readBracket s.spaced cs).map fun (_, rest) => ({ s with repeatable := true }, rest)
  | '\x7b' =>
    if s.repeatable then (readBounds s.spaced cs).map fun rest => (s, rest) else .error .bad
  | '\\' => do
    let (e, rest) ← readEscape s.spaced cs
    match e with
    | .bell => .error .bad
    | _ => pure ({ s with repeatable := true }, rest)
  | c =>
    if ['?', '*', '+'].contains c then
      if s.repeatable then .ok (s, dropLazy cs) else .error .bad
    else .ok ({ s with repeatable := true }, cs)

/-- Check all parts. Every part has a character, so their number is enough fuel. -/
def checkFrom : Nat → Stand → List Char → Except Stop Unit
  | 0, _, _ => .error .bad
  | fuel + 1, s, cs =>
    match skipGap s.spaced cs with
    | [] => if s.outer.isEmpty then .ok () else .error .bad
    | c :: cs =>
      match step s c cs with
      | .ok (s, rest) => checkFrom fuel s rest
      | .error e => .error e

/-- Check a pattern. -/
def check (cs : List Char) : Except Stop Unit := checkFrom (cs.length + 1) ⟨false, [], [], false⟩ cs

end Grammar

/-- The control character that a letter writes. -/
def controlOf (letter : Char) : Char := Char.ofNat (letter.toNat % 32)

/-- What the reader gets of a pattern: the pattern with its control characters, and which characters the
short names stand for in it. `fuel` bounds the number of control characters. -/
def acceptedFrom? : Nat → List Char → Option (Alphabet × List Char)
  | 0, _ => none
  | fuel + 1, cs =>
    match Grammar.check cs with
    | .ok () => some (.narrow, cs)
    | .error .looksAround => some (.wide, cs)
    | .error .bad => none
    | .error (.control rest) =>
      match rest with
      | _ :: _ :: letter :: after =>
        acceptedFrom? fuel (cs.take (cs.length - rest.length) ++ controlOf letter :: after)
      | _ => none

/-- What the reader gets of a pattern. -/
def accepted? (text : String) : Option (Alphabet × List Char) :=
  acceptedFrom? (text.length + 1) text.toList

end TraitWeave.Pattern
