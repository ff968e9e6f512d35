import TraitWeave.Pattern.Grammar
import TraitWeave.Pattern.Term

/-!
# Reading patterns

Patterns are written as regular expressions: characters stand for themselves, with the usual signs for
sets, repetition, choice, groups, places in the text, and what stands around.

* `Pattern.Reading`: how far the reader has come.
* `Term.read?`: the pattern that a text writes, and the groups to which something in it refers.
-/

namespace TraitWeave.Pattern

/-- What flags turn on. -/
structure Mode where
  /-- Case does not count. -/
  fold : Bool
  /-- Lines have starts and ends. -/
  lines : Bool
  /-- The point stands for line feeds too. -/
  dotAll : Bool
  /-- Repetitions take as little as they can, and as much where they are marked. -/
  swap : Bool
  /-- Blanks and comments count for nothing. -/
  spaced : Bool

/-- How far the reader has come. -/
structure Reading where
  rest : List Char
  mode : Mode
  alphabet : Alphabet
  /-- Numbers of groups are below this one. -/
  bound : Nat
  /-- How many groups have been entered, the pattern itself among them. -/
  groups : Nat
  /-- The groups with names, the latest first. -/
  names : List (List Char × Nat)
  /-- Whether something refers to a group by its number. -/
  numbered : Bool
  /-- The groups to which something refers. -/
  referred : List Nat

/-- A step of the reader; there is none where no pattern is written. -/
abbrev Reader := StateT Reading Option

namespace Reader

/-- What is left. -/
def rest : Reader (List Char) := do return (← get).rest

/-- There is no step unless something holds. -/
def require (holds : Bool) : Reader Unit := if holds then pure () else failure

/-- Go on with some text. -/
def goOnWith (cs : List Char) : Reader Unit := modify fun s => { s with rest := cs }

/-- Go on with the text that a step leaves. -/
def taking {α : Type} (found : Option (α × List Char)) : Reader α := do
  let (a, cs) ← found
  goOnWith cs
  return a

/-! ### Gaps -/

/-- Leave out a comment in parentheses, up to the closing one. -/
def skipComment : List Char → Option (List Char)
  | [] => none
  | '\\' :: _ :: cs => skipComment cs
  | c :: cs => if c = ')' then some cs else skipComment cs

/-- Leave out what counts for nothing: comments in parentheses and, in some modes, blanks and comments up to
the end of the line. -/
def skipNothing (spaced : Bool) : Nat → List Char → Option (List Char)
  | 0, cs => some cs
  | fuel + 1, cs =>
    match cs with
    | '(' :: '?' :: '#' :: rest => (skipComment rest).bind (skipNothing spaced fuel)
    | c :: rest =>
      if spaced && c == '#' then skipNothing spaced fuel ((rest.dropWhile (· ≠ '\n')).drop 1)
      else if spaced && [' ', '\r', '\n', '\t'].contains c then skipNothing spaced fuel rest
      else some cs
    | [] => some []

/-- Leave out what counts for nothing. -/
def gap : Reader Unit := do
  let s ← get
  goOnWith (← skipNothing s.mode.spaced s.rest.length s.rest)

/-- Read one character if it comes next. -/
def accept (c : Char) : Reader Bool := do
  match ← rest with
  | d :: cs => if c = d then goOnWith cs; return true else return false
  | [] => return false

/-- Read the parenthesis that closes a group. -/
def close : Reader Unit := do
  gap
  require (← accept ')')

/-! ### Numbers and names -/

/-- The number at the start of a text, of at most 64 bits. -/
def readNumber? (cs : List Char) : Option (Nat × List Char) :=
  let digits := cs.takeWhile Char.isDigit
  if digits.isEmpty ∨ Grammar.decimal digits ≥ 0x10000000000000000 then none
  else some (Grammar.decimal digits, cs.drop digits.length)

/-- Whether a character may stand in a name. -/
def isNameChar (c : Char) : Bool :=
  if c.toNat < 128 then c.isAlphanum || c == '_'
  else (Property.letterSet ()).has c || (Property.numberSet ()).has c

/-- A name up to the sign that closes it. -/
def readName? (closing : Char) (cs : List Char) : Option (List Char × List Char) :=
  let name := cs.takeWhile isNameChar
  match cs.drop name.length with
  | c :: rest => if name.isEmpty ∨ c ≠ closing then none else some (name, rest)
  | [] => none

/-- Refer to a group, which must have been entered. -/
def referTo (index : Nat) : Reader Nat := do
  require (index < (← get).groups)
  modify fun s => { s with referred := index :: s.referred }
  return index

/-- Read the number of a group. -/
def readGroupNumber : Reader Nat := do
  let index ← taking (readNumber? (← rest))
  require (index < (← get).bound)
  modify fun s => { s with numbered := true }
  referTo index

/-- Read the name of a group up to the closing sign; a name that no group has is a number. -/
def readGroupName (closing : Char) : Reader Nat := do
  let name ← taking (readName? closing (← rest))
  match (← get).names.lookup name with
  | some index => referTo index
  | none =>
    match readNumber? name with
    | some (index, []) => referTo index
    | _ => failure

/-- Read the name of a group between angle brackets or quotes. -/
def readQuotedGroupName : Reader Nat := do
  if ← accept '\'' then readGroupName '\''
  else
    require (← accept '<')
    readGroupName '>'

/-- Enter a group. -/
def enter (name : Option (List Char)) : Reader Nat := do
  let index := (← get).groups
  modify fun s =>
    { s with groups := index + 1, names := (name.map fun n => (n, index)).toList ++ s.names }
  return index

/-! ### Escapes -/

/-- What a backslash and the signs after it stand for. -/
inductive Code where
  | literal (c : Char)
  /-- A set of characters, as it is written in brackets. -/
  | set (text : List Char)
  | term (t : Term)

/-- The hexadecimal digits of a character: as many as told, or up to eight in braces. -/
def readHex? (count : Nat) (cs : List Char) : Option (Char × List Char) :=
  let isHex := fun c => (hexValue? c).isSome
  let charOfDigits? := fun (digits : List Char) =>
    charOf? (digits.foldl (fun n c => 16 * n + (hexValue? c).getD 0) 0)
  let plain := cs.take count
  if plain.length = count ∧ plain.all isHex then (charOfDigits? plain).map fun c => (c, cs.drop count)
  else
    match cs with
    | '\x7b' :: cs =>
      let digits := cs.takeWhile isHex
      match cs.drop digits.length with
      | '\x7d' :: rest =>
        if digits.isEmpty ∨ digits.length > 8 then none else (charOfDigits? digits).map fun c => (c, rest)
      | _ => none
    | _ => none

/-- The name of a property as it is written: one character, or up to the closing brace. -/
def readProperty? (cs : List Char) : Option (List Char × List Char) :=
  match cs with
  | '\x7b' :: rest =>
    let name := rest.takeWhile (· ≠ '\x7d')
    match rest.drop name.length with
    | _ :: after => some ('\x7b' :: name ++ ['\x7d'], after)
    | [] => none
  | c :: rest => some ([c], rest)
  | [] => none

/-- The end of the text, or line feeds at the end ahead. -/
def beforeLastLines : Term :=
  .look true true (.seq [.times (.one (.single '\n')) 0 none true, .place .finish])

/-- The place that a letter or a sign after a backslash tells outside of brackets. -/
def placeOf? (c : Char) : Option Term :=
  match c with
  | 'A' => some (.place .start)
  | 'z' => some (.place .finish)
  | 'Z' => some beforeLastLines
  | 'b' => some (.place .wordEdge)
  | 'B' => some (.place .noEdge)
  | '<' => some (.place .wordStart)
  | '>' => some (.place .wordEnd)
  | 'K' => some .cut
  | 'G' => some .origin
  | _ => none

/-- The character that an escaped one stands for. Letters without a meaning are bad, but for those that have
one outside of brackets only. -/
def literalOf? (c : Char) : Option Char :=
  match c with
  | 'a' => some '\x07'
  | 'b' => some '\x08'
  | 'e' => some '\x1b'
  | c =>
    match letterEscape? c with
    | some l => some l
    | none => if c.isAlpha ∧ !(['k', 'A', 'z', 'B', 'K', 'G'].contains c) then none else some c

/-- Read what a backslash and the signs after it stand for; the backslash has been read. -/
def readCode (inBrackets : Bool) : Reader Code := do
  match ← rest with
  | [] => failure
  | c :: cs =>
    if c.isDigit then return .term (.again (← readGroupNumber))
    else
      goOnWith cs
      if c = 'k' ∧ !inBrackets then return .term (.again (← readQuotedGroupName))
      else if !inBrackets ∧ (placeOf? c).isSome then
        require !(c = 'b' ∧ cs.head? = some '\x7b')
        return .term ((placeOf? c).getD .empty)
      else if ['d', 's', 'w'].contains c.toLower then return .set ['\\', c]
      else if c = 'h' then return .set "[0-9A-Fa-f]".toList
      else if c = 'H' then return .set "[^0-9A-Fa-f]".toList
      else if c = 'x' then return .literal (← taking (readHex? 2 cs))
      else if c = 'u' then return .literal (← taking (readHex? 4 cs))
      else if c = 'U' then return .literal (← taking (readHex? 8 cs))
      else if c = 'p' ∨ c = 'P' then return .set ('\\' :: c :: (← taking (readProperty? cs)))
      else return .literal (← literalOf? c)

/-! ### Sets -/

/-- The characters with a meaning of their own. -/
def isMeaningful (c : Char) : Bool := "\\.+*?()|[]\x7b\x7d^$#&-~".toList.contains c

/-- Write a character so that it stands for itself. -/
def quoted (c : Char) : List Char := if isMeaningful c then ['\\', c] else [c]

/-- Read brackets up to the closing one, and write them with plain escapes; `depth` brackets are open. -/
def readBrackets : Nat → Nat → Reader (List Char)
  | 0, _ => failure
  | fuel + 1, depth => do
    match ← rest with
    | [] => failure
    | '\\' :: cs => do
      goOnWith cs
      let text ← match ← readCode true with
        | .literal c => pure (quoted c)
        | .set text => pure text
        | .term _ => failure
      return text ++ (← readBrackets fuel depth)
    | '[' :: cs => do
      goOnWith cs
      return '[' :: (← readBrackets fuel (depth + 1))
    | ']' :: cs => do
      goOnWith cs
      if depth = 0 then return [']'] else return ']' :: (← readBrackets fuel (depth - 1))
    | c :: cs => do
      goOnWith cs
      return c :: (← readBrackets fuel depth)

/-- Read the signs at the start of brackets that close nothing: a circumflex and a bracket. -/
def readFirstSigns : Reader (List Char) := do
  let negation ← accept '^'
  let bracket ← accept ']'
  return (if negation then ['^'] else []) ++ if bracket then [']'] else []

/-- The term of a set that brackets write; the opening one has been read. -/
def termOfSet (text : List Char) : Reader Term := do
  let s ← get
  match readBracket false text with
  | .ok (item, []) => return .one (← item.set? s.alphabet s.mode.fold)
  | _ => failure

/-- Read a set in brackets; the opening one has been read. -/
def readSet : Reader Term := do
  let first ← readFirstSigns
  let text ← readBrackets ((← rest).length + 1) 0
  termOfSet (first ++ text)

/-- The term of a character. -/
def termOfChar (c : Char) : Reader Term := do
  return .one ((CharSet.single c).foldedIf (← get).mode.fold)

/-- Read an escape outside of brackets; the backslash has been read. -/
def readEscaped : Reader Term := do
  match ← readCode false with
  | .literal c => termOfChar c
  | .set text => termOfSet (text ++ [']'])
  | .term t => return t

/-! ### Repetition -/

/-- The bounds of a repetition in braces, if it is written well; `cs` follows the opening one. -/
def readBounds? (spaced : Bool) (cs : List Char) : Option ((Nat × Option Nat) × List Char) := do
  let skip := fun (cs : List Char) => skipNothing spaced cs.length cs
  let cs ← skip cs
  let (low, cs) ← if cs.head? = some ',' then some (0, cs) else readNumber? cs
  match ← skip cs with
  | '\x7d' :: rest => some ((low, some low), rest)
  | ',' :: rest =>
    let cs ← skip rest
    let (high, cs) := match readNumber? cs with
      | some (high, cs) => (some high, cs)
      | none => (none, cs)
    match ← skip cs with
    | '\x7d' :: rest => some ((low, high), rest)
    | _ => none
  | _ => none

/-- Read the bounds of a repetition, if one follows. -/
def readBounds : Reader (Option (Nat × Option Nat)) := do
  let s ← get
  let found := match s.rest with
    | '?' :: cs => some ((0, some 1), cs)
    | '*' :: cs => some ((0, none), cs)
    | '+' :: cs => some ((1, none), cs)
    | '\x7b' :: cs => readBounds? s.mode.spaced cs
    | _ => none
  match found with
  | some (bounds, cs) => goOnWith cs; return some bounds
  | none => return none

/-- Read a repetition of a term, if one follows. -/
def readRepetition (t : Term) : Reader Term := do
  gap
  match ← readBounds with
  | none => return t
  | some (low, high) =>
    require t.isRepeatable
    gap
    let isLazy ← accept '?'
    let t := Term.times t low high (isLazy == (← get).mode.swap)
    return if ← accept '+' then .once t else t

/-! ### Flags -/

/-- Turn a flag on or off, if there is such a flag. -/
def turn? (c : Char) (on : Bool) (m : Mode) : Option Mode :=
  match c with
  | 'i' => some { m with fold := on }
  | 'm' => some { m with lines := on }
  | 's' => some { m with dotAll := on }
  | 'U' => some { m with swap := on }
  | 'x' => some { m with spaced := on }
  | 'u' => if on then some m else none
  | _ => none

/-- Read flags; true if a pattern follows to which alone they apply. `read` tells how many characters have
been read, and `on` whether flags are turned on. -/
def readFlags : Nat → Bool → Bool → Reader Bool
  | 0, _, _ => failure
  | fuel + 1, isFirst, on => do
    gap
    match ← rest with
    | [] => failure
    | c :: cs =>
      goOnWith cs
      if c = ')' then
        require !isFirst
        return false
      else if c = ':' then return true
      else if c = '-' then
        require on
        if isFirst then
          gap
          require !((← rest).head?.any fun c => c == ')' || c == ':')
        readFlags fuel false false
      else
        let mode ← turn? c on (← get).mode
        modify fun s => { s with mode := mode }
        readFlags fuel false on

/-! ### Groups -/

/-- How a group starts. -/
inductive Opening where
  | look (ahead expected : Bool)
  | once
  | named (closing : Char)
  | reference
  | condition
  | flags
  | plain

/-- Read how a group starts; the parenthesis has been read. -/
def readOpening : Reader Opening := do
  gap
  let (opening, cs) := match ← rest with
    | '?' :: '=' :: cs => (Opening.look true true, cs)
    | '?' :: '!' :: cs => (.look true false, cs)
    | '?' :: '<' :: '=' :: cs => (.look false true, cs)
    | '?' :: '<' :: '!' :: cs => (.look false false, cs)
    | '?' :: '<' :: cs => (.named '>', cs)
    | '?' :: '\'' :: cs => (.named '\'', cs)
    | '?' :: 'P' :: '<' :: cs => (.named '>', cs)
    | '?' :: 'P' :: '=' :: cs => (.reference, cs)
    | '?' :: '>' :: cs => (.once, cs)
    | '?' :: '(' :: cs => (.condition, cs)
    | '?' :: cs => (.flags, cs)
    | cs => (.plain, cs)
  goOnWith cs
  return opening

/-- What a condition chooses: `yes` or, after a bar, `no`. -/
def choiceOf (condition : Term) (branches : Term) : Term :=
  let (yes, no) := match branches with
    | .alt [yes, no] => (yes, no)
    | .alt (yes :: others) => (yes, .alt others)
    | t => (t, .empty)
  if yes.isEmpty && no.isEmpty then condition else .choice condition yes no

/-- The deepest that groups may stand in each other. -/
def deepest : Nat := 64

mutual

/-- Read alternatives. -/
def readChoice : Nat → Nat → Reader Term
  | 0, _ => failure
  | fuel + 1, depth => do
    let first ← readBranch fuel depth []
    gap
    let others ← readOthers fuel depth
    if others.isEmpty then
      let s ← get
      require !(s.numbered && !s.names.isEmpty)
      return first
    else return .alt (first :: others)

/-- Read the alternatives after bars. -/
def readOthers : Nat → Nat → Reader (List Term)
  | 0, _ => failure
  | fuel + 1, depth => do
    if ← accept '|' then
      let t ← readBranch fuel depth []
      gap
      return t :: (← readOthers fuel depth)
    else return []

/-- Read the parts of an alternative; `parts` are those before, the last first. -/
def readBranch : Nat → Nat → List Term → Reader Term
  | 0, _, _ => failure
  | fuel + 1, depth, parts => do
    let before ← rest
    if before.isEmpty then return .ofParts parts.reverse
    else
      let t ← readRepetition (← readAtom fuel depth)
      if (← rest).length = before.length then return .ofParts parts.reverse
      else readBranch fuel depth (if t.isEmpty then parts else t :: parts)

/-- Read one part without its repetition. -/
def readAtom : Nat → Nat → Reader Term
  | 0, _ => failure
  | fuel + 1, depth => do
    gap
    let mode := (← get).mode
    match ← rest with
    | [] => return .empty
    | c :: cs =>
      if ['+', '*', '?', '|', ')'].contains c then return .empty
      else
        goOnWith cs
        match c with
        | '.' => return .one (if mode.dotAll then .all else (CharSet.single '\n').complement)
        | '^' => return .place (if mode.lines then .lineStart else .start)
        | '$' => return .place (if mode.lines then .lineEnd else .finish)
        | '(' => if depth + 1 < deepest then readGroup fuel (depth + 1) else failure
        | '\\' => readEscaped
        | '[' => readSet
        | c => termOfChar c

/-- Read a group; the opening parenthesis has been read. -/
def readGroup : Nat → Nat → Reader Term
  | 0, _ => failure
  | fuel + 1, depth => do
    match ← readOpening with
    | .look ahead expected => do
      let t ← readChoice fuel depth
      close
      return .look ahead expected t
    | .once => do
      let t ← readChoice fuel depth
      close
      return .once t
    | .named closing => do
      let index ← enter (← taking (readName? closing (← rest)))
      let t ← readChoice fuel depth
      close
      return .group index t
    | .reference => return .again (← readGroupName ')')
    | .condition => readCondition fuel depth
    | .flags => do
      let mode := (← get).mode
      if ← readFlags ((← rest).length + 1) true true then
        let t ← readChoice fuel depth
        require (← accept ')')
        modify fun s => { s with mode := mode }
        return t
      else return .empty
    | .plain => do
      let index ← enter none
      let t ← readChoice fuel depth
      close
      return .group index t

/-- Read a condition and what it chooses; both parentheses have been read. -/
def readCondition : Nat → Nat → Reader Term
  | 0, _ => failure
  | fuel + 1, depth => do
    let condition ← match ← rest with
      | [] => failure
      | c :: _ =>
        if c.isDigit then pure (.entered (← readGroupNumber))
        else if c = '\'' ∨ c = '<' then pure (.entered (← readQuotedGroupName))
        else do
          match ← readChoice fuel depth with
          | .again index => pure (.entered index)
          | t => pure t
    close
    let before ← rest
    let branches ← readChoice fuel depth
    let isAlone := (← rest).length = before.length
    require (!isAlone || match condition with
      | .entered _ => true
      | _ => false)
    close
    return if isAlone then condition else choiceOf condition branches

end

end Reader

/-- The pattern that a text writes, and the groups to which something in it refers. -/
def Term.read? (alphabet : Alphabet) (cs : List Char) : Option (Term × List Nat) :=
  let bytes := (String.ofList cs).utf8ByteSize
  let start : Reading :=
    { rest := cs, mode := ⟨false, false, false, false, false⟩, alphabet, bound := bytes / 2, groups := 1,
      names := [], numbered := false, referred := [] }
  match (Reader.readChoice (8 * cs.length + 8) 0).run start with
  | some (t, s) => if s.rest.isEmpty then some (t, s.referred) else none
  | none => none

end TraitWeave.Pattern
