import TraitWeave.Yaml.Scalar

/-!
# From text to tokens

The lexer cuts a text into tokens. Where a mapping key is not announced by a question mark, it is known
for one only when its colon is met, so each token that could begin such a key is held back until that is
settled; the tokens for the key and for the mapping are then put in front of it.

* `Lexer`: the state between two tokens, with the held-back tokens and the possible keys.
* `tokens`: all tokens of a text up to its end or its first fault. Tokens held back when a fault is met
  are not given.
-/

namespace TraitWeave.Yaml

/-- A place where an unannounced key may have begun. -/
structure PossibleKey where
  /-- The number of the token that begins the key. -/
  number : Nat
  /-- Nothing but a key can stand here. -/
  required : Bool
  mark : Mark

/-- The state of the lexer. -/
structure Lexer where
  cursor : Cursor
  /-- The column of the block collection being read, or -1. -/
  indent : Int
  /-- The columns of the collections around it. -/
  outer : List Int
  /-- For each open flow collection, the innermost first, and for the block around them, the place where
  a key may have begun. -/
  keys : List (Option PossibleKey)
  /-- A key may begin at the cursor. -/
  keyAllowed : Bool
  /-- Tokens found and not given out. -/
  queue : List Placed
  /-- How many tokens were given out. -/
  given : Nat
  /-- The end of the stream was met. -/
  finished : Bool

namespace Lexer

/-- The state in front of the first character. -/
def start (text : List Char) : Lexer where
  cursor := ⟨text, Mark.start⟩
  indent := -1
  outer := []
  keys := [none]
  keyAllowed := true
  queue := [⟨.streamStart, Mark.start, Mark.start⟩]
  given := 0
  finished := false

/-- How many flow collections are open. -/
def flow (l : Lexer) : Nat := l.keys.length - 1

/-- Inside a flow collection. -/
def inFlow (l : Lexer) : Bool := l.flow != 0

/-- The mark of the cursor. -/
def mark (l : Lexer) : Mark := l.cursor.mark

/-- Add a token. -/
def push (l : Lexer) (token : Token) (start stop : Mark) : Lexer :=
  { l with queue := l.queue ++ [⟨token, start, stop⟩] }

/-- Add a token in front of the one with the given number. -/
def insertAt (l : Lexer) (number : Nat) (token : Token) (mark : Mark) : Lexer :=
  { l with queue := l.queue.insertIdx (number - l.given) ⟨token, mark, mark⟩ }

/-- A fault without context at the cursor. -/
def fail {α : Type} (l : Lexer) (problem : String) : Except Fault α :=
  .error (.plain problem l.mark)

/-- The fault of a key that has no colon. -/
def unfinishedKey {α : Type} (l : Lexer) (k : PossibleKey) : Except Fault α :=
  .error (.within "while scanning a simple key" k.mark "could not find expected ':'" l.mark)

/-- A key must stand in one line and within 1024 bytes. -/
def isStale (l : Lexer) (k : PossibleKey) : Bool :=
  k.mark.line < l.mark.line || k.mark.index + 1024 < l.mark.index

/-- Give up the keys that can no longer be. -/
def dropStaleKeys (l : Lexer) : Except Fault Lexer :=
  -- the outermost collection is looked at first
  match l.keys.reverse.find? fun k => k.any fun k => l.isStale k && k.required with
  | some (some k) => l.unfinishedKey k
  | _ => .ok { l with keys := l.keys.map fun k => k.filter fun k => !l.isStale k }

/-- Give up the key that may have begun in the innermost collection. -/
def dropKey (l : Lexer) : Except Fault Lexer :=
  match l.keys with
  | some k :: rest => if k.required then l.unfinishedKey k else .ok { l with keys := none :: rest }
  | _ => .ok l

/-- Note that a key may begin at the cursor. -/
def noteKey (l : Lexer) : Except Fault Lexer :=
  if !l.keyAllowed then .ok l
  else
    let required := !l.inFlow && l.indent == l.mark.column
    l.dropKey.map fun l =>
      { l with keys := some ⟨l.given + l.queue.length, required, l.mark⟩ :: l.keys.drop 1 }

/-- End the block collections that stand further right than `column`. -/
def unroll (l : Lexer) (column : Int) : Lexer :=
  if l.inFlow then l
  else go l l.outer.length
where
  /-- One collection after the other. -/
  go (l : Lexer) : Nat → Lexer
    | 0 => l
    | n + 1 =>
      if l.indent ≤ column then l
      else
        go { l.push .blockEnd l.mark l.mark with
          indent := l.outer.headD (-1), outer := l.outer.drop 1 } n

/-- Begin a block collection at `column` when it stands further right than the one around it; its token
goes to the end or in front of the token with the given number. -/
def roll (l : Lexer) (column : Nat) (number : Option Nat) (token : Token) (mark : Mark) : Lexer :=
  if l.inFlow || (column : Int) ≤ l.indent then l
  else
    let l := { l with outer := l.indent :: l.outer, indent := column }
    match number with
    | none => l.push token mark mark
    | some n => l.insertAt n token mark

/-- Past blanks, comments and line breaks to the next token. A byte order mark may begin a line. -/
def toNextToken (l : Lexer) : Nat → Lexer
  | 0 => l
  | fuel + 1 =>
    let c := l.cursor
    let c := if c.mark.column = 0 ∧ c.sees '\ufeff' then c.step else c
    let c := c.skipping fun x => x = ' ' || ((l.inFlow || !l.keyAllowed) && x = '\t')
    let c := if c.sees '#' then c.toLineEnd else c
    if c.seesWhere isBreak then
      toNextToken { l with cursor := c.stepLine, keyAllowed := l.keyAllowed || !l.inFlow } fuel
    else { l with cursor := c }

/-- One token of `n` characters. -/
def mark1 (l : Lexer) (token : Token) (n : Nat) : Lexer :=
  let c := l.cursor.steps n
  { l.push token l.mark c.mark with cursor := c }

/-! ### The kinds of tokens -/

/-- The end of the stream, at the start of a line. -/
def fetchStreamEnd (l : Lexer) : Except Fault Lexer :=
  let m := l.mark
  let m := if m.column ≠ 0 then ⟨m.index, m.line + 1, 0⟩ else m
  let l := { l with cursor := ⟨l.cursor.rest, m⟩ }
  (l.unroll (-1)).dropKey.map fun l =>
    { l.push .streamEnd l.mark l.mark with keyAllowed := false, finished := true }

/-- A document start or end. -/
def fetchDocumentMark (l : Lexer) (token : Token) : Except Fault Lexer :=
  (l.unroll (-1)).dropKey.map fun l => { l.mark1 token 3 with keyAllowed := false }

/-- An opening bracket. -/
def fetchFlowStart (l : Lexer) (token : Token) : Except Fault Lexer :=
  l.noteKey.map fun l => { l.mark1 token 1 with keys := none :: l.keys, keyAllowed := true }

/-- A closing bracket. -/
def fetchFlowEnd (l : Lexer) (token : Token) : Except Fault Lexer :=
  l.dropKey.map fun l =>
    { l.mark1 token 1 with
      keys := if l.inFlow then l.keys.drop 1 else l.keys, keyAllowed := false }

/-- A comma between flow entries. -/
def fetchFlowEntry (l : Lexer) : Except Fault Lexer :=
  l.dropKey.map fun l => { l.mark1 .flowEntry 1 with keyAllowed := true }

/-- The hyphen in front of a block entry. -/
def fetchBlockEntry (l : Lexer) : Except Fault Lexer :=
  if !l.inFlow && !l.keyAllowed then
    l.fail "block sequence entries are not allowed in this context"
  else
    (l.roll l.mark.column none .blockSequenceStart l.mark).dropKey.map fun l =>
      { l.mark1 .blockEntry 1 with keyAllowed := true }

/-- The question mark in front of a key. -/
def fetchKey (l : Lexer) : Except Fault Lexer :=
  if !l.inFlow && !l.keyAllowed then l.fail "mapping keys are not allowed in this context"
  else
    (l.roll l.mark.column none .blockMappingStart l.mark).dropKey.map fun l =>
      { l.mark1 .key 1 with keyAllowed := !l.inFlow }

/-- The colon in front of a value. A possible key is now known for one. -/
def fetchValue (l : Lexer) : Except Fault Lexer :=
  match l.keys with
  | some k :: rest =>
    let l := l.insertAt k.number .key k.mark
    let l := l.roll k.mark.column (some k.number) .blockMappingStart k.mark
    .ok ({ l with keys := none :: rest, keyAllowed := false }.mark1 .value 1)
  | _ =>
    if !l.inFlow && !l.keyAllowed then l.fail "mapping values are not allowed in this context"
    else
      let l := l.roll l.mark.column none .blockMappingStart l.mark
      .ok ({ l with keyAllowed := !l.inFlow }.mark1 .value 1)

/-- A character that may follow an anchor or alias. -/
def endsAnchor (c : Cursor) : Bool :=
  c.gapAt 0 || c.seesWhere fun x => ['?', ':', ',', ']', '\x7d', '%', '@', '`'].contains x

/-- An anchor or an alias. -/
def fetchAnchor (l : Lexer) (what : String) (token : String → Token) : Except Fault Lexer :=
  match l.noteKey with
  | .error e => .error e
  | .ok l =>
    let start := l.mark
    let c := l.cursor.step
    let name := c.taking isWordChar
    let c := c.steps name.length
    if name.isEmpty || !endsAnchor c then
      .error (.within what start "did not find expected alphabetic or numeric character" c.mark)
    else
      .ok { l.push (token (String.ofList name)) start c.mark with cursor := c, keyAllowed := false }

/-! ### Tags -/

/-- A character of a tag; the brackets and the comma only where any character of an address may
stand. -/
def isTagChar (full : Bool) (c : Char) : Bool :=
  isWordChar c ||
    [';', '/', '?', ':', '@', '&', '=', '+', '$', '.', '%', '!', '~', '*', '\'', '(', ')'].contains c ||
    (full && [',', '[', ']'].contains c)

/-- The length in bytes of a character whose first byte is given. -/
def leadLength (b : Nat) : Nat :=
  if b < 0x80 then 1
  else if b / 0x20 = 6 then 2
  else if b / 0x10 = 14 then 3
  else if b / 8 = 30 then 4
  else 0

/-- The character with a code, if it is one and its bytes are as few as can be. -/
def charOfCode? (code bytes : Nat) : Option Char :=
  let c := Char.ofNat code
  if c.toNat = code ∧ c.utf8Size = bytes then some c else none

/-- A character written as escaped bytes. The bytes have the right form, but the code that they spell may
be no character. -/
def scanEscapedChar (context : String) (start : Mark) (c : Cursor) : Scan (Option Char) :=
  let fail (problem : String) (c : Cursor) : Scan (Option Char) :=
    .error (.within context start problem c.mark)
  let byte (c : Cursor) : Option Nat :=
    if c.sees '%' then hexNumber? (c.rest.drop 1) 2 else none
  let rec tail (size acc : Nat) (c : Cursor) : Nat → Scan (Option Char)
    | 0 => .ok (charOfCode? acc size, c)
    | n + 1 =>
      match byte c with
      | none => fail "did not find URI escaped octet" c
      | some b =>
        if b / 64 = 2 then tail size (acc * 64 + b % 64) (c.steps 3) n
        else fail "found an incorrect trailing UTF-8 octet" c
  match byte c with
  | none => fail "did not find URI escaped octet" c
  | some b =>
    match leadLength b with
    | 0 => fail "found an incorrect leading UTF-8 octet" c
    | 1 => .ok (some (Char.ofNat b), c.steps 3)
    | n + 1 => tail (n + 1) (b % Nat.pow 2 (6 - n)) (c.steps 3) n

/-- The characters of a tag after `acc`. -/
def scanTagChars (full : Bool) (context : String) (start : Mark) (acc : List (Option Char)) (c : Cursor) :
    Nat → Scan (List (Option Char))
  | 0 => .ok (acc, c)
  | fuel + 1 =>
    match c.peek with
    | none => .ok (acc, c)
    | some x =>
      if !isTagChar full x then .ok (acc, c)
      else if x = '%' then
        match scanEscapedChar context start c with
        | .error e => .error e
        | .ok (y, c) => scanTagChars full context start (acc ++ [y]) c fuel
      else scanTagChars full context start (acc ++ [some x]) c.step fuel

/-- The suffix of a tag, where `head` was already read as a handle and turned out to be part of it. -/
def scanTagSuffix (full directive : Bool) (head : List Char) (start : Mark) (c : Cursor) :
    Scan (List (Option Char)) :=
  let context := if directive then "while parsing a %TAG directive" else "while parsing a tag"
  match scanTagChars full context start ((head.drop 1).map some) c (c.rest.length + 1) with
  | .error e => .error e
  | .ok (suffix, c') =>
    if head.isEmpty && c'.mark.index == c.mark.index then
      .error (.within context start "did not find expected tag URI" c'.mark)
    else .ok (suffix, c')

/-- A tag handle: an exclamation mark, or a word between two. -/
def scanTagHandle (directive : Bool) (start : Mark) (c : Cursor) : Scan (List Char) :=
  if !c.sees '!' then
    .error (.within (if directive then "while scanning a tag directive" else "while scanning a tag")
      start "did not find expected '!'" c.mark)
  else
    let name := c.step.taking isWordChar
    let c := c.step.steps name.length
    if c.sees '!' then .ok ('!' :: name ++ ['!'], c.step)
    else if directive && !name.isEmpty then
      .error (.within "while parsing a tag directive" start "did not find expected '!'" c.mark)
    else .ok ('!' :: name, c)

/-- The handle and suffix of a tag. -/
def scanTag (c : Cursor) : Scan (List Char × List (Option Char)) :=
  let start := c.mark
  if c.peekAt 1 == some '<' then
    match scanTagSuffix true false [] start (c.steps 2) with
    | .error e => .error e
    | .ok (suffix, c) =>
      if c.sees '>' then .ok (([], suffix), c.step)
      else .error (.within "while scanning a tag" start "did not find the expected '>'" c.mark)
  else
    match scanTagHandle false start c with
    | .error e => .error e
    | .ok (handle, c) =>
      if 1 < handle.length && handle.getLast? == some '!' then
        (scanTagSuffix false false [] start c).map fun (suffix, c) => ((handle, suffix), c)
      else
        (scanTagSuffix false false handle start c).map fun (suffix, c) =>
          (if suffix.isEmpty then ([], [some '!']) else (['!'], suffix), c)

/-- A tag. -/
def fetchTag (l : Lexer) : Except Fault Lexer :=
  match l.noteKey with
  | .error e => .error e
  | .ok l =>
    let start := l.mark
    match scanTag l.cursor with
    | .error e => .error e
    | .ok ((handle, suffix), c) =>
      if !(l.inFlow && c.sees ',') && !c.gapAt 0 then
        .error (.within "while scanning a tag" start
          "did not find expected whitespace or line break" c.mark)
      else
        .ok { l.push (.tag (String.ofList handle) (Tag.ofSpelled suffix)) start c.mark with
          cursor := c, keyAllowed := false }

/-! ### Directives -/

/-- A part of a version number: at most nine digits. -/
def scanVersionPart (start : Mark) (c : Cursor) : Scan Nat :=
  let digits := c.taking Char.isDigit
  let fail (problem : String) (c : Cursor) : Scan Nat :=
    .error (.within "while scanning a %YAML directive" start problem c.mark)
  if 9 < digits.length then fail "found extremely long version number" (c.steps 9)
  else if digits.isEmpty then fail "did not find expected version number" c
  else .ok (digits.foldl (fun n d => n * 10 + (d.toNat - 48)) 0, c.steps digits.length)

/-- The version of a document. -/
def scanVersion (start : Mark) (c : Cursor) : Scan Token :=
  match scanVersionPart start (c.skipping isBlank) with
  | .error e => .error e
  | .ok (major, c) =>
    if !c.sees '.' then
      .error (.within "while scanning a %YAML directive" start
        "did not find expected digit or '.' character" c.mark)
    else (scanVersionPart start c.step).map fun (minor, c) => (.versionDirective major minor, c)

/-- The handle and the start that a tag directive gives to it. -/
def scanTagDirective (start : Mark) (c : Cursor) : Scan Token :=
  match scanTagHandle true start (c.skipping isBlank) with
  | .error e => .error e
  | .ok (handle, c) =>
    if !c.seesWhere isBlank then
      .error (.within "while scanning a %TAG directive" start "did not find expected whitespace" c.mark)
    else
      match scanTagSuffix true true [] start (c.skipping isBlank) with
      | .error e => .error e
      | .ok (first, c) =>
        if !c.gapAt 0 then
          .error (.within "while scanning a %TAG directive" start
            "did not find expected whitespace or line break" c.mark)
        else .ok (.tagDirective (String.ofList handle) (Tag.ofSpelled first), c)

/-- A directive with the rest of its line. -/
def scanDirective (c : Cursor) : Except Fault (Placed × Cursor) :=
  let start := c.mark
  let c := c.step
  let fail {α : Type} (problem : String) (c : Cursor) : Except Fault α :=
    .error (.within "while scanning a directive" start problem c.mark)
  let name := c.taking isWordChar
  let c := c.steps name.length
  if name.isEmpty then fail "could not find expected directive name" c
  else if !c.gapAt 0 then fail "found unexpected non-alphabetical character" c
  else
    let body : Scan Token :=
      if String.ofList name = "YAML" then scanVersion start c
      else if String.ofList name = "TAG" then scanTagDirective start c
      else fail "found unknown directive name" c
    match body with
    | .error e => .error e
    | .ok (token, c) =>
      let stop := c.mark
      let c := c.pastComment
      if !c.atLineEnd then fail "did not find expected comment or line break" c
      else .ok (⟨token, start, stop⟩, c.stepLine)

/-- A directive. -/
def fetchDirective (l : Lexer) : Except Fault Lexer :=
  match (l.unroll (-1)).dropKey with
  | .error e => .error e
  | .ok l =>
    (scanDirective l.cursor).map fun (p, c) =>
      { l with queue := l.queue ++ [p], cursor := c, keyAllowed := false }

/-! ### Scalars -/

/-- A block scalar. -/
def fetchBlock (l : Lexer) (literal : Bool) : Except Fault Lexer :=
  match l.dropKey with
  | .error e => .error e
  | .ok l =>
    (scanBlock literal l.indent l.cursor).map fun (text, stop, c) =>
      { l.push (.scalar (String.ofList text) (if literal then .literal else .folded)) l.mark stop with
        cursor := c, keyAllowed := true }

/-- A quoted scalar. -/
def fetchQuoted (l : Lexer) (single : Bool) : Except Fault Lexer :=
  match l.noteKey with
  | .error e => .error e
  | .ok l =>
    (scanQuoted single l.cursor).map fun (text, c) =>
      { l.push (.scalar (String.ofList text) (if single then .singleQuoted else .doubleQuoted))
          l.mark c.mark with
        cursor := c, keyAllowed := false }

/-- A plain scalar; after a line break a key may begin. -/
def fetchPlain (l : Lexer) : Except Fault Lexer :=
  match l.noteKey with
  | .error e => .error e
  | .ok l =>
    (scanPlain l.inFlow (l.indent + 1).toNat l.cursor).map fun s =>
      { l.push (.scalar (String.ofList s.text) .plain) l.mark s.stop with
        cursor := s.cursor, keyAllowed := s.broken }

/-- A character that cannot begin a plain scalar. -/
def isIndicator (c : Char) : Bool :=
  ['-', '?', ':', ',', '[', ']', '\x7b', '\x7d', '#', '&', '*', '!', '|', '>', '\'', '"', '%', '@',
    '`'].contains c

/-- The next token or tokens. -/
def fetch (l : Lexer) : Except Fault Lexer :=
  match (l.toNextToken (l.cursor.rest.length + 1)).dropStaleKeys with
  | .error e => .error e
  | .ok l =>
    let l := l.unroll l.mark.column
    let c := l.cursor
    match c.peek with
    | none => l.fetchStreamEnd
    | some x =>
      if c.mark.column = 0 ∧ x = '%' then l.fetchDirective
      else if c.atDocumentMark '-' then l.fetchDocumentMark .documentStart
      else if c.atDocumentMark '.' then l.fetchDocumentMark .documentEnd
      else if x = '[' then l.fetchFlowStart .flowSequenceStart
      else if x = '\x7b' then l.fetchFlowStart .flowMappingStart
      else if x = ']' then l.fetchFlowEnd .flowSequenceEnd
      else if x = '\x7d' then l.fetchFlowEnd .flowMappingEnd
      else if x = ',' then l.fetchFlowEntry
      else if x = '-' ∧ c.gapAt 1 then l.fetchBlockEntry
      else if x = '?' ∧ (l.inFlow ∨ c.gapAt 1) then l.fetchKey
      else if x = ':' ∧ (l.inFlow ∨ c.gapAt 1) then l.fetchValue
      else if x = '*' then l.fetchAnchor "while scanning an alias" .aliasOf
      else if x = '&' then l.fetchAnchor "while scanning an anchor" .anchor
      else if x = '!' then l.fetchTag
      else if x = '|' ∧ !l.inFlow then l.fetchBlock true
      else if x = '>' ∧ !l.inFlow then l.fetchBlock false
      else if x = '\'' then l.fetchQuoted true
      else if x = '"' then l.fetchQuoted false
      else if (!c.gapAt 0 ∧ !isIndicator x) ∨ (x = '-' ∧ !(c.peekAt 1).any isBlank) ∨
          (!l.inFlow ∧ (x = '?' ∨ x = ':') ∧ !c.gapAt 1) then l.fetchPlain
      else
        .error (.within "while scanning for the next token" l.mark
          "found character that cannot start any token" l.mark)

/-- The first token not given out could begin a key. -/
def isHeld (l : Lexer) : Bool :=
  l.keys.any fun k => k.any fun k => k.number == l.given

/-- Give out tokens until one is held back; more is read where needed. -/
def run (l : Lexer) (acc : List Placed) : Nat → List Placed × Option Fault
  | 0 => (acc.reverse, none)
  | fuel + 1 =>
    -- keys are given up before it is decided whether the first token is held
    match if l.queue.isEmpty then .ok l else l.dropStaleKeys with
    | .error e => (acc.reverse, some e)
    | .ok l =>
      match l.queue with
      | t :: rest =>
        if !l.isHeld then run { l with queue := rest, given := l.given + 1 } (t :: acc) fuel
        else
          match l.fetch with
          | .error e => (acc.reverse, some e)
          | .ok l => run l acc fuel
      | [] =>
        if l.finished then (acc.reverse, none)
        else
          match l.fetch with
          | .error e => (acc.reverse, some e)
          | .ok l => run l acc fuel

end Lexer

/-- A character that may stand in a document. -/
def isAllowed (c : Char) : Bool :=
  c = '\t' || c = '\n' || c = '\r' || (' ' ≤ c && c ≤ '~') || c = '\u0085' ||
    ('\u00a0' ≤ c && c.toNat ≤ 0xfffd) || 0x10000 ≤ c.toNat

/-- The byte offset of the first character that may not stand in a document. -/
def forbiddenOffset? (offset : Nat) : List Char → Option Nat
  | [] => none
  | c :: cs => if isAllowed c then forbiddenOffset? (offset + c.utf8Size) cs else some offset

/-- The tokens of a text up to its end or its first fault. A character that may not stand in a document
is met before anything else. -/
def tokens (text : String) : List Placed × Option Fault :=
  match forbiddenOffset? 0 text.toList with
  | some n => ([], some ⟨"control characters are not allowed", Mark.start, n, none⟩)
  | none => (Lexer.start text.toList).run [] (8 * text.length + 16)

end TraitWeave.Yaml
