import TraitWeave.Yaml.Cursor

/-!
# Reading scalars

A scalar is written plain, between quotes, or as a block below an indicator. Line breaks inside are
folded: one break between two lines becomes a space, of several the first is dropped. Only a literal
block keeps them all.

* `scanPlain`, `scanQuoted`, `scanBlock`: the three kinds, from their first character on.
-/

namespace TraitWeave.Yaml

/-- What lies between two pieces of a scalar: blanks within a line, or line breaks. -/
structure Gap where
  /-- A line break was passed. -/
  broken : Bool
  blanks : List Char
  first : List Char
  others : List Char

/-- No gap. -/
def Gap.absent : Gap := ⟨false, [], [], []⟩

/-- The text a gap leaves in a folded scalar. -/
def Gap.folded (g : Gap) : List Char :=
  if g.broken then
    if g.first = ['\n'] then (if g.others.isEmpty then [' '] else g.others)
    else g.first ++ g.others
  else g.blanks

/-- Pass one blank or line break; blanks at the start of a line are dropped. -/
def Gap.pass (g : Gap) (c : Cursor) : Gap × Cursor :=
  match c.peek with
  | none => (g, c)
  | some x =>
    if isBlank x then
      (if g.broken then g else { g with blanks := g.blanks ++ [x] }, c.step)
    else if g.broken then ({ g with others := g.others ++ c.lineBreak }, c.stepLine)
    else ({ g with broken := true, blanks := [], first := c.lineBreak }, c.stepLine)

/-- A blank or line break comes next. -/
def Cursor.atGap (c : Cursor) : Bool := c.seesWhere fun x => isBlank x || isBreak x

/-! ### Plain scalars -/

/-- A colon in a flow collection that one of these follows is refused. -/
def isFlowMark (x : Char) : Bool :=
  x = ',' || x = '?' || x = '[' || x = ']' || x = '\x7b' || x = '\x7d'

/-- The next character ends a plain scalar. -/
def endsPlain (flow : Bool) (c : Cursor) : Bool :=
  match c.peek with
  | none => true
  | some x => (x = ':' && c.gapAt 1) || (flow && isFlowMark x && x != '?')

/-- The characters of a plain scalar up to the next gap; tells whether an indicator ended it. -/
def plainRun (flow : Bool) (start : Mark) (acc : List Char) (c : Cursor) :
    Nat → Except Fault (List Char × Bool × Cursor)
  | 0 => .ok (acc, true, c)
  | fuel + 1 =>
    if c.gapAt 0 then .ok (acc, false, c)
    else if flow && c.sees ':' && (c.peekAt 1).any isFlowMark then
      .error (.within "while scanning a plain scalar" start "found unexpected ':'" c.mark)
    else if endsPlain flow c then .ok (acc, true, c)
    else
      match c.peek with
      | none => .ok (acc, true, c)
      | some x => plainRun flow start (acc ++ [x]) c.step fuel

/-- Pass the gap inside a plain scalar. A tab may not stand where indentation is expected. -/
def plainGap (indent : Nat) (start : Mark) (g : Gap) (c : Cursor) : Nat → Except Fault (Gap × Cursor)
  | 0 => .ok (g, c)
  | fuel + 1 =>
    if !c.atGap then .ok (g, c)
    else if g.broken && c.mark.column < indent && c.sees '\t' then
      .error (.within "while scanning a plain scalar" start
        "found a tab character that violates indentation" c.mark)
    else
      let (g, c) := g.pass c
      plainGap indent start g c fuel

/-- A plain scalar as read: its text, its end, whether a line break was passed last, and the cursor. -/
structure PlainScalar where
  text : List Char
  stop : Mark
  broken : Bool
  cursor : Cursor

/-- The pieces of a plain scalar. `indent` is the least column of a continuation line. -/
def plainPieces (flow : Bool) (indent : Nat) (start : Mark) (sofar : PlainScalar) (g : Gap) :
    Nat → Except Fault PlainScalar
  | 0 => .ok sofar
  | fuel + 1 =>
    let c := sofar.cursor
    if c.atDocumentIndicator || c.sees '#' then .ok sofar
    else
      match plainRun flow start [] c (c.rest.length + 1) with
      | .error e => .error e
      | .ok (piece, ended, c') =>
        let sofar :=
          if piece.isEmpty then sofar
          else ⟨sofar.text ++ g.folded ++ piece, c'.mark, false, c'⟩
        let g := if piece.isEmpty then g else Gap.absent
        if ended || !c'.atGap then .ok { sofar with cursor := c' }
        else
          match plainGap indent start g c' (c'.rest.length + 1) with
          | .error e => .error e
          | .ok (g, c) =>
            let sofar := { sofar with broken := g.broken, cursor := c }
            if !flow && c.mark.column < indent then .ok sofar
            else plainPieces flow indent start sofar g fuel

/-- A plain scalar. `indent` is the column that its continuation lines must reach. -/
def scanPlain (flow : Bool) (indent : Nat) (c : Cursor) : Except Fault PlainScalar :=
  plainPieces flow indent c.mark ⟨[], c.mark, false, c⟩ Gap.absent (c.rest.length + 1)

/-! ### Quoted scalars -/

/-- What a one-letter escape stands for. -/
def escapeFor? : Char → Option Char
  | '0' => some '\x00'
  | 'a' => some '\x07'
  | 'b' => some '\x08'
  | 't' => some '\t'
  | '\t' => some '\t'
  | 'n' => some '\n'
  | 'v' => some '\x0b'
  | 'f' => some '\x0c'
  | 'r' => some '\r'
  | 'e' => some '\x1b'
  | ' ' => some ' '
  | '"' => some '"'
  | '/' => some '/'
  | '\\' => some '\\'
  | 'N' => some '\u0085'
  | '_' => some '\u00a0'
  | 'L' => some '\u2028'
  | 'P' => some '\u2029'
  | _ => none

/-- How many hexadecimal digits follow an escape letter. -/
def escapeLength? : Char → Option Nat
  | 'x' => some 2
  | 'u' => some 4
  | 'U' => some 8
  | _ => none

/-- The value of a hexadecimal digit. -/
def hexDigit? (c : Char) : Option Nat :=
  if '0' ≤ c ∧ c ≤ '9' then some (c.toNat - 48)
  else if 'a' ≤ c ∧ c ≤ 'f' then some (c.toNat - 87)
  else if 'A' ≤ c ∧ c ≤ 'F' then some (c.toNat - 55)
  else none

/-- The number that `n` hexadecimal digits write. -/
def hexNumber? (cs : List Char) (n : Nat) : Option Nat :=
  if cs.length < n then none
  else (cs.take n).foldl (fun acc c => acc.bind fun a => (hexDigit? c).map (a * 16 + ·)) (some 0)

/-- The escape at the cursor, which stands on its backslash. -/
def scanEscape (start : Mark) (c : Cursor) : Scan Char :=
  let fail (problem : String) (mark : Mark) : Scan Char :=
    .error (.within "while parsing a quoted scalar" start problem mark)
  match c.peekAt 1 with
  | none => fail "found unknown escape character" c.mark
  | some x =>
    match escapeFor? x, escapeLength? x with
    | some y, _ => .ok (y, c.steps 2)
    | none, none => fail "found unknown escape character" c.mark
    | none, some n =>
      let c := c.steps 2
      match hexNumber? c.rest n with
      | none => fail "did not find expected hexadecimal number" c.mark
      | some v =>
        if (0xd800 ≤ v && v ≤ 0xdfff) || 0x10ffff < v then
          fail "found invalid Unicode character escape code" c.mark
        else .ok (Char.ofNat v, c.steps n)

/-- The characters of a quoted scalar up to the next gap or quote. An escaped line break ends the run
and counts as a break that leaves nothing. -/
def quotedRun (single : Bool) (start : Mark) (acc : List Char) (c : Cursor) :
    Nat → Except Fault (List Char × Bool × Cursor)
  | 0 => .ok (acc, false, c)
  | fuel + 1 =>
    if c.gapAt 0 then .ok (acc, false, c)
    else
      match c.rest with
      | [] => .ok (acc, false, c)
      | x :: r =>
        if single && x == '\'' && r.head? == some '\'' then
          quotedRun single start (acc ++ ['\'']) (c.steps 2) fuel
        else if x == (if single then '\'' else '"') then .ok (acc, false, c)
        else if !single && x == '\\' && r.head?.any isBreak then .ok (acc, true, c.step.stepLine)
        else if !single && x == '\\' then
          match scanEscape start c with
          | .error e => .error e
          | .ok (y, c) => quotedRun single start (acc ++ [y]) c fuel
        else quotedRun single start (acc ++ [x]) c.step fuel

/-- Pass a gap. -/
def passGap (g : Gap) (c : Cursor) : Nat → Gap × Cursor
  | 0 => (g, c)
  | fuel + 1 =>
    if !c.atGap then (g, c)
    else
      let (g, c) := g.pass c
      passGap g c fuel

/-- The pieces of a quoted scalar, after its opening quote. -/
def quotedPieces (single : Bool) (start : Mark) (acc : List Char) (c : Cursor) :
    Nat → Scan (List Char)
  | 0 => .ok (acc, c)
  | fuel + 1 =>
    let fail (problem : String) : Scan (List Char) :=
      .error (.within "while scanning a quoted scalar" start problem c.mark)
    if c.atDocumentIndicator then fail "found unexpected document indicator"
    else if c.atEnd then fail "found unexpected end of stream"
    else
      match quotedRun single start [] c (c.rest.length + 1) with
      | .error e => .error e
      | .ok (piece, escaped, c) =>
        let acc := acc ++ piece
        if c.sees (if single then '\'' else '"') then .ok (acc, c.step)
        else
          let (g, c) := passGap { Gap.absent with broken := escaped } c (c.rest.length + 1)
          quotedPieces single start (acc ++ g.folded) c fuel

/-- A quoted scalar, from its opening quote on. -/
def scanQuoted (single : Bool) (c : Cursor) : Scan (List Char) :=
  quotedPieces single c.mark [] c.step (c.rest.length + 2)

/-! ### Block scalars -/

/-- Whether a block keeps the breaks at its end: all, one, or none. -/
inductive Chomping where
  | keep
  | clip
  | strip
  deriving DecidableEq

/-- The blank lines and indentation before the next line of a block. -/
structure Margin where
  breaks : List Char
  widest : Nat
  stop : Mark
  cursor : Cursor

/-- Pass indentation and blank lines; `indent` is none while it is not known. -/
def scanMargin (indent : Option Nat) (start : Mark) (m : Margin) : Nat → Except Fault Margin
  | 0 => .ok m
  | fuel + 1 =>
    let inside (c : Cursor) : Bool :=
      match indent with
      | none => true
      | some n => c.mark.column < n
    let c := m.cursor
    let spaces := (c.taking (· = ' ')).length
    let c := c.steps (match indent with
      | none => spaces
      | some n => min spaces (n - c.mark.column))
    let m := { m with cursor := c, widest := max m.widest c.mark.column }
    if inside c && c.sees '\t' then
      .error (.within "while scanning a block scalar" start
        "found a tab character where an indentation space is expected" c.mark)
    else if c.seesWhere isBreak then
      let c' := c.stepLine
      scanMargin indent start
        { m with breaks := m.breaks ++ c.lineBreak, cursor := c', stop := c'.mark } fuel
    else .ok m

/-- The lines of a block scalar so far. -/
structure BlockScalar where
  text : List Char
  /-- The break after the last line. -/
  first : List Char
  /-- The breaks after that. -/
  others : List Char
  /-- The last line began with a blank. -/
  blankLed : Bool
  stop : Mark
  cursor : Cursor

/-- The lines of a block scalar whose indentation is known. -/
def blockLines (literal : Bool) (indent : Nat) (start : Mark) (b : BlockScalar) :
    Nat → Except Fault BlockScalar
  | 0 => .ok b
  | fuel + 1 =>
    let c := b.cursor
    if c.mark.column ≠ indent || c.atEnd then .ok b
    else
      let led := c.seesWhere isBlank
      let glue :=
        if !literal && b.first == ['\n'] && !b.blankLed && !led then
          (if b.others.isEmpty then [' '] else [])
        else b.first
      let line := c.taking fun x => !isBreak x
      let c := c.toLineEnd
      let first := c.lineBreak
      let c := c.stepLine
      match scanMargin (some indent) start ⟨[], 0, c.mark, c⟩ (c.rest.length + 1) with
      | .error e => .error e
      | .ok m =>
        blockLines literal indent start
          ⟨b.text ++ glue ++ b.others ++ line, first, m.breaks, led, m.stop, m.cursor⟩ fuel

/-- The indicators after the sign of a block scalar: chomping and indentation, in either order. -/
def blockHeader (start : Mark) (c : Cursor) : Scan (Chomping × Option Nat) :=
  let chompingOf (x : Char) : Option Chomping :=
    if x = '+' then some .keep else if x = '-' then some .strip else none
  let zero (c : Cursor) : Scan (Chomping × Option Nat) :=
    .error (.within "while scanning a block scalar" start
      "found an indentation indicator equal to 0" c.mark)
  match c.peek with
  | none => .ok ((.clip, none), c)
  | some x =>
    match chompingOf x with
    | some ch =>
      let c := c.step
      match c.peek with
      | some d =>
        if !d.isDigit then .ok ((ch, none), c)
        else if d = '0' then zero c
        else .ok ((ch, some (d.toNat - 48)), c.step)
      | none => .ok ((ch, none), c)
    | none =>
      if !x.isDigit then .ok ((.clip, none), c)
      else if x = '0' then zero c
      else
        let c := c.step
        match c.peek.bind chompingOf with
        | some ch => .ok ((ch, some (x.toNat - 48)), c.step)
        | none => .ok ((.clip, some (x.toNat - 48)), c)

/-- A block scalar, from its sign on: its text, its end and the cursor. `parent` is the indentation of
the block around it. -/
def scanBlock (literal : Bool) (parent : Int) (c : Cursor) : Except Fault (List Char × Mark × Cursor) :=
  let start := c.mark
  match blockHeader start c.step with
  | .error e => .error e
  | .ok ((chomping, increment), c) =>
    let c := c.pastComment
    if !c.atLineEnd then
      .error (.within "while scanning a block scalar" start
        "did not find expected comment or line break" c.mark)
    else
      let c := c.stepLine
      let indent := increment.map fun n => if 0 ≤ parent then parent.toNat + n else n
      match scanMargin indent start ⟨[], 0, c.mark, c⟩ (c.rest.length + 1) with
      | .error e => .error e
      | .ok m =>
        let indent := indent.getD (max (max m.widest (parent + 1).toNat) 1)
        match blockLines literal indent start ⟨[], [], m.breaks, false, m.stop, m.cursor⟩
            (c.rest.length + 1) with
        | .error e => .error e
        | .ok b =>
          let tail :=
            match chomping with
            | .strip => []
            | .clip => b.first
            | .keep => b.first ++ b.others
          .ok (b.text ++ tail, b.stop, b.cursor)

end TraitWeave.Yaml
