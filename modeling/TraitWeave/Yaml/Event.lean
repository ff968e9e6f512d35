import TraitWeave.Yaml.Lexer

/-!
# From tokens to events

The events of a stream say where documents, sequences and mappings begin and end and which scalars and
aliases lie between. They are made one at a time: `Parser.next` takes as many tokens as the next event
needs, and what it expects is kept as a stack of goals.

* `Event`: the events; `Occurrence`: an event and the mark where it starts.
* `events`: all events of a text up to its end or its first fault.
-/

namespace TraitWeave.Yaml

/-- An event. Anchors and tags belong to the node that begins. -/
inductive Event where
  | streamStart
  | streamEnd
  | documentStart
  | documentEnd
  | aliasOf (name : String)
  | scalar (anchor : Option String) (tag : Option Tag) (text : String) (style : Style)
  | sequenceStart (anchor : Option String) (tag : Option Tag)
  | sequenceEnd
  | mappingStart (anchor : Option String) (tag : Option Tag)
  | mappingEnd
  deriving DecidableEq, Repr

/-- An event and where it starts. -/
structure Occurrence where
  event : Event
  mark : Mark
  deriving Repr

/-- What the parser expects next. -/
inductive Goal where
  | streamStart
  | implicitDocumentStart
  | documentStart
  | documentContent
  | documentEnd
  | blockNode
  | blockSequenceFirst
  | blockSequenceEntry
  | indentlessEntry
  | blockMappingFirst
  | blockMappingKey
  | blockMappingValue
  | flowSequenceFirst
  | flowSequenceEntry
  | flowPairKey
  | flowPairValue
  | flowPairEnd
  | flowMappingFirst
  | flowMappingKey
  | flowMappingValue
  | flowMappingEmptyValue
  | done
  deriving DecidableEq, Repr

/-- The state of the parser. -/
structure Parser where
  tokens : List Placed
  /-- What ends the tokens, if not the end of the stream. -/
  fault : Option Fault
  goal : Goal
  /-- What is expected after the node at hand, the innermost first. -/
  goals : List Goal
  /-- Where the open collections began, the innermost first. -/
  marks : List Mark
  /-- The tag handles of the document. -/
  handles : List (String × Tag)

namespace Parser

/-- An event and the state after it, or a fault. -/
abbrev Step := Except Fault (Occurrence × Parser)

/-- The next token. -/
def peek (p : Parser) : Except Fault Placed :=
  match p.tokens with
  | t :: _ => .ok t
  | [] => .error (p.fault.getD (.plain "unexpected end of tokens" Mark.start))

/-- Past the next token. -/
def skip (p : Parser) : Parser := { p with tokens := p.tokens.drop 1 }

/-- Expect something else next. -/
def expect (p : Parser) (g : Goal) : Parser := { p with goal := g }

/-- Expect `g` after the node at hand. -/
def later (p : Parser) (g : Goal) : Parser := { p with goals := g :: p.goals }

/-- Go on with what was expected after the node at hand. -/
def back (p : Parser) : Parser :=
  match p.goals with
  | g :: rest => { p with goal := g, goals := rest }
  | [] => { p with goal := .done }

/-- A collection begins. -/
def opened (p : Parser) (m : Mark) : Parser := { p with marks := m :: p.marks }

/-- A collection ends. -/
def closed (p : Parser) : Parser := { p with marks := p.marks.drop 1 }

/-- Give an event. -/
def give (p : Parser) (event : Event) (mark : Mark) : Step := .ok (⟨event, mark⟩, p)

/-- Give an empty scalar. -/
def giveEmpty (p : Parser) (mark : Mark) : Step := p.give (.scalar none none "" .plain) mark

/-- A fault of the innermost collection. -/
def failWithin (p : Parser) (context problem : String) (mark : Mark) : Step :=
  .error (.within context (p.marks.headD Mark.start) problem mark)

/-- The handles every document knows. -/
def knownHandles : List (String × Tag) :=
  [("!", Tag.ofText "!"), ("!!", Tag.ofText "tag:yaml.org,2002:")]

/-- The full tag for a handle and a suffix. -/
def resolveTag (p : Parser) (start tagMark : Mark) (handle : String) (suffix : Tag) : Except Fault Tag :=
  if handle.isEmpty then .ok suffix
  else
    match p.handles.find? (·.1 == handle) with
    | some (_, first) => .ok (first.append suffix)
    | none => .error (.within "while parsing a node" start "found undefined tag handle" tagMark)

/-- The anchor and tag in front of a node, in either order. -/
structure Properties where
  anchor : Option String
  tag : Option (String × Tag × Mark)
  start : Mark

/-- Take the anchor and tag in front of a node. -/
def properties (p : Parser) (first : Placed) : Except Fault (Properties × Parser) :=
  match first.token with
  | .anchor a =>
    match p.skip.peek with
    | .error e => .error e
    | .ok t =>
      match t.token with
      | .tag h s => .ok (⟨some a, some (h, s, t.start), first.start⟩, p.skip.skip)
      | _ => .ok (⟨some a, none, first.start⟩, p.skip)
  | .tag h s =>
    match p.skip.peek with
    | .error e => .error e
    | .ok t =>
      match t.token with
      | .anchor a => .ok (⟨some a, some (h, s, first.start), first.start⟩, p.skip.skip)
      | _ => .ok (⟨none, some (h, s, first.start), first.start⟩, p.skip)
  | _ => .ok (⟨none, none, first.start⟩, p)

/-- A node. `block` allows block collections, `indentless` a sequence without indentation. -/
def node (p : Parser) (block indentless : Bool) : Step :=
  match p.peek with
  | .error e => .error e
  | .ok first =>
    match first.token with
    | .aliasOf name => p.skip.back.give (.aliasOf name) first.start
    | _ =>
      match p.properties first with
      | .error e => .error e
      | .ok (props, p) =>
        let tag : Except Fault (Option Tag) :=
          match props.tag with
          | none => .ok none
          | some (h, s, tagMark) => (p.resolveTag props.start tagMark h s).map some
        match p.peek, tag with
        | .error e, _ => .error e
        | _, .error e => .error e
        | .ok t, .ok tag =>
          let seq (g : Goal) : Step := (p.expect g).give (.sequenceStart props.anchor tag) props.start
          let map (g : Goal) : Step := (p.expect g).give (.mappingStart props.anchor tag) props.start
          let other : Step :=
            if props.anchor.isSome || tag.isSome then
              p.back.give (.scalar props.anchor tag "" .plain) props.start
            else
              .error (.within
                (if block then "while parsing a block node" else "while parsing a flow node")
                props.start "did not find expected node content" t.start)
          match t.token with
          | .blockEntry => if indentless then seq .indentlessEntry else other
          | .scalar text style => p.skip.back.give (.scalar props.anchor tag text style) props.start
          | .flowSequenceStart => seq .flowSequenceFirst
          | .flowMappingStart => map .flowMappingFirst
          | .blockSequenceStart => if block then seq .blockSequenceFirst else other
          | .blockMappingStart => if block then map .blockMappingFirst else other
          | _ => other

/-- Take the directives in front of a document. -/
def directives (p : Parser) (version : Bool) (own : List (String × Tag)) :
    Nat → Except Fault (List (String × Tag) × Parser)
  | 0 => .ok (own, p)
  | fuel + 1 =>
    match p.peek with
    | .error e => .error e
    | .ok t =>
      match t.token with
      | .versionDirective major minor =>
        if version then .error (.plain "found duplicate %YAML directive" t.start)
        else if major ≠ 1 ∨ (minor ≠ 1 ∧ minor ≠ 2) then
          .error (.plain "found incompatible YAML document" t.start)
        else directives p.skip true own fuel
      | .tagDirective h s =>
        if own.any (·.1 == h) then .error (.plain "found duplicate %TAG directive" t.start)
        else directives p.skip version (own ++ [(h, s)]) fuel
      | _ => .ok (own, p)

/-- Past document ends that no document precedes. -/
def pastDocumentEnds (p : Parser) : Parser :=
  { p with tokens := p.tokens.dropWhile fun t => t.token == .documentEnd }

/-- The start of a document, or the end of the stream. -/
def document (p : Parser) (implicit : Bool) : Step :=
  let p := if implicit then p else p.pastDocumentEnds
  match p.peek with
  | .error e => .error e
  | .ok t =>
    let explicit : Step :=
      match p.directives false [] (p.tokens.length + 1) with
      | .error e => .error e
      | .ok (own, p) =>
        match p.peek with
        | .error e => .error e
        | .ok d =>
          if d.token ≠ .documentStart then
            .error (.plain "did not find expected <document start>" d.start)
          else
            let handles := own ++ knownHandles.filter fun h => !own.any (·.1 == h.1)
            ({ p.skip with handles := handles }.later .documentEnd |>.expect .documentContent).give
              .documentStart t.start
    match t.token with
    | .streamEnd => (p.skip.expect .done).give .streamEnd t.start
    | .versionDirective _ _ => explicit
    | .tagDirective _ _ => explicit
    | .documentStart => explicit
    | _ =>
      if implicit then
        ({ p with handles := knownHandles }.later .documentEnd |>.expect .blockNode).give
          .documentStart t.start
      else explicit

/-- The content of a document after its start; it may be missing. -/
def content (p : Parser) : Step :=
  match p.peek with
  | .error e => .error e
  | .ok t =>
    match t.token with
    | .versionDirective _ _ => p.back.giveEmpty t.start
    | .tagDirective _ _ => p.back.giveEmpty t.start
    | .documentStart => p.back.giveEmpty t.start
    | .documentEnd => p.back.giveEmpty t.start
    | .streamEnd => p.back.giveEmpty t.start
    | _ => p.node true false

/-- The end of a document. -/
def documentEnd (p : Parser) : Step :=
  match p.peek with
  | .error e => .error e
  | .ok t =>
    let p := if t.token = .documentEnd then p.skip else p
    ({ p with handles := [] }.expect .documentStart).give .documentEnd t.start

/-- An entry of a block sequence, or its end. -/
def blockSequence (p : Parser) : Step :=
  match p.peek with
  | .error e => .error e
  | .ok t =>
    match t.token with
    | .blockEntry =>
      match p.skip.peek with
      | .error e => .error e
      | .ok n =>
        if n.token = .blockEntry ∨ n.token = .blockEnd then
          (p.skip.expect .blockSequenceEntry).giveEmpty t.stop
        else (p.skip.later .blockSequenceEntry).node true false
    | .blockEnd => p.skip.back.closed.give .sequenceEnd t.start
    | _ =>
      p.failWithin "while parsing a block collection" "did not find expected '-' indicator" t.start

/-- An entry of a sequence without indentation, or its end. -/
def indentlessSequence (p : Parser) : Step :=
  match p.peek with
  | .error e => .error e
  | .ok t =>
    match t.token with
    | .blockEntry =>
      match p.skip.peek with
      | .error e => .error e
      | .ok n =>
        if n.token = .blockEntry ∨ n.token = .key ∨ n.token = .value ∨ n.token = .blockEnd then
          (p.skip.expect .indentlessEntry).giveEmpty t.stop
        else (p.skip.later .indentlessEntry).node true false
    | _ => p.back.give .sequenceEnd t.start

/-- What follows a key or value mark of a block mapping: a node, or nothing. -/
def blockMappingPart (p : Parser) (t : Placed) (next : Goal) : Step :=
  match p.skip.peek with
  | .error e => .error e
  | .ok n =>
    if n.token = .key ∨ n.token = .value ∨ n.token = .blockEnd then
      (p.skip.expect next).giveEmpty t.stop
    else (p.skip.later next).node true true

/-- A key of a block mapping, or its end. -/
def blockMappingKey (p : Parser) : Step :=
  match p.peek with
  | .error e => .error e
  | .ok t =>
    match t.token with
    | .key => p.blockMappingPart t .blockMappingValue
    | .blockEnd => p.skip.back.closed.give .mappingEnd t.start
    | _ => p.failWithin "while parsing a block mapping" "did not find expected key" t.start

/-- The value of a block mapping; it may be missing. -/
def blockMappingValue (p : Parser) : Step :=
  match p.peek with
  | .error e => .error e
  | .ok t =>
    match t.token with
    | .value => p.blockMappingPart t .blockMappingKey
    | _ => (p.expect .blockMappingKey).giveEmpty t.start

/-- Past the comma that must stand in front of every flow entry but the first. -/
def pastComma (p : Parser) (first : Bool) (context problem : String) : Except Fault (Placed × Parser) :=
  match p.peek with
  | .error e => .error e
  | .ok t =>
    if first then .ok (t, p)
    else if t.token = .flowEntry then p.skip.peek.map fun t => (t, p.skip)
    else .error (.within context (p.marks.headD Mark.start) problem t.start)

/-- An entry of a flow sequence, or its end. -/
def flowSequence (p : Parser) (first : Bool) : Step :=
  match p.peek with
  | .error e => .error e
  | .ok t =>
    let finish (p : Parser) (t : Placed) : Step := p.skip.back.closed.give .sequenceEnd t.start
    if t.token = .flowSequenceEnd then finish p t
    else
      match p.pastComma first "while parsing a flow sequence" "did not find expected ',' or ']'" with
      | .error e => .error e
      | .ok (t, p) =>
        match t.token with
        | .key => (p.skip.expect .flowPairKey).give (.mappingStart none none) t.start
        | .flowSequenceEnd => finish p t
        | _ => (p.later .flowSequenceEntry).node false false

/-- The key of a single pair in a flow sequence. -/
def flowPairKey (p : Parser) : Step :=
  match p.peek with
  | .error e => .error e
  | .ok t =>
    if t.token = .value ∨ t.token = .flowEntry ∨ t.token = .flowSequenceEnd then
      (p.skip.expect .flowPairValue).giveEmpty t.stop
    else (p.later .flowPairValue).node false false

/-- The value of a single pair in a flow sequence. -/
def flowPairValue (p : Parser) : Step :=
  match p.peek with
  | .error e => .error e
  | .ok t =>
    if t.token ≠ .value then (p.expect .flowPairEnd).giveEmpty t.start
    else
      match p.skip.peek with
      | .error e => .error e
      | .ok n =>
        if n.token = .flowEntry ∨ n.token = .flowSequenceEnd then
          (p.skip.expect .flowPairEnd).giveEmpty n.start
        else (p.skip.later .flowPairEnd).node false false

/-- The end of a single pair in a flow sequence. -/
def flowPairEnd (p : Parser) : Step :=
  match p.peek with
  | .error e => .error e
  | .ok t => (p.expect .flowSequenceEntry).give .mappingEnd t.start

/-- A key of a flow mapping, or its end. -/
def flowMapping (p : Parser) (first : Bool) : Step :=
  match p.peek with
  | .error e => .error e
  | .ok t =>
    let finish (p : Parser) (t : Placed) : Step := p.skip.back.closed.give .mappingEnd t.start
    if t.token = .flowMappingEnd then finish p t
    else
      match p.pastComma first "while parsing a flow mapping" "did not find expected ',' or '\x7d'" with
      | .error e => .error e
      | .ok (t, p) =>
        match t.token with
        | .key =>
          match p.skip.peek with
          | .error e => .error e
          | .ok n =>
            if n.token = .value ∨ n.token = .flowEntry ∨ n.token = .flowMappingEnd then
              (p.skip.expect .flowMappingValue).giveEmpty n.start
            else (p.skip.later .flowMappingValue).node false false
        | .flowMappingEnd => finish p t
        | _ => (p.later .flowMappingEmptyValue).node false false

/-- The value of a flow mapping; it may be missing, and is for a key without a colon. -/
def flowMappingValue (p : Parser) (empty : Bool) : Step :=
  match p.peek with
  | .error e => .error e
  | .ok t =>
    if empty ∨ t.token ≠ .value then (p.expect .flowMappingKey).giveEmpty t.start
    else
      match p.skip.peek with
      | .error e => .error e
      | .ok n =>
        if n.token = .flowEntry ∨ n.token = .flowMappingEnd then
          (p.skip.expect .flowMappingKey).giveEmpty n.start
        else (p.skip.later .flowMappingKey).node false false

/-- Begin a collection at its opening token. -/
def enter (p : Parser) (k : Parser → Step) : Step :=
  match p.peek with
  | .error e => .error e
  | .ok t => k (p.opened t.start).skip

/-- The next event; none after the end of the stream. -/
def next (p : Parser) : Option Step :=
  match p.goal with
  | .streamStart =>
    some <| match p.peek with
      | .error e => .error e
      | .ok t => (p.skip.expect .implicitDocumentStart).give .streamStart t.start
  | .implicitDocumentStart => some (p.document true)
  | .documentStart => some (p.document false)
  | .documentContent => some p.content
  | .documentEnd => some p.documentEnd
  | .blockNode => some (p.node true false)
  | .blockSequenceFirst => some (p.enter blockSequence)
  | .blockSequenceEntry => some p.blockSequence
  | .indentlessEntry => some p.indentlessSequence
  | .blockMappingFirst => some (p.enter blockMappingKey)
  | .blockMappingKey => some p.blockMappingKey
  | .blockMappingValue => some p.blockMappingValue
  | .flowSequenceFirst => some (p.enter (·.flowSequence true))
  | .flowSequenceEntry => some (p.flowSequence false)
  | .flowPairKey => some p.flowPairKey
  | .flowPairValue => some p.flowPairValue
  | .flowPairEnd => some p.flowPairEnd
  | .flowMappingFirst => some (p.enter (·.flowMapping true))
  | .flowMappingKey => some (p.flowMapping false)
  | .flowMappingValue => some (p.flowMappingValue false)
  | .flowMappingEmptyValue => some (p.flowMappingValue true)
  | .done => none

/-- All events from here on. -/
def run (p : Parser) (acc : List Occurrence) : Nat → List Occurrence × Option Fault
  | 0 => (acc.reverse, none)
  | fuel + 1 =>
    match p.next with
    | none => (acc.reverse, none)
    | some (.error e) => (acc.reverse, some e)
    | some (.ok (o, p)) => run p (o :: acc) fuel

end Parser

/-- The events of a text up to its end or its first fault. -/
def events (text : String) : List Occurrence × Option Fault :=
  let (ts, fault) := tokens text
  let p : Parser := ⟨ts, fault, .streamStart, [], [], []⟩
  p.run [] (4 * ts.length + 16)

end TraitWeave.Yaml
