import TraitWeave.Yaml.Token

/-!
# Walking through a text

A cursor is the rest of a text and the mark reached. Five characters break lines: carriage return and
line feed, alone or together, next line, line separator and paragraph separator.

* `Cursor.step`, `Cursor.stepLine`: one character further, one line break further.
* `isBlank`, `isBreak` and the tests built from them.
-/

namespace TraitWeave.Yaml

/-- The rest of a text and the mark in front of it. -/
structure Cursor where
  rest : List Char
  mark : Mark

/-- A space or a tab. -/
def isBlank (c : Char) : Bool := c = ' ' || c = '\t'

/-- A character that breaks lines. -/
def isBreak (c : Char) : Bool :=
  c = '\r' || c = '\n' || c = '\u0085' || c = '\u2028' || c = '\u2029'

/-- A letter, digit, hyphen or underscore of ASCII. -/
def isWordChar (c : Char) : Bool := c.isAlphanum || c = '-' || c = '_'

namespace Cursor

/-- The next character. -/
def peek (c : Cursor) : Option Char := c.rest.head?

/-- The character after `n` more. -/
def peekAt (c : Cursor) (n : Nat) : Option Char := c.rest[n]?

/-- Whether the next character is `x`. -/
def sees (c : Cursor) (x : Char) : Bool := c.peek == some x

/-- Whether the next character passes a test. -/
def seesWhere (c : Cursor) (p : Char → Bool) : Bool := c.peek.any p

/-- The end of the text comes next. -/
def atEnd (c : Cursor) : Bool := c.rest.isEmpty

/-- The end, a line break or a blank stands after `n` more characters. -/
def gapAt (c : Cursor) (n : Nat) : Bool :=
  match c.peekAt n with
  | none => true
  | some x => isBlank x || isBreak x

/-- The end or a line break comes next. -/
def atLineEnd (c : Cursor) : Bool :=
  match c.peek with
  | none => true
  | some x => isBreak x

/-- One character further on the same line. -/
def step (c : Cursor) : Cursor :=
  match c.rest with
  | [] => c
  | x :: r => ⟨r, ⟨c.mark.index + x.utf8Size, c.mark.line, c.mark.column + 1⟩⟩

/-- Several characters further on the same line. -/
def steps (c : Cursor) (n : Nat) : Cursor :=
  let bytes := (c.rest.take n).foldl (fun k x => k + x.utf8Size) 0
  ⟨c.rest.drop n, ⟨c.mark.index + bytes, c.mark.line, c.mark.column + n⟩⟩

/-- Past the line break that comes next. -/
def stepLine (c : Cursor) : Cursor :=
  match c.rest with
  | '\r' :: '\n' :: r => ⟨r, ⟨c.mark.index + 2, c.mark.line + 1, 0⟩⟩
  | x :: r => if isBreak x then ⟨r, ⟨c.mark.index + x.utf8Size, c.mark.line + 1, 0⟩⟩ else c
  | [] => c

/-- The line break that comes next, as it is kept in a scalar. -/
def lineBreak (c : Cursor) : List Char :=
  match c.rest with
  | [] => []
  | x :: _ =>
    if x = '\u2028' || x = '\u2029' then [x] else if isBreak x then ['\n'] else []

/-- The characters up to the first that fails a test. -/
def taking (c : Cursor) (p : Char → Bool) : List Char := c.rest.takeWhile p

/-- Past the characters up to the first that fails a test; the test accepts no line break. -/
def skipping (c : Cursor) (p : Char → Bool) : Cursor := c.steps (c.taking p).length

/-- To the end of the line. -/
def toLineEnd (c : Cursor) : Cursor := c.skipping fun x => !isBreak x

/-- Past blanks and a comment, up to the end of the line or the next character. -/
def pastComment (c : Cursor) : Cursor :=
  let c := c.skipping isBlank
  if c.sees '#' then c.toLineEnd else c

/-- Three equal characters at the start of a line, with a gap after them. -/
def atDocumentMark (c : Cursor) (x : Char) : Bool :=
  c.mark.column == 0 && c.sees x && c.peekAt 1 == some x && c.peekAt 2 == some x && c.gapAt 3

/-- A document start or end stands at the start of this line. -/
def atDocumentIndicator (c : Cursor) : Bool :=
  c.atDocumentMark '-' || c.atDocumentMark '.'

end Cursor

/-- A reading step: a result and the cursor after it, or a fault. -/
abbrev Scan (α : Type) := Except Fault (α × Cursor)

end TraitWeave.Yaml
