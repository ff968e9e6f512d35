import TraitWeave.Yaml.Cursor

/-!
# Writing block style

A pen writes text line by line. It knows the column it is at, whether a blank was written last, and whether
the line holds nothing but indentation and the marks of items so far.

* `Pen.put`, `Pen.endLine`: characters and line ends.
* `Pen.mark`: a mark such as a dash or a colon.
* `Pen.indentTo`: a new line at a column, unless the line is still fresh.
-/

namespace TraitWeave.Yaml

/-- Where writing stands. -/
structure Pen where
  /-- What was written, the last character first. -/
  written : List Char
  column : Nat
  /-- A blank, or nothing, was written last. -/
  spaced : Bool
  /-- The line holds nothing but indentation and marks of items. -/
  fresh : Bool

namespace Pen

/-- Nothing was written. -/
def start : Pen := ⟨[], 0, true, true⟩

/-- What was written. -/
def text (p : Pen) : String := String.ofList p.written.reverse

/-- A character. -/
def put (p : Pen) (c : Char) : Pen := { p with written := c :: p.written, column := p.column + 1 }

/-- Several characters. -/
def putAll (p : Pen) (cs : List Char) : Pen := cs.foldl put p

/-- The character that ends a line. -/
def breakWith (p : Pen) (c : Char) : Pen := { p with written := c :: p.written, column := 0 }

/-- The end of a line. -/
def endLine (p : Pen) : Pen := p.breakWith '\n'

/-- The pen after a word: no blank was written last, and the line is not fresh. -/
def afterWord (p : Pen) : Pen := { p with spaced := false, fresh := false }

/-- A space unless a blank was written last. -/
def space (p : Pen) : Pen := if p.spaced then p else p.put ' '

/-- A mark. One that indents keeps a fresh line fresh. -/
def mark (p : Pen) (cs : List Char) (indents : Bool) : Pen :=
  { p.putAll cs with spaced := false, fresh := p.fresh && indents }

/-- A new line unless the line is fresh and short enough, then spaces up to the column. -/
def indentTo (p : Pen) (column : Nat) : Pen :=
  let ends := !p.fresh || column < p.column || (p.column == column && !p.spaced)
  let p := if ends then p.endLine else p
  { p.putAll (List.replicate (column - p.column) ' ') with spaced := true, fresh := true }

end Pen

end TraitWeave.Yaml
