/-!
# Tokens of YAML

A document is cut into tokens, each with the marks where it starts and ends. Marks count lines, columns
and the bytes from the start of the text, all from zero.

* `Fault`: a breach of the grammar, with what was being read and where.
* `Tag`: the name of a kind, which escapes may spell.
* `Token`, `Placed`: tokens and their places.
-/

namespace TraitWeave.Yaml

/-- A place between two characters. -/
structure Mark where
  index : Nat
  line : Nat
  column : Nat
  deriving DecidableEq, Repr

/-- The start of a text. -/
def Mark.start : Mark := ⟨0, 0, 0⟩

/-- Not the start of the first line. -/
def Mark.isInside (m : Mark) : Bool := m.line != 0 || m.column != 0

/-- A mark as messages show it, counted from one. -/
def Mark.text (m : Mark) : String :=
  "line " ++ toString (m.line + 1) ++ " column " ++ toString (m.column + 1)

/-- A breach of the grammar: the problem and its place, and what was being read from where. A character
that may not occur at all has no place but its byte offset. -/
structure Fault where
  problem : String
  mark : Mark
  offset : Nat
  context : Option (String × Mark)
  deriving DecidableEq, Repr

/-- A fault at a mark. -/
def Fault.plain (problem : String) (mark : Mark) : Fault := ⟨problem, mark, 0, none⟩

/-- A fault at a mark while something is read that began at another. -/
def Fault.within (context : String) (start : Mark) (problem : String) (mark : Mark) : Fault :=
  ⟨problem, mark, 0, some (context, start)⟩

/-- The wording of a fault. Places at the very start are not shown, nor the same place twice. -/
def Fault.message (f : Fault) : String :=
  let place :=
    if f.mark.isInside then " at " ++ f.mark.text
    else if f.offset ≠ 0 then " at position " ++ toString f.offset
    else ""
  let around :=
    match f.context with
    | none => ""
    | some (what, start) =>
      let apart := start.line != f.mark.line || start.column != f.mark.column
      ", " ++ what ++ (if start.isInside && apart then " at " ++ start.text else "")
  f.problem ++ place ++ around

/-- How a scalar is written. -/
inductive Style where
  | plain
  | singleQuoted
  | doubleQuoted
  | literal
  | folded
  deriving DecidableEq, Repr

/-- A tag or a part of one. Escapes spell bytes, and bytes that make no character leave a tag that is no
text; a replacement character stands for them in it. -/
structure Tag where
  text : String
  isText : Bool
  deriving DecidableEq, Repr

namespace Tag

/-- A tag that is a text. -/
def ofText (text : String) : Tag := ⟨text, true⟩

/-- The tag that characters spell; nothing stands for bytes that make none. -/
def ofSpelled (cs : List (Option Char)) : Tag :=
  ⟨String.ofList (cs.map (·.getD '\ufffd')), cs.all Option.isSome⟩

/-- One part after the other. -/
def append (a b : Tag) : Tag := ⟨a.text ++ b.text, a.isText && b.isText⟩

/-- The tag begins with the mark of those that a document makes up for itself. -/
def isMarked (t : Tag) : Bool := t.text.toList.head? == some '!'

/-- The name behind the mark, if that is a text. -/
def ownName? (t : Tag) : Option String :=
  if t.isMarked && t.isText then some (String.ofList (t.text.toList.drop 1)) else none

end Tag

/-- A token. -/
inductive Token where
  | streamStart
  | streamEnd
  | versionDirective (major minor : Nat)
  | tagDirective (handle : String) (start : Tag)
  | documentStart
  | documentEnd
  | blockSequenceStart
  | blockMappingStart
  | blockEnd
  | flowSequenceStart
  | flowSequenceEnd
  | flowMappingStart
  | flowMappingEnd
  | blockEntry
  | flowEntry
  | key
  | value
  | aliasOf (name : String)
  | anchor (name : String)
  | tag (handle : String) (suffix : Tag)
  | scalar (text : String) (style : Style)
  deriving DecidableEq, Repr

/-- A token with its place. -/
structure Placed where
  token : Token
  start : Mark
  stop : Mark
  deriving Repr

end TraitWeave.Yaml
