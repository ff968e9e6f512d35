import TraitWeave.Json.Basic
import TraitWeave.Yaml.Pen
import TraitWeave.Yaml.Plain
import TraitWeave.Yaml.Token

/-!
# Writing YAML

Values are written in block style: an item or member a line, two columns deeper for each level, items of a
member at the column of the member. A text is written plain where it reads back as itself.

* `TextShape`: what stands in the way of each way to write a text.
* `styleOf`: the way in which a text is written.
* `Yaml.print`: the written form of a value.
-/

namespace TraitWeave.Yaml

/-- What matters of a text for the way in which it can be written. -/
structure TextShape where
  /-- There are line breaks. -/
  multiline : Bool
  /-- It may stand without quotes. -/
  plain : Bool
  /-- It may stand in single quotes. -/
  single : Bool
  /-- It may stand as a block of lines. -/
  block : Bool
  deriving DecidableEq, Repr

namespace TextShape

/-- A character that is written as it is. -/
def isPrintable (c : Char) : Bool :=
  c = '\n' || (0x20 ≤ c.val && c.val ≤ 0x7e) || (0xa0 ≤ c.val && c.val ≤ 0xd7ff) ||
    (0xe000 ≤ c.val && c.val ≤ 0xfffd && c.val != 0xfeff) || 0x10000 ≤ c.val

/-- Nothing, a blank, a line break or a null character. -/
def endsWord : Option Char → Bool
  | none => true
  | some c => isBlank c || isBreak c || c = '\x00'

/-- A character that begins something else than a plain text. -/
def opens (c : Char) : Bool := "#,[]\x7b\x7d&*!|>'\"%@`".toList.contains c

/-- A character, with those before and behind it, that a plain text cannot have there. -/
def misleads (before : Option Char) (c : Char) (behind : Option Char) : Bool :=
  (before.isNone && (opens c || ((c = '?' || c = '-') && endsWord behind))) ||
    (c = ':' && endsWord behind) ||
    (c = '#' && before.isSome && endsWord before)

/-- Whether a character somewhere is one that a plain text cannot have there. -/
def anyMisleads (before : Option Char) : List Char → Bool
  | [] => false
  | c :: cs => misleads before c cs.head? || anyMisleads (some c) cs

/-- Whether a character of one class stands right before one of another. -/
def anyPair (first second : Char → Bool) : List Char → Bool
  | c :: d :: cs => (first c && second d) || anyPair first second (d :: cs)
  | _ => false

/-- The text starts as a mark between documents does. -/
def startsAsMark (cs : List Char) : Bool :=
  cs.take 3 == ['-', '-', '-'] || cs.take 3 == ['.', '.', '.']

/-- What matters of a text. -/
def of (cs : List Char) : TextShape :=
  if cs.isEmpty then ⟨false, true, true, false⟩
  else
    let isSpace := fun c => c == ' '
    let atEnds := fun test => (cs.head?.map test).getD false || (cs.getLast?.map test).getD false
    let multiline := cs.any isBreak
    let breakSpace := anyPair isBreak isSpace cs
    let refused := anyPair isSpace isBreak cs || cs.any fun c => !isPrintable c
    let quoted := breakSpace || refused
    { multiline := multiline
      plain := !(startsAsMark cs || anyMisleads none cs || multiline || quoted || atEnds isSpace)
      single := !quoted
      block := !(refused || cs.getLast? = some ' ') }

end TextShape

/-- The way that is wished for a text: its lines as a block, quotes for one that means something else
when it is written plain. -/
def wishedStyle (s : String) : Style :=
  if s.toList.contains '\n' then .literal
  else
    match Plain.ofText s with
    | .text _ => if hasLeadingZero s.toList then .singleQuoted else .plain
    | _ => .singleQuoted

/-- The way in which a text is written. A key on one line cannot be a block. -/
def styleOf (isKey : Bool) (t : TextShape) (wished : Style) : Style :=
  let s := if wished = .plain ∧ !t.plain then .singleQuoted else wished
  let s := if s = .singleQuoted ∧ !t.single then .doubleQuoted else s
  if s = .literal ∧ (!t.block || isKey) then .doubleQuoted else s

/-- An upper-case hexadecimal number with a fixed count of digits. -/
def hexNumber (digits n : Nat) : List Char :=
  let ds := (Nat.toDigits 16 n).map Char.toUpper
  List.replicate (digits - ds.length) '0' ++ ds

/-- A character in double quotes that is not written as it is. -/
def escaped (c : Char) : List Char :=
  match c.toNat with
  | 0x00 => ['\\', '0']
  | 0x07 => ['\\', 'a']
  | 0x08 => ['\\', 'b']
  | 0x09 => ['\\', 't']
  | 0x0a => ['\\', 'n']
  | 0x0b => ['\\', 'v']
  | 0x0c => ['\\', 'f']
  | 0x0d => ['\\', 'r']
  | 0x1b => ['\\', 'e']
  | 0x22 => ['\\', '"']
  | 0x5c => ['\\', '\\']
  | 0x85 => ['\\', 'N']
  | 0xa0 => ['\\', '_']
  | 0x2028 => ['\\', 'L']
  | 0x2029 => ['\\', 'P']
  | n =>
    if n ≤ 0xff then '\\' :: 'x' :: hexNumber 2 n
    else if n ≤ 0xffff then '\\' :: 'u' :: hexNumber 4 n
    else '\\' :: 'U' :: hexNumber 8 n

/-- A character in double quotes. -/
def inDoubleQuotes (c : Char) : List Char :=
  if !TextShape.isPrintable c || isBreak c || c = '"' || c = '\\' then escaped c else [c]

namespace Pen

/-- A plain text; nothing is written for an empty one. -/
def putPlain (p : Pen) (cs : List Char) : Pen :=
  let p := if cs.isEmpty then p else p.space
  (p.putAll cs).afterWord

/-- A text in double quotes. -/
def putDouble (p : Pen) (cs : List Char) : Pen :=
  (((p.space.put '"').putAll (cs.flatMap inDoubleQuotes)).put '"').afterWord

/-- The inside of single quotes; after a line break the text goes on at the column. -/
def putSingleInside (column : Nat) (broken : Bool) (p : Pen) : List Char → Pen
  | [] => if broken then p.indentTo column else p
  | c :: cs =>
    if c = ' ' then putSingleInside column broken (p.put c) cs
    else if isBreak c then
      let p := if !broken && c = '\n' then p.endLine else p
      putSingleInside column true { p.breakWith c with fresh := true } cs
    else
      let p := if broken then p.indentTo column else p
      let p := if c = '\'' then p.put c else p
      putSingleInside column false { p.put c with fresh := false } cs

/-- A text in single quotes. -/
def putSingle (p : Pen) (column : Nat) (cs : List Char) : Pen :=
  let p := p.space.mark ['\''] false
  ((p.putSingleInside column false cs).put '\'').afterWord

/-- The lines of a block. -/
def putLines (column : Nat) (broken : Bool) (p : Pen) : List Char → Pen
  | [] => p
  | c :: cs =>
    if isBreak c then putLines column true { p.breakWith c with fresh := true } cs
    else
      let p := if broken then p.indentTo column else p
      putLines column false { p.put c with fresh := false } cs

/-- The signs behind the mark of a block: the indentation where the text itself starts with a blank, and
what becomes of line breaks at the end. -/
def blockSigns (cs : List Char) : List Char :=
  let indentation := if (cs.head?.map fun c => c = ' ' || isBreak c).getD false then ['2'] else []
  let ending :=
    match cs.reverse with
    | [] => ['-']
    | [c] => if isBreak c then ['+'] else ['-']
    | c :: d :: _ => if !isBreak c then ['-'] else if isBreak d then ['+'] else []
  indentation ++ ending

/-- A text as a block of lines. -/
def putBlock (p : Pen) (column : Nat) (cs : List Char) : Pen :=
  let p := (p.space.mark ['|'] false).putAll (blockSigns cs)
  putLines column true { p.endLine with spaced := true, fresh := true } cs

/-- A text in a style; further lines start at the column. -/
def putText (p : Pen) (column : Nat) (isKey : Bool) (wished : Style) (s : String) : Pen :=
  let cs := s.toList
  match styleOf isKey (TextShape.of cs) wished with
  | .plain => p.putPlain cs
  | .singleQuoted => p.putSingle column cs
  | .doubleQuoted => p.putDouble cs
  | .literal => p.putBlock column cs
  | .folded => p.putDouble cs

end Pen

/-- Doubles are written as in JSON, but a positive exponent has no sign. -/
def numberStyle : DecimalStyle := { Number.style with plus := false }

/-- The written form of a number. -/
def numberText : Number → String
  | .int n => toString n
  | .real x => x.text numberStyle

/-- The longest key, in bytes, that stands on one line with its value. -/
def longestKey : Nat := 128

/-- Where the parts of a collection start, below a collection that starts at `column`. -/
def deeper : Option Nat → Nat
  | none => 0
  | some column => column + 2

/-- Where further lines of a text start. -/
def textColumn : Option Nat → Nat
  | none => 2
  | some column => column + 2

/-- A key with its colon. A long key, or one with several lines, has a line of its own. -/
def putKey (p : Pen) (column : Nat) (key : String) : Pen :=
  let p := p.indentTo column
  if (TextShape.of key.toList).multiline || longestKey < key.utf8ByteSize then
    let p := (p.space.mark ['?'] true).putText (column + 2) false (wishedStyle key) key
    (p.indentTo column).space.mark [':'] true
  else (p.putText (column + 2) true (wishedStyle key) key).mark [':'] false

mutual

/-- A value below a collection that starts at `column`; `inMember` where it belongs to a member. -/
def putValue (p : Pen) (column : Option Nat) (inMember : Bool) : Json → Pen
  | .null => p.putPlain "null".toList
  | .bool true => p.putPlain "true".toList
  | .bool false => p.putPlain "false".toList
  | .num n => p.putPlain (numberText n).toList
  | .str s => p.putText (textColumn column) false (wishedStyle s) s
  | .arr [] => (p.space.mark ['[', ']'] false).afterWord
  | .arr (v :: vs) =>
    let start := match column with
      | some c => if inMember && !p.fresh then c else c + 2
      | none => 0
    putItems p start (v :: vs)
  | .obj [] => (p.space.mark ['\x7b', '\x7d'] false).afterWord
  | .obj (m :: ms) => putMembers p (deeper column) (m :: ms)

/-- Items, each with a dash on a line of its own. -/
def putItems (p : Pen) (column : Nat) : List Json → Pen
  | [] => p
  | v :: vs =>
    let p := putValue ((p.indentTo column).space.mark ['-'] true) (some column) false v
    putItems p column vs

/-- Members, each on a line of its own. -/
def putMembers (p : Pen) (column : Nat) : List (String × Json) → Pen
  | [] => p
  | (key, v) :: rest =>
    let p := putValue (putKey p column key) (some column) true v
    putMembers p column rest

end

/-- The written form of a value, with a line end. -/
def print (v : Json) : String := ((putValue .start none false v).indentTo 0).text

end TraitWeave.Yaml
