import TraitWeave.Pattern.Property
import TraitWeave.Text.Blank

/-!
# Escapes in patterns

A backslash gives the sign after it another meaning, or takes its meaning away.

* `Pattern.Stop`: why the reading of a pattern stops.
* `Pattern.Escape`, `Pattern.readEscape`: what an escape stands for.
-/

namespace TraitWeave.Pattern

/-- Why the reading of a pattern stops. -/
inductive Stop where
  /-- It writes no pattern. -/
  | bad
  /-- It looks around or refers to what a group matched. -/
  | looksAround
  /-- The rest starts with a control character written with a letter. -/
  | control (rest : List Char)

/-- What was read and what follows. -/
abbrev Read (α : Type) := Except Stop (α × List Char)

/-- How a property is named. -/
inductive PropertyName where
  | plain (name : List Char)
  | value (property value : List Char) (equal : Bool)
  deriving DecidableEq, Repr

/-- What an escape stands for. -/
inductive Escape where
  | literal (c : Char)
  /-- The bell, written with a letter. -/
  | bell
  /-- Digits, blanks or characters of words; or all others. -/
  | short (kind : Char) (negated : Bool)
  | property (name : PropertyName) (negated : Bool)
  /-- A place in the text. -/
  | place

/-- Leave out blanks and comments; inside a comment, up to the end of the line. -/
def skipBlanks : Bool → List Char → List Char
  | _, [] => []
  | true, c :: cs => skipBlanks (c != '\n') cs
  | false, c :: cs =>
    if Text.isBlank c then skipBlanks false cs
    else if c = '#' then skipBlanks true cs
    else c :: cs

/-- Leave out blanks and comments where they do not count. -/
def skipGap (spaced : Bool) (cs : List Char) : List Char := if spaced then skipBlanks false cs else cs

/-- The value of a hexadecimal digit. -/
def hexValue? (c : Char) : Option Nat :=
  if c.isDigit then some (c.toNat - 48)
  else if 'a' ≤ c ∧ c ≤ 'f' then some (c.toNat - 87)
  else if 'A' ≤ c ∧ c ≤ 'F' then some (c.toNat - 55)
  else none

/-- The character of a number. -/
def charOf? (n : Nat) : Option Char :=
  if n < 0xd800 ∨ (0xdfff < n ∧ n ≤ 0x10ffff) then some (Char.ofNat n) else none

/-- Read a number of hexadecimal digits. -/
def readHexDigits (spaced : Bool) : Nat → Nat → List Char → Option (Nat × List Char)
  | 0, n, cs => some (n, cs)
  | _ + 1, _, [] => none
  | count + 1, n, c :: cs =>
    match hexValue? c with
    | some d => readHexDigits spaced count (16 * n + d) (skipGap spaced cs)
    | none => none

/-- Read hexadecimal digits up to a closing brace; `fuel` bounds their number. -/
def readHexBraces (spaced : Bool) : Nat → Bool → Nat → List Char → Option (Nat × List Char)
  | 0, _, _, _ => none
  | _ + 1, _, _, [] => none
  | fuel + 1, started, n, c :: cs =>
    if c = '\x7d' then if started then some (n, skipGap spaced cs) else none
    else
      match hexValue? c with
      | some d => readHexBraces spaced fuel true (16 * n + d) (skipGap spaced cs)
      | none => none

/-- Read a character that hexadecimal digits write, `count` of them or any number in braces. -/
def readHexChar (spaced : Bool) (count : Nat) (cs : List Char) : Option (Char × List Char) :=
  let found :=
    match cs with
    | '\x7b' :: rest => readHexBraces spaced (rest.length + 1) false 0 (skipGap spaced rest)
    | cs => readHexDigits spaced count 0 cs
  found.bind fun (n, rest) => (charOf? n).map fun c => (c, rest)

/-- What stands before the first occurrence of a word, and after it. -/
def splitAtWord (word : List Char) : List Char → Option (List Char × List Char)
  | [] => none
  | c :: cs =>
    match Text.afterWord word (c :: cs) with
    | some rest => some ([], rest)
    | none => (splitAtWord word cs).map fun (front, back) => (c :: front, back)

/-- The name of a property, with a value where one is told. -/
def propertyNameOf (text : List Char) : PropertyName :=
  match splitAtWord ['!', '='] text with
  | some (property, value) => .value property value false
  | none =>
    match (splitAtWord [':'] text).or (splitAtWord ['='] text) with
    | some (property, value) => .value property value true
    | none => .plain text

/-- Read the name of a property up to the closing brace. -/
def readBracedName (spaced : Bool) : Nat → List Char → Option (List Char × List Char)
  | 0, _ => none
  | _ + 1, [] => none
  | fuel + 1, c :: cs =>
    if c = '\x7d' then some ([], cs)
    else (readBracedName spaced fuel (skipGap spaced cs)).map fun (name, rest) => (c :: name, rest)

/-- Read the name of a property: one letter, or any name in braces. -/
def readPropertyName (spaced : Bool) (cs : List Char) : Option (PropertyName × List Char) :=
  match skipGap spaced cs with
  | [] => none
  | '\x7b' :: rest =>
    (readBracedName spaced (rest.length + 1) (skipGap spaced rest)).map fun (name, rest) =>
      (propertyNameOf name, rest)
  | c :: rest => if c = '\\' then none else some (.plain [c], skipGap spaced rest)

/-- The signs that always may follow a backslash. -/
def isSign (c : Char) : Bool := c.toNat < 128 && !c.isAlphanum && c != '<' && c != '>'

/-- The character that a letter after a backslash writes. -/
def letterEscape? (c : Char) : Option Char :=
  match c with
  | 'f' => some '\x0c'
  | 't' => some '\t'
  | 'n' => some '\n'
  | 'r' => some '\r'
  | 'v' => some '\x0b'
  | _ => none

/-- What cannot be read is bad. -/
def orBad {α : Type} : Option α → Except Stop α
  | some a => .ok a
  | none => .error .bad

/-- Read what an escape stands for; `cs` follows the backslash. -/
def readEscape (spaced : Bool) (cs : List Char) : Read Escape :=
  match cs with
  | [] => .error .bad
  | c :: rest =>
    if c.isDigit then .error .looksAround
    else if c = 'x' ∨ c = 'u' ∨ c = 'U' then
      let count := if c = 'x' then 2 else if c = 'u' then 4 else 8
      (orBad (readHexChar spaced count (skipGap spaced rest))).map fun (c, rest) => (.literal c, rest)
    else if c = 'p' ∨ c = 'P' then
      (orBad (readPropertyName spaced rest)).map fun (name, rest) => (.property name (c == 'P'), rest)
    else if ['d', 's', 'w'].contains c.toLower then .ok (.short c.toLower c.isUpper, rest)
    else if isSign c then .ok (.literal c, rest)
    else if c = 'a' then .ok (.bell, rest)
    else
      match letterEscape? c with
      | some l => .ok (.literal l, rest)
      | none =>
        if c = 'b' ∧ rest.head? = some '\x7b' then .error .bad
        else if ['A', 'z', 'b', 'B', '<', '>'].contains c then .ok (.place, rest)
        else if c = 'c' ∧ rest.head?.any Char.isAlpha then .error (.control ('\\' :: cs))
        else .error .bad

end TraitWeave.Pattern
