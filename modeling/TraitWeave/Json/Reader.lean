import TraitWeave.Json.Basic
import TraitWeave.Text.Position

/-!
# Reading JSON

A reader for one JSON value with nothing but blanks around it. What cannot be read is refused with its
cause and the place where the reader stood.

* `Json.Fault`: the causes, and `Json.Fault.message` their wording.
* `Json.parse`: the value of a text, or the first fault in it.

Nesting is limited: the 128th open bracket is refused. A number with more digits than fit 64 bits, or
with a fraction or an exponent, is a double computed from its leading digits by one multiplication or
division with a power of ten; `realOf` says exactly how.
-/

namespace TraitWeave.Json

/-- Why a text is not JSON. -/
inductive Fault where
  | endInList
  | endInObject
  | endInString
  | endInValue
  | expectedColon
  | expectedListEnd
  | expectedObjectEnd
  | expectedIdent
  | expectedValue
  | invalidEscape
  | invalidNumber
  | numberOutOfRange
  | controlInString
  | keyNotString
  | loneSurrogate
  | trailingComma
  | trailingCharacters
  | endOfHexEscape
  | tooDeep
  deriving DecidableEq, Repr

/-- The wording of a fault. -/
def Fault.message : Fault → String
  | endInList => "EOF while parsing a list"
  | endInObject => "EOF while parsing an object"
  | endInString => "EOF while parsing a string"
  | endInValue => "EOF while parsing a value"
  | expectedColon => "expected `:`"
  | expectedListEnd => "expected `,` or `]`"
  | expectedObjectEnd => "expected `,` or `\x7d`"
  | expectedIdent => "expected ident"
  | expectedValue => "expected value"
  | invalidEscape => "invalid escape"
  | invalidNumber => "invalid number"
  | numberOutOfRange => "number out of range"
  | controlInString => "control character (\\u0000-\\u001F) found while parsing a string"
  | keyNotString => "key must be a string"
  | loneSurrogate => "lone leading surrogate in hex escape"
  | trailingComma => "trailing comma"
  | trailingCharacters => "trailing characters"
  | endOfHexEscape => "unexpected end of hex escape"
  | tooDeep => "recursion limit exceeded"

/-- A fault with the number of bytes that were left when it was met. -/
structure Stop where
  fault : Fault
  left : Nat

/-- What a reader of one thing gives: the thing and the characters after it. -/
abbrev Read (α : Type) := Except Stop (α × List Char)

/-- Stop in front of `rest`. -/
def stopAt {α : Type} (fault : Fault) (rest : List Char) : Except Stop α :=
  .error ⟨fault, Text.byteCount rest⟩

/-- Stop one byte into `rest`, where the fault is what comes next. -/
def stopIn {α : Type} (fault : Fault) (rest : List Char) : Except Stop α :=
  .error ⟨fault, Text.byteCount rest - 1⟩

/-- The blanks between tokens. -/
def isSpace (c : Char) : Bool :=
  c = ' ' || c = '\n' || c = '\t' || c = '\r'

/-- Skip the blanks between tokens. -/
def skipSpace (cs : List Char) : List Char := cs.dropWhile isSpace

/-! ### Numbers -/

/-- The value of a decimal digit. -/
def digitValue (c : Char) : Nat := c.toNat - '0'.toNat

/-- The greatest significand that is kept. -/
def greatestSignificand : Nat := UInt64.size - 1

/-- Divide by `10 ^ 308` until the power that is left is a double, then by that. -/
def dividedByPower (x : Double) (power : Nat) : Double :=
  if x.isZero then x
  else if power ≤ 308 then
    ((Double.ofDecimal false 1 power).bind x.div).getD x
  else
    dividedByPower (((Double.ofDecimal false 1 308).bind x.div).getD x) (power - 308)
termination_by power

/-- The double for `significand * 10 ^ exponent`: the significand is rounded to a double and then
multiplied or divided by the double nearest to the power of ten. -/
def realOf (negative : Bool) (significand : Nat) (exponent : Int) : Option Double :=
  let x := Double.ofInt significand
  let size : Option Double :=
    if exponent < 0 then some (dividedByPower x exponent.natAbs)
    else if 308 < exponent then (if x.isZero then some x else none)
    else (Double.ofDecimal false 1 exponent).bind x.mul
  size.map fun s => { s with negative := negative }

/-- The number that a significand and an exponent give, or a stop. -/
def realNumber (negative : Bool) (significand : Nat) (exponent : Int) (cs : List Char) : Read Number :=
  match realOf negative significand exponent with
  | some x => .ok (.real x, cs)
  | none => stopAt .numberOutOfRange cs

/-- The digits of an exponent after the first; none when they leave 31 bits, which is met in front of
the rest. -/
def exponentDigits (acc : Nat) : List Char → Option Nat × List Char
  | [] => (some acc, [])
  | c :: cs =>
    if c.isDigit then
      let acc' := acc * 10 + digitValue c
      if UInt32.size / 2 ≤ acc' then (none, cs) else exponentDigits acc' cs
    else (some acc, c :: cs)

/-- The rest of a number from its exponent mark on. -/
def readExponent (negative : Bool) (significand : Nat) (shift : Int) (cs : List Char) : Read Number :=
  let (down, cs) :=
    match cs with
    | '+' :: r => (false, r)
    | '-' :: r => (true, r)
    | r => (false, r)
  match cs with
  | [] => stopAt .endInValue []
  | c :: r =>
    if !c.isDigit then .error ⟨.invalidNumber, Text.byteCount r + (c.utf8Size - 1)⟩
    else
      match exponentDigits (digitValue c) r with
      | (some e, r) => realNumber negative significand (if down then shift - e else shift + e) r
      | (none, r) =>
        if significand ≠ 0 ∧ !down then stopAt .numberOutOfRange r
        else .ok (.real (Double.zero negative), r.dropWhile Char.isDigit)

/-- Take digits into a significand while it fits; gives the significand, how many digits were taken,
and the rest, which starts with a digit exactly if one did not fit. -/
def takeDigits (significand taken : Nat) : List Char → Nat × Nat × List Char
  | [] => (significand, taken, [])
  | c :: cs =>
    if c.isDigit then
      let next := significand * 10 + digitValue c
      if greatestSignificand < next then (significand, taken, c :: cs)
      else takeDigits next (taken + 1) cs
    else (significand, taken, c :: cs)

/-- The rest of a number that may have an exponent next. -/
def readTail (negative : Bool) (significand : Nat) (shift : Int) (cs : List Char) : Read Number :=
  match cs with
  | 'e' :: r => readExponent negative significand shift r
  | 'E' :: r => readExponent negative significand shift r
  | r => realNumber negative significand shift r

/-- The rest of a number after its point. Digits that do not fit are dropped. -/
def readFraction (negative : Bool) (significand : Nat) (shift : Int) (cs : List Char) : Read Number :=
  let (sig, taken, rest) := takeDigits significand 0 cs
  match rest with
  | [] =>
    if taken = 0 then stopIn .endInValue []
    else readTail negative sig (shift - taken) []
  | c :: _ =>
    if c.isDigit then readTail negative sig (shift - taken) (rest.dropWhile Char.isDigit)
    else if taken = 0 then stopIn .invalidNumber rest
    else readTail negative sig (shift - taken) rest

/-- The rest of a number whose whole digits gave `significand` and stand `shift` places too low. -/
def readAfterWhole (negative : Bool) (significand : Nat) (shift : Int) (cs : List Char) : Read Number :=
  match cs with
  | '.' :: r => readFraction negative significand shift r
  | r => readTail negative significand shift r

/-- The integer with a sign, or a double: minus zero and what is out of range. -/
def wholeNumber (negative : Bool) (significand : Nat) : Number :=
  if !negative then .int significand
  else if significand = 0 ∨ UInt64.size / 2 < significand then
    .real { Double.ofInt significand with negative := true }
  else .int (-significand)

/-- A number from its first digit on. -/
def readNumber (negative : Bool) (cs : List Char) : Read Number :=
  let finish (significand : Nat) (rest : List Char) : Read Number :=
    match rest with
    | '.' :: _ => readAfterWhole negative significand 0 rest
    | 'e' :: _ => readAfterWhole negative significand 0 rest
    | 'E' :: _ => readAfterWhole negative significand 0 rest
    | _ => .ok (wholeNumber negative significand, rest)
  match cs with
  | [] => stopAt .endInValue []
  | '0' :: r =>
    match r with
    | d :: _ => if d.isDigit then stopIn .invalidNumber r else finish 0 r
    | [] => finish 0 r
  | c :: r =>
    if !c.isDigit then .error ⟨.invalidNumber, Text.byteCount r + (c.utf8Size - 1)⟩
    else
      let (sig, _, rest) := takeDigits (digitValue c) 0 r
      match rest with
      | d :: _ =>
        if d.isDigit then
          let more := (rest.takeWhile Char.isDigit).length
          readAfterWhole negative sig more (rest.dropWhile Char.isDigit)
        else finish sig rest
      | [] => finish sig rest

/-! ### Strings -/

/-- The value of a hexadecimal digit of either case. -/
def hexValue? (c : Char) : Option Nat :=
  if '0' ≤ c ∧ c ≤ '9' then some (c.toNat - 48)
  else if 'a' ≤ c ∧ c ≤ 'f' then some (c.toNat - 87)
  else if 'A' ≤ c ∧ c ≤ 'F' then some (c.toNat - 55)
  else none

/-- The four hexadecimal digits of an escape. Fewer than four bytes are an end inside the string; four
bytes that are no digits are an invalid escape, met after them. -/
def readHex (cs : List Char) : Read Nat :=
  let size := Text.byteCount cs
  if size < 4 then stopAt .endInString []
  else
    match cs with
    | a :: b :: c :: d :: r =>
      match hexValue? a, hexValue? b, hexValue? c, hexValue? d with
      | some a, some b, some c, some d => .ok (a * 4096 + b * 256 + c * 16 + d, r)
      | _, _, _, _ => .error ⟨.invalidEscape, size - 4⟩
    | _ => .error ⟨.invalidEscape, size - 4⟩

/-- The character of a `\u` escape, whose digits come next: a high surrogate needs a low one after it. -/
def readUnicodeEscape (cs : List Char) : Read Char :=
  match readHex cs with
  | .error e => .error e
  | .ok (n, cs) =>
    if 0xdc00 ≤ n ∧ n ≤ 0xdfff then stopAt .loneSurrogate cs
    else if n < 0xd800 ∨ 0xdbff < n then .ok (Char.ofNat n, cs)
    else
      match cs with
      | [] => stopAt .endInString []
      | '\\' :: 'u' :: r =>
        match readHex r with
        | .error e => .error e
        | .ok (low, r) =>
          if low < 0xdc00 ∨ 0xdfff < low then stopAt .loneSurrogate r
          else .ok (Char.ofNat ((n - 0xd800) * 1024 + (low - 0xdc00) + 0x10000), r)
      | ['\\'] => stopAt .endInString []
      | '\\' :: r => stopIn .endOfHexEscape r
      | r => stopIn .endOfHexEscape r

/-- The character of an escape, after its backslash. -/
def readEscape (cs : List Char) : Read Char :=
  match cs with
  | [] => stopAt .endInString []
  | '"' :: r => .ok ('"', r)
  | '\\' :: r => .ok ('\\', r)
  | '/' :: r => .ok ('/', r)
  | 'b' :: r => .ok ('\x08', r)
  | 'f' :: r => .ok ('\x0c', r)
  | 'n' :: r => .ok ('\n', r)
  | 'r' :: r => .ok ('\r', r)
  | 't' :: r => .ok ('\t', r)
  | 'u' :: r => readUnicodeEscape r
  | _ :: _ => stopIn .invalidEscape cs

/-- The rest of a string after its opening quote; `acc` holds its characters so far, the last first.
The fuel is the number of characters left. -/
def readString (acc : List Char) (cs : List Char) : Nat → Read String
  | 0 => stopAt .endInString []
  | fuel + 1 =>
    match cs with
    | [] => stopAt .endInString []
    | '"' :: r => .ok (String.ofList acc.reverse, r)
    | '\\' :: r =>
      match readEscape r with
      | .ok (c, r) => readString (c :: acc) r fuel
      | .error e => .error e
    | c :: r =>
      if c.toNat < 0x20 then stopAt .controlInString r
      else readString (c :: acc) r fuel

/-! ### Values -/

/-- The letters of a word after its first one. -/
def readWord (word : List Char) (value : Json) (cs : List Char) : Read Json :=
  match word, cs with
  | [], cs => .ok (value, cs)
  | _ :: _, [] => stopAt .endInValue []
  | w :: ws, c :: r =>
    if w = c then readWord ws value r
    else .error ⟨.expectedIdent, Text.byteCount r + (c.utf8Size - 1)⟩

mutual

/-- A value, with `depth` more levels of nesting allowed. -/
def readValue (depth : Nat) (cs : List Char) : Nat → Read Json
  | 0 => stopAt .endInValue []
  | fuel + 1 =>
    let cs := skipSpace cs
    match cs with
    | [] => stopIn .endInValue []
    | 'n' :: r => readWord ['u', 'l', 'l'] .null r
    | 't' :: r => readWord ['r', 'u', 'e'] (.bool true) r
    | 'f' :: r => readWord ['a', 'l', 's', 'e'] (.bool false) r
    | '-' :: r => (readNumber true r).map fun (n, r) => (.num n, r)
    | '"' :: r => (readString [] r r.length.succ).map fun (s, r) => (.str s, r)
    | '[' :: r =>
      if depth ≤ 1 then stopIn .tooDeep cs
      else (readItems (depth - 1) true [] r fuel).map fun (items, r) => (.arr items, r)
    | '\x7b' :: r =>
      if depth ≤ 1 then stopIn .tooDeep cs
      else (readMembers (depth - 1) true [] r fuel).map fun (ms, r) => (.obj (Table.ofPairs ms), r)
    | c :: _ =>
      if c.isDigit then (readNumber false cs).map fun (n, r) => (.num n, r)
      else stopIn .expectedValue cs

/-- The rest of an array; `first` tells that no item was read yet. -/
def readItems (depth : Nat) (first : Bool) (acc : List Json) (cs : List Char) : Nat → Read (List Json)
  | 0 => stopAt .endInList []
  | fuel + 1 =>
    let item (cs : List Char) : Read (List Json) :=
      match readValue depth cs fuel with
      | .ok (v, r) => readItems depth false (v :: acc) r fuel
      | .error e => .error e
    let cs := skipSpace cs
    match cs with
    | [] => stopIn .endInList []
    | ']' :: r => .ok (acc.reverse, r)
    | ',' :: r =>
      if first then item cs
      else
        match skipSpace r with
        | [] => stopIn .endInValue []
        | ']' :: s => stopIn .trailingComma (']' :: s)
        | s => item s
    | _ => if first then item cs else stopIn .expectedListEnd cs

/-- The rest of an object; `first` tells that no member was read yet. -/
def readMembers (depth : Nat) (first : Bool) (acc : List (String × Json)) (cs : List Char) :
    Nat → Read (List (String × Json))
  | 0 => stopAt .endInObject []
  | fuel + 1 =>
    let entry (cs : List Char) : Read (List (String × Json)) :=
      match readString [] cs cs.length.succ with
      | .error e => .error e
      | .ok (k, r) =>
        match skipSpace r with
        | [] => stopIn .endInObject []
        | ':' :: r =>
          match readValue depth r fuel with
          | .ok (v, r) => readMembers depth false ((k, v) :: acc) r fuel
          | .error e => .error e
        | r => stopIn .expectedColon r
    let cs := skipSpace cs
    match cs with
    | [] => stopIn .endInObject []
    | '\x7d' :: r => .ok (acc.reverse, r)
    | ',' :: r =>
      if first then stopIn .keyNotString cs
      else
        match skipSpace r with
        | [] => stopIn .endInValue []
        | '"' :: s => entry s
        | '\x7d' :: s => stopIn .trailingComma ('\x7d' :: s)
        | s => stopIn .keyNotString s
    | '"' :: r => if first then entry r else stopIn .expectedObjectEnd cs
    | _ => if first then stopIn .keyNotString cs else stopIn .expectedObjectEnd cs

end

/-- A fault and its place in the text. -/
structure ReadError where
  fault : Fault
  place : Text.Place
  deriving DecidableEq, Repr

/-- The wording of a fault and its place. -/
def ReadError.message (e : ReadError) : String :=
  e.fault.message ++ " at line " ++ toString e.place.line ++ " column " ++ toString e.place.column

/-- How many brackets may be open at once, plus one. -/
def depthLimit : Nat := 128

/-- The value that a text holds. -/
def parse (text : String) : Except ReadError Json :=
  let cs := text.toList
  let outcome : Except Stop Json :=
    match readValue depthLimit cs (2 * cs.length + 2) with
    | .error e => .error e
    | .ok (v, r) =>
      match skipSpace r with
      | [] => .ok v
      | r => stopIn .trailingCharacters r
  match outcome with
  | .ok v => .ok v
  | .error stop => .error ⟨stop.fault, .ofByteIndex text (text.utf8ByteSize - stop.left)⟩

end TraitWeave.Json
