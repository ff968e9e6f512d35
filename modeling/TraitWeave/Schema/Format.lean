import TraitWeave.Pattern.Basic
import TraitWeave.Schema.Draft
import TraitWeave.Text.Alphanumeric
import TraitWeave.Text.Blank
import TraitWeave.Text.Position
import TraitWeave.Uri.Reader

/-!
# Formats

A schema may say that a text is written in some format. Drafts up to the seventh check that.

* `Format`, `Format.ofName?`: the formats and the drafts that know them.
* `Format.allows`: whether a text is written in a format.
-/

namespace TraitWeave.Schema

/-- The formats of texts. -/
inductive Format where
  | date
  | time
  | dateTime
  | email
  | internationalEmail
  | hostname
  | internationalHostname
  | ipv4
  | ipv6
  | uri
  | uriReference
  | uriTemplate
  | iri
  | iriReference
  | jsonPointer
  | relativeJsonPointer
  | regex
  deriving DecidableEq, Repr

namespace Format

/-- All formats. -/
def all : List Format := [
  date, time, dateTime, email, internationalEmail, hostname, internationalHostname, ipv4, ipv6, uri,
  uriReference, uriTemplate, iri, iriReference, jsonPointer, relativeJsonPointer, regex]

/-- How schemas call a format. -/
def name : Format → String
  | date => "date"
  | time => "time"
  | dateTime => "date-time"
  | email => "email"
  | internationalEmail => "idn-email"
  | hostname => "hostname"
  | internationalHostname => "idn-hostname"
  | ipv4 => "ipv4"
  | ipv6 => "ipv6"
  | uri => "uri"
  | uriReference => "uri-reference"
  | uriTemplate => "uri-template"
  | iri => "iri"
  | iriReference => "iri-reference"
  | jsonPointer => "json-pointer"
  | relativeJsonPointer => "relative-json-pointer"
  | regex => "regex"

/-- The draft in which a format came up. -/
def origin : Format → Draft
  | uriReference => .six
  | uriTemplate => .six
  | jsonPointer => .six
  | internationalHostname => .seven
  | iri => .seven
  | iriReference => .seven
  | relativeJsonPointer => .seven
  | _ => .four

/-- The format that a draft knows by a name. -/
def ofName? (d : Draft) (n : String) : Option Format :=
  all.find? fun f => f.name == n && d.since f.origin

/-! ### Dates and times -/

/-- The number that digits write. -/
def number? (cs : List Char) : Option Nat :=
  if cs.all Char.isDigit then some (cs.foldl (fun n c => 10 * n + (c.toNat - 48)) 0) else none

/-- The number of days of a month. -/
def daysOf (year month : Nat) : Nat :=
  if month = 2 then
    if (year % 4 = 0 ∧ year % 100 ≠ 0) ∨ year % 400 = 0 then 29 else 28
  else if [4, 6, 9, 11].contains month then 30
  else 31

/-- Year, month and day. -/
def isDate : List Char → Bool
  | [a, b, c, d, '-', e, f, '-', g, h] =>
    match number? [a, b, c, d], number? [e, f], number? [g, h] with
    | some year, some month, some day =>
      1 ≤ month && month ≤ 12 && 1 ≤ day && day ≤ daysOf year month
    | _, _, _ => false
  | _ => false

/-- The minutes by which a zone is ahead. -/
def zone? : List Char → Option Int
  | [c] => if c = 'Z' ∨ c = 'z' then some 0 else none
  | [sign, a, b, ':', c, d] =>
    match number? [a, b], number? [c, d] with
    | some hours, some minutes =>
      if 23 < hours ∨ 59 < minutes then none
      else if sign = '+' then some (60 * hours + minutes)
      else if sign = '-' then some (-(60 * hours + minutes))
      else none
    | _, _ => none
  | _ => none

/-- What follows the seconds without a fraction, if there is one. -/
def afterFraction : List Char → Option (List Char)
  | '.' :: cs =>
    let rest := cs.dropWhile Char.isDigit
    if rest.length = cs.length then none else some rest
  | cs => some cs

/-- Hours, minutes and seconds with a zone. A leap second ends the day of the zone without an offset. -/
def isTime : List Char → Bool
  | a :: b :: ':' :: c :: d :: ':' :: e :: f :: rest =>
    match number? [a, b], number? [c, d], number? [e, f], (afterFraction rest).bind zone? with
    | some hour, some minute, some second, some offset =>
      hour ≤ 23 && minute ≤ 59 && second ≤ 60 &&
        (second < 60 || ((60 * hour + minute : Int) - offset) % 1440 == 1439)
    | _, _, _, _ => false
  | _ => false

/-- A date and a time. -/
def isDateTime (cs : List Char) : Bool :=
  let day := cs.takeWhile fun c => c ≠ 'T' && c ≠ 't'
  match cs.drop day.length with
  | _ :: clock => isDate day && isTime clock
  | [] => false

/-! ### Hosts and addresses -/

/-- A name of a host. -/
def isHostname (cs : List Char) : Bool :=
  !cs.isEmpty && cs.head? != some '-' && cs.getLast? != some '-' && cs.length ≤ 255 &&
    cs.all (fun c => Text.isAlphanumeric c || c == '-' || c == '.') &&
    (Text.pieces (· == '.') cs).all fun part => part.length ≤ 63

/-- A label of a host in any script. -/
def isLabel (cs : List Char) : Bool :=
  !cs.isEmpty && cs.length ≤ 63 && cs.head? != some '-' && cs.getLast? != some '-' &&
    (cs.drop 2).take 2 != ['-', '-'] &&
    cs.all fun c => Text.isAlphanumeric c || c == '-' || (128 ≤ c.toNat && !Text.isBlank c)

/-- A name of a host in any script. -/
def isInternationalHostname (cs : List Char) : Bool :=
  cs.length ≤ 253 && (Text.pieces (· == '.') cs).all isLabel

/-- An address of version four. -/
def isAddress4 (cs : List Char) : Bool :=
  match Uri.readDecimals cs with
  | some (_, []) => true
  | _ => false

/-- An address of version six. -/
def isAddress6 (cs : List Char) : Bool :=
  match Uri.readAddress cs with
  | some (_, []) => true
  | _ => false

/-! ### Mail addresses -/

/-- The characters of the words of a mail address. -/
def inWord (c : Char) : Bool :=
  Text.isAlphanumeric c || 128 ≤ c.toNat ||
    ['!', '#', '$', '%', '&', '\'', '*', '+', '-', '/', '=', '?', '^', '_', '\x60', '\x7b', '|', '\x7d',
      '~'].contains c

/-- A word of a mail address. -/
def isWord (cs : List Char) : Bool := !cs.isEmpty && cs.all inWord

/-- The inside of a quoted name: a backslash stands before a visible character. -/
def isQuoted : List Char → Bool
  | [] => true
  | '\\' :: c :: cs => 0x21 ≤ c.toNat && c.toNat ≤ 0x7e && isQuoted cs
  | c :: cs =>
    c != '\\' && (c == ' ' || c == '\t' || (0x21 ≤ c.toNat && c.toNat ≤ 0x7e && c != '"') || 128 ≤ c.toNat) &&
      isQuoted cs

/-- The name in front of the at sign. -/
def isLocalPart (cs : List Char) : Bool :=
  !cs.isEmpty && Text.byteCount cs ≤ 64 &&
    if cs.head? = some '"' ∧ cs.getLast? = some '"' then 2 < cs.length && isQuoted (cs.drop 1).dropLast
    else (Text.pieces (· == '.') cs).all isWord

/-- What stands before the last occurrence of a character, and after it. -/
def splitLast (sep : Char) (cs : List Char) : Option (List Char × List Char) :=
  let after := cs.reverse.takeWhile (· ≠ sep)
  if after.length = cs.length then none
  else some (cs.take (cs.length - after.length - 1), after.reverse)

/-- The mail address alone, where a name to show stands in front of it. -/
def withoutShownName (cs : List Char) : Option (List Char) :=
  match splitLast '<' cs with
  | none => some cs
  | some (front, back) =>
    if front.getLast? != some ' ' then some cs
    else
      let back := (Text.trim (String.ofList back)).toList
      if back.getLast? = some '>' then some back.dropLast else none

/-- The inside of an address between brackets. -/
def isLiteralAddress (cs : List Char) : Bool :=
  match cs with
  | 'I' :: 'P' :: 'v' :: '6' :: ':' :: rest => isAddress6 rest
  | cs => isAddress4 cs

/-- A mail address, whose host passes a test. -/
def isEmail (host : List Char → Bool) (cs : List Char) : Bool :=
  match (withoutShownName cs).bind (splitLast '@') with
  | none => false
  | some (name, domain) =>
    isLocalPart name && !domain.isEmpty && Text.byteCount domain ≤ 254 &&
      if domain.head? = some '[' ∧ domain.getLast? = some ']' then isLiteralAddress (domain.drop 1).dropLast
      else
        (Text.pieces (· == '.') domain).all (fun part => isWord part && Text.byteCount part ≤ 63) && host domain

/-! ### Pointers and templates -/

/-- A pointer: every tilde stands before a zero or a one. -/
def tildesPaired : List Char → Bool
  | [] => true
  | ['~'] => false
  | '~' :: c :: cs => (c == '0' || c == '1') && tildesPaired cs
  | _ :: cs => tildesPaired cs

/-- A pointer from the whole value. -/
def isPointer : List Char → Bool
  | [] => true
  | '/' :: cs => tildesPaired cs
  | _ => false

/-- A number of levels to go up, and a pointer or a number sign. -/
def isRelativePointer (cs : List Char) : Bool :=
  let digits := cs.takeWhile Char.isDigit
  let rest := cs.drop digits.length
  !digits.isEmpty && (digits.length == 1 || digits.head? != some '0') &&
    (rest == ['#'] || isPointer rest)

/-- The rest after a name in a template. -/
def afterTemplateName : Bool → List Char → Option (List Char)
  | _, '%' :: a :: b :: cs =>
    if Uri.isHex a && Uri.isHex b && !a.isUpper && !b.isUpper then afterTemplateName true cs else none
  | started, c :: cs =>
    if c.isDigit || c.isLower || c == '_' then afterTemplateName true cs
    else if started then some (c :: cs) else none
  | started, [] => if started then some [] else none

/-- The rest after a star or a length in a template. -/
def afterModifier : List Char → List Char
  | '*' :: cs => cs
  | ':' :: cs =>
    let digits := (cs.takeWhile Char.isDigit).take 4
    if digits.isEmpty || digits.head? == some '0' then ':' :: cs else cs.drop digits.length
  | cs => cs

/-- The rest after the names of an expression in a template. -/
def afterExpression : Nat → List Char → Option (List Char)
  | 0, _ => none
  | fuel + 1, cs =>
    match (afterTemplateName false cs).map afterModifier with
    | some (',' :: cs) => afterExpression fuel cs
    | some ('\x7d' :: cs) => some cs
    | _ => none

/-- A template: characters of addresses and expressions between braces. -/
def isTemplate : Nat → List Char → Bool
  | 0, cs => cs.isEmpty
  | _ + 1, [] => true
  | fuel + 1, '\x7b' :: cs =>
    let cs := if (cs.head?.any fun c => "+#./;?&=,!@|".toList.contains c) then cs.drop 1 else cs
    match afterExpression (fuel + 1) cs with
    | some rest => isTemplate fuel rest
    | none => false
  | fuel + 1, '%' :: cs =>
    match cs with
    | a :: b :: rest =>
      Uri.isHex a && Uri.isHex b && !a.isUpper && !b.isUpper && isTemplate fuel rest
    | _ => false
  | fuel + 1, c :: cs =>
    0x20 < c.toNat && !(['"', '\'', '<', '>', '\\', '^', '\x60', '|', '\x7d'].contains c) &&
      isTemplate fuel cs

/-- Whether a reading succeeds. -/
def reads {ε α : Type} (r : Except ε α) : Bool :=
  match r with
  | .ok _ => true
  | .error _ => false

/-- Whether a text is written in a format. -/
def allows (f : Format) (s : String) : Bool :=
  let cs := s.toList
  match f with
  | date => isDate cs
  | time => isTime cs
  | dateTime => isDateTime cs
  | email => isEmail isHostname cs
  | internationalEmail => isEmail isInternationalHostname cs
  | hostname => isHostname cs
  | internationalHostname => isInternationalHostname cs
  | ipv4 => isAddress4 cs
  | ipv6 => isAddress6 cs
  | uri => reads (Uri.readFull .ascii s)
  | uriReference => reads (Uri.read .ascii s)
  | uriTemplate => isTemplate (cs.length + 1) cs
  | iri => reads (Uri.readFull .international s)
  | iriReference => reads (Uri.read .international s)
  | jsonPointer => isPointer cs
  | relativeJsonPointer => isRelativePointer cs
  | regex => (Pattern.read s).isSome

end Format

end TraitWeave.Schema
