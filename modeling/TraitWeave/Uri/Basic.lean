import TraitWeave.Text.Pieces

/-!
# References to resources

A resource is named by a URI, and a reference to one may leave out what it shares with the place where it
stands.

* `Uri`, `Uri.text`: a reference by its parts, and its text.
* `Uri.Host`: the host in an authority.
* `Uri.percentDecode?`: a text with its escaped bytes decoded.
-/

namespace TraitWeave

/-- The host that an authority names. -/
inductive Uri.Host where
  /-- The eight groups of an address of version six. -/
  | address (groups : List Nat)
  /-- An address of a later version, as it is written between its brackets. -/
  | later (text : List Char)
  | name (text : List Char)
  deriving DecidableEq, Repr

/-- Who answers for a resource. -/
structure Uri.Authority where
  user : Option (List Char)
  host : Uri.Host
  /-- The number of the service that is asked at the host. -/
  service : Option (List Char)
  deriving DecidableEq, Repr

/-- A reference by its parts, as they are written. -/
structure Uri where
  scheme : Option (List Char)
  authority : Option Uri.Authority
  path : List Char
  query : Option (List Char)
  fragment : Option (List Char)
  deriving DecidableEq, Repr

namespace Uri

/-! ### Characters -/

/-- A letter or a digit of ASCII. -/
def isPlain (c : Char) : Bool := c.isAlphanum

/-- Letters, digits and the marks that never need an escape. -/
def isUnreserved (c : Char) : Bool := isPlain c || ['-', '.', '_', '~'].contains c

/-- The delimiters inside of parts. -/
def isDelimiter (c : Char) : Bool :=
  ['!', '$', '&', '\'', '(', ')', '*', '+', ',', ';', '='].contains c

/-- The characters of a scheme. -/
def inScheme (c : Char) : Bool := isPlain c || ['+', '-', '.'].contains c

/-- The value of a hexadecimal digit. -/
def hexValue? (c : Char) : Option Nat :=
  if c.isDigit then some (c.toNat - 48)
  else if 'a' ≤ c ∧ c ≤ 'f' then some (c.toNat - 87)
  else if 'A' ≤ c ∧ c ≤ 'F' then some (c.toNat - 55)
  else none

/-- A hexadecimal digit. -/
def isHex (c : Char) : Bool := (hexValue? c).isSome

/-- The byte that two hexadecimal digits write. -/
def hexByte? (a b : Char) : Option Nat :=
  match hexValue? a, hexValue? b with
  | some x, some y => some (16 * x + y)
  | _, _ => none

/-! ### Text -/

/-- The digit of a value below sixteen, with small letters. -/
def hexDigit (n : Nat) : Char := Char.ofNat (if n < 10 then n + 48 else n + 87)

/-- A group of an address without zeros in front. -/
def groupText (n : Nat) : List Char := (Nat.toDigits 16 n)

/-- The longest run of zeros in a list, by start and length; of several the first one. -/
def longestZeros (groups : List Nat) : Nat × Nat :=
  let runs := (List.range groups.length).map fun i => (i, ((groups.drop i).takeWhile (· == 0)).length)
  runs.foldl (fun best run => if best.2 < run.2 then run else best) (0, 0)

/-- Groups between colons. -/
def groupsText (groups : List Nat) : List Char := [':'].intercalate (groups.map groupText)

/-- A byte in decimal. -/
def byteText (n : Nat) : List Char := Nat.toDigits 10 n

/-- An address of version six: the longest run of zeros is left out, and an address that stands for one of
version four ends in decimal. -/
def addressText (groups : List Nat) : List Char :=
  match groups with
  | [0, 0, 0, 0, 0, 0xffff, a, b] =>
    "::ffff:".toList ++ ['.'].intercalate ([a / 256, a % 256, b / 256, b % 256].map byteText)
  | groups =>
    let (at_, count) := longestZeros groups
    if count < 2 then groupsText groups
    else groupsText (groups.take at_) ++ [':', ':'] ++ groupsText (groups.drop (at_ + count))

/-- The text of a host. -/
def Host.text : Host → List Char
  | address groups => '[' :: addressText groups ++ [']']
  | later t => '[' :: t ++ [']']
  | name t => t

/-- The text of an authority, without the slashes. -/
def Authority.text (a : Authority) : List Char :=
  (match a.user with
    | some u => u ++ ['@']
    | none => []) ++ a.host.text ++
  match a.service with
  | some p => ':' :: p
  | none => []

/-- The text of a reference. -/
def text (u : Uri) : String :=
  String.ofList <|
    (match u.scheme with
      | some s => s ++ [':']
      | none => []) ++
    (match u.authority with
      | some a => '/' :: '/' :: a.text
      | none => []) ++ u.path ++
    (match u.query with
      | some q => '?' :: q
      | none => []) ++
    match u.fragment with
    | some f => '#' :: f
    | none => []

/-- Without the fragment. -/
def withoutFragment (u : Uri) : Uri := { u with fragment := none }

/-! ### Escaped bytes -/

/-- The bytes of a text, with those that are written as percent signs and digits. -/
def percentBytes : List Char → List UInt8
  | [] => []
  | [c] => c.toString.toUTF8.toList
  | [c, d] => c.toString.toUTF8.toList ++ d.toString.toUTF8.toList
  | c :: a :: b :: rest =>
    match if c = '%' then hexByte? a b else none with
    | some x => UInt8.ofNat x :: percentBytes rest
    | none => c.toString.toUTF8.toList ++ percentBytes (a :: b :: rest)

/-- A text with its escaped bytes decoded, if that gives a text. -/
def percentDecode? (s : String) : Option String :=
  String.fromUTF8? (ByteArray.mk (percentBytes s.toList).toArray)

end Uri

end TraitWeave
