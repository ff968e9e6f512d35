import TraitWeave.Text.Position
import TraitWeave.Uri.Basic

/-!
# Reading references

A reference is read from the left, part by part; what is wrong with it is said with the number of bytes in
front of the fault.

* `Uri.Fault`, `Fault.message`: what can be wrong.
* `Uri.read`: the reference that a text writes.
-/

namespace TraitWeave.Uri

/-- What can be wrong with the text of a reference, and how many bytes stand in front. -/
inductive Fault where
  | octet (index : Nat)
  | character (index : Nat)
  | address (index : Nat)
  deriving DecidableEq, Repr

/-- The wording. -/
def Fault.message : Fault → String
  | octet i => "invalid percent-encoded octet at index " ++ toString i
  | character i => "unexpected character at index " ++ toString i
  | address i => "invalid IPv6 address at index " ++ toString i

/-- Which characters a text may have. -/
inductive Alphabet where
  | ascii
  /-- Characters of all scripts, without private ones. -/
  | international
  deriving DecidableEq, Repr

namespace Alphabet

/-- The characters outside ASCII that stand in international references. -/
def internationalRanges : List (Nat × Nat) := [
  (0xa0, 0xd7ff), (0xf900, 0xfdcf), (0xfdf0, 0xffef), (0x10000, 0x1fffd), (0x20000, 0x2fffd),
  (0x30000, 0x3fffd), (0x40000, 0x4fffd), (0x50000, 0x5fffd), (0x60000, 0x6fffd), (0x70000, 0x7fffd),
  (0x80000, 0x8fffd), (0x90000, 0x9fffd), (0xa0000, 0xafffd), (0xb0000, 0xbfffd), (0xc0000, 0xcfffd),
  (0xd0000, 0xdfffd), (0xe1000, 0xefffd)]

/-- Private characters, which only queries have. -/
def privateRanges : List (Nat × Nat) := [(0xe000, 0xf8ff), (0xf0000, 0xffffd), (0x100000, 0x10fffd)]

/-- A character lies in one of some ranges. -/
def within (ranges : List (Nat × Nat)) (c : Char) : Bool :=
  ranges.any fun (a, b) => a ≤ c.toNat && c.toNat ≤ b

/-- The characters of names. -/
def inName (a : Alphabet) (c : Char) : Bool :=
  isUnreserved c || isDelimiter c || (a == .international && within internationalRanges c)

/-- The characters of a user and a service. -/
def inUser (a : Alphabet) (c : Char) : Bool := a.inName c || c == ':'

/-- The characters of a step of a path before any colon. -/
def inFirstStep (a : Alphabet) (c : Char) : Bool := a.inName c || c == '@'

/-- The characters of a path. -/
def inPath (a : Alphabet) (c : Char) : Bool := a.inName c || [':', '@', '/'].contains c

/-- The characters of a fragment. -/
def inFragment (a : Alphabet) (c : Char) : Bool := a.inPath c || c == '?'

/-- The characters of a query. -/
def inQuery (a : Alphabet) (c : Char) : Bool :=
  a.inFragment c || (a == .international && within privateRanges c)

end Alphabet

/-- The text that is still to be read, and the number of bytes in front of it. -/
structure Rest where
  offset : Nat
  chars : List Char
  deriving DecidableEq, Repr

/-- After one more byte, which stands in front of `cs`. -/
def Rest.skip (r : Rest) (cs : List Char) : Rest := ⟨r.offset + 1, cs⟩

/-- Read characters and escaped bytes as long as they are allowed. -/
def scanFrom (allowed : Char → Bool) : Nat → List Char → Except Fault (List Char × Rest)
  | i, [] => .ok ([], ⟨i, []⟩)
  | i, '%' :: a :: b :: cs =>
    if isHex a && isHex b then
      (scanFrom allowed (i + 3) cs).map fun (read, rest) => ('%' :: a :: b :: read, rest)
    else .error (.octet i)
  | i, c :: cs =>
    if c = '%' then .error (.octet i)
    else if allowed c then
      (scanFrom allowed (i + c.utf8Size) cs).map fun (read, rest) => (c :: read, rest)
    else .ok ([], ⟨i, c :: cs⟩)

/-- Read characters and escaped bytes as long as they are allowed. -/
def Rest.scan (r : Rest) (allowed : Char → Bool) : Except Fault (List Char × Rest) :=
  scanFrom allowed r.offset r.chars

/-- Read characters of one byte as long as a test holds. -/
def Rest.spanOf (r : Rest) (test : Char → Bool) : List Char × Rest :=
  let read := r.chars.takeWhile test
  (read, ⟨r.offset + read.length, r.chars.drop read.length⟩)

/-! ### Addresses -/

/-- A part of an address of version four: a number up to 255 without zeros in front. -/
def readByte (cs : List Char) : Option (Nat × List Char) :=
  match (cs.takeWhile Char.isDigit).take 3 with
  | [] => none
  | '0' :: _ => some (0, cs.drop 1)
  | ds =>
    let n := ds.foldl (fun n d => 10 * n + (d.toNat - 48)) 0
    if n ≤ 255 then some (n, cs.drop ds.length) else none

/-- What follows a dot. -/
def afterDot : List Char → Option (List Char)
  | '.' :: cs => some cs
  | _ => none

/-- The address of version four at the start of a text, as two groups. -/
def readDecimals (cs : List Char) : Option (List Nat × List Char) := do
  let (a, cs) ← readByte cs
  let (b, cs) ← readByte (← afterDot cs)
  let (c, cs) ← readByte (← afterDot cs)
  let (d, cs) ← readByte (← afterDot cs)
  pure ([256 * a + b, 256 * c + d], cs)

/-- What stands next in an address of version six. -/
inductive AddressStep where
  | group (afterColon : Bool) (value : Nat) (rest : List Char)
  | gap (rest : List Char)
  | decimals (afterColon : Bool) (rest : List Char)
  | stop (rest : List Char)

/-- Read a group, a gap, or see that an address of version four follows. -/
def addressStep (cs : List Char) : AddressStep :=
  let (colon, body) := match cs with
    | ':' :: r => (true, r)
    | r => (false, r)
  let digits := (body.takeWhile isHex).take 4
  match digits with
  | [] =>
    match colon, body with
    | true, ':' :: r => .gap r
    | _, r => .stop r
  | ds =>
    let after := body.drop ds.length
    if ds.length < 4 && after.head? == some '.' then .decimals colon body
    else .group colon (ds.foldl (fun n d => 16 * n + (hexValue? d).getD 0) 0) after

/-- Read the groups of an address, given those in front and the position of the gap. -/
def addressGroups : Nat → List Nat → Option Nat → List Char → Option (List Nat × Option Nat × List Char)
  | 0, done, gap, cs => some (done, gap, cs)
  | fuel + 1, done, gap, cs =>
    if done.length = 8 then some (done, gap, cs)
    else
      let noColonHere := gap == some done.length
      match addressStep cs with
      | .group colon n rest =>
        if colon == (done.isEmpty || noColonHere) then none
        else addressGroups fuel (done ++ [n]) gap rest
      | .gap rest => if gap.isSome then none else addressGroups fuel done (some done.length) rest
      | .decimals colon rest =>
        if 6 < done.length || colon == (done.isEmpty || noColonHere) then none
        else (readDecimals rest).map fun (two, rest) => (done ++ two, gap, rest)
      | .stop rest => some (done, gap, rest)

/-- The address of version six at the start of a text. -/
def readAddress (cs : List Char) : Option (List Nat × List Char) :=
  match addressGroups 18 [] none cs with
  | some (groups, none, rest) => if groups.length = 8 then some (groups, rest) else none
  | some (groups, some at_, rest) =>
    if groups.length < 8 then
      some (groups.take at_ ++ List.replicate (8 - groups.length) 0 ++ groups.drop at_, rest)
    else none
  | none => none

/-- Read an address of a later version. -/
def readLater (r : Rest) : Except Fault (Host × Rest) :=
  match r.chars with
  | c :: cs =>
    if c = 'v' ∨ c = 'V' then
      let (version, r) := (r.skip cs).spanOf isHex
      match version, r.chars with
      | _ :: _, '.' :: cs =>
        let (body, r) := (r.skip cs).spanOf fun c => isUnreserved c || isDelimiter c || c == ':'
        if body.isEmpty then .error (.character r.offset) else .ok (.later (c :: version ++ '.' :: body), r)
      | _, _ => .error (.character r.offset)
    else .error (.character r.offset)
  | [] => .error (.character r.offset)

/-- Read what stands between brackets, and the closing one. -/
def readLiteral (r : Rest) : Except Fault (Host × Rest) := do
  let (host, rest) ←
    match readAddress r.chars with
    | some (groups, rest) =>
      pure (Host.address groups, (⟨r.offset + (r.chars.length - rest.length), rest⟩ : Rest))
    | none =>
      if (r.chars.head?.any fun c => isHex c || c == ':') then throw (.address r.offset) else readLater r
  match rest.chars with
  | ']' :: cs => pure (host, rest.skip cs)
  | _ => throw (.character rest.offset)

/-- Read a service, if a colon stands next. -/
def readService (r : Rest) : Option (List Char) × Rest :=
  match r.chars with
  | ':' :: cs => let (service, rest) := (r.skip cs).spanOf Char.isDigit; (some service, rest)
  | _ => (none, r)

/-- Read a host. -/
def readHost (a : Alphabet) (r : Rest) : Except Fault (Host × Rest) :=
  match r.chars with
  | '[' :: cs => readLiteral (r.skip cs)
  | _ => (r.scan a.inName).map fun (name, rest) => (.name name, rest)

/-- The host and the service that a text without user and brackets writes, at some offset. -/
def hostAndService (offset : Nat) (cs : List Char) : Except Fault Authority :=
  let name := cs.takeWhile (· ≠ ':')
  match cs.drop name.length with
  | ':' :: service =>
    if service.contains ':' then
      let before := (cs.reverse.dropWhile (· ≠ ':')).reverse.dropLast
      .error (.character (offset + Text.byteCount before))
    else
      let digits := service.takeWhile Char.isDigit
      if digits.length = service.length then .ok ⟨none, .name name, some service⟩
      else .error (.character (offset + Text.byteCount name + 1 + digits.length))
  | _ => .ok ⟨none, .name name, none⟩

/-- Read an authority. -/
def readAuthority (a : Alphabet) (r : Rest) : Except Fault (Authority × Rest) := do
  let (all, rest) ← r.scan a.inUser
  match all, rest.chars with
  | user, '@' :: cs =>
    let (host, rest) ← readHost a (rest.skip cs)
    let (service, rest) := readService rest
    pure (⟨some user, host, service⟩, rest)
  | [], '[' :: cs =>
    let (host, rest) ← readLiteral (rest.skip cs)
    let (service, rest) := readService rest
    pure (⟨none, host, service⟩, rest)
  | all, _ => pure (← hostAndService r.offset all, rest)

/-- Read a query and a fragment, after which nothing may follow. -/
def readTail (a : Alphabet) (scheme : Option (List Char)) (authority : Option Authority) (path : List Char)
    (r : Rest) : Except Fault Uri := do
  let (query, r) ← match r.chars with
    | '?' :: cs => do
      let (q, r) ← (r.skip cs).scan a.inQuery
      pure (some q, r)
    | _ => pure (none, r)
  let (fragment, r) ← match r.chars with
    | '#' :: cs => do
      let (f, r) ← (r.skip cs).scan a.inFragment
      pure (some f, r)
    | _ => pure (none, r)
  if r.chars.isEmpty then pure ⟨scheme, authority, path, query, fragment⟩ else throw (.character r.offset)

/-- Read what follows the two slashes: the authority, and a path that is empty or starts with a slash. -/
def readFromAuthority (a : Alphabet) (scheme : Option (List Char)) (r : Rest) : Except Fault Uri := do
  let (authority, r) ← readAuthority a r
  let (path, rest) ← r.scan a.inPath
  if path.head?.any (· ≠ '/') then throw (.character r.offset)
  else readTail a scheme (some authority) path rest

/-- Read a path that may be of any form, and the rest. -/
def readFromPath (a : Alphabet) (scheme : Option (List Char)) (r : Rest) : Except Fault Uri := do
  let (path, rest) ← r.scan a.inPath
  readTail a scheme none path rest

/-- Read a reference without a scheme. The first step of its path has no colon. -/
def readRelative (a : Alphabet) (r : Rest) : Except Fault Uri :=
  match r.chars with
  | '/' :: '/' :: cs => readFromAuthority a none ⟨r.offset + 2, cs⟩
  | _ => do
    let (_, rest) ← r.scan a.inFirstStep
    if rest.chars.head? = some ':' then throw (.character rest.offset) else readFromPath a none r

/-- The reference that a text writes. -/
def read (a : Alphabet) (s : String) : Except Fault Uri :=
  let (name, rest) := (⟨0, s.toList⟩ : Rest).spanOf inScheme
  match rest.chars with
  | ':' :: cs =>
    if name.head?.any Char.isAlpha then
      let rest := rest.skip cs
      match rest.chars with
      | '/' :: '/' :: cs => readFromAuthority a (some name) ⟨rest.offset + 2, cs⟩
      | _ => readFromPath a (some name) rest
    else .error (.character 0)
  | _ => readRelative a ⟨0, s.toList⟩

/-- The URI, with its scheme, that a text writes. -/
def readFull (a : Alphabet) (s : String) : Except Fault Uri :=
  match read a s with
  | .error f => .error f
  | .ok u => if u.scheme.isSome then .ok u else .error (.character 0)

end TraitWeave.Uri
