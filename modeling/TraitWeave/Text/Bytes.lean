/-!
# Bytes in texts

Bytes are written as texts in base 64, and texts are written as bytes.

* `Base64.decode?`: the bytes that a text writes in base 64.
* `Utf8.read`: the text that bytes write, or why they write none.
-/

namespace TraitWeave

namespace Base64

/-- The value of a digit. -/
def digit? (c : Char) : Option Nat :=
  if 'A' ≤ c ∧ c ≤ 'Z' then some (c.toNat - 65)
  else if 'a' ≤ c ∧ c ≤ 'z' then some (c.toNat - 71)
  else if c.isDigit then some (c.toNat + 4)
  else if c = '+' then some 62
  else if c = '/' then some 63
  else none

/-- Four digits write three bytes; at the end, signs of equality stand for missing bytes, and what is left of
a digit must be zero. -/
def decodeChars : List Char → Option (List Nat)
  | [] => some []
  | a :: b :: c :: d :: rest =>
    match digit? a, digit? b with
    | some x, some y =>
      if c = '=' ∧ d = '=' ∧ rest.isEmpty then
        if y % 16 = 0 then some [x * 4 + y / 16] else none
      else
        match digit? c with
        | none => none
        | some z =>
          let two := [x * 4 + y / 16, y % 16 * 16 + z / 4]
          if d = '=' ∧ rest.isEmpty then if z % 4 = 0 then some two else none
          else
            match digit? d with
            | none => none
            | some w => (decodeChars rest).map fun more => two ++ (z % 4 * 64 + w) :: more
    | _, _ => none
  | _ => none

/-- The bytes that a text writes in base 64. -/
def decode? (s : String) : Option (List Nat) := decodeChars s.toList

end Base64

namespace Utf8

/-- Why bytes write no text: after how many of them, and how many are wrong; or the last character is not
complete. -/
inductive Fault where
  | wrong (count index : Nat)
  | incomplete (index : Nat)
  deriving DecidableEq, Repr

/-- The wording. -/
def Fault.message : Fault → String
  | wrong n i => "invalid utf-8 sequence of " ++ toString n ++ " bytes from index " ++ toString i
  | incomplete i => "incomplete utf-8 byte sequence from index " ++ toString i

/-- How many bytes follow the first one of a character, and the bounds of the second. -/
def shape? (first : Nat) : Option (Nat × Nat × Nat) :=
  if first < 0x80 then some (0, 0, 0)
  else if 0xc2 ≤ first ∧ first ≤ 0xdf then some (1, 0x80, 0xbf)
  else if first = 0xe0 then some (2, 0xa0, 0xbf)
  else if first = 0xed then some (2, 0x80, 0x9f)
  else if 0xe1 ≤ first ∧ first ≤ 0xef then some (2, 0x80, 0xbf)
  else if first = 0xf0 then some (3, 0x90, 0xbf)
  else if first = 0xf4 then some (3, 0x80, 0x8f)
  else if 0xf1 ≤ first ∧ first ≤ 0xf3 then some (3, 0x80, 0xbf)
  else none

/-- The first fault among bytes that follow the first one of a character; `done` of them were right. -/
def followFault (index : Nat) : Nat → Nat → Nat → Nat → List Nat → Option Fault
  | 0, _, _, _, _ => none
  | _ + 1, _, _, _, [] => some (.incomplete index)
  | n + 1, done, low, high, b :: bs =>
    if low ≤ b ∧ b ≤ high then followFault index n (done + 1) 0x80 0xbf bs
    else some (.wrong (done + 1) index)

/-- The first fault of bytes, of which `skip` belong to a character that was seen already. -/
def firstFault : Nat → Nat → List Nat → Option Fault
  | _, _, [] => none
  | i, skip + 1, _ :: bs => firstFault (i + 1) skip bs
  | i, 0, b :: bs =>
    match shape? b with
    | none => some (.wrong 1 i)
    | some (n, low, high) => (followFault i n 0 low high bs).or (firstFault (i + 1) n bs)

/-- The text that bytes write, or why they write none. -/
def read (bytes : List Nat) : Except String String :=
  match String.fromUTF8? (ByteArray.mk (bytes.map UInt8.ofNat).toArray) with
  | some s => .ok s
  | none => .error (((firstFault 0 0 bytes).map Fault.message).getD "")

end Utf8

end TraitWeave
