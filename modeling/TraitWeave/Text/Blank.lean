import TraitWeave.Text.Pieces

/-!
# White space

The characters with the Unicode property White_Space, and the two things done with them.

* `trim` drops them at both ends.
* `words` cuts a text into its maximal runs of other characters.
-/

namespace TraitWeave.Text

/-- The characters with the Unicode property White_Space. -/
def isBlank (c : Char) : Bool :=
  (0x9 ≤ c.val && c.val ≤ 0xd) || c.val == 0x20 || c.val == 0x85 || c.val == 0xa0 ||
    c.val == 0x1680 || (0x2000 ≤ c.val && c.val ≤ 0x200a) || c.val == 0x2028 || c.val == 0x2029 ||
    c.val == 0x202f || c.val == 0x205f || c.val == 0x3000

/-- Without the blanks at both ends. -/
def trimChars (cs : List Char) : List Char :=
  ((cs.dropWhile isBlank).reverse.dropWhile isBlank).reverse

/-- Without the blanks at both ends. -/
def trim (s : String) : String :=
  String.ofList (trimChars s.toList)

/-- A text with nothing but blanks in it. -/
def isAllBlank (s : String) : Bool :=
  s.toList.all isBlank

/-- The maximal runs of characters that are no blanks, in order. -/
def words (s : String) : List String :=
  ((pieces isBlank s.toList).filter fun w => !w.isEmpty).map String.ofList

end TraitWeave.Text
