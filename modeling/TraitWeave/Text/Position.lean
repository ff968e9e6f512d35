/-!
# Places in a text

A place is a line and a column, both counted from one unless said otherwise; columns count bytes.

* `Place.ofByteIndex`: the place reached after so many bytes.
-/

namespace TraitWeave.Text

/-- A line and a column. -/
structure Place where
  line : Nat
  column : Nat
  deriving DecidableEq, Repr

/-- The place after the first `index` bytes: the number of lines begun, and the number of bytes after
the last line feed among them. -/
def Place.ofByteIndex (text : String) (index : Nat) : Place :=
  let passed := text.toUTF8.toList.take index
  let lines := passed.foldl (fun n b => if b = 10 then n + 1 else n) 1
  ⟨lines, (passed.reverse.takeWhile (· ≠ 10)).length⟩

/-- The number of bytes of a list of characters. -/
def byteCount (cs : List Char) : Nat :=
  cs.foldl (fun n c => n + c.utf8Size) 0

end TraitWeave.Text
