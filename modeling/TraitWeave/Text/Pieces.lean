/-!
# Cutting text at separators

Text is cut on its characters, so that the cuts can be reasoned about as list functions.

* `pieces`: the parts between the characters that a test accepts, empty ones kept.
* `cutAt`: the parts between the occurrences of a separator word.
* `joined`: parts glued together again.
* `endsWith`: whether a text ends with another.
-/

namespace TraitWeave.Text

/-- The parts of `cs` between the characters that `sep` accepts; `n` separators give `n + 1` parts. -/
def pieces (sep : Char → Bool) : List Char → List (List Char)
  | [] => [[]]
  | c :: cs =>
    if sep c then [] :: pieces sep cs
    else
      match pieces sep cs with
      | [] => [[c]]
      | p :: ps => (c :: p) :: ps

/-- The rest of `cs` after the word `w`, when `cs` starts with it. -/
def afterWord : List Char → List Char → Option (List Char)
  | [], cs => some cs
  | _ :: _, [] => none
  | w :: ws, c :: cs => if w = c then afterWord ws cs else none

/-- Prepend a character to the first part. -/
def consHead (c : Char) : List (List Char) → List (List Char)
  | [] => [[c]]
  | p :: ps => (c :: p) :: ps

/-- The parts of `cs` between the occurrences of the two-character separator `a b`, read from the left. -/
def cutAtPair (a b : Char) : List Char → List (List Char)
  | [] => [[]]
  | [c] => [[c]]
  | c :: d :: cs =>
    if c = a ∧ d = b then [] :: cutAtPair a b cs
    else consHead c (cutAtPair a b (d :: cs))

/-- Glue parts together with `sep` between them. -/
def joined (sep : String) (parts : List String) : String :=
  sep.intercalate parts

/-- The lines of a text: cut at line feeds, a carriage return before one goes with it, and a last
empty part is no line. -/
def lines (s : String) : List String :=
  let parts := pieces (· == '\n') s.toList
  let ended := parts.dropLast
  let last := parts.getLast?.getD []
  let chomp (cs : List Char) : List Char :=
    if cs.getLast? = some '\r' then cs.dropLast else cs
  (ended.map fun p => String.ofList (chomp p)) ++
    if last.isEmpty then [] else [String.ofList last]

/-- Whether a text ends with another. -/
def endsWith (s ending : String) : Bool := ending.toList.isSuffixOf s.toList

/-- Case-insensitive equality of the ASCII letters; other characters must be the same. -/
def eqIgnoringAsciiCase (s t : String) : Bool :=
  s.toList.map Char.toLower == t.toList.map Char.toLower

end TraitWeave.Text
