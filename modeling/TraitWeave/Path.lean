import TraitWeave.Text.Pieces

/-!
# Paths

A path is kept as it is written, and compared by its components: repeated separators, a separator at the
end and single dots inside make no difference.

* `Path.components`: what a path is made of.
* `Path.join`, `Path.fileName?`, `Path.extension?`, `Path.parent?`.
* `Path.compareTo`, `Path.same`: the order of paths and their equality.
-/

namespace TraitWeave

/-- A path as it is written. -/
structure Path where
  text : String
  deriving DecidableEq, Repr

namespace Path

/-- A part of a path. -/
inductive Component where
  | root
  | here
  | up
  | name (text : String)
  deriving DecidableEq, Repr

/-- Starts at the root. -/
def isAbsolute (p : Path) : Bool := p.text.toList.head? == some '/'

/-- The components after the first character position; a single dot counts only at the start of a
relative path. -/
def componentsOf (first : Bool) : List (List Char) → List Component
  | [] => []
  | w :: ws =>
    if w.isEmpty then componentsOf false ws
    else if w = ['.'] then (if first then .here :: componentsOf false ws else componentsOf false ws)
    else if w = ['.', '.'] then .up :: componentsOf false ws
    else .name (String.ofList w) :: componentsOf false ws

/-- What a path is made of. -/
def components (p : Path) : List Component :=
  let parts := Text.pieces (· == '/') p.text.toList
  if p.isAbsolute then .root :: componentsOf false parts else componentsOf true parts

/-- A component as it is written. -/
def Component.text : Component → String
  | root => "/"
  | here => "."
  | up => ".."
  | name s => s

/-- The path with the given components. -/
def ofComponents : List Component → Path
  | .root :: rest => ⟨"/" ++ "/".intercalate (rest.map Component.text)⟩
  | cs => ⟨"/".intercalate (cs.map Component.text)⟩

/-- One path below another; an absolute path stands by itself. -/
def join (p q : Path) : Path :=
  if q.isAbsolute || p.text.isEmpty then q
  else if p.text.toList.getLast? == some '/' then ⟨p.text ++ q.text⟩
  else ⟨p.text ++ "/" ++ q.text⟩

/-- A path below another, given as a text. -/
def child (p : Path) (name : String) : Path := p.join ⟨name⟩

/-- The last component, where it is a name. -/
def fileName? (p : Path) : Option String :=
  match p.components.getLast? with
  | some (.name s) => some s
  | _ => none

/-- A file name cut at its last dot, when something stands before the dot. -/
def cutExtension (name : List Char) : Option (List Char × List Char) :=
  let after := name.reverse.takeWhile (· ≠ '.')
  if after.length = name.length then none
  else
    let before := name.take (name.length - after.length - 1)
    if before.isEmpty then none else some (before, after.reverse)

/-- The file name from after its last dot on, where something stands before the dot. -/
def extension? (p : Path) : Option String :=
  p.fileName?.bind fun n => (cutExtension n.toList).map fun (_, e) => String.ofList e

/-- The path without its last component; the root and the empty path have no parent. -/
def parent? (p : Path) : Option Path :=
  match p.components with
  | [] => none
  | [.root] => none
  | cs => some (ofComponents cs.dropLast)

/-- The place of a kind of component in the order. -/
def Component.rank : Component → Nat
  | root => 0
  | here => 1
  | up => 2
  | name _ => 3

/-- The order of components: by kind, and names by their characters. -/
def Component.compare : Component → Component → Ordering
  | name a, name b => Ord.compare a b
  | a, b => Ord.compare a.rank b.rank

/-- The order of component lists: the first difference counts, and a prefix comes first. -/
def compareComponents : List Component → List Component → Ordering
  | [], [] => .eq
  | [], _ :: _ => .lt
  | _ :: _, [] => .gt
  | a :: as, b :: bs =>
    match a.compare b with
    | .eq => compareComponents as bs
    | o => o

/-- The order of paths, by component. -/
def compareTo (p q : Path) : Ordering := compareComponents p.components q.components

/-- The same path, however it is written. -/
def same (p q : Path) : Bool := p.components == q.components

end Path

end TraitWeave
