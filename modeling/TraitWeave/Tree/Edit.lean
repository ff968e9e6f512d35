import TraitWeave.Tree.Basic

/-!
# Changing trees

* `Tree.makeDirectory`, `Tree.makeDirectories`: new directories.
* `Tree.write`: a file written through links, as programs do.
* `Tree.place`: a file put in one go in the place of what was there.
* `Tree.remove`, `Tree.move`, `Tree.link`.
-/

namespace TraitWeave.Tree

/-- The directory in which the last step of a path is taken, and the name of that step. -/
def parentOf (t : Tree) (p : Path) : Except TreeError (Location × String × Bool) :=
  if p.text.isEmpty then .error .notFound
  else if p.text.toList.contains '\x00' then .error .badName
  else
    let steps := stepsOf p.text
    let named := steps.reverse.dropWhile (· == .stay)
    match named with
    | .down n :: before =>
      match follow t.root true linkLimit (t.startOf p.text) before.reverse with
      | .error e => .error e
      | .ok (loc, .directory _) =>
        if n.utf8ByteSize > 255 then .error .nameTooLong
        else .ok (loc, n, named.length < steps.length)
      | .ok _ => .error .notDirectory
    | _ => .error .exists

/-- The tree with an entry set or removed. -/
def setEntry (t : Tree) (loc : Location) (e : Option Entry) : Tree := { t with root := t.root.set e loc }

/-- A new directory; its parent must be there. -/
def makeDirectory (t : Tree) (p : Path) : Except TreeError Tree :=
  match t.parentOf p with
  | .error e => .error e
  | .ok (loc, n, _) =>
    if (t.root.at? (loc ++ [n])).isSome then .error .exists
    else .ok (t.setEntry (loc ++ [n]) (some (.directory [])))

/-- A directory with all that lead to it, where they are missing. `fuel` bounds how many are. -/
def makeDirectoriesWith : Nat → Tree → Path → Except TreeError Tree
  | 0, _, _ => .error .notFound
  | fuel + 1, t, p =>
    if p.text.isEmpty then .ok t
    else
      match t.makeDirectory p with
      | .ok t => .ok t
      | .error .notFound =>
        match p.parent? with
        | none => .error .notFound
        | some q =>
          match makeDirectoriesWith fuel t q with
          | .error e => .error e
          | .ok t =>
            match t.makeDirectory p with
            | .ok t => .ok t
            | .error e => if t.isDirectory p then .ok t else .error e
      | .error e => if t.isDirectory p then .ok t else .error e

/-- A directory with all that lead to it, where they are missing. -/
def makeDirectories (t : Tree) (p : Path) : Except TreeError Tree :=
  makeDirectoriesWith (p.components.length + 1) t p

/-- Where a file is written: links in the last place are followed, also to what is not there yet. -/
def targetOf : Nat → Tree → Path → Except TreeError Location
  | 0, _, _ => .error .tooManyLinks
  | links + 1, t, p =>
    match t.parentOf p with
    | .error .exists => .error .isDirectory
    | .error e => .error e
    | .ok (loc, n, asDirectory) =>
      match t.root.at? (loc ++ [n]) with
      | some (.directory _) => .error .isDirectory
      | some (.link target) =>
        targetOf links { t with here := loc } ⟨target⟩
      | some (.file _) => if asDirectory then .error .notDirectory else .ok (loc ++ [n])
      | none => if asDirectory then .error .isDirectory else .ok (loc ++ [n])

/-- A file written, new or in place of an old one. -/
def write (t : Tree) (p : Path) (f : StoredFile) : Except TreeError Tree :=
  match targetOf (linkLimit + 1) t p with
  | .error e => .error e
  | .ok loc => .ok (t.setEntry loc (some (.file f)))

/-- The tree with the directories that lead to a path. -/
def withParents (t : Tree) (p : Path) : Except TreeError Tree :=
  match p.parent? with
  | none => .ok t
  | some q => t.makeDirectories q

/-- A file put where a path leads, in place of a file or a link. -/
def place (t : Tree) (p : Path) (f : StoredFile) : Except TreeError Tree := do
  let t ← t.withParents p
  let (loc, n, _) ← t.parentOf p
  match t.root.at? (loc ++ [n]) with
  | some (.directory _) => .error .isDirectory
  | _ => .ok (t.setEntry (loc ++ [n]) (some (.file f)))

/-- Without a file, a link or a directory. -/
def remove (t : Tree) (p : Path) : Except TreeError Tree := do
  let (loc, n, _) ← t.parentOf p
  match t.root.at? (loc ++ [n]) with
  | none => .error .notFound
  | some _ => .ok (t.setEntry (loc ++ [n]) none)

/-- Something moved to another path. A file takes the place of a file, a directory that of an empty one. -/
def move (t : Tree) (p q : Path) : Except TreeError Tree := do
  let t ← t.withParents q
  let (loc, n, _) ← t.parentOf p
  let (there, m, _) ← t.parentOf q
  let source := loc ++ [n]
  let goal := there ++ [m]
  match t.root.at? source, t.root.at? goal with
  | none, _ => .error .notFound
  | some (.directory es), old =>
    if source = goal then .ok t
    else if source.isPrefixOf goal then .error .notEmpty
    else
      match old with
      | none => .ok ((t.setEntry source none).setEntry goal (some (.directory es)))
      | some (.directory []) => .ok ((t.setEntry source none).setEntry goal (some (.directory es)))
      | some (.directory _) => .error .notEmpty
      | some _ => .error .notDirectory
  | some _, some (.directory _) => .error .isDirectory
  | some e, _ => if source = goal then .ok t else .ok ((t.setEntry source none).setEntry goal (some e))

/-- A new link. -/
def link (t : Tree) (p : Path) (target : String) : Except TreeError Tree := do
  let t ← t.withParents p
  let (loc, n, _) ← t.parentOf p
  if target.isEmpty then .error .notFound
  else
    match t.root.at? (loc ++ [n]) with
    | some _ => .error .exists
    | none => .ok (t.setEntry (loc ++ [n]) (some (.link target)))

end TraitWeave.Tree
