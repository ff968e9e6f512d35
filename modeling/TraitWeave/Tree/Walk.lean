import TraitWeave.Tree.Basic

/-!
# Walking trees

A walk visits what lies below a path, directories before their contents. Some directories may be passed
over, and links may be followed; a link to a directory in which the walk already is is an error.

* `Walk`: what to enter and whether links are followed.
* `Walk.below`: everything that is visited, with its path, and the errors on the way.
-/

namespace TraitWeave

/-- How to walk. -/
structure Walk where
  /-- Links are followed. -/
  links : Bool
  /-- The names of directories that are entered. -/
  enters : String → Bool

/-- Something that is visited, or an error with its path. -/
inductive Visit where
  | entry (path : Path) (entry : Entry)
  | failed (path : Path) (message : String)

namespace Walk

/-- A directory in which the walk is, and where it lies. -/
structure Level where
  path : Path
  location : Location

/-- An error on a path. -/
def failure (path : Path) (e : TreeError) : Visit :=
  .failed path ("IO error for operation on " ++ path.text ++ ": " ++ e.message)

/-- A link into a directory in which the walk is. -/
def loopFailure (path : Path) (ancestor : Path) : Visit :=
  .failed path ("File system loop found: " ++ path.text ++ " points to an ancestor " ++ ancestor.text)

/-- What stands at a location, with links followed if that is wanted: where it lies, and what it is. -/
def lookAt (w : Walk) (t : Tree) (levels : List Level) (path : Path) (loc : Location) (e : Entry) :
    Except Visit (Location × Entry) :=
  match e with
  | .link _ =>
    if w.links then
      match Tree.follow t.root true Tree.linkLimit loc.dropLast [.down (loc.getLast?.getD "")] with
      | .error err => .error (failure path err)
      | .ok (there, .directory es) =>
        match levels.find? fun l => l.location == there with
        | some l => .error (loopFailure path l.path)
        | none => .ok (there, .directory es)
      | .ok found => .ok found
    else .ok (loc, e)
  | e => .ok (loc, e)

/-- Visit an entry and what lies below it. The walk never is in one directory twice, so the number of
entries bounds its depth. -/
def visit (w : Walk) (t : Tree) : Nat → List Level → Path → Location → Entry → List Visit
  | 0, _, _, _, _ => []
  | fuel + 1, levels, path, loc, e =>
    match w.lookAt t levels path loc e with
    | .error v => [v]
    | .ok (there, .directory es) =>
      if !levels.isEmpty && !w.enters ((path.fileName?).getD "") then []
      else
        .entry path (.directory es) ::
          es.flatMap fun (n, d) => visit w t fuel (⟨path, there⟩ :: levels) (path.child n) (there ++ [n]) d
    | .ok (_, found) => [.entry path found]

/-- Everything below a path, itself included; a link there is followed to a directory in any case. -/
def below (w : Walk) (t : Tree) (p : Path) : List Visit :=
  match t.resolveWith false p with
  | .error e => [failure p e]
  | .ok (loc, e) =>
    let fuel := t.root.count + 1
    match e, t.resolve p with
    | .link _, .ok (there, .directory es) => w.visit t fuel [] p there (.directory es)
    | _, _ => w.visit t fuel [] p loc e

end Walk

end TraitWeave
