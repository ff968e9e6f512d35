import TraitWeave.Interface.Basic
import TraitWeave.Tree.Edit

/-!
# Writing interfaces to files

Interfaces are written into one directory, each to a file of its own, and after them a file that exports
all of them.

* `Interface.artifacts`: the names and texts of the files.
* `Tree.writeArtifacts`: write them.
* `ArtifactError.written`: what was written before a failure.
-/

namespace TraitWeave

/-- Why the files could not be written. -/
inductive ArtifactError where
  | directory (path : Path) (reason : TreeError)
  | file (path : Path) (reason : TreeError)
  deriving DecidableEq, Repr

/-- The wording. -/
def ArtifactError.message : ArtifactError → String
  | directory path reason =>
    "Failed to create output directory " ++ path.text ++ ": " ++ reason.message
  | file path reason => "Failed to write " ++ path.text ++ ": " ++ reason.message

/-- The name of the file that exports all interfaces. -/
def Interface.barrelName : String := "index.ts"

/-- The names and texts of the files, in the order in which they are written. -/
def Interface.artifacts (is : List Interface) : List (String × String) :=
  is.map (fun i => (i.fileName, i.content)) ++
    [(barrelName, barrel (is.map fileName))]

/-- The files in a directory that were written before a failure. -/
def ArtifactError.written (dir : Path) (is : List Interface) : ArtifactError → List Path
  | directory _ _ => []
  | file path _ => ((Interface.artifacts is).map fun a => dir.child a.1).takeWhile (· ≠ path)

namespace Tree

/-- A file with a text. -/
def newFile (text : String) : StoredFile := ⟨some text, text.utf8ByteSize, 0⟩

/-- Write files one after the other; those before a failure stay. -/
def writeEach (dir : Path) (t : Tree) : List (String × String) → Tree × Except ArtifactError (List Path)
  | [] => (t, .ok [])
  | (name, text) :: rest =>
    let path := dir.child name
    match t.write path (newFile text) with
    | .error e => (t, .error (.file path e))
    | .ok t =>
      let (t, more) := writeEach dir t rest
      (t, more.map (path :: ·))

/-- Write interfaces into a directory, which is made if it is not there. -/
def writeArtifacts (t : Tree) (dir : Path) (is : List Interface) :
    Tree × Except ArtifactError (List Path) :=
  match t.makeDirectories dir with
  | .error e => (t, .error (.directory dir e))
  | .ok t => writeEach dir t (Interface.artifacts is)

end Tree

end TraitWeave
