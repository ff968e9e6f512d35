import TraitWeave.Files
import TraitWeave.Registry.Snapshot
import TraitWeave.Text.Lower
import TraitWeave.Tree.Walk

/-!
# Scanning for object files

Every file below a root whose name has one of the endings asked for, in any letter case, is found with its
stamp. Links are followed. What cannot be read is told beside the files.

* `Scan`: the files found and the errors on the way.
* `Scan.of`: scan some roots.
* `Survey`: a scan with the files as they stand at its moment.
-/

namespace TraitWeave

/-- What files are sought. -/
structure ScanRules where
  /-- The endings of the names of files. -/
  extensions : List String
  /-- The names of directories that are passed over. -/
  ignored : List String
  deriving DecidableEq, Repr

namespace ScanRules

/-- The rules where nothing else is said. -/
def standard : ScanRules where
  extensions := [".object.yaml", ".object.yml", ".object.json"]
  ignored := ["node_modules", ".git", "target", "dist", "build"]

/-- Whether a file of that name is sought. -/
def accepts (r : ScanRules) (name : String) : Bool :=
  r.extensions.any fun e => Text.endsWith (Text.lower name) (Text.lower e)

/-- Whether a directory of that name is entered. -/
def enters (r : ScanRules) (name : String) : Bool :=
  name.toList.head? != some '.' && !r.ignored.contains name

end ScanRules

/-- What a scan finds. -/
structure Scan where
  snapshot : Snapshot
  errors : List (Path × String)

namespace Scan

/-- A scan that has seen nothing. -/
def empty : Scan := ⟨[], []⟩

/-- A scan that has seen one thing more. -/
def see (rules : ScanRules) (s : Scan) : Visit → Scan
  | .failed path message => { s with errors := s.errors ++ [(path, message)] }
  | .entry path (.file f) =>
    if (path.fileName?.map rules.accepts).getD false then
      { s with snapshot := PathTable.put s.snapshot path ⟨f.time, f.size⟩ }
    else s
  | _ => s

/-- Scan some roots; one that is not there is passed over. -/
def of (t : Tree) (rules : ScanRules) (roots : List Path) : Scan :=
  ((roots.filter t.has).flatMap ((Walk.mk true rules.enters).below t)).foldl (see rules) empty

end Scan

/-- What is found at one moment: what can be read, and what a scan sees. -/
structure Survey where
  files : Files
  scan : Scan

/-- The survey of some roots. -/
def Survey.of (t : Tree) (rules : ScanRules) (roots : List Path) : Survey :=
  ⟨t.files, Scan.of t rules roots⟩

end TraitWeave
