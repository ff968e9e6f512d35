import TraitWeave.Trait.Library
import TraitWeave.Trait.Request
import TraitWeave.Tree.Walk

/-!
# Finding trait files

Every file below a root whose name has one of the endings of trait files is found, except in directories
that are hidden or hold what others made. Links are not followed.

* `Library.discover`: the files of one root, in the order of their paths.
* `Library.load`: the library of all files below some roots.
-/

namespace TraitWeave.Library

/-- Whether a name is that of a trait file. -/
def isTraitName (name : String) : Bool :=
  Request.endings.any fun e => Text.endsWith name (".trait." ++ e)

/-- Whether a directory of that name is searched. -/
def isSearched (name : String) : Bool :=
  name.toList.head? != some '.' && name != "node_modules" && name != "target"

/-- The path of a visited trait file. -/
def traitFile? : Visit → Option Path
  | .entry path (.file _) => if isTraitName (path.fileName?.getD "") then some path else none
  | _ => none

/-- The trait files below a root, in the order of their paths. -/
def discover (t : Tree) (root : Path) : List Path :=
  if t.has root then
    let found := ((Walk.mk false isSearched).below t root).filterMap traitFile?
    found.mergeSort fun p q => p.compareTo q != .gt
  else []

/-- The library of all trait files below some roots. -/
def load (t : Tree) (roots : List Path) : Library := ofFiles t.files (roots.flatMap (discover t))

end TraitWeave.Library
