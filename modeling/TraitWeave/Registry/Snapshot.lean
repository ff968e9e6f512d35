import TraitWeave.PathTable

/-!
# Snapshots

A snapshot lists files with the time and size that they had, in the order of their paths.

* `Snapshot.diff`: what was added, changed and removed between two snapshots.
-/

namespace TraitWeave

/-- Time of last change in milliseconds, and size in bytes. -/
structure Stamp where
  time : Nat
  size : Nat
  deriving DecidableEq, Repr

/-- Files and their stamps, in the order of the paths. -/
abbrev Snapshot := PathTable Stamp

namespace Snapshot

/-- What differs between two snapshots, each list in the order of the paths. -/
structure Diff where
  added : List Path
  changed : List Path
  removed : List Path
  deriving DecidableEq, Repr

/-- Nothing differs. -/
def Diff.isEmpty (d : Diff) : Bool := d.added.isEmpty && d.changed.isEmpty && d.removed.isEmpty

/-- Whether a path had another stamp before. -/
def isChanged (previous : Snapshot) (p : Path) (stamp : Stamp) : Bool :=
  match PathTable.get? previous p with
  | some old => old != stamp
  | none => false

/-- What differs between a snapshot and a later one. -/
def diff (previous current : Snapshot) : Diff where
  added := (current.filter fun e => !PathTable.has previous e.1).map Prod.fst
  changed := (current.filter fun e => isChanged previous e.1 e.2).map Prod.fst
  removed := (previous.filter fun e => !PathTable.has current e.1).map Prod.fst

end Snapshot

end TraitWeave
