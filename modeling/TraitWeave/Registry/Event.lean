import TraitWeave.Registry.Record

/-!
# What a registry tells

* `Diagnostic`: what is wrong with a file, or with a path on the way to the files.
* `Event`: what a refresh did to the records, and what it found wrong.
* `RefreshTally`: how much of each.
-/

namespace TraitWeave

/-- What is wrong with a path. -/
inductive Diagnostic.Kind where
  /-- The file holds no object. -/
  | unparsed
  /-- The file holds an object whose name another file has. -/
  | duplicate
  /-- The path could not be scanned. -/
  | unscanned
  deriving DecidableEq, Repr

/-- The name of a kind. -/
def Diagnostic.Kind.name : Diagnostic.Kind → String
  | unparsed => "parse_error"
  | duplicate => "duplicate"
  | unscanned => "watch_error"

/-- Something that is wrong with a path. -/
structure Diagnostic where
  kind : Diagnostic.Kind
  path : Path
  /-- The name of the object, where there is one. -/
  name : Option String
  message : String
  deriving DecidableEq, Repr

namespace Diagnostic

/-- A file that holds no object. -/
def ofProblems (path : Path) (message : String) : Diagnostic := ⟨.unparsed, path, none, message⟩

/-- A file whose object has the name of another record. -/
def ofDuplicate (r other : Record) : Diagnostic :=
  ⟨.duplicate, r.path, some r.name,
    "Object \"" ++ r.name ++ "\" is already defined in " ++ other.path.text⟩

/-- A path that could not be scanned. -/
def ofScan (path : Path) (message : String) : Diagnostic := ⟨.unscanned, path, none, message⟩

end Diagnostic

/-- What happened to the records. -/
inductive Event where
  /-- The first refresh is done; so many records are there. -/
  | ready (records : Nat)
  | added (r : Record)
  | updated (r : Record)
  | removed (r : Record)
  | failed (d : Diagnostic)

/-- How much a refresh did. -/
structure RefreshTally where
  added : Nat
  updated : Nat
  removed : Nat
  errors : Nat
  /-- The number of records afterwards. -/
  total : Nat
  deriving DecidableEq, Repr

/-- Nothing was done. -/
def RefreshTally.zero : RefreshTally := ⟨0, 0, 0, 0, 0⟩

end TraitWeave
