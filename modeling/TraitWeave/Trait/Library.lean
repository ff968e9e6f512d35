import TraitWeave.Files
import TraitWeave.Trait.Document

/-!
# Trait libraries

A library takes in every trait file that was found. Of several files that declare one name the first one is
kept; the names are those behind the namespace, compared in normalized form.

* `Library.take`: one more file.
* `Library.ofFiles`: the library of files in the order in which they were found.
* `Library.get?`: a trait by its name, with or without the namespace.
-/

namespace TraitWeave

/-- The traits of a set of files. -/
structure Library where
  /-- The traits that are kept, in the order in which they were found. -/
  traits : List (Path × Trait)
  /-- The files without a trait, and what is wrong with them. -/
  failures : List (Path × List Document.Problem)
  /-- For each name that several files declare, all of these files. -/
  duplicates : Table (List Path)

namespace Library

/-- A library without files. -/
def empty : Library := ⟨[], [], []⟩

/-- The name under which a trait is kept. -/
def keyOf (t : Trait) : String := Name.normalize t.qualifiedName

/-- The trait kept under a key, with its file. -/
def kept? (l : Library) (key : String) : Option (Path × Trait) :=
  l.traits.find? fun p => keyOf p.2 == key

/-- One more file. -/
def take (l : Library) (path : Path) (parsed : Except (List Document.Problem) Trait) : Library :=
  match parsed with
  | .error ps => { l with failures := l.failures ++ [(path, ps)] }
  | .ok t =>
    match l.kept? (keyOf t) with
    | none => { l with traits := l.traits ++ [(path, t)] }
    | some (first, _) =>
      let known := (l.duplicates.get? (keyOf t)).getD [first]
      { l with duplicates := l.duplicates.put (keyOf t) (known ++ [path]) }

/-- The duplicates in the order of their names. -/
def sorted (l : Library) : Library :=
  { l with duplicates := l.duplicates.mergeSort fun a b => a.1 ≤ b.1 }

/-- The library of files in the order in which they were found. -/
def ofFiles (files : Files) (paths : List Path) : Library :=
  (paths.foldl (fun l p => l.take p (Trait.ofFile p (files.text p))) empty).sorted

/-- The traits that are kept. -/
def definitions (l : Library) : List Trait := l.traits.map Prod.snd

/-- The first trait of a name, with or without the namespace. -/
def get? (l : Library) (name : String) : Option Trait :=
  let key := Name.normalize name
  l.definitions.find? fun t => Name.normalize t.name == key || keyOf t == key

end Library

end TraitWeave
