import TraitWeave.Files
import TraitWeave.Trait.Document
import TraitWeave.Trait.Request

/-!
# Loading traits

A request is answered from the first candidate that is a file. The answer is kept under the request's key,
also when it is a failure, and stands until the loader is cleared.

* `Loaded`, `LoadError`: the answers, and `LoadError.message` the wording of failures.
* `Trait.find`: the answer that the files give to a request.
* `Loader.load`: the answer from the cache, or from the files and then kept.
* `Loaded.at`: the trait of a file whose path is known.
-/

namespace TraitWeave

open Document (Format Problem)

/-- A trait and the file from which it was loaded. -/
structure Loaded where
  trait : Trait
  path : Path
  format : Format

/-- Why a trait could not be loaded. -/
inductive LoadError where
  | notFound (name : String) (searched : List Path)
  | invalid (name : String) (path : Path) (messages : List String)
  | unreadable (name : String) (path : Path) (message : String)
  deriving DecidableEq, Repr

namespace LoadError

/-- A text line in a list. -/
def bullet (s : String) : String := "  - " ++ s

/-- The wording of a failure. -/
def message : LoadError → String
  | notFound name searched =>
    "Trait \"" ++ name ++ "\" not found. Searched:\n" ++
      Text.joined "\n" (searched.map fun p => bullet p.text)
  | invalid name path messages =>
    "Trait \"" ++ name ++ "\" at " ++ path.text ++ " is invalid:\n" ++
      Text.joined "\n" (messages.map bullet)
  | unreadable name path message =>
    "Failed to read trait \"" ++ name ++ "\" at " ++ path.text ++ ": " ++ message

/-- No candidate was a file. -/
def isNotFound : LoadError → Bool
  | notFound _ _ => true
  | _ => false

/-- The failure for the problems of a trait's file: one that the file cannot be read stands apart. -/
def ofProblems (name : String) (path : Path) (ps : List Problem) : LoadError :=
  match ps with
  | [⟨.unreadable kind reason, _, _⟩] =>
    .unreadable name path (Document.Cause.message (.unreadable kind reason))
  | ps => .invalid name path (ps.map Problem.text)

end LoadError

/-- The answer to a request. -/
abbrev LoadOutcome := Except LoadError Loaded

/-- A trait with the file it comes from. -/
def Loaded.of (t : Trait) (path : Path) : Loaded :=
  ⟨t, path, (Format.ofPath? path).getD .yaml⟩

/-- The trait of a file, with every failure counted as a fault of the file. -/
def Loaded.at (files : Files) (path : Path) : LoadOutcome :=
  match Trait.ofFile path (files.text path) with
  | .ok t => .ok (.of t path)
  | .error ps => .error (.invalid path.text path (ps.map Problem.text))

/-- The first candidate that is a file. -/
def Trait.locate (files : Files) (roots : List Path) (r : Request) : Option Path :=
  (r.candidates roots).find? files.isFile

/-- The answer that the files give to a request. -/
def Trait.find (files : Files) (roots : List Path) (r : Request) : LoadOutcome :=
  match Trait.locate files roots r with
  | none => .error (.notFound r.name (r.candidates roots))
  | some path =>
    match Trait.ofFile path (files.text path) with
    | .ok t => .ok (.of t path)
    | .error ps => .error (.ofProblems r.name path ps)

/-- A loader: where it looks, the answers it has given, and how many files it has parsed. -/
structure Loader where
  roots : List Path
  cache : Table LoadOutcome
  parses : Nat

namespace Loader

/-- A loader that has answered nothing. -/
def ofRoots (roots : List Path) : Loader := ⟨roots, [], 0⟩

/-- The answer to a request, and the loader that keeps it. -/
def load (files : Files) (l : Loader) (r : Request) : Loader × LoadOutcome :=
  match l.cache.get? r.cacheKey with
  | some outcome => (l, outcome)
  | none =>
    let outcome := Trait.find files l.roots r
    let parsed := if (Trait.locate files l.roots r).isSome then 1 else 0
    (⟨l.roots, l.cache.put r.cacheKey outcome, l.parses + parsed⟩, outcome)

/-- Whether a request has been answered. -/
def isCached (l : Loader) (r : Request) : Bool := l.cache.has r.cacheKey

/-- Forget all answers; the count of parsed files goes on. -/
def clear (l : Loader) : Loader := { l with cache := [] }

end Loader

end TraitWeave
