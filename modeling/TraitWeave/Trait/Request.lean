import TraitWeave.Object.Basic
import TraitWeave.Path
import TraitWeave.Text.Blank
import TraitWeave.Text.Lower

/-!
# Requests for traits

A trait is asked for by its name, within a namespace and at a version where these are given. Name and
namespace may be written with separators; their parts are the directories in which the file is sought.

* `Request.cacheKey`: requests with one key are answered once.
* `Request.schemaKey`: the name under which a schema for the parameters is sought.
* `Request.segments`, `Request.leaf`, `Request.candidates`: the files that may hold the trait.
-/

namespace TraitWeave

/-- What is asked for: the name of a trait, and where it is to be found. -/
structure Request where
  name : String
  scope : Option String
  version : Option String
  deriving DecidableEq, Repr

namespace Request

/-- A request by name alone. -/
def named (name : String) : Request := ⟨name, none, none⟩

/-- The name behind the namespace, where there is one. -/
def schemaKey (r : Request) : String :=
  match r.scope with
  | some ns => if ns.isEmpty then r.name else ns ++ "/" ++ r.name
  | none => r.name

/-- A part of the cache key: without blanks at the ends, in lower case. -/
def keyPart (s : String) : String := Text.lower (Text.trim s)

/-- Namespace, name and version in one key. -/
def cacheKey (r : Request) : String :=
  keyPart (r.scope.getD "") ++ "::" ++ keyPart r.name ++ "::" ++ keyPart (r.version.getD "")

/-- The parts of a name between slashes, backslashes and double colons, without the blank ones. -/
def splitSegments (s : String) : List String :=
  let parts := (Text.pieces (fun c => c == '/' || c == '\\') s.toList).flatMap (Text.cutAtPair ':' ':')
  (parts.map fun p => String.ofList (Text.trimChars p)).filter fun p => !p.isEmpty

/-- The directories below a root: those of the namespace, then those of the name. -/
def segments (r : Request) : List String :=
  (match r.scope with
    | some ns => splitSegments ns
    | none => []) ++ (splitSegments r.name).dropLast

/-- The name of the file without its ending. -/
def leaf (r : Request) : String := (splitSegments r.name).getLast?.getD ""

/-- The endings of trait files, in the order in which they are tried. -/
def endings : List String := ["json", "yaml", "yml"]

/-- The candidates below one root. -/
def candidatesIn (r : Request) (root : Path) : List Path :=
  let dir := r.segments.foldl Path.child root
  endings.map fun e => dir.child (r.leaf ++ ".trait." ++ e)

/-- The files that may hold the trait, in the order in which they are tried. -/
def candidates (roots : List Path) (r : Request) : List Path :=
  roots.flatMap r.candidatesIn

end Request

/-- The request that a reference makes. -/
def Reference.request (r : Reference) : Request := ⟨r.name, r.scope, r.version⟩

/-- The name under which a schema for the trait's parameters is sought. -/
def Reference.schemaKey (r : Reference) : String := r.request.schemaKey

end TraitWeave
