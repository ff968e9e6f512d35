import TraitWeave.Check.ParameterSchema
import TraitWeave.Trait.Loader
import TraitWeave.Yaml.Value

/-!
# Where schemas come from

The schema for the parameters of a trait lies in a directory, is given beforehand, or follows from the
trait's own declarations.

* `SchemaSource`: the three sources.
* `SchemaSource.load`: the schema for a request, none, or why there should be one but is not.
* `SchemaSource.location`: where a schema is expected.
-/

namespace TraitWeave

/-- Where schemas for parameters come from. -/
inductive SchemaSource where
  /-- Files in a directory, by the name of the trait. -/
  | directory (dir : Path)
  /-- Schemas by normalized name. -/
  | given (schemas : Table Json)
  /-- The declarations of the traits, which a loader finds. -/
  | declared

/-- The answer of a source: a schema, none, or a failure. -/
abbrev SchemaAnswer := Except String (Option Json)

namespace SchemaSource

/-- Schemas given by name; of several with one normalized name the last one counts. -/
def ofPairs (pairs : List (String × Json)) : SchemaSource :=
  .given (Table.ofPairs (pairs.map fun (name, v) => (Name.normalize name, v)))

/-- The files that may hold the schema of a trait. -/
def candidates (dir : Path) (name : String) : List Path :=
  Request.endings.map fun e => dir.child (name ++ ".schema." ++ e)

/-- The schema that a text holds, in the format that the file's ending means. -/
def parse (path : Path) (text : String) : Except String Json :=
  if path.extension? = some "json" then (Json.parse text).mapError Json.ReadError.message
  else (Yaml.parse text).mapError Yaml.Error.message

/-- The schema in a directory. -/
def loadFile (files : Files) (dir : Path) (name : String) : SchemaAnswer :=
  match (candidates dir name).find? files.isFile with
  | none => .ok none
  | some path =>
    match files.text path with
    | .error reason => .error ("Failed to read " ++ path.text ++ ": " ++ reason)
    | .ok text =>
      match parse path text with
      | .ok v => .ok (some v)
      | .error e => .error ("Failed to parse " ++ path.text ++ ": " ++ e)

/-- The schema that follows from the declarations of a trait, if the trait was found. -/
def ofOutcome : LoadOutcome → SchemaAnswer
  | .ok l => .ok (some l.trait.parameterSchema)
  | .error (.notFound _ _) => .ok none
  | .error e => .error e.message

/-- The schema for a request, and the loader that may have been asked for the trait. -/
def load (files : Files) (s : SchemaSource) (l : Loader) (r : Request) : Loader × SchemaAnswer :=
  match s with
  | directory dir => (l, loadFile files dir r.schemaKey)
  | given schemas => (l, .ok (schemas.get? (Name.normalize r.schemaKey)))
  | declared =>
    let (l, outcome) := l.load files r
    (l, ofOutcome outcome)

/-- Where the schema of a trait is expected. -/
def location (s : SchemaSource) (roots : List Path) (name : String) : String :=
  match s with
  | directory dir => (dir.child (name ++ ".schema.json")).text
  | given _ => "registered schema for \"" ++ name ++ "\""
  | declared =>
    match (Request.named name).candidates roots with
    | p :: _ => p.text
    | [] => name ++ ".trait.json"

end SchemaSource

end TraitWeave
