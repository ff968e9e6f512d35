import TraitWeave.Document.Problem

/-!
# Reading documents

A document is a mapping written in one of two formats. The strict one, JSON, allows no sections that are
not known and no shorthand; the lenient one, YAML, does.

* `Format`, `Format.ofPath?`: the formats and the file names that mean them.
* `read`: the members of a document.
* `require`, `allow`, `expect`: checks of shape, each giving the problems it finds.
-/

namespace TraitWeave.Document

/-- The format of a document. -/
inductive Format where
  | json
  | yaml
  deriving DecidableEq, Repr

/-- The word for a format. -/
def Format.word : Format → String
  | json => "json"
  | yaml => "yaml"

/-- The format that a file name means. -/
def Format.ofPath? (p : Path) : Option Format :=
  match p.extension? with
  | some "json" => some json
  | some "yaml" => some yaml
  | some "yml" => some yaml
  | _ => none

/-- Whether unknown sections and shorthand are refused. -/
def Format.isStrict : Format → Bool
  | json => true
  | yaml => false

/-- The value that a text holds in a format. -/
def decodeText (text : String) : Format → Except Cause Json
  | .json =>
    match Json.parse text with
    | .ok v => .ok v
    | .error e => .error (.invalidJson e)
  | .yaml =>
    match Yaml.parse text with
    | .ok v => .ok v
    | .error e => .error (.invalidYaml e)

/-- The members of a document's root. -/
def members : Json → Except Cause (Table Json)
  | .obj ms => .ok ms
  | .null => .error .empty
  | v => .error (.rootNotMapping v.kind)

/-- The members of the document that a text holds. -/
def read (text : String) (format : Format) (file : Option Path) : Except Problem (Table Json) :=
  match decodeText text format with
  | .error c => .error (.ofCause file c)
  | .ok v =>
    match members v with
    | .error c => .error (.ofCause file c)
    | .ok ms => .ok ms

/-- A value must have a shape. -/
def expect (file : Option Path) (v : Json) (field : String) (shape : Shape) : List Problem :=
  if shape.fits v then [] else [.ofField file field (.wrongShape shape v.kind)]

/-- A member must be there and have a shape. -/
def require (file : Option Path) (ms : Table Json) (key field : String) (shape : Shape) :
    List Problem :=
  match ms.get? key with
  | none => [.ofField file field .missing]
  | some .null => [.ofField file field .missing]
  | some v => expect file v field shape

/-- A member must have a shape if it is there. -/
def allow (file : Option Path) (ms : Table Json) (key field : String) (shape : Shape) : List Problem :=
  match ms.get? key with
  | none => []
  | some .null => []
  | some v => expect file v field shape

/-- What follows when a check found nothing. -/
def andThen (found : List Problem) (more : List Problem) : List Problem :=
  if found.isEmpty then more else found

/-- Decode a document that has passed its checks. -/
def conform {α : Type} (file : Option Path) (d : Decoder α) (ms : Table Json) : Except Problem α :=
  match d (.obj ms) with
  | .ok a => .ok a
  | .error e => .error (.ofCause file (.mismatch e))

/-- Sections that are not known. -/
def unknownSections (file : Option Path) (known : List String) (ms : Table Json) : List Problem :=
  (ms.keys.filter fun k => !known.contains k).map fun k => .ofField file k .unknownSection

/-- Every declaration of the schema must be an object. -/
def schemaDeclarations (file : Option Path) (ms : Table Json) : List Problem :=
  match ms.get? "schema" with
  | some (.obj fields) => fields.flatMap fun p => expect file p.2 ("schema." ++ p.1) .object
  | _ => []

/-- A field declaration that is only a type name, written out. -/
def expandDeclaration : Json → Json
  | .str kind => .obj [("type", .str kind)]
  | v => v

/-- Write out the declarations of a schema that are only a type name. -/
def expandShorthand (ms : Table Json) : Table Json :=
  ms.map fun p =>
    match p with
    | ("schema", .obj fields) => ("schema", .obj (Table.mapValues expandDeclaration fields))
    | p => p

end TraitWeave.Document
