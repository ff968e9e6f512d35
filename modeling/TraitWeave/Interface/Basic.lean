import TraitWeave.Compose.Composed
import TraitWeave.Interface.TypeExpr

/-!
# Interfaces

A composed object is written as an interface of TypeScript: a property for each field, and a type for each
parameter to which two traits or more give literal values.

* `Interface`: what is written, and `Interface.content` the text.
* `Composed.interface`: the interface of a composed object.
* `typeName`, `propertyKey`: identifiers made from arbitrary names.
-/

namespace TraitWeave

namespace Interface

/-- With a capital at the start; only letters of ASCII change. -/
def capitalize : List Char → List Char
  | [] => []
  | c :: cs => c.toUpper :: cs

/-- An identifier from a name: its runs of ASCII letters and digits, each with a capital. An underscore
stands in front where the result is empty or starts with a digit. -/
def typeName (name : String) : String :=
  let words := Text.pieces (fun c => !c.isAlphanum) name.toList
  let cs := words.flatMap capitalize
  match cs with
  | [] => "_"
  | c :: _ => String.ofList (if c.isDigit then '_' :: cs else cs)

/-- Characters that may start an identifier. -/
def startsIdentifier (c : Char) : Bool := c.isAlpha || c == '_' || c == '$'

/-- Characters that may stand in an identifier. -/
def inIdentifier (c : Char) : Bool := c.isAlphanum || c == '_' || c == '$'

/-- Whether a key can be written as it is. -/
def isIdentifier (key : String) : Bool :=
  match key.toList with
  | [] => false
  | c :: cs => startsIdentifier c && cs.all inIdentifier

/-- A key as the name of a property: as it is, or quoted. -/
def propertyKey (key : String) : String :=
  if isIdentifier key then key else (Json.str key).compact

end Interface

/-- A property of an interface. -/
structure Interface.Property where
  key : String
  required : Bool
  type : TypeExpr
  description : Option String
  provenance : Option Provenance

/-- An interface with what its comments tell. -/
structure Interface where
  /-- The identifier of the interface. -/
  name : String
  objectName : String
  traitNames : List String
  description : Option String
  properties : List Interface.Property
  /-- The types of parameters, by identifier. -/
  unions : List (String × TypeExpr)

namespace Interface

/-- A comment that documents what follows. -/
def docComment (indent : String) (description : Option String) : String :=
  match description with
  | some d => indent ++ "/** " ++ Text.trim d ++ " */\n"
  | none => ""

/-- The lines of a property. -/
def Property.text (p : Property) : String :=
  docComment "  " p.description ++
    (match p.provenance with
      | some o => "  // " ++ o.layer.name ++ ": " ++ o.source ++ "\n"
      | none => "") ++
    "  " ++ propertyKey p.key ++ (if p.required then "" else "?") ++ ": " ++ p.type.text ++ ";\n"

/-- The comment at the top. -/
def header (i : Interface) : String :=
  "// Generated by traitsmith. Do not edit.\n" ++
    "// Object: " ++ i.objectName ++ "\n" ++
    "// Traits: " ++ (if i.traitNames.isEmpty then "(none)" else Text.joined ", " i.traitNames) ++ "\n\n"

/-- The text of an interface. -/
def content (i : Interface) : String :=
  i.header ++ docComment "" i.description ++
    "export interface " ++ i.name ++ " \x7b\n" ++
    Text.joined "" (i.properties.map Property.text) ++ "\x7d\n" ++
    Text.joined "" (i.unions.map fun (name, t) => "\nexport type " ++ name ++ " = " ++ t.text ++ ";\n")

/-- The file for an interface. -/
def fileName (i : Interface) : String := i.name ++ ".ts"

/-- The name under which a file is imported. -/
def moduleOf (fileName : String) : String :=
  let cs := fileName.toList
  if cs.drop (cs.length - 3) = ['.', 't', 's'] then String.ofList (cs.take (cs.length - 3)) else fileName

/-- The order of modules: by name without regard to case, then by name. -/
def moduleLe (a b : String) : Bool :=
  match compare (Text.lower a) (Text.lower b) with
  | .lt => true
  | .eq => compare a b != .gt
  | .gt => false

/-- Drop items that repeat the one before. -/
def withoutRepeats : List String → List String
  | [] => []
  | [a] => [a]
  | a :: b :: rest => if a = b then withoutRepeats (b :: rest) else a :: withoutRepeats (b :: rest)

/-- The text that exports all modules of the given files. -/
def barrel (fileNames : List String) : String :=
  Text.joined "" ((withoutRepeats ((fileNames.map moduleOf).mergeSort moduleLe)).map fun m =>
    "export * from './" ++ m ++ "';\n")

end Interface

namespace Composed

/-- Add a value unless an equal one is there. -/
def addValue (vs : List Json) (v : Json) : List Json :=
  if Json.elem v vs then vs else vs ++ [v]

/-- The literal values of each parameter to which two traits or more give some. -/
def parameterUnions (c : Composed) : List (String × List Json) :=
  c.parameters.filterMap fun (name, cs) =>
    let given := cs.filterMap Contribution.values
    if given.length < 2 then none else some (name, given.flatten.foldl addValue [])

/-- The property for a field. -/
def property (c : Composed) (key : String) (f : Field) : Interface.Property where
  key := key
  required := f.isRequired
  type := TypeExpr.ofField f
  description := f.description
  provenance := c.provenance.get? key

/-- The interface of a composed object. -/
def interface (c : Composed) : Interface where
  name := Interface.typeName c.name
  objectName := c.name
  traitNames := c.traitOrder
  description := c.description
  properties := c.schema.map fun (key, f) => c.property key f
  unions := c.parameterUnions.map fun (name, vs) =>
    (Interface.typeName c.name ++ Interface.typeName name, TypeExpr.literals vs)

end Composed

end TraitWeave
