import TraitWeave.Decode.Basic
import TraitWeave.Json.Reader
import TraitWeave.Path
import TraitWeave.Yaml.Value

/-!
# Problems of documents

A document that is not accepted has one problem or several. A problem has a cause, and may know the file,
the field and the place in the text that it concerns.

* `Cause`: what can be wrong, with `Cause.code` and `Cause.message`.
* `Problem`: a cause and its circumstances, with `Problem.text` as it is shown.
-/

namespace TraitWeave.Document

/-- The shapes that sections and fields are required to have. -/
inductive Shape where
  | string
  | array
  | object
  deriving DecidableEq, Repr

/-- A shape with its article. -/
def Shape.described : Shape → String
  | string => "a string"
  | array => "an array"
  | object => "an object"

/-- Whether a value has a shape. -/
def Shape.fits : Shape → Json → Bool
  | string, .str _ => true
  | array, .arr _ => true
  | object, .obj _ => true
  | _, _ => false

/-- The two kinds of documents, as problems name them. -/
inductive Kind where
  | trait
  | object
  deriving DecidableEq, Repr

/-- The word for a kind. -/
def Kind.word : Kind → String
  | trait => "trait"
  | object => "object"

/-- What can be wrong with a document. -/
inductive Cause where
  | invalidJson (e : Json.ReadError)
  | invalidYaml (e : Yaml.Error)
  | empty
  | rootNotMapping (found : Json.Kind)
  | missing
  | blank
  | wrongShape (expected : Shape) (found : Json.Kind)
  | notReference (found : Json.Kind)
  | undeclaredInitial (state : String)
  | noStates
  | initialNotString
  | transitionsNotArray
  | unknownSection
  | badOverride (e : Decode.Error)
  | mismatch (e : Decode.Error)
  | unsupported (kind : Kind)
  | unreadable (kind : Kind) (reason : String)
  deriving DecidableEq, Repr

/-- The code of a cause. -/
def Cause.code : Cause → String
  | invalidJson _ => "syntax_error"
  | invalidYaml _ => "syntax_error"
  | empty => "syntax_error"
  | rootNotMapping _ => "invalid_type"
  | missing => "missing_field"
  | blank => "missing_field"
  | wrongShape _ _ => "invalid_type"
  | notReference _ => "invalid_type"
  | undeclaredInitial _ => "invalid_state_machine"
  | noStates => "invalid_state_machine"
  | initialNotString => "invalid_state_machine"
  | transitionsNotArray => "invalid_state_machine"
  | unknownSection => "schema_mismatch"
  | badOverride _ => "schema_mismatch"
  | mismatch _ => "schema_mismatch"
  | unsupported _ => "unsupported_source"
  | unreadable _ _ => "read_error"

/-- The wording of a cause. -/
def Cause.message : Cause → String
  | invalidJson e => "Invalid JSON: " ++ e.message
  | invalidYaml e => "Invalid YAML: " ++ e.message
  | empty => "Document is empty"
  | rootNotMapping found => "Document root must be a mapping, found " ++ found.described
  | missing => "is required"
  | blank => "must not be empty"
  | wrongShape expected found => "must be " ++ expected.described ++ ", found " ++ found.described
  | notReference found => "expected a trait name or mapping, found " ++ found.described
  | undeclaredInitial s => "initial state '" ++ s ++ "' is not one of the declared states"
  | noStates => "must be a non-empty array"
  | initialNotString => "must be a string"
  | transitionsNotArray => "must be an array"
  | unknownSection => "unknown section"
  | badOverride e => "invalid field declaration: " ++ e.message
  | mismatch e => e.message
  | unsupported kind => "Unsupported " ++ kind.word ++ " source; expected .json, .yaml or .yml"
  | unreadable kind reason => "Failed to read " ++ kind.word ++ " file: " ++ reason

/-- Line and column, where a cause has a place in the text. -/
def Cause.place? : Cause → Option (Nat × Nat)
  | invalidJson e => some (e.place.line, e.place.column)
  | invalidYaml e => e.place?
  | _ => none

/-- Something wrong with a document. -/
structure Problem where
  cause : Cause
  field : Option String
  file : Option Path
  deriving DecidableEq, Repr

namespace Problem

/-- A problem of the document as a whole. -/
def ofCause (file : Option Path) (cause : Cause) : Problem := ⟨cause, none, file⟩

/-- A problem of a field. -/
def ofField (file : Option Path) (field : String) (cause : Cause) : Problem := ⟨cause, some field, file⟩

/-- The problem as it is shown: code, file and place, field, and message. -/
def text (p : Problem) : String :=
  let place :=
    match p.file, p.cause.place? with
    | some f, some (line, column) =>
      f.text ++ ":" ++ toString line ++ ":" ++ toString column ++ ": "
    | some f, none => f.text ++ ": "
    | none, some (line, column) =>
      "line " ++ toString line ++ ", column " ++ toString column ++ ": "
    | none, none => ""
  let field := match p.field with
    | some f => f ++ ": "
    | none => ""
  "[" ++ p.cause.code ++ "] " ++ place ++ field ++ p.cause.message

/-- Several problems in one line. -/
def rendered (ps : List Problem) : String := "; ".intercalate (ps.map text)

end Problem

end TraitWeave.Document
