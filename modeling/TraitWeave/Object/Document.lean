import TraitWeave.Document.Reader
import TraitWeave.Object.Basic

/-!
# Object documents

An object document has an identity, and may have further sections. All problems of its structure are found
together; only a document without any is decoded.

* `Object.structureProblems`: what is wrong with the structure.
* `Object.ofMembers`, `Object.parse`, `Object.ofFile`: the object of a decoded document, of a text, of a file.
-/

namespace TraitWeave.Object

open Document

/-- The sections of an object document. -/
def sections : List String :=
  ["object", "traits", "schema", "semantics", "tokens", "views", "actions", "resolutions", "metadata"]

/-- The name must be a text that is not blank. -/
def nameProblems (file : Option Path) (info : Table Json) : List Problem :=
  andThen (require file info "name" "object.name" .string) <|
    match (info.get? "name").bind Json.asStr? with
    | some n => if Text.isAllBlank n then [.ofField file "object.name" .blank] else []
    | none => []

/-- Problems of the identity. -/
def infoProblems (file : Option Path) (root : Table Json) : List Problem :=
  andThen (require file root "object" "object" .object) <|
    match root.get? "object" with
    | some (.obj info) =>
      nameProblems file info ++
        allow file info "extends" "object.extends" .string ++
        allow file info "tags" "object.tags" .array ++
        allow file info "domains" "object.domains" .array
    | _ => []

/-- Problems of the references, numbered from `index`. -/
def referenceProblems (file : Option Path) (index : Nat) : List Json → List Problem
  | [] => []
  | v :: vs =>
    let field := "traits[" ++ toString index ++ "]"
    (match v with
      | .str _ => []
      | .obj ms =>
        require file ms (if Table.has ms "name" then "name" else "trait") (field ++ ".name") .string ++
          allow file ms "parameters" (field ++ ".parameters") .object
      | v => [.ofField file field (.notReference v.kind)]) ++ referenceProblems file (index + 1) vs

/-- Problems of the section for the references. -/
def traitsProblems (file : Option Path) (root : Table Json) : List Problem :=
  andThen (allow file root "traits" "traits" .array) <|
    match root.get? "traits" with
    | some (.arr rs) => referenceProblems file 0 rs
    | _ => []

/-- An override of a field must be a declaration. -/
def overrideProblems (file : Option Path) (key : String) (resolution : Json) : List Problem :=
  match resolution.member? "override" with
  | none => []
  | some v =>
    let field := "resolutions.fields." ++ key ++ ".override"
    andThen (expect file v field .object) <|
      match Field.decode v with
      | .ok _ => []
      | .error e => [.ofField file field (.badOverride e)]

/-- Problems of the overrides of fields. -/
def resolutionProblems (file : Option Path) (root : Table Json) : List Problem :=
  match (root.get? "resolutions").bind (Json.member? · "fields") with
  | some (.obj fields) => fields.flatMap fun p => overrideProblems file p.1 p.2
  | _ => []

/-- Problems that only the strict format has. -/
def strictProblems (file : Option Path) (root : Table Json) : List Problem :=
  unknownSections file sections root ++ schemaDeclarations file root

/-- All problems of the structure of a document. -/
def structureProblems (format : Format) (file : Option Path) (root : Table Json) : List Problem :=
  infoProblems file root ++
    traitsProblems file root ++
    (["schema", "semantics", "tokens", "views", "resolutions", "metadata"].flatMap fun k =>
      allow file root k k .object) ++
    allow file root "actions" "actions" .array ++
    resolutionProblems file root ++
    (if format.isStrict then strictProblems file root else [])

/-- The object of a decoded document. -/
def ofMembers (format : Format) (file : Option Path) (root : Table Json) : Except (List Problem) Object :=
  match structureProblems format file root with
  | [] =>
    match conform file decode (if format.isStrict then root else expandShorthand root) with
    | .ok o => .ok o
    | .error p => .error [p]
  | ps => .error ps

/-- The object of a text. -/
def parse (text : String) (format : Format) (file : Option Path) : Except (List Problem) Object :=
  match read text format file with
  | .error p => .error [p]
  | .ok root => ofMembers format file root

/-- The object of a file, whose text or the reason why it has none is given. -/
def ofFile (path : Path) (content : Except String String) : Except (List Problem) Object :=
  match Format.ofPath? path with
  | none => .error [.ofCause (some path) (.unsupported .object)]
  | some format =>
    match content with
    | .error reason => .error [.ofCause (some path) (.unreadable .object reason)]
    | .ok text => parse text format (some path)

end TraitWeave.Object
