import TraitWeave.Document.Reader
import TraitWeave.Trait.Basic

/-!
# Trait documents

A trait document has an identity and a schema, and may have further sections. All problems of its
structure are found together; only a document without any is decoded.

* `Trait.structureProblems`: what is wrong with the structure.
* `Trait.ofMembers`, `Trait.parse`, `Trait.ofFile`: the trait of a decoded document, of a text, of a file.
-/

namespace TraitWeave.Trait

open Document

/-- The sections of a trait document. -/
def sections : List String :=
  ["trait", "parameters", "schema", "semantics", "view_extensions", "tokens", "dependencies", "actions",
    "state_machine", "metadata"]

/-- The texts among values, and whether all are texts. -/
def namesOf (states : List Json) : List String := states.filterMap Json.asStr?

/-- Problems of the states: there must be some, and where all are names the initial one is among them. -/
def stateProblems (file : Option Path) (machine : Table Json) : List Problem :=
  match machine.get? "states" with
  | some (.arr (s :: ss)) =>
    let names := namesOf (s :: ss)
    match (machine.get? "initial").bind Json.asStr? with
    | some initial =>
      if names.length == (s :: ss).length && !names.contains initial then
        [.ofField file "state_machine.initial" (.undeclaredInitial initial)]
      else []
    | none => []
  | _ => [.ofField file "state_machine.states" .noStates]

/-- Problems of a state machine. -/
def machineProblems (file : Option Path) (machine : Table Json) : List Problem :=
  stateProblems file machine ++
    (match machine.get? "initial" with
      | some (.str _) => []
      | _ => [.ofField file "state_machine.initial" .initialNotString]) ++
    (match machine.get? "transitions" with
      | some (.arr _) => []
      | _ => [.ofField file "state_machine.transitions" .transitionsNotArray])

/-- Problems of the parameters that only the strict format has. -/
def parameterProblems (file : Option Path) (index : Nat) : List Json → List Problem
  | [] => []
  | v :: vs =>
    let field := "parameters[" ++ toString index ++ "]"
    (match v with
      | .obj p => require file p "name" (field ++ ".name") .string
      | v => expect file v field .object) ++ parameterProblems file (index + 1) vs

/-- Problems that only the strict format has. -/
def strictProblems (file : Option Path) (root : Table Json) : List Problem :=
  unknownSections file sections root ++ schemaDeclarations file root ++
    match root.get? "parameters" with
    | some (.arr ps) => parameterProblems file 0 ps
    | _ => []

/-- Problems of the identity. -/
def infoProblems (file : Option Path) (root : Table Json) : List Problem :=
  andThen (require file root "trait" "trait" .object) <|
    match root.get? "trait" with
    | some (.obj info) =>
      require file info "name" "trait.name" .string ++
        require file info "version" "trait.version" .string
    | _ => []

/-- Problems of the section for the states. -/
def machineSectionProblems (file : Option Path) (root : Table Json) : List Problem :=
  andThen (allow file root "state_machine" "state_machine" .object) <|
    match root.get? "state_machine" with
    | some (.obj machine) => machineProblems file machine
    | _ => []

/-- All problems of the structure of a document. -/
def structureProblems (format : Format) (file : Option Path) (root : Table Json) : List Problem :=
  infoProblems file root ++
    require file root "schema" "schema" .object ++
    (["parameters", "dependencies", "actions"].flatMap fun k => allow file root k k .array) ++
    (["semantics", "tokens", "metadata", "view_extensions"].flatMap fun k =>
      allow file root k k .object) ++
    machineSectionProblems file root ++
    (if format.isStrict then strictProblems file root else [])

/-- The trait of a decoded document. -/
def ofMembers (format : Format) (file : Option Path) (root : Table Json) : Except (List Problem) Trait :=
  match structureProblems format file root with
  | [] =>
    match conform file decode (if format.isStrict then root else expandShorthand root) with
    | .ok t => .ok t
    | .error p => .error [p]
  | ps => .error ps

/-- The trait of a text. -/
def parse (text : String) (format : Format) (file : Option Path) : Except (List Problem) Trait :=
  match read text format file with
  | .error p => .error [p]
  | .ok root => ofMembers format file root

/-- The trait of a file, whose text or the reason why it has none is given. -/
def ofFile (path : Path) (content : Except String String) : Except (List Problem) Trait :=
  match Format.ofPath? path with
  | none => .error [.ofCause (some path) (.unsupported .trait)]
  | some format =>
    match content with
    | .error reason => .error [.ofCause (some path) (.unreadable .trait reason)]
    | .ok text => parse text format (some path)

end TraitWeave.Trait
