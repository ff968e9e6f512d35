import TraitWeave.CommandLine.Situation
import TraitWeave.Trait.Discovery
import TraitWeave.Trait.Graph

/-!
# Answers about traits

* `Situation.showTrait`: a trait by its name or its file.
* `Situation.checkTraits`: what is wrong with the library.
* `Situation.orderTraits`: the traits in an order in which they can be loaded.
-/

namespace TraitWeave

/-- An error of the graph as a value. -/
def Graph.Error.encode : Graph.Error → Json
  | .cycle path => .obj [("kind", .str "cycle"), ("path", Encode.texts path)]
  | .missingDependency t d =>
    .obj [("kind", .str "missing_dependency"), ("trait_name", .str t), ("dependency", .str d)]
  | .incompatible a b reason =>
    .obj [("kind", .str "incompatible_traits"), ("first", .str a), ("second", .str b),
      ("reason", .str reason)]

namespace Situation

variable (s : Situation)

/-- A trait by the path of its file, or else by its name. -/
def loadTrait (name : String) (scope version : Option String) : Except (List String) Loaded :=
  let files := s.tree.files
  if files.isFile ⟨name⟩ then
    (Loaded.at files ⟨name⟩).mapError fun e => ["Failed to load trait file " ++ name, e.message]
  else
    (Trait.find files s.traitRoots ⟨name, scope, version⟩).mapError fun e =>
      ["Failed to load trait \"" ++ name ++ "\"", e.message]

/-- A parameter in a list. -/
def parameterLine (p : Parameter) : String :=
  let required := if p.required then Tint.yellow.paint s.console " (required)" else ""
  "  " ++ p.name ++ ": " ++ p.kind ++ required

/-- A trait as lines. -/
def traitLines (l : Loaded) : List String :=
  let t := l.trait
  [Tint.bold.paint s.console t.qualifiedName ++ " " ++ Tint.dimmed.paint s.console t.info.version] ++
    (t.info.description.map fun d => "  " ++ d).toList ++
    [s.labelled "  " "file" l.path.text] ++
    (if t.parameters.isEmpty then []
      else ["", s.heading .cyan "parameters"] ++ t.parameters.map s.parameterLine) ++
    ["", s.heading .cyan "schema"] ++
    (t.schema.map fun (key, f) => "  " ++ key ++ ": " ++ f.kind.getD "unknown") ++
    (if t.dependencyNames.isEmpty then []
      else ["", s.labelled "" "dependencies" (commaList t.dependencyNames)]) ++
    (if t.metadata.conflictsWith.isEmpty then []
      else [s.labelled "" "conflicts_with" (commaList t.metadata.conflictsWith)])

/-- A trait by its name or its file. -/
def showTrait (f : AnswerFormat) (name : String) (scope version : Option String) : Outcome :=
  match s.loadTrait name scope version, f with
  | .error causes, _ => .error causes
  | .ok l, .text => .lines (s.traitLines l)
  | .ok l, f => .ok (f.render l.trait.encode, 0)

/-- What is wrong with a library, as a value. -/
def checkValue (lib : Library) (errors : List Graph.Error) (valid : Bool) : Json :=
  .obj [("traits", Encode.natural lib.traits.length),
    ("failures", .arr (lib.failures.map fun (path, ps) =>
      .obj [("path", .str path.text), ("errors", Encode.texts (ps.map Document.Problem.text))])),
    ("duplicates", .arr (lib.duplicates.map fun (name, paths) =>
      .arr [.str name, Encode.texts (paths.map Path.text)])),
    ("errors", .arr (errors.map Graph.Error.encode)),
    ("valid", .bool valid)]

/-- What is wrong with a library, as lines. -/
def checkLines (lib : Library) (errors : List Graph.Error) (valid : Bool) : List String :=
  ["Checked " ++ toString lib.traits.length ++ " trait(s)"] ++
    (lib.failures.flatMap fun (path, ps) =>
      (s.bad ++ " " ++ path.text) :: ps.map fun p => "    " ++ p.text) ++
    (lib.duplicates.flatMap fun (name, paths) =>
      (s.notable ++ " Duplicate trait \"" ++ name ++ "\":") :: paths.map fun p => "    " ++ p.text) ++
    (errors.map fun e => s.bad ++ " " ++ e.message) ++
    if valid then [s.good ++ " Trait graph is valid"] else []

/-- What is wrong with the library. The exit code tells whether anything is. -/
def checkTraits (f : AnswerFormat) : Outcome :=
  let lib := Library.load s.tree s.traitRoots
  let errors := (Graph.ofTraits lib.definitions).validate
  let valid := errors.isEmpty && lib.failures.isEmpty
  let text := match f with
    | .text => linesText (s.checkLines lib errors valid)
    | f => f.render (checkValue lib errors valid)
  .ok (text, if valid then 0 else 1)

/-- The names of the traits, each after those that it depends on. -/
def orderTraits : Outcome :=
  match (Graph.ofTraits (Library.load s.tree s.traitRoots).definitions).order with
  | .ok names => .lines names
  | .error e => .failure "Failed to order trait library" e.message

end Situation

end TraitWeave
