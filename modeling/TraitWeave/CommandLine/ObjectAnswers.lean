import TraitWeave.CommandLine.Situation
import TraitWeave.Interface.Artifacts

/-!
# Answers about objects

* `Situation.listObjects`, `Situation.showObject`, `Situation.showDiagnostics`: what the registry holds.
* `Situation.resolveObject`: a composed object.
* `Situation.generate`: interfaces, written to files or as the answer.
* `Situation.watch`: the first lines of a registry that is watched.
-/

namespace TraitWeave

/-- A record as a value in a list. -/
def Record.brief (r : Record) : Json :=
  .obj [("name", .str r.name), ("traits", Encode.texts r.traits), ("tags", Encode.texts r.tags),
    ("domains", Encode.texts r.domains), ("path", .str r.path.text)]

/-- What is wrong with a path as a value. -/
def Diagnostic.encode (moment : String) (d : Diagnostic) : Json :=
  Encode.record [
    Encode.always "kind" (.str d.kind.name),
    Encode.always "path" (.str d.path.text),
    Encode.some? "name" .str d.name,
    Encode.always "message" (.str d.message),
    Encode.always "at" (.str moment)]

/-- The wording of an error, and below it that of what lies behind it. -/
def RegistryError.causes (e : RegistryError) : List String :=
  match e with
  | .resolution r =>
    match r.cause with
    | .load l => [e.message, l.message]
    | _ => [e.message]
  | _ => [e.message]

namespace Situation

variable (s : Situation)

/-- The registry that the settings describe. -/
def openRegistry (options : RegistryOptions) : Except (List String) Registry :=
  (Registry.open? s.tree options (s.settings.resolver s.env) s.traitRoots []).mapError fun e =>
    "Failed to open object registry" :: e.causes

/-- The registry of a command that does not watch. -/
def registry : Except (List String) Registry :=
  s.openRegistry { s.settings.registryOptions s.env with watch := false }

/-- A record in a list. -/
def recordLines (r : Record) : List String :=
  (Tint.bold.paint s.console r.name ++ " - " ++ commaList r.traits) ::
    if r.tags.isEmpty then [] else [s.labelled "    " "tags" (commaList r.tags)]

/-- The objects that a query finds. -/
def listObjects (f : AnswerFormat) (q : Query) : Outcome := do
  let records := (← s.registry).contents.index.query q
  match f with
  | .text =>
    if records.isEmpty then Outcome.lines ["No objects found."]
    else
      Outcome.lines (records.flatMap s.recordLines ++
        ["", "Total: " ++ toString records.length ++ " object(s)"])
  | f => .ok (f.render (.arr (records.map Record.brief)), 0)

/-- A record as lines. -/
def objectLines (r : Record) : List String :=
  [Tint.bold.paint s.console r.name, s.labelled "  " "file" r.path.text] ++
    (r.definition.base?.map fun b => s.labelled "  " "extends" b).toList ++
    [s.labelled "  " "traits" (commaList r.traits), s.labelled "  " "domains" (commaList r.domains)] ++
    if r.tags.isEmpty then [] else [s.labelled "  " "tags" (commaList r.tags)]

/-- The definition of an object. -/
def showObject (f : AnswerFormat) (name : String) : Outcome := do
  match (← s.registry).contents.index.get? name, f with
  | none, _ => .error [(RegistryError.notFound name).message]
  | some r, .text => Outcome.lines (s.objectLines r)
  | some r, f => .ok (f.render r.definition.encode, 0)

/-- A field of a composed object in a list, with its origin. -/
def fieldLine (c : Composed) (key : String) (f : Field) : String :=
  let origin := match c.provenance.get? key with
    | some p => p.layer.name ++ ": " ++ p.source
    | none => ""
  "  " ++ key ++ ": " ++ f.kind.getD "unknown" ++ " " ++
    Tint.dimmed.paint s.console ("(" ++ origin ++ ")")

/-- The size of a double with two digits behind the point; what lies in the middle goes to the even
neighbour. -/
def twoPlaces (x : Double) : String :=
  let (num, den) := x.quotient
  let up := (200 * num + den) / (2 * den)
  let n := if (200 * num + den) % (2 * den) = 0 && up % 2 = 1 then up - 1 else up
  toString (n / 100) ++ "." ++ toString (n / 10 % 10) ++ toString (n % 10)

/-- A composed object as lines. -/
def composedLines (c : Composed) : List String :=
  let conflicts := [Conflict.Kind.field, .parameter, .incompatible].flatMap c.conflictsOf
  let order := if c.traitOrder.isEmpty then "(none)" else Text.joined " → " c.traitOrder
  [Tint.bold.paint s.console c.name, s.labelled "  " "traits" order, "", s.heading .cyan "schema"] ++
    (c.schema.map fun (key, f) => s.fieldLine c key f) ++
    (if c.conflicts.isEmpty then []
      else ["", s.heading .yellow "conflicts"] ++
        conflicts.map fun k => "  " ++ s.notable ++ " " ++ k.message) ++
    ["", "Composed in " ++ twoPlaces s.timing.milliseconds ++ "ms"]

/-- A composed object. -/
def resolveObject (f : AnswerFormat) (name : String) : Outcome := do
  match ((← s.registry).resolve s.tree name).2, f with
  | .error e, _ => .error (("Failed to resolve object \"" ++ name ++ "\"") :: e.causes)
  | .ok c, .text => Outcome.lines (s.composedLines c)
  | .ok c, f => .ok (f.render (c.encode s.timing), 0)

/-- What is wrong with a path as lines. -/
def diagnosticLines (d : Diagnostic) : List String :=
  (s.bad ++ " [" ++ d.kind.name ++ "] " ++ d.path.text) ::
    (Text.lines d.message).map fun l => "    " ++ l

/-- The files that the registry could not take in. -/
def showDiagnostics (f : AnswerFormat) : Outcome := do
  let ds := (← s.registry).contents.diagnostics.map Prod.snd
  match f with
  | .text =>
    if ds.isEmpty then Outcome.lines [s.good ++ " No diagnostics"] else Outcome.lines (ds.flatMap s.diagnosticLines)
  | f => .ok (f.render (.arr (ds.map (Diagnostic.encode s.timing.moment))), 0)

/-- The interfaces of objects, up to the first that cannot be composed. -/
def interfaces : Registry → List String → Except (List String) (List Interface)
  | _, [] => .ok []
  | rg, name :: names =>
    match rg.resolve s.tree name with
    | (_, .error e) => .error (("Failed to compose " ++ name) :: e.causes)
    | (rg, .ok c) => (interfaces rg names).map (c.interface :: ·)

/-- The interfaces of the named objects, or of all. -/
def wantedInterfaces (names : List String) : Except (List String) (List Interface) := do
  let rg ← s.registry
  s.interfaces rg (if names.isEmpty then rg.contents.index.list.map Record.name else names)

/-- Interfaces as an answer. -/
def interfacesText (is : List Interface) : String :=
  linesText (is.map Interface.content) ++ Interface.barrel (is.map Interface.fileName)

/-- What is told about files that were written. -/
def writtenLines (is : List Interface) (dir : Path) (written : List Path) : List String :=
  (written.map fun p => "  " ++ s.good ++ " " ++ p.text) ++
    ["Generated " ++ toString is.length ++ " interface(s) in " ++ dir.text]

/-- Interfaces of objects, as the answer or written into a directory; the tree afterwards, and the files
that were written. -/
def generate (names : List String) (output : Option Path) (print : Bool) : Tree × List Path × Outcome :=
  match s.wantedInterfaces names with
  | .error causes => (s.tree, [], .error causes)
  | .ok is =>
    if names.isEmpty && is.isEmpty then (s.tree, [], Outcome.lines ["No objects to generate."])
    else if print then (s.tree, [], .ok (interfacesText is, 0))
    else
      let dir := (output.map s.env.expand).getD (s.settings.outputDirectory s.env)
      match s.tree.writeArtifacts dir is with
      | (t, .error e) => (t, e.written dir is, .failure "Failed to write artifacts" e.message)
      | (t, .ok written) => (t, written, Outcome.lines (s.writtenLines is dir written))

/-- An event as a line. -/
def eventLine : Event → String
  | .ready n => Tint.blue.paint s.console "●" ++ " ready (" ++ toString n ++ " objects)"
  | .added r => Tint.green.paint s.console "+" ++ " added " ++ r.name ++ " (" ++ r.path.text ++ ")"
  | .updated r => Tint.yellow.paint s.console "~" ++ " updated " ++ r.name
  | .removed r => Tint.red.paint s.console "-" ++ " removed " ++ r.name
  | .failed d => s.bad ++ " " ++ d.path.text ++ ": " ++ d.message

/-- A registry that is watched, and what is told when watching begins. -/
def watch (interval : Option Nat) : Except (List String) (Registry × List String) := do
  let usual := s.settings.registryOptions s.env
  let options := { usual with
    autoLoad := false
    watch := false
    interval := interval.getD usual.interval }
  let rg ← s.openRegistry options
  let start := fun (context : String) (e : RegistryError) => context :: e.causes
  let (rg, _) ← (rg.listen.refresh s.tree).mapError (start "Initial registry refresh failed")
  let rg ← rg.watch.mapError (start "Failed to start watcher")
  let (rg, events) := rg.takeEvents
  let opening := "Watching " ++ commaList (options.roots.map Path.text) ++ " (every " ++
    toString options.interval ++ "ms, Ctrl-C to stop)"
  return (rg, opening :: events.map s.eventLine)

end Situation

end TraitWeave
