import TraitWeave.Registry.Basic
import TraitWeave.Settings.Environment
import TraitWeave.Yaml.Decode

/-!
# Settings

Where traits, objects and schemas lie, how objects are sought, and whether parameters are checked.

* `Settings`, `Settings.standard`: the settings, and those where nothing else is said.
* `Settings.decode`, `Settings.encode`: settings as a document.
* `Settings.registryOptions`, `Settings.resolver`: what follows from settings.
-/

namespace TraitWeave

/-- How much is noted in the log. -/
inductive LogLevel where
  | trace
  | debug
  | info
  | warn
  | error
  | off
  deriving DecidableEq, Repr

namespace LogLevel

/-- The name of a level. -/
def name : LogLevel → String
  | trace => "trace"
  | debug => "debug"
  | info => "info"
  | warn => "warn"
  | error => "error"
  | off => "off"

/-- The levels by their names. -/
def cases : List (String × LogLevel) :=
  [trace, debug, info, warn, error, off].map fun l => (l.name, l)

end LogLevel

/-- Where things lie. -/
structure Settings.Paths where
  traits : List Path
  objects : List Path
  /-- The directory of schemas for parameters, if there is one. -/
  schemas : Option Path
  /-- Where interfaces are written. -/
  output : Path

/-- How objects are sought. -/
structure Settings.Search where
  rules : ScanRules
  watch : Bool
  /-- The time between two refreshes, in milliseconds. -/
  interval : Nat

/-- How parameters are checked. -/
structure Settings.Checks where
  enabled : Bool
  report : ReportOptions

/-- The settings. -/
structure Settings where
  logLevel : LogLevel
  paths : Settings.Paths
  search : Settings.Search
  checks : Settings.Checks

namespace Settings

/-- The name of the program, and of the directory and file that are its own. -/
def programName : String := "traitsmith"

/-- The variable that names the directory of the program. -/
def directoryVariable : String := "TRAITSMITH_DIR"

/-- The directory of the program. -/
def directory (env : Environment) : Path :=
  match env.get? directoryVariable with
  | some d => ⟨d⟩
  | none => (env.configHome?.getD ⟨"."⟩).child programName

/-- The settings where nothing else is said. -/
def standard (env : Environment) : Settings where
  logLevel := .info
  paths :=
    { traits := [(directory env).child "traits"]
      objects := [(directory env).child "objects"]
      schemas := none
      output := ⟨"generated"⟩ }
  search :=
    { rules := .standard
      watch := (RegistryOptions.ofRoots []).watch
      interval := (RegistryOptions.ofRoots []).interval }
  checks := ⟨true, .standard⟩

open Yaml Yaml.NodeDecoder

/-- A path. -/
def path : NodeDecoder Path := fun d t links n =>
  (text "path string" d t links n).map fun (s, links) => (⟨s⟩, links)

/-- Texts. -/
def texts : NodeDecoder (List String) := list (text "a string")

/-- The paths in a document, over those that are there. -/
def decodePaths (start : Paths) : NodeDecoder Paths :=
  record "struct PathsConfig" [
    field "traits" (list path) fun s ps => { s with traits := ps },
    field "objects" (list path) fun s ps => { s with objects := ps },
    field "schemas" (option path) fun s p => { s with schemas := p },
    field "output" path fun s p => { s with output := p }] start

/-- The search in a document, over what is there. -/
def decodeSearch (start : Search) : NodeDecoder Search :=
  record "struct RegistryConfig" [
    field "extensions" texts fun s es => { s with rules := { s.rules with extensions := es } },
    field "ignore_directories" texts fun s ds => { s with rules := { s.rules with ignored := ds } },
    field "watch" flag fun s b => { s with watch := b },
    field "polling_interval_ms" natural fun s n => { s with interval := n }] start

/-- The checks in a document, over what is there. -/
def decodeChecks (start : Checks) : NodeDecoder Checks :=
  record "struct ValidationConfig" [
    field "enabled" flag fun s b => { s with enabled := b },
    field "include_warnings" flag fun s b => { s with report := { s.report with warnings := b } },
    field "include_info" flag fun s b => { s with report := { s.report with infos := b } }] start

/-- The settings in a document, over the standard ones. -/
def decode (env : Environment) : NodeDecoder Settings :=
  let start := standard env
  record "struct Config" [
    field "log_level" (variant LogLevel.cases) fun s l => { s with logLevel := l },
    field "paths" (decodePaths start.paths) fun s p => { s with paths := p },
    field "registry" (decodeSearch start.search) fun s r => { s with search := r },
    field "validation" (decodeChecks start.checks) fun s c => { s with checks := c }] start

/-- Paths as a value. -/
def encodePaths (ps : List Path) : Json := Encode.texts (ps.map Path.text)

/-- The settings as a value. -/
def encode (s : Settings) : Json :=
  .obj [("log_level", .str s.logLevel.name),
    ("paths", Encode.record [
      Encode.always "traits" (encodePaths s.paths.traits),
      Encode.always "objects" (encodePaths s.paths.objects),
      Encode.some? "schemas" (fun p => .str p.text) s.paths.schemas,
      Encode.always "output" (.str s.paths.output.text)]),
    ("registry", .obj [("extensions", Encode.texts s.search.rules.extensions),
      ("ignore_directories", Encode.texts s.search.rules.ignored),
      ("watch", .bool s.search.watch),
      ("polling_interval_ms", Encode.natural s.search.interval)]),
    ("validation", .obj [("enabled", .bool s.checks.enabled),
      ("include_warnings", .bool s.checks.report.warnings),
      ("include_info", .bool s.checks.report.infos)])]

/-- The roots of the traits. -/
def traitRoots (env : Environment) (s : Settings) : List Path := s.paths.traits.map env.expand

/-- The roots of the objects. -/
def objectRoots (env : Environment) (s : Settings) : List Path := s.paths.objects.map env.expand

/-- Where interfaces are written. -/
def outputDirectory (env : Environment) (s : Settings) : Path := env.expand s.paths.output

/-- How a registry is set up. -/
def registryOptions (env : Environment) (s : Settings) : RegistryOptions where
  roots := s.objectRoots env
  rules := s.search.rules
  watch := s.search.watch
  interval := s.search.interval
  autoLoad := true

/-- What resolves references. Parameters are checked against the schemas of the directory, if there is one,
and else against what the traits declare. -/
def resolver (env : Environment) (s : Settings) : Resolver :=
  if s.checks.enabled then
    let source := match s.paths.schemas with
      | some dir => SchemaSource.directory (env.expand dir)
      | none => .declared
    ⟨some (source, s.checks.report)⟩
  else ⟨none⟩

end Settings

end TraitWeave
