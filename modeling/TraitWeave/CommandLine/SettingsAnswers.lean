import TraitWeave.CommandLine.Situation

/-!
# Answers about settings

* `Situation.showSettings`: the settings that hold.
-/

namespace TraitWeave.Situation

variable (s : Situation)

/-- Paths with commas between them. -/
def pathList (ps : List Path) : String := commaList (ps.map Path.text)

/-- A truth value as a word. -/
def yesNo (b : Bool) : String := if b then "true" else "false"

/-- The settings as lines. -/
def settingsLines : List String :=
  let paths := s.settings.paths
  let search := s.settings.search
  let checks := s.settings.checks
  [Tint.bold.paint s.console "traitsmith Configuration", "", "log_level: " ++ s.settings.logLevel.name, "",
    s.heading .cyan "paths", "  traits: " ++ pathList paths.traits,
    "  objects: " ++ pathList paths.objects] ++
    (paths.schemas.map fun p => "  schemas: " ++ p.text).toList ++
    ["  output: " ++ paths.output.text, "",
      s.heading .cyan "registry", "  extensions: " ++ commaList search.rules.extensions,
      "  ignore_directories: " ++ commaList search.rules.ignored, "  watch: " ++ yesNo search.watch,
      "  polling_interval_ms: " ++ toString search.interval, "",
      s.heading .cyan "validation", "  enabled: " ++ yesNo checks.enabled,
      "  include_warnings: " ++ yesNo checks.report.warnings,
      "  include_info: " ++ yesNo checks.report.infos]

/-- The settings that hold. -/
def showSettings (f : AnswerFormat) : Outcome :=
  match f with
  | .text => .lines s.settingsLines
  | f => .ok (f.render s.settings.encode, 0)

end TraitWeave.Situation
