import TraitWeave.CommandLine.Run

/-!
# What a run looks at

A run sees the files as one tree. These are the paths that have to be in it.

* `CommandLine.settingsPaths`: for the settings.
* `CommandLine.commandPaths`: for the command, once the settings are known.
-/

namespace TraitWeave.CommandLine

/-- The paths that matter for the settings, and for the log. -/
def settingsPaths (env : Environment) (inv : Invocation) : List Path :=
  inv.settings.toList ++ Settings.usualFiles env ++ [logDirectory env]

/-- The paths that a command itself names. -/
def namedPaths (env : Environment) : Command → List Path
  | .showTrait name _ _ => [⟨name⟩]
  | .generate _ output _ => (output.map env.expand).toList
  | _ => []

/-- The paths that matter for the command. -/
def commandPaths (env : Environment) (s : Settings) (inv : Invocation) : List Path :=
  let s := overridden inv s
  s.traitRoots env ++ s.objectRoots env ++ (s.paths.schemas.map env.expand).toList ++
    [s.outputDirectory env] ++ namedPaths env inv.command

end TraitWeave.CommandLine
