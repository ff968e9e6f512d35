import TraitWeave.Settings.Basic
import TraitWeave.Tree.Basic

/-!
# Loading settings

Settings come from the file that is asked for, or else from the first usual file that can be read; without
one the standard settings hold.

* `SettingsError`, `SettingsError.causes`: why a file holds no settings.
* `Settings.usualFiles`: the usual files in order.
* `Settings.load`: the settings that hold.
-/

namespace TraitWeave

/-- Why a file holds no settings. -/
inductive SettingsError where
  | unreadable (path : Path) (reason : TreeError)
  | invalid (path : Path) (reason : Yaml.Error)

/-- The wording, from the general to the particular. -/
def SettingsError.causes : SettingsError → List String
  | unreadable path reason =>
    ["Failed to load config from " ++ path.text, "Failed to read config file", reason.message]
  | invalid path reason =>
    ["Failed to load config from " ++ path.text, "Failed to parse config file", reason.message]

namespace Settings

/-- The settings in a file. -/
def read (env : Environment) (t : Tree) (p : Path) : Except SettingsError Settings :=
  match t.readText p with
  | .error e => .error (.unreadable p e)
  | .ok text => (Yaml.decode (decode env) text).mapError (.invalid p)

/-- The name of a file of settings. -/
def fileName : String := programName ++ ".yaml"

/-- The files that may hold the settings, in the order in which they are tried. -/
def usualFiles (env : Environment) : List Path :=
  ((env.get? "TRAITSMITH_CONFIG").map Path.mk).toList ++
    ((env.get? directoryVariable).map fun d => (Path.mk d).child fileName).toList ++
    (env.configHome?.map fun c => (c.child programName).child fileName).toList ++
    [⟨fileName⟩]

/-- The settings that hold. A usual file that cannot be read is passed over. -/
def load (env : Environment) (t : Tree) : Option Path → Except SettingsError Settings
  | some p => read env t p
  | none => .ok (((usualFiles env).findSome? fun p => (read env t p).toOption).getD (standard env))

end Settings

end TraitWeave
