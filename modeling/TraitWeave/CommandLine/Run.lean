import TraitWeave.CommandLine.Help
import TraitWeave.CommandLine.ObjectAnswers
import TraitWeave.CommandLine.SettingsAnswers
import TraitWeave.CommandLine.TraitAnswers
import TraitWeave.Tree.Edit

/-!
# Running the program

The arguments are read, the settings loaded, the log opened, and the command answered, in this order; the
first failure ends the run.

* `Run`: what a run leaves behind.
* `CommandLine.run`: a run with given arguments.
-/

namespace TraitWeave

/-- What a run leaves behind. -/
structure Run where
  /-- The files afterwards. -/
  tree : Tree
  /-- The files that were written. -/
  written : List Path
  output : String
  /-- What is told about a failure. -/
  complaint : String
  code : Nat
  /-- A registry that is to be watched from now on. -/
  watched : Option (Situation × Registry)

namespace CommandLine

/-- The version of the program. -/
def version : String := "0.2.6"

/-- A run that changes no files. -/
def quiet (t : Tree) (output : String) (code : Nat) : Run := ⟨t, [], output, "", code, none⟩

/-- A run that fails. -/
def failed (t : Tree) (causes : List String) : Run := ⟨t, [], "", failureText causes ++ "\n", 1, none⟩

/-- A run that ends with an outcome of its command. -/
def finished (t : Tree) (written : List Path) : Outcome → Run
  | .ok (output, code) => ⟨t, written, output, "", code, none⟩
  | .error causes => { failed t ("Command failed" :: causes) with written := written }

/-- The settings with what the arguments say about paths. -/
def overridden (inv : Invocation) (s : Settings) : Settings :=
  { s with paths := { s.paths with
      traits := if inv.traits.isEmpty then s.paths.traits else inv.traits
      objects := if inv.objects.isEmpty then s.paths.objects else inv.objects
      schemas := inv.schemas.or s.paths.schemas } }

/-- The directory of the log. -/
def logDirectory (env : Environment) : Path :=
  ((env.dataHome?.getD ⟨"."⟩).child Settings.programName).child "logs"

/-- The files with the log opened, or the causes why it cannot be. -/
def openLog (env : Environment) (t : Tree) : Except (List String) Tree :=
  let dir := logDirectory env
  let file := dir.child (Settings.programName ++ ".log")
  let fail := fun (what : String) (e : TreeError) => ["Failed to setup logging", what, e.message]
  match t.makeDirectories dir with
  | .error e => .error (fail "Failed to create log directory" e)
  | .ok t =>
    if t.isFile file then .ok t
    else (t.write file ⟨some "", 0, 0⟩).mapError (fail "Failed to open log file")

/-- The answer to a command. -/
def answer (s : Situation) (inv : Invocation) : Run :=
  let f := s.console.format inv.format
  let ended := finished s.tree []
  match inv.command with
  | .showTrait name scope version => ended (s.showTrait f name scope version)
  | .checkTraits => ended (s.checkTraits f)
  | .orderTraits => ended s.orderTraits
  | .listObjects q => ended (s.listObjects f q)
  | .showObject name => ended (s.showObject f name)
  | .resolveObject name => ended (s.resolveObject f name)
  | .showDiagnostics => ended (s.showDiagnostics f)
  | .showSettings => ended (s.showSettings f)
  | .generate names output print =>
    let (t, written, outcome) := s.generate names output print
    finished t written outcome
  | .watch interval =>
    match s.watch interval with
    | .error causes => ended (.error causes)
    | .ok (rg, lines) => { quiet s.tree (linesText lines) 0 with watched := some (s, rg) }
  | .completions _ => quiet s.tree "" 0

/-- A run with an invocation. -/
def runInvocation (env : Environment) (console : Console) (timing : Composed.Timing) (t : Tree)
    (inv : Invocation) : Run :=
  match Settings.load env t inv.settings with
  | .error e => failed t ("Failed to load configuration" :: e.causes)
  | .ok settings =>
    match openLog env t with
    | .error causes => failed t causes
    | .ok t => answer ⟨env, console, t, overridden inv settings, timing⟩ inv

/-- A run with given arguments. -/
def run (env : Environment) (console : Console) (timing : Composed.Timing) (t : Tree) (args : List String) : Run :=
  match Reading.of program args with
  | .version => quiet t (program.name ++ " " ++ version ++ "\n") 0
  | .help names atLength => quiet t (helpText names atLength) 0
  | .misuse => quiet t "" 2
  | .call sayings =>
    match Invocation.ofSayings sayings with
    | some inv => runInvocation env console timing t inv
    | none => quiet t "" 2

end CommandLine

end TraitWeave
