import TraitWeave.CommandLine.Moment
import TraitWeave.CommandLine.Needs

/-!
# The program

What a run looks at is read from the disk into a tree; the run itself is a function of that tree; what it
leaves behind is written to the disk and the console.
-/

namespace TraitWeave.Main

/-- The variables of the process. -/
def processVariables : IO (Table String) := do
  let named : IO (Table String) := do
    let names := ["HOME", "XDG_CONFIG_HOME", "XDG_DATA_HOME", "TRAITSMITH_CONFIG", "TRAITSMITH_DIR", "NO_COLOR",
      "CLICOLOR", "CLICOLOR_FORCE"]
    names.filterMapM fun n => do return (← IO.getEnv n).map fun v => (n, v)
  try
    let bytes ← IO.FS.readBinFile "/proc/self/environ"
    let entries := ((String.fromUTF8? bytes).getD "").split (· == '\x00') |>.toList.map (·.toString)
    return entries.filterMap fun e =>
      let name := e.toList.takeWhile (· ≠ '=')
      if name.isEmpty then none
      else some (String.ofList name, String.ofList (e.toList.drop (name.length + 1)))
  catch _ => named

/-- The endings of files whose text may be wanted. -/
def endings : List String := [".json", ".yaml", ".yml"]

/-- A file on the disk. Its text is read where it may be wanted. -/
def readStored (path : String) (wanted : Bool) : IO StoredFile := do
  let facts ← ((← IO.currentDir) / path).metadata
  let time := facts.modified.sec.toNat * 1000 + facts.modified.nsec.toNat / 1000000
  let text ← if wanted then String.fromUTF8? <$> IO.FS.readBinFile path else pure none
  return ⟨text, facts.byteSize.toNat, time⟩

/-- What a path on the disk stands for, with all that lies below a directory, and where the links in it
lead. -/
partial def readEntry (path : String) (whole : Bool) : IO (Entry × List String) := do
  let here ← IO.currentDir
  let facts ← (here / path).symlinkMetadata
  match facts.type with
  | .dir =>
    if !whole then return (.directory [], [])
    let found ← (here / path).readDir
    let mut entries : Table Entry := []
    let mut links := []
    for e in found do
      try
        let (entry, more) ← readEntry (path ++ "/" ++ e.fileName) true
        entries := (e.fileName, entry) :: entries
        links := more ++ links
      catch _ => pure ()
    return (.directory entries, links)
  | .symlink =>
    try
      let target := (← IO.FS.realPath path).toString
      return (.link target, [target])
    catch _ => return (.link "", [])
  | _ => return (.file (← readStored path (!whole || endings.any (Text.endsWith path))), [])

/-- The names on the way to an absolute path. -/
def namesOf (path : String) : List String :=
  (Path.mk path).components.filterMap fun c => match c with
    | .name n => some n
    | _ => none

/-- The tree with what stands on the way to an absolute path and, if it is wanted, below it. -/
partial def addPath (deep : Bool) (t : Tree) (path : String) : IO Tree := do
  let names := namesOf path
  let step := fun (acc : Tree × List String) (i : Nat) => do
    let (t, links) := acc
    let place := names.take (i + 1)
    let whole := deep && i + 1 == names.length
    if !whole && (t.root.at? place).isSome then return (t, links)
    try
      let absolute := "/" ++ Text.joined "/" place
      let (e, more) ← readEntry absolute whole
      let e ← if whole then
          match e with
          | .file _ => pure (Entry.file (← readStored absolute true))
          | e => pure e
        else pure e
      return ({ t with root := t.root.set (some e) place }, more ++ links)
    catch _ => return (t, links)
  let (t, links) ← (List.range names.length).foldlM step (t, [])
  links.foldlM (fun t l => if t.has ⟨l⟩ then pure t else addPath true t l) t

/-- The tree with what some paths lead to. -/
def addPaths (t : Tree) (ps : List Path) : IO Tree := do
  let here := (← IO.currentDir).toString
  ps.foldlM (fun t p => addPath true t ((Path.mk here).join p).text) t

/-- The tree that an invocation looks at. -/
def treeFor (env : Environment) (inv : Invocation) : IO Tree := do
  let here := (← IO.currentDir).toString
  let empty : Tree := ⟨.directory [], namesOf here⟩
  let t ← addPaths (← addPath false empty here) (CommandLine.settingsPaths env inv)
  match Settings.load env t inv.settings with
  | .ok s => addPaths t (CommandLine.commandPaths env s inv)
  | .error _ => return t

/-- Write the files that a run has written. -/
def store (env : Environment) (r : Run) : IO Unit := do
  for p in r.written do
    match r.tree.readText p with
    | .ok text =>
      match p.parent? with
      | some dir => IO.FS.createDirAll dir.text
      | none => pure ()
      IO.FS.writeFile p.text text
    | .error _ => pure ()
  let log := CommandLine.logDirectory env
  if r.tree.isDirectory log then IO.FS.createDirAll log.text

/-- Refresh a registry from time to time and tell what happens. -/
partial def keepWatching (env : Environment) (inv : Invocation) (s : Situation) (rg : Registry) :
    IO Unit := do
  IO.sleep (UInt32.ofNat rg.options.interval)
  let (rg, events) := (rg.tick (← treeFor env inv)).takeEvents
  for e in events do IO.println (s.eventLine e)
  keepWatching env inv s rg

/-- The moment, as the process sees its own directory being made. -/
def now : IO String := do
  try
    let time := (← ((← IO.currentDir) / "/proc/self").metadata).modified
    return CommandLine.momentText time.sec time.nsec.toNat
  catch _ => return CommandLine.momentText 0 0

end TraitWeave.Main

open TraitWeave in
/-- Run the program with its arguments; the result is its exit code. -/
def main (args : List String) : IO UInt32 := do
  let start ← IO.monoNanosNow
  let env : Environment := ⟨← Main.processVariables, none⟩
  let console := Console.of env (← (← IO.getStdout).isTty)
  let inv := match Reading.of CommandLine.program args with
    | .call sayings => Invocation.ofSayings sayings
    | _ => none
  let tree ← match inv with
    | some inv => Main.treeFor env inv
    | none => pure ⟨.directory [], []⟩
  let passed := (← IO.monoNanosNow) - start
  let timing : Composed.Timing :=
    ⟨← Main.now, (Double.ofDecimal false passed (-6)).getD (Double.ofInt 0)⟩
  let r := CommandLine.run env console timing tree args
  Main.store env r
  IO.print r.output
  IO.eprint r.complaint
  match inv, r.watched with
  | some inv, some (s, rg) => Main.keepWatching env inv s rg
  | _, _ => pure ()
  return UInt32.ofNat r.code
