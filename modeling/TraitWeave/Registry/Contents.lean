import TraitWeave.Object.Document
import TraitWeave.Registry.Event
import TraitWeave.Registry.Index
import TraitWeave.Registry.Scan

/-!
# The contents of a registry

The contents follow the files. Each record belongs to the file that holds it. A file whose object has the
name of a record waits until that name is free, and is taken in then.

* `Contents`: the records, the files that hold them, the files that wait, and what is wrong.
* `Progress`: contents in the middle of a refresh, with what was done so far.
* `Contents.refresh`: follow the changes between the last scan and a new one.
-/

namespace TraitWeave

/-- What a registry has taken in. -/
structure Contents where
  index : Index
  /-- The last scan. -/
  snapshot : Snapshot
  /-- The key of the record that a file holds. -/
  holders : PathTable String
  diagnostics : PathTable Diagnostic
  /-- The key for which a file waits. -/
  waiting : PathTable String

namespace Contents

/-- Nothing was taken in. -/
def empty : Contents := ⟨Index.empty, [], [], [], []⟩

/-- The files that wait for a name which is free, in the order of their paths. -/
def freed (c : Contents) : List Path :=
  (c.waiting.filter fun e => !c.index.has e.2).map Prod.fst

/-- The file gives up the record that it holds. -/
def release (c : Contents) (p : Path) : Contents × Option Record :=
  match PathTable.get? c.holders p with
  | none => (c, none)
  | some key =>
    let c := { c with holders := PathTable.erase c.holders p }
    match c.index.get? key with
    | some r =>
      if r.path.same p then
        let (index, removed) := c.index.remove key
        ({ c with index := index }, removed)
      else (c, none)
    | none => (c, none)

/-- Nothing is wrong with the file and it waits for nothing. -/
def settled (c : Contents) (p : Path) : Contents :=
  { c with diagnostics := PathTable.erase c.diagnostics p, waiting := PathTable.erase c.waiting p }

end Contents

/-- Contents in the middle of a refresh. -/
structure Progress where
  contents : Contents
  tally : RefreshTally
  events : List Event

namespace Progress

/-- Something is wrong. -/
def fail (s : Progress) (d : Diagnostic) : Progress where
  contents := { s.contents with diagnostics := PathTable.put s.contents.diagnostics d.path d }
  tally := { s.tally with errors := s.tally.errors + 1 }
  events := s.events ++ [.failed d]

/-- The file gives up the record that it holds. -/
def release (s : Progress) (p : Path) : Progress :=
  match s.contents.release p with
  | (c, none) => { s with contents := c }
  | (c, some r) =>
    { contents := c
      tally := { s.tally with removed := s.tally.removed + 1 }
      events := s.events ++ [.removed r] }

/-- The file is gone. -/
def drop (s : Progress) (p : Path) : Progress :=
  { s with contents := s.contents.settled p }.release p

/-- The file holds no object. -/
def reject (s : Progress) (p : Path) (message : String) : Progress :=
  let waiting := PathTable.erase s.contents.waiting p
  ({ s with contents := { s.contents with waiting := waiting } }.release p).fail (.ofProblems p message)

/-- The file has to wait for the name of its object. -/
def defer (s : Progress) (r other : Record) : Progress :=
  let s := s.fail (.ofDuplicate r other)
  { s with contents := { s.contents with waiting := PathTable.put s.contents.waiting r.path r.key } }

/-- The file holds the record. -/
def hold (s : Progress) (r : Record) : Progress :=
  let c := s.contents.settled r.path
  let (index, previous) := c.index.insert r
  let c := { c with index := index, holders := PathTable.put c.holders r.path r.key }
  match previous with
  | some _ => ⟨c, { s.tally with updated := s.tally.updated + 1 }, s.events ++ [.updated r]⟩
  | none => ⟨c, { s.tally with added := s.tally.added + 1 }, s.events ++ [.added r]⟩

/-- The record that stands under the key of another, but comes from another file. -/
def rival? (c : Contents) (r : Record) : Option Record :=
  (c.index.get? r.key).filter fun other => !other.path.same r.path

/-- The file of a record gives up the record that it holds under another name. -/
def rename (s : Progress) (r : Record) : Progress :=
  let renamed := ((PathTable.get? s.contents.holders r.path).map (· != r.key)).getD false
  if renamed then s.release r.path else s

/-- A record that was read from its file. A file whose object has a new name gives up the old one. -/
def take (s : Progress) (r : Record) : Progress :=
  let s := s.rename r
  match rival? s.contents r with
  | some other => s.defer r other
  | none => s.hold r

/-- Read a file anew. -/
def read (files : Files) (s : Progress) (p : Path) (stamp : Stamp) : Progress :=
  match Object.ofFile p (files.text p) with
  | .error ps => s.reject p (Document.Problem.rendered ps)
  | .ok o => s.take (Record.of o p stamp)

/-- Read a file if the scan found it. -/
def readFound (files : Files) (found : Snapshot) (s : Progress) (p : Path) : Progress :=
  match PathTable.get? found p with
  | some stamp => s.read files p stamp
  | none => s

/-- Read a file that waited, or let it wait no longer if the scan did not find it. -/
def readFreed (files : Files) (found : Snapshot) (s : Progress) (p : Path) : Progress :=
  match PathTable.get? found p with
  | some stamp => s.read files p stamp
  | none =>
    { s with contents := { s.contents with waiting := PathTable.erase s.contents.waiting p } }

/-- Read files that wait for names which are free, as long as fewer wait each time. -/
def promote (files : Files) (found : Snapshot) (s : Progress) : Progress :=
  match s.contents.freed with
  | [] => s
  | free =>
    let next := free.foldl (readFreed files found) s
    if next.contents.waiting.length < s.contents.waiting.length then promote files found next
    else next
termination_by s.contents.waiting.length

/-- An error of the scan; it is told if it is new. -/
def noteError (s : Progress) (p : Path) (message : String) : Progress :=
  let d := Diagnostic.ofScan p message
  let known := ((PathTable.get? s.contents.diagnostics p).map fun old =>
    old.kind == d.kind && old.message == d.message).getD false
  if known then { s with tally := { s.tally with errors := s.tally.errors + 1 } } else s.fail d

/-- Forget the errors of earlier scans on paths that can be scanned again. -/
def forgetErrors (s : Progress) (failing : List (Path × String)) : Progress :=
  let stays := fun (e : Path × Diagnostic) =>
    e.2.kind != .unscanned || failing.any fun f => f.1.same e.1
  { s with contents := { s.contents with diagnostics := s.contents.diagnostics.filter stays } }

/-- The errors of a scan take the place of those of earlier scans. -/
def noteErrors (s : Progress) (errors : List (Path × String)) : Progress :=
  errors.foldl (fun s e => s.noteError e.1 e.2) (s.forgetErrors errors)

/-- The refresh is done; the scan is the last one from now on. -/
def finish (s : Progress) (found : Snapshot) : Progress :=
  { s with
    contents := { s.contents with snapshot := found }
    tally := { s.tally with total := s.contents.index.size } }

end Progress

namespace Contents

/-- The paths without those that come again. -/
def distinct (ps : List Path) : List Path :=
  ps.foldl (fun seen p => if seen.any (·.same p) then seen else seen ++ [p]) []

/-- The files that have to be read: those that wait for names which are free, and those that differ. -/
def queue (c : Contents) (changes : Snapshot.Diff) : List Path :=
  distinct (c.freed ++ changes.added ++ changes.changed)

/-- Follow the changes between the last scan and a new one. -/
def refresh (files : Files) (c : Contents) (scan : Scan) : Progress :=
  let changes := Snapshot.diff c.snapshot scan.snapshot
  let s := changes.removed.foldl Progress.drop ⟨c, .zero, []⟩
  let s := (s.contents.queue changes).foldl (Progress.readFound files scan.snapshot) s
  ((s.promote files scan.snapshot).noteErrors scan.errors).finish scan.snapshot

end Contents

end TraitWeave
