import TraitWeave.Files
import TraitWeave.Table

/-!
# Trees of files

A tree has files, directories and links. A path is followed from the root or from the working directory;
links on the way are followed where they lead.

* `Entry`, `Tree`: what a tree holds, and where relative paths start.
* `Tree.resolve`: where a path leads.
* `Tree.isFile`, `Tree.isDirectory`, `Tree.readText`: what can be asked of a tree.
* `Tree.files`: the tree as reading definitions sees it.
-/

namespace TraitWeave

/-- A file: its text, if its bytes are one, its size in bytes, and when it was last changed. -/
structure StoredFile where
  text : Option String
  size : Nat
  time : Nat
  deriving Repr

/-- What a name in a directory stands for. -/
inductive Entry where
  | file (file : StoredFile)
  | directory (entries : List (String × Entry))
  | link (target : String)
  deriving Repr

/-- Why something could not be done with a path. -/
inductive TreeError where
  | notFound
  | exists
  | notDirectory
  | isDirectory
  | notEmpty
  | nameTooLong
  | tooManyLinks
  | notText
  | badName
  deriving DecidableEq, Repr

/-- The wording. -/
def TreeError.message : TreeError → String
  | notFound => "No such file or directory (os error 2)"
  | .exists => "File exists (os error 17)"
  | notDirectory => "Not a directory (os error 20)"
  | isDirectory => "Is a directory (os error 21)"
  | notEmpty => "Directory not empty (os error 39)"
  | nameTooLong => "File name too long (os error 36)"
  | tooManyLinks => "Too many levels of symbolic links (os error 40)"
  | notText => "stream did not contain valid UTF-8"
  | badName => "file name contained an unexpected NUL byte"

/-- Where something is in a tree: the names of the directories that lead to it, and its own. -/
abbrev Location := List String

/-- A tree of files with a working directory. -/
structure Tree where
  root : Entry
  here : Location

namespace Entry

/-- The entries of a directory. -/
def entries? : Entry → Option (Table Entry)
  | directory es => some es
  | _ => none

/-- The entry at a location, no links followed. -/
def at? (e : Entry) : Location → Option Entry
  | [] => some e
  | n :: rest =>
    match e with
    | directory es =>
      match Table.get? es n with
      | some d => at? d rest
      | none => none
    | _ => none

/-- Set or remove the entry at a location whose directory is there. -/
def set (e : Entry) (new : Option Entry) : Location → Entry
  | [] => new.getD e
  | [n] =>
    match e with
    | directory es =>
      match new with
      | some d => directory (Table.put es n d)
      | none => directory (Table.erase es n)
    | e => e
  | n :: rest =>
    match e with
    | directory es =>
      match Table.get? es n with
      | some d => directory (Table.put es n (set d new rest))
      | none => e
    | e => e

mutual

/-- The number of entries below and including this one. -/
def count : Entry → Nat
  | directory es => countAll es + 1
  | _ => 1

/-- The number of entries in a directory and below. -/
def countAll : List (String × Entry) → Nat
  | [] => 0
  | (_, e) :: rest => count e + countAll rest

end

end Entry

/-- A step of a path as it is followed. -/
inductive Step where
  | down (name : String)
  | up
  | stay
  deriving DecidableEq, Repr

namespace Tree

/-- The steps of a path. A separator at the end asks for a directory, as a dot does. -/
def stepsOf (text : String) : List Step :=
  let parts := Text.pieces (· == '/') text.toList
  let step := fun (p : List Char) =>
    if p = ['.'] then Step.stay else if p = ['.', '.'] then .up else .down (String.ofList p)
  let named := (parts.filter fun p => !p.isEmpty).map step
  if parts.length > 1 && (parts.getLast?.getD []).isEmpty then named ++ [.stay] else named

/-- Where a path starts. -/
def startOf (t : Tree) (text : String) : Location :=
  if text.toList.head? = some '/' then [] else t.here

/-- How many links are followed on the way of one path. -/
def linkLimit : Nat := 40

/-- Follow steps from a location. A link in the last place is followed if that is wanted. -/
def follow (root : Entry) (last : Bool) (links : Nat) (loc : Location) (steps : List Step) :
    Except TreeError (Location × Entry) :=
  match root.at? loc, steps with
  | none, _ => .error .notFound
  | some e, [] => .ok (loc, e)
  | some (.directory _), .stay :: rest => follow root last links loc rest
  | some (.directory _), .up :: rest => follow root last links loc.dropLast rest
  | some (.directory es), .down n :: rest =>
    if n.utf8ByteSize > 255 then .error .nameTooLong
    else
      match Table.get? es n with
      | none => .error .notFound
      | some (.link target) =>
        if rest.isEmpty && !last then .ok (loc ++ [n], .link target)
        else
          match links with
          | 0 => .error .tooManyLinks
          | left + 1 =>
            let base := if target.toList.head? = some '/' then [] else loc
            if target.isEmpty then .error .notFound
            else follow root last left base (stepsOf target ++ rest)
      | some _ => follow root last links (loc ++ [n]) rest
  | some _, _ => .error .notDirectory
termination_by (links, steps.length)

/-- Where a path leads. -/
def resolveWith (t : Tree) (last : Bool) (p : Path) : Except TreeError (Location × Entry) :=
  if p.text.isEmpty then .error .notFound
  else if p.text.toList.contains '\x00' then .error .badName
  else follow t.root last linkLimit (t.startOf p.text) (stepsOf p.text)

/-- Where a path leads, all links followed. -/
def resolve (t : Tree) (p : Path) : Except TreeError (Location × Entry) := t.resolveWith true p

/-- The path leads to something. -/
def has (t : Tree) (p : Path) : Bool := (t.resolve p).toOption.isSome

/-- The path leads to a file. -/
def isFile (t : Tree) (p : Path) : Bool :=
  match t.resolve p with
  | .ok (_, .file _) => true
  | _ => false

/-- The path leads to a directory. -/
def isDirectory (t : Tree) (p : Path) : Bool :=
  match t.resolve p with
  | .ok (_, .directory _) => true
  | _ => false

/-- The text of a file. -/
def readText (t : Tree) (p : Path) : Except TreeError String :=
  match t.resolve p with
  | .error e => .error e
  | .ok (_, .file f) =>
    match f.text with
    | some s => .ok s
    | none => .error .notText
  | .ok _ => .error .isDirectory

/-- The tree as reading definitions sees it. -/
def files (t : Tree) : Files where
  isFile := t.isFile
  text p := (t.readText p).mapError TreeError.message

end Tree

end TraitWeave
