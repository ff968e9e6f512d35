import TraitWeave.Yaml.Event

/-!
# Documents as trees

The events of a document form a tree of nodes. A document that ends in a fault still has a tree: the
fault stands in it at the place where it was met, so that what comes before can be judged first.

* `Node`, `Document`: trees, and the nodes that anchors name.
* `Document.read`: the first document of a text.

Anchors are numbered as they come: a new name takes the number of names known so far, also where the name
is used again. A number that is given twice means the later node.
-/

namespace TraitWeave.Yaml

/-- A node of a document. -/
inductive Node where
  | scalar (mark : Mark) (tag : Option Tag) (text : String) (style : Style)
  | sequence (mark : Mark) (tag : Option Tag) (items : List Node)
  /-- Keys and values in turn. -/
  | mapping (mark : Mark) (tag : Option Tag) (parts : List Node)
  | link (mark : Mark) (number : Nat)
  /-- There is nothing in the document. -/
  | absent (mark : Mark)
  /-- Here the text ends in a fault. -/
  | broken
  deriving Repr

/-- What ends a document before its time. -/
inductive Ending where
  | fault (f : Fault)
  | unknownAnchor (mark : Mark)
  deriving DecidableEq, Repr

/-- A document. -/
structure Document where
  root : Node
  /-- The nodes with anchors, by the number of the event that begins them. -/
  anchored : List (Nat × Node)
  /-- The event that begins the node of an anchor number. -/
  numbers : List (Nat × Nat)
  /-- How many events the document has. -/
  size : Nat
  ending : Option Ending

/-- The node that a link with this number means. -/
def Document.target? (d : Document) (number : Nat) : Option Node :=
  -- later entries are in front
  match d.numbers.find? (·.1 == number) with
  | none => none
  | some (_, event) => (d.anchored.find? (·.1 == event)).map Prod.snd

/-- A collection that is being read. -/
structure Frame where
  isMapping : Bool
  mark : Mark
  tag : Option Tag
  /-- The number of the event that began it, if it has an anchor. -/
  begun : Option Nat
  /-- Its parts, the last first. -/
  parts : List Node

/-- The collection as a node. -/
def Frame.node (f : Frame) : Node :=
  if f.isMapping then .mapping f.mark f.tag f.parts.reverse else .sequence f.mark f.tag f.parts.reverse

/-- A document that is being read. -/
structure Builder where
  frames : List Frame
  root : Option Node
  anchored : List (Nat × Node)
  numbers : List (Nat × Nat)
  /-- The numbers that anchor names have at this point, each name once. -/
  names : List (String × Nat)
  size : Nat

namespace Builder

/-- Nothing read yet. -/
def start : Builder := ⟨[], none, [], [], [], 0⟩

/-- Give a number to an anchor and note that the coming event begins its node. -/
def note (b : Builder) (anchor : Option String) : Builder :=
  match anchor with
  | none => b
  | some name =>
    let number := b.names.length
    { b with
      names := (name, number) :: b.names.filter (·.1 != name)
      numbers := (number, b.size) :: b.numbers }

/-- Count an event. -/
def count (b : Builder) : Builder := { b with size := b.size + 1 }

/-- A node is complete. -/
def add (b : Builder) (begun : Option Nat) (n : Node) : Builder :=
  let b := match begun with
    | some e => { b with anchored := (e, n) :: b.anchored }
    | none => b
  match b.frames with
  | f :: rest => { b with frames := { f with parts := n :: f.parts } :: rest }
  | [] => { b with root := some n }

/-- A collection begins. -/
def enter (b : Builder) (isMapping : Bool) (mark : Mark) (anchor : Option String)
    (tag : Option Tag) : Builder :=
  let begun := anchor.map fun _ => b.size
  let b := (b.note anchor).count
  { b with frames := ⟨isMapping, mark, tag, begun, []⟩ :: b.frames }

/-- The innermost collection ends. -/
def leave (b : Builder) : Builder :=
  match b.frames with
  | f :: rest => { b with frames := rest }.count.add f.begun f.node
  | [] => b

/-- End all open collections. -/
def leaveAll (b : Builder) : Builder := b.frames.foldl (fun b _ => b.leave) b

/-- The document, which ends here. -/
def document (b : Builder) (ending : Option Ending) (mark : Mark) : Document :=
  let size := b.size
  let b := match ending with
    | some _ => (b.add none .broken).leaveAll
    | none => b
  ⟨b.root.getD (.absent mark), b.anchored, b.numbers, size, ending⟩

end Builder

/-- Read events up to the end of a document. The result tells whether anything may follow it. -/
def readDocument (b : Builder) (fault : Option Fault) : List Occurrence → Document × List Occurrence × Bool
  | [] =>
    match fault with
    | some f => (b.document (some (.fault f)) Mark.start, [], true)
    | none => (b.document none Mark.start, [], false)
  | o :: rest =>
    match o.event with
    | .streamStart => readDocument b fault rest
    | .documentStart => readDocument b fault rest
    | .streamEnd => (b.document none o.mark, [], false)
    | .documentEnd => (b.document none o.mark, rest, true)
    | .aliasOf name =>
      match b.names.find? (·.1 == name) with
      | some (_, number) => readDocument (b.count.add none (.link o.mark number)) fault rest
      | none => (b.document (some (.unknownAnchor o.mark)) o.mark, rest, true)
    | .scalar anchor tag text style =>
      let begun := anchor.map fun _ => b.size
      readDocument ((b.note anchor).count.add begun (.scalar o.mark tag text style)) fault rest
    | .sequenceStart anchor tag => readDocument (b.enter false o.mark anchor tag) fault rest
    | .mappingStart anchor tag => readDocument (b.enter true o.mark anchor tag) fault rest
    | .sequenceEnd => readDocument b.leave fault rest
    | .mappingEnd => readDocument b.leave fault rest

/-- A document follows, or what follows is a fault. -/
def moreFollows (fault : Option Fault) : List Occurrence → Bool
  | [] => fault.isSome
  | o :: _ => o.event != .streamEnd

/-- The first document of a text, and whether it is the only one. -/
def Document.read (text : String) : Document × Bool :=
  let (os, fault) := events text
  let (d, rest, unclosed) := readDocument Builder.start fault os
  (d, !(unclosed && moreFollows fault rest))

end TraitWeave.Yaml
