import TraitWeave.Json.Basic
import TraitWeave.Text.Quoted
import TraitWeave.Yaml.Node
import TraitWeave.Yaml.Plain

/-!
# Documents as values

A document stands for a JSON value: mappings for objects, sequences for arrays, plain scalars for what
they mean, other scalars for their text. Tags of the core kind choose the meaning of a scalar; any other
tag is refused.

* `Yaml.Error`: why a text stands for no value, with `Error.message` and `Error.place?`.
* `Yaml.parse`: the value of a text.

Nesting is limited to 128 levels, and links may be followed a hundred times per event.
-/

namespace TraitWeave.Yaml

/-- Where a node stands in its document. -/
inductive Trail where
  | root
  | item (parent : Trail) (index : Nat)
  | entry (parent : Trail) (key : String)
  | unnamed (parent : Trail)

/-- A trail that something is appended to with a dot. -/
def Trail.dotted (t : String) : String := if t = "." then "" else t ++ "."

/-- A trail as messages show it. -/
def Trail.text : Trail → String
  | root => "."
  | item parent index => parent.text ++ "[" ++ toString index ++ "]"
  | entry parent key => Trail.dotted parent.text ++ key
  | unnamed parent => Trail.dotted parent.text ++ "?"

/-- Why a text stands for no value of the wanted kind. -/
inductive Error where
  | fault (f : Fault)
  | unknownAnchor (mark : Mark)
  | tooDeep (mark : Mark)
  | tooManyLinks
  | severalDocuments
  | endOfStream
  /-- A node of the wrong shape. -/
  | shape (message : String) (trail : String) (mark : Mark)
  /-- A node of the wrong shape, told with the place of the collection around it. -/
  | misfit (message : String)
  deriving DecidableEq, Repr

/-- The error for the ending of a document. -/
def Error.ofEnding : Ending → Error
  | .fault f => fault f
  | .unknownAnchor m => unknownAnchor m

namespace Error

/-- A message with the mark it belongs to. -/
def atMark (message : String) (m : Mark) : String :=
  if m.isInside then message ++ " at " ++ m.text else message

/-- The wording. -/
def message : Error → String
  | fault f => f.message
  | unknownAnchor m => atMark "unknown anchor" m
  | tooDeep m => atMark "recursion limit exceeded" m
  | tooManyLinks => "repetition limit exceeded"
  | severalDocuments => "deserializing from YAML containing more than one document is not supported"
  | endOfStream => "EOF while parsing a value"
  | shape text trail m => atMark (if trail = "." then text else trail ++ ": " ++ text) m
  | misfit text => text

/-- Line and column, counted from one, where the error has a place. -/
def place? : Error → Option (Nat × Nat)
  | fault f => some (f.mark.line + 1, f.mark.column + 1)
  | unknownAnchor m => some (m.line + 1, m.column + 1)
  | tooDeep m => some (m.line + 1, m.column + 1)
  | shape _ _ m => some (m.line + 1, m.column + 1)
  | tooManyLinks => none
  | severalDocuments => none
  | endOfStream => none
  | misfit _ => none

/-- An error that awaits the place of the collection around its node gets it. -/
def placed (t : Trail) (m : Mark) : Error → Error
  | misfit text => shape text t.text m
  | e => e

end Error

/-- The core tags. -/
def coreTag (name : String) : Tag := Tag.ofText ("tag:yaml.org,2002:" ++ name)

/-- A tag that does not name a core kind but one of its own. -/
def isOwnTag (tag : Option Tag) : Bool := (tag.bind Tag.ownName?).isSome

/-- What a scalar means, or the message why its text does not fit its tag. -/
def scalarMeaning (tag : Option Tag) (text : String) (style : Style) : Except String Plain :=
  let misfit (expected : String) : Except String Plain :=
    .error ("invalid value: string " ++ Text.quoted text ++ ", expected " ++ expected)
  match tag with
  | none => .ok (if style = .plain then Plain.ofText text else .text text)
  | some t =>
    if t = coreTag "bool" then
      match bool? text with
      | some b => .ok (.bool b)
      | none => misfit "a boolean"
    else if t = coreTag "int" then
      match integer? text with
      | some n => .ok (if Number.fitsInt n then .int n else .wideInt n)
      | none => misfit "an integer"
    else if t = coreTag "float" then
      match real? text with
      | some (.ok x) => .ok (.real x)
      | some (.error name) => .ok (.notFinite name)
      | none => misfit "a float"
    else if t = coreTag "null" then
      if isNullWord text then .ok .null else misfit "null"
    else if t.isMarked ∧ style = .plain then .ok (Plain.ofText text)
    else .ok (.text text)

/-- How a scalar is named where something else was expected. -/
def Plain.found : Plain → String
  | null => "unit value"
  | bool true => "boolean `true`"
  | bool false => "boolean `false`"
  | int n => "integer `" ++ toString n ++ "`"
  | wideInt n => "integer `" ++ toString n ++ "` as " ++ (if n < 0 then "i128" else "u128")
  | real x => "floating point `" ++ x.text ⟨-400, 400, false⟩ ++ "`"
  | notFinite name => "floating point `" ++ name ++ "`"
  | text s => "string " ++ Text.quoted s

/-- Refuse a node. -/
def refuse {α : Type} (t : Trail) (m : Mark) (message : String) : Except Error α :=
  .error (.shape message t.text m)

/-- Follow a link to its node. -/
def Document.follow (d : Document) (number links : Nat) : Except Error (Node × Nat) :=
  if d.size * 100 < links + 1 then .error .tooManyLinks
  else
    match d.target? number with
    | some n => .ok (n, links + 1)
    | none => .error .endOfStream

/-- The error at a broken place. -/
def Document.endError (d : Document) : Error :=
  match d.ending with
  | some e => .ofEnding e
  | none => .endOfStream

/-- The text of a node that must be a scalar, as keys are; `expected` names what is expected. -/
def Document.keyText (d : Document) (expected : String) (t : Trail) (links : Nat) :
    Node → Nat → Except Error (String × Nat)
  | _, 0 => .error .tooManyLinks
  | .broken, _ => .error d.endError
  | .absent _, _ => .error .endOfStream
  | .scalar _ _ text _, _ => .ok (text, links)
  | .sequence m _ _, _ => refuse t m ("invalid type: sequence, expected " ++ expected)
  | .mapping m _ _, _ => refuse t m ("invalid type: map, expected " ++ expected)
  | .link _ number, fuel + 1 =>
    match d.follow number links with
    | .error e => .error e
    | .ok (n, links) => d.keyText expected t links n fuel

/-- The trail of the value under a key node. -/
def Trail.under (t : Trail) : Node → Trail
  | .scalar _ _ text _ => .entry t text
  | _ => .unnamed t

/-- What an own tag is refused with. -/
def ownTagMessage : String := "invalid type: enum, expected any valid JSON value"

mutual

/-- The value of a node, with `depth` more levels of nesting allowed. -/
def Document.value (d : Document) (depth : Nat) (t : Trail) (links : Nat) (n : Node) :
    Nat → Except Error (Json × Nat)
  | 0 => .error .tooManyLinks
  | fuel + 1 =>
    match n with
    | .broken => .error d.endError
    | .absent _ => .ok (.null, links)
    | .link _ number =>
      match d.follow number links with
      | .error e => .error e
      | .ok (n, links) => d.value depth t links n fuel
    | .scalar m tag text style =>
      if isOwnTag tag then refuse t m ownTagMessage
      else
        match scalarMeaning tag text style with
        | .error message => refuse t m message
        | .ok .null => .ok (.null, links)
        | .ok (.bool b) => .ok (.bool b, links)
        | .ok (.int n) => .ok (.num (.int n), links)
        | .ok (.wideInt _) => refuse t m "JSON number out of range"
        | .ok (.real x) => .ok (.num (.real x), links)
        | .ok (.notFinite _) => .ok (.null, links)
        | .ok (.text s) => .ok (.str s, links)
    | .sequence m tag items =>
      if isOwnTag tag then refuse t m ownTagMessage
      else
        match depth with
        | 0 => .error (.tooDeep m)
        | depth + 1 =>
          match d.items depth t links 0 items fuel with
          | .error e => .error e
          | .ok (vs, links) => .ok (.arr vs, links)
    | .mapping m tag parts =>
      if isOwnTag tag then refuse t m ownTagMessage
      else
        match depth with
        | 0 => .error (.tooDeep m)
        | depth + 1 =>
          match d.entries depth t m links true parts fuel with
          | .error e => .error e
          | .ok (ms, links) => .ok (.obj (Table.ofPairs ms), links)
termination_by structural fuel => fuel

/-- The values of items, numbered from `index`. -/
def Document.items (d : Document) (depth : Nat) (t : Trail) (links index : Nat) (ns : List Node) :
    Nat → Except Error (List Json × Nat)
  | 0 => .error .tooManyLinks
  | fuel + 1 =>
    match ns with
    | [] => .ok ([], links)
    -- no item follows the place where the text ends
    | .broken :: _ => .error d.endError
    | n :: rest =>
      match d.value depth (.item t index) links n fuel with
      | .error e => .error e
      | .ok (v, links) =>
        match d.items depth t links (index + 1) rest fuel with
        | .error e => .error e
        | .ok (vs, links) => .ok (v :: vs, links)
termination_by structural fuel => fuel

/-- The entries of a mapping at `m`. Its first key is asked for as a key, the others as strings. -/
def Document.entries (d : Document) (depth : Nat) (t : Trail) (m : Mark) (links : Nat) (first : Bool)
    (parts : List Node) : Nat → Except Error (List (String × Json) × Nat)
  | 0 => .error .tooManyLinks
  | fuel + 1 =>
    match parts with
    | [] => .ok ([], links)
    | key :: rest =>
      match d.keyText (if first then "a string key" else "a string") t links key fuel with
      | .error e => .error e
      | .ok (k, links) =>
        match rest with
        | [] => .error d.endError
        | n :: rest =>
          match d.value depth (t.under key) links n fuel with
          | .error e => .error e
          | .ok (v, links) =>
            match d.entries depth t m links false rest fuel with
            | .error e => .error e
            | .ok (ms, links) => .ok ((k, v) :: ms, links)
termination_by structural fuel => fuel

end

/-- Levels of nesting that are allowed. -/
def depthLimit : Nat := 128

/-- More steps than following every allowed link through the whole document takes. -/
def Document.budget (d : Document) : Nat := (d.size + 2) * (d.size * 100 + 2) * 4 + 1000

/-- What the one document of a text holds, read in some way. What is wrong inside comes before a fault at
the end, and that before a second document. -/
def parseWith {α : Type} (read : Document → Except Error (α × Nat)) (text : String) : Except Error α :=
  let (d, single) := Document.read text
  match read d with
  | .error e => .error e
  | .ok (a, _) =>
    match d.ending with
    | some e => .error (.ofEnding e)
    | none => if single then .ok a else .error .severalDocuments

/-- The value that a text holds. -/
def parse (text : String) : Except Error Json :=
  parseWith (fun d => d.value depthLimit .root 0 d.root d.budget) text

end TraitWeave.Yaml
