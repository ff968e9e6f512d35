import TraitWeave.CommandLine.Invocation
import TraitWeave.Text.Pieces

/-!
# Help

Help on a verb tells what it does, how it is called, and its verbs, operands and options. Options come in
the order of their declaration, those of the verb and of the program side by side.

* `CommandLine.helpText`: help on the verb to which names lead.
-/

namespace TraitWeave.CommandLine

/-- Something in a list of operands or options. -/
structure HelpItem where
  /-- What stands at the front of the line. -/
  front : String
  note : String
  /-- Values that are told behind the note. -/
  remarks : List String
  /-- Words with an explanation each. -/
  explained : List (String × String)

/-- Spaces up to a width. -/
def padRight (width : Nat) (s : String) : String :=
  s ++ String.ofList (List.replicate (width - s.length) ' ')

/-- The words of a domain that have an explanation. -/
def Domain.explained : Domain → List (String × String)
  | .words ws => ws.filterMap fun (w, e) => e.map fun e => (w, e)
  | _ => []

/-- The remark on the words of a domain. -/
def wordsRemark : Domain → List String
  | .words ws => ["[possible values: " ++ Text.joined ", " (ws.map Prod.fst) ++ "]"]
  | _ => []

/-- What is told about the values of a domain: at length the words are explained one by one. -/
def HelpItem.ofDomain (front note : String) (usual : Option String) (d : Domain) (atLength : Bool) :
    HelpItem where
  front := front
  note := note
  remarks := (usual.map fun u => "[default: " ++ u ++ "]").toList ++
    if atLength && !(Domain.explained d).isEmpty then [] else wordsRemark d
  explained := if atLength then Domain.explained d else []

/-- An option as it is written: its letter, its name and its value. -/
def Choice.front (c : Choice) : String :=
  (match c.letter with
    | some l => String.ofList ['-', l, ',', ' ']
    | none => "    ") ++
    "--" ++ c.name ++ if c.intake = .nothing then "" else " <" ++ c.label ++ ">"

/-- The key by which options with the same place are ordered: the letter, if there is one. -/
def Choice.key (c : Choice) : String :=
  match c.letter with
  | some l => String.ofList [l, '0']
  | none => c.name

/-- The options of a verb and of the program, each list in its order, side by side. -/
def sideBySide (own global : List Choice) : List Choice :=
  let placed := own.zipIdx ++ global.zipIdx
  (placed.mergeSort fun (a, i) (b, j) => i < j || (i == j && Choice.key a ≤ Choice.key b)).map Prod.fst

/-- Whether a verb has words to explain at length. -/
def hasLength (choices : List Choice) (v : Verb) : Bool :=
  choices.any (fun c => !(Domain.explained c.domain).isEmpty) ||
    !(Domain.explained v.operands.domain).isEmpty

/-- The options that every verb has. -/
def helpItems (isProgram atLength long : Bool) : List HelpItem :=
  let more :=
    if !long then "" else if atLength then " (see a summary with '-h')" else " (see more with '--help')"
  ⟨"-h, --help", "Print help" ++ more, [], []⟩ ::
    if isProgram then [⟨"-V, --version", "Print version", [], []⟩] else []

/-- Spaces before notes that stand on lines of their own. -/
def noteIndent : String := String.ofList (List.replicate 10 ' ')

/-- An item whose note stands on a line of its own. -/
def spacedItem (atLength : Bool) (i : HelpItem) : String :=
  let remarks := Text.joined (if atLength then "\n" ++ noteIndent else " ") i.remarks
  let between :=
    if i.note.isEmpty || i.remarks.isEmpty then ""
    else if atLength then "\n\n" ++ noteIndent
    else " "
  let body := i.note ++ between ++ remarks
  let explained :=
    if i.explained.isEmpty then ""
    else
      (if body.isEmpty then "" else "\n\n" ++ noteIndent) ++ "Possible values:" ++
        String.join (i.explained.map fun (w, e) => "\n" ++ noteIndent ++ "- " ++ w ++ ": " ++ e)
  "  " ++ i.front ++ "\n" ++ noteIndent ++ body ++ explained

/-- The note and remarks of an item in one line. -/
def HelpItem.line (i : HelpItem) : String :=
  Text.joined " " ((if i.note.isEmpty then [] else [i.note]) ++ i.remarks)

/-- The columns of a line. -/
def lineWidth : Nat := 100

/-- Whether the note of an item is too long to stand beside the fronts. -/
def isWide (width : Nat) (i : HelpItem) : Bool :=
  let taken := width + 12
  let length := i.note.length + (Text.joined " " i.remarks).length
  taken ≤ lineWidth && lineWidth * 2 < taken * 5 && lineWidth - taken < length

/-- A list of items under a heading. -/
def helpSection (heading : String) (atLength : Bool) (items : List HelpItem) : List String :=
  let width := (items.map fun i => i.front.length).foldl max 0
  if items.isEmpty then []
  else
    let lines :=
      if atLength || items.any (isWide width) then
        Text.joined (if atLength then "\n\n" else "\n") (items.map (spacedItem atLength))
      else
        Text.joined "\n" (items.map fun i => "  " ++ padRight (width + 2) i.front ++ i.line)
    [heading ++ ":\n" ++ lines]

/-- The verbs of a verb under their heading. -/
def verbSection (v : Verb) : List String :=
  if v.verbs.isEmpty then []
  else
    let entries := v.helped.map fun w => (w.name, w.note)
    let width := (entries.map fun e => e.1.length).foldl max 0
    ["Commands:\n" ++ Text.joined "\n" (entries.map fun (n, note) => "  " ++ padRight (width + 2) n ++ note)]

/-- The operands of a verb as they are written. -/
def operandFront (o : Operands) : String :=
  match o.count with
  | .none => ""
  | .one => "<" ++ o.label ++ ">"
  | .any => "[" ++ o.label ++ "]..."

/-- How a verb is called. -/
def usageLine (names : List String) (v : Verb) : String :=
  let tail := if v.verbs.isEmpty then operandFront v.operands else "<COMMAND>"
  let options := if v.isForHelp then [] else ["[OPTIONS]"]
  "Usage: " ++ Text.joined " " (program.name :: names ++ options ++ if tail.isEmpty then [] else [tail])

/-- The remark at the end of the help on the program. -/
def closing : String := "Logs are written to: ~/.local/share/traitsmith/logs/traitsmith.log"

/-- Help on a verb. -/
def helpOn (names : List String) (v : Verb) (wanted : Bool) : String :=
  let choices :=
    if v.isForHelp then []
    else if names.isEmpty then program.choices
    else sideBySide v.choices program.choices
  let long := hasLength choices v
  let atLength := wanted && long
  let operands :=
    if v.operands.count = .none then []
    else [HelpItem.ofDomain (operandFront v.operands) v.operands.note none v.operands.domain atLength]
  let options := (choices.map fun c =>
    HelpItem.ofDomain (Choice.front c) c.note c.usual c.domain atLength) ++
      if v.isForHelp then [] else helpItems names.isEmpty atLength long
  let sections := [v.note, usageLine names v] ++ verbSection v ++ helpSection "Arguments" atLength operands ++
    helpSection "Options" atLength options ++
    if names.isEmpty then [closing] else []
  Text.joined "\n\n" sections ++ "\n"

/-- Help on the verb to which names lead. -/
def helpText (names : List String) (atLength : Bool) : String :=
  match Reading.follow? program names with
  | some v => helpOn names v atLength
  | none => ""

end TraitWeave.CommandLine
