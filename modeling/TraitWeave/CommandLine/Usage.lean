/-!
# Reading arguments

A program is called with verbs, each of which may have verbs of its own, options and operands. Options
that belong to the program may stand behind any verb.

* `Verb`, `Choice`: what may be said.
* `Reading.of`: what was said, or that it cannot be.
* `Saying.values`: the values of an option. Of several verbs with an option of the program the last counts.
-/

namespace TraitWeave

/-- How many values an option takes, and how often it may be said. -/
inductive Intake where
  /-- No value; said once. -/
  | nothing
  /-- One value; said once. -/
  | one
  /-- One value each time it is said. -/
  | each
  deriving DecidableEq, Repr

/-- The values that an option or a verb takes. -/
inductive Domain where
  | anything
  /-- Every text but the empty one, as for paths. -/
  | something
  /-- A natural number of 64 bits; it may have a plus in front. -/
  | natural
  /-- Some words, with what they stand for where that is told. -/
  | words (words : List (String × Option String))
  deriving Repr

/-- An option. -/
structure Choice where
  name : String
  letter : Option Char
  intake : Intake
  domain : Domain
  /-- What its values are called. -/
  label : String
  /-- What is told about it. -/
  note : String
  /-- The value that it has otherwise. -/
  usual : Option String

/-- How many operands a verb takes. -/
inductive Count where
  | none
  | one
  | any
  deriving DecidableEq, Repr

/-- The operands of a verb. -/
structure Operands where
  count : Count
  domain : Domain
  label : String
  note : String

/-- A verb with what may follow it. A verb that has verbs of its own needs one of them. -/
structure Verb where
  name : String
  /-- What is told about it. -/
  note : String
  choices : List Choice
  operands : Operands
  verbs : List Verb

/-- No operands. -/
def Operands.no : Operands := ⟨.none, .anything, "", ""⟩

namespace Verb

/-- The verb that tells about the verbs beside it. It has no options, not even those of the program. -/
def forHelp : Verb where
  name := "help"
  note := "Print this message or the help of the given subcommand(s)"
  choices := []
  operands := ⟨.any, .anything, "COMMAND", "Print help for the subcommand(s)"⟩
  verbs := []

/-- Whether this is the verb for help. -/
def isForHelp (v : Verb) : Bool := v.name == forHelp.name

/-- The verbs about which help can be had: where there are verbs, the one for help is among them. -/
def helped (v : Verb) : List Verb := if v.verbs.isEmpty then [] else v.verbs ++ [forHelp]

end Verb

namespace Domain

/-- A natural number of 64 bits; it may have a plus in front. -/
def natural? (s : String) : Option Nat :=
  let digits := match s.toList with
    | '+' :: ds => ds
    | ds => ds
  if digits.isEmpty || !digits.all Char.isDigit then none
  else
    let n := digits.foldl (fun n c => n * 10 + (c.toNat - '0'.toNat)) 0
    if n < UInt64.size then some n else none

/-- Whether a value is one of the domain. -/
def accepts : Domain → String → Bool
  | anything, _ => true
  | something, s => !s.isEmpty
  | natural, s => (natural? s).isSome
  | words ws, s => ws.any fun w => w.1 == s

end Domain

/-- What was said behind one verb: the options with their values, and the operands. -/
structure Saying where
  verb : String
  given : List (String × String)
  operands : List String
  deriving Repr

/-- What a list of arguments says. -/
inductive Reading where
  /-- The verbs, and what was said behind each. -/
  | call (sayings : List Saying)
  /-- Help on the verb that the names lead to, in short or at length. -/
  | help (names : List String) (atLength : Bool)
  | version
  | misuse
  deriving Repr

namespace Saying

/-- Nothing was said yet. -/
def start (verb : String) : Saying := ⟨verb, [], []⟩

/-- Whether an option was said. -/
def has (s : Saying) (name : String) : Bool := s.given.any fun g => g.1 == name

/-- The values of an option. -/
def values (s : Saying) (name : String) : List String :=
  (s.given.filter fun g => g.1 == name).map Prod.snd

/-- One option more, if it takes the value and may be said again. -/
def say? (s : Saying) (c : Choice) (value : String) : Option Saying :=
  if c.domain.accepts value && (c.intake = .each || !s.has c.name) then
    some { s with given := s.given ++ [(c.name, value)] }
  else none

/-- One operand more, if the verb takes it. -/
def operand? (s : Saying) (v : Verb) (value : String) : Option Saying :=
  let room := v.operands.count = .any || (v.operands.count = .one && s.operands.isEmpty)
  if room && v.operands.domain.accepts value then some { s with operands := s.operands ++ [value] } else none

end Saying

namespace Reading

/-- An argument that is no option and may be a value. -/
def isValue (arg : String) : Bool := arg.toList.head? != some '-' || arg == "-"

/-- A long option, without its hyphens, and the value behind an equals sign. -/
def splitLong (cs : List Char) : String × Option String :=
  let name := cs.takeWhile (· ≠ '=')
  (String.ofList name,
    if name.length = cs.length then none else some (String.ofList (cs.drop (name.length + 1))))

/-- The value right behind a letter; an equals sign between them is not part of it. -/
def attached (cs : List Char) : Option String :=
  match cs with
  | [] => none
  | '=' :: rest => some (String.ofList rest)
  | cs => some (String.ofList cs)

/-- Where reading stands: the verb, what was said behind earlier verbs and behind this one. -/
structure Place where
  verb : Verb
  earlier : List Saying
  saying : Saying

/-- The names of the verbs so far, without that of the program. -/
def Place.names (p : Place) : List String := (p.earlier.map Saying.verb).drop 1 ++
  if p.earlier.isEmpty then [] else [p.saying.verb]

/-- Nothing more is said. -/
def Place.finish (p : Place) : Reading :=
  if !p.verb.verbs.isEmpty || (p.verb.operands.count = .one && p.saying.operands.isEmpty) then .misuse
  else .call (p.earlier ++ [p.saying])

/-- Behind a verb of this verb. -/
def Place.enter (p : Place) (v : Verb) : Place := ⟨v, p.earlier ++ [p.saying], .start v.name⟩

/-- The verb to which names lead. -/
def follow? (v : Verb) : List String → Option Verb
  | [] => some v
  | n :: ns => (v.helped.find? fun w => w.name == n).bind fun w => follow? w ns

/-- Help on a verb of this verb. -/
def Place.help (p : Place) (names : List String) : Reading :=
  match follow? p.verb names with
  | some _ => .help (p.names ++ names) true
  | none => .misuse

/-- An option that was found, with the value that is attached to it, if any. -/
inductive Sign where
  | help (atLength : Bool)
  | version
  | choice (c : Choice) (value : Option String)
  | unknown

/-- The option that an argument stands for. Only the program itself tells its version. -/
def sign (global : List Choice) (p : Place) (arg : String) : Sign :=
  let choices := p.verb.choices ++ global
  let bare := fun (s : Sign) (value : Option String) => if value.isNone then s else .unknown
  match arg.toList with
  | '-' :: '-' :: cs =>
    let (name, value) := splitLong cs
    match choices.find? fun c => c.name == name with
    | some c => .choice c value
    | none =>
      if name == "help" then bare (.help true) value
      else if name == "version" && p.earlier.isEmpty then bare .version value
      else .unknown
  | '-' :: letter :: cs =>
    match choices.find? fun c => c.letter == some letter with
    | some c => .choice c (attached cs)
    | none =>
      if letter = 'h' then .help false
      else if letter = 'V' && p.earlier.isEmpty then .version
      else .unknown
  | _ => .unknown

/-- Read arguments. After two hyphens alone only operands follow. -/
def read (global : List Choice) (p : Place) (onlyOperands : Bool) : List String → Reading
  | [] => p.finish
  | arg :: rest =>
    if onlyOperands || isValue arg then
      match if onlyOperands then none else p.verb.verbs.find? fun v => v.name == arg with
      | some v => read global (p.enter v) false rest
      | none =>
        if !onlyOperands && arg == Verb.forHelp.name && !p.verb.verbs.isEmpty then p.help rest
        else
          match p.saying.operand? p.verb arg with
          | some s => read global { p with saying := s } onlyOperands rest
          | none => .misuse
    else if arg == "--" then read global p true rest
    else
      match sign global p arg with
      | .unknown => .misuse
      | .help atLength => .help p.names atLength
      | .version => .version
      | .choice c value =>
        match c.intake, value, rest with
        | .nothing, none, rest =>
          match p.saying.say? c "" with
          | some s => read global { p with saying := s } false rest
          | none => .misuse
        | .nothing, some _, _ => .misuse
        | _, some value, rest =>
          match p.saying.say? c value with
          | some s => read global { p with saying := s } false rest
          | none => .misuse
        | _, none, value :: rest =>
          if isValue value then
            match p.saying.say? c value with
            | some s => read global { p with saying := s } false rest
            | none => .misuse
          else .misuse
        | _, none, [] => .misuse

/-- What arguments say to a program; its own options may stand behind any verb. -/
def of (program : Verb) (args : List String) : Reading :=
  read program.choices ⟨{ program with choices := [] }, [], .start program.name⟩ false args

end Reading

namespace Saying

/-- The values of an option of the program: those behind the last verb that has it. -/
def global (sayings : List Saying) (name : String) : List String :=
  match sayings.reverse.find? fun s => s.has name with
  | some s => s.values name
  | none => []

end Saying

end TraitWeave
