import TraitWeave.CommandLine.Invocation
import TraitWeave.Json.Printer
import TraitWeave.Settings.Environment
import TraitWeave.Yaml.Printer

/-!
# Writing answers

Answers are written as text for a reader, in colours where those are shown, or as documents.

* `Console`: where answers go.
* `Tint.paint`: a text in a colour.
* `AnswerFormat.render`: a value as a document.
* `failureText`: what went wrong, from the general to the particular.
-/

namespace TraitWeave

/-- Where answers go. -/
structure Console where
  /-- Someone reads along. -/
  terminal : Bool
  colours : Bool
  deriving DecidableEq, Repr

namespace Console

/-- Colours are shown where that is demanded, and on a terminal where they are not declined. -/
def of (env : Environment) (terminal : Bool) : Console where
  terminal := terminal
  colours :=
    if ((env.get? "CLICOLOR_FORCE").map (· != "0")).getD false then true
    else if (env.get? "NO_COLOR").isSome then false
    else ((env.get? "CLICOLOR").map (· != "0")).getD true && terminal

/-- The format that is asked for, or the one that fits the console. -/
def format (c : Console) (asked : Option AnswerFormat) : AnswerFormat :=
  asked.getD (if c.terminal then .text else .json)

end Console

/-- How a text stands out. -/
inductive Tint where
  | bold
  | dimmed
  | red
  | green
  | yellow
  | cyan
  | blue
  deriving DecidableEq, Repr

namespace Tint

/-- The code of a tint. -/
def code : Tint → String
  | bold => "1"
  | dimmed => "2"
  | red => "31"
  | green => "32"
  | yellow => "33"
  | blue => "34"
  | cyan => "36"

/-- A text in a tint, where colours are shown. -/
def paint (t : Tint) (c : Console) (s : String) : String :=
  if c.colours then "\x1b[" ++ t.code ++ "m" ++ s ++ "\x1b[0m" else s

end Tint

/-- Lines as a text, each with its end. -/
def linesText (lines : List String) : String := String.join (lines.map (· ++ "\n"))

/-- Words with commas between them. -/
def commaList (words : List String) : String := Text.joined ", " words

/-- A value as a document, in the formats that are not text. -/
def AnswerFormat.render (f : AnswerFormat) (v : Json) : String :=
  match f with
  | .yaml => Yaml.print v ++ "\n"
  | _ => v.pretty ++ "\n"

/-- A number, with blanks before it up to a width. -/
def padLeft (width n : Nat) : String :=
  let digits := toString n
  String.ofList (List.replicate (width - digits.length) ' ') ++ digits

/-- The lines of a text behind a mark; lines after the first are indented to it. Empty lines stay empty. -/
def behindMark (first other : String) (s : String) : String :=
  let step := fun (acc : List String × Bool) (line : String) =>
    if line.isEmpty then (acc.1 ++ [line], acc.2)
    else (acc.1 ++ [(if acc.2 then first else other) ++ line], false)
  let lines := (Text.pieces (· == '\n') s.toList).map String.ofList
  Text.joined "\n" (lines.foldl step ([], true)).1

/-- What went wrong: the general cause, and below it the others, with numbers if there are several. -/
def failureText : List String → String
  | [] => ""
  | [cause] => "Error: " ++ cause
  | [cause, only] => "Error: " ++ cause ++ "\n\nCaused by:\n" ++ behindMark "    " "    " only
  | cause :: more =>
    "Error: " ++ cause ++ "\n\nCaused by:\n" ++
      Text.joined "\n" (more.zipIdx.map fun (s, i) => behindMark (padLeft 4 i ++ ": ") "      " s)

end TraitWeave
