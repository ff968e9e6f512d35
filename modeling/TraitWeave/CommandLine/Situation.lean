import TraitWeave.CommandLine.Console
import TraitWeave.Settings.Load

/-!
# The situation of a command

* `Situation`: what a command finds.
* `Outcome`: what it answers, or what went wrong.
-/

namespace TraitWeave

/-- What a command finds. -/
structure Situation where
  env : Environment
  console : Console
  tree : Tree
  settings : Settings
  /-- What is told about the moment and the time taken. -/
  timing : Composed.Timing

/-- The text of an answer and the exit code, or the causes of a failure. -/
abbrev Outcome := Except (List String) (String × Nat)

namespace Outcome

/-- Lines as an answer. -/
def lines (ls : List String) : Outcome := .ok (linesText ls, 0)

/-- A failure for a single reason. -/
def failure (context reason : String) : Outcome := .error [context, reason]

end Outcome

namespace Situation

variable (s : Situation)

/-- A label in front of a text. -/
def labelled (indentation label text : String) : String :=
  indentation ++ Tint.cyan.paint s.console label ++ ": " ++ text

/-- A heading over a list. -/
def heading (t : Tint) (label : String) : String := t.paint s.console label ++ ":"

/-- The mark of something that is right. -/
def good : String := Tint.green.paint s.console "✓"

/-- The mark of something that is wrong. -/
def bad : String := Tint.red.paint s.console "✗"

/-- The mark of something to look at. -/
def notable : String := Tint.yellow.paint s.console "!"

/-- The roots of the traits. -/
def traitRoots : List Path := s.settings.traitRoots s.env

end Situation

end TraitWeave
