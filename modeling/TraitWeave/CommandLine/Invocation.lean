import TraitWeave.CommandLine.Usage
import TraitWeave.Path
import TraitWeave.Registry.Index

/-!
# Invocations

What the program can be asked to do.

* `Command`, `Invocation`: what is asked, and the settings that the arguments override.
* `program`: the verbs and options.
* `Invocation.ofSayings`: what was said, as an invocation.
-/

namespace TraitWeave

/-- How an answer is written. -/
inductive AnswerFormat where
  | text
  | json
  | yaml
  deriving DecidableEq, Repr

/-- The formats by their names. -/
def AnswerFormat.cases : List (String × AnswerFormat) := [("text", text), ("json", json), ("yaml", yaml)]

/-- What is asked for. -/
inductive Command where
  | showTrait (name : String) (scope version : Option String)
  | checkTraits
  | orderTraits
  | listObjects (q : Query)
  | showObject (name : String)
  | resolveObject (name : String)
  | showDiagnostics
  | generate (names : List String) (output : Option Path) (print : Bool)
  | watch (interval : Option Nat)
  | completions (shell : String)
  | showSettings

/-- A command, the format of its answer, and what overrides the settings. -/
structure Invocation where
  command : Command
  format : Option AnswerFormat
  /-- The file of settings. -/
  settings : Option Path
  traits : List Path
  objects : List Path
  schemas : Option Path

namespace CommandLine

/-- An option that is said without a value. -/
def switch (name note : String) : Choice := ⟨name, none, .nothing, .anything, "", note, none⟩

/-- An option with one value. -/
def single (name : String) (domain : Domain) (label note : String) : Choice :=
  ⟨name, none, .one, domain, label, note, none⟩

/-- An option that may be said several times. -/
def several (name : String) (domain : Domain) (label note : String) : Choice :=
  ⟨name, none, .each, domain, label, note, none⟩

/-- The formats, and what they are. -/
def formats : Domain :=
  .words [("text", some "Human-readable text"), ("json", some "JSON format"), ("yaml", some "YAML format")]

/-- The option for the format of an answer. -/
def formatChoice : Choice :=
  ⟨"format", some 'o', .one, formats, "FORMAT",
    "Output format (default: text for TTY, json for pipes)", none⟩

/-- The option for one value or all. -/
def matchChoice (name label : String) : Choice :=
  ⟨name, none, .one, .words (MatchMode.cases.map fun c => (c.1, none)), label, "", some "any"⟩

/-- A verb without verbs of its own. -/
def leaf (name note : String) (choices : List Choice) (operands : Operands) : Verb :=
  ⟨name, note, choices, operands, []⟩

/-- A verb that needs one of its own. -/
def branch (name note : String) (verbs : List Verb) : Verb := ⟨name, note, [], .no, verbs⟩

/-- One name as operand. -/
def oneName (note : String) : Operands := ⟨.one, .anything, "NAME", note⟩

/-- The shells for which completions can be written. -/
def shells : Domain :=
  .words (["bash", "elvish", "fish", "powershell", "zsh"].map fun s => (s, none))

/-- The verbs on traits. -/
def traitVerbs : List Verb := [
  leaf "show" "Show a trait definition"
    [single "namespace" .anything "NAMESPACE" "", single "version" .anything "VERSION" "", formatChoice]
    (oneName "Trait name (may contain directory segments)"),
  leaf "check" "Validate the trait dependency graph" [formatChoice] .no,
  leaf "order" "Print traits in dependency load order" [] .no]

/-- The verbs on objects. -/
def objectVerbs : List Verb := [
  leaf "list" "List registered objects"
    [several "trait" .anything "TRAIT" "Require trait (repeatable)",
      several "tag" .anything "TAGS" "Require tag (repeatable)",
      several "domain" .anything "DOMAINS" "Require domain (repeatable)",
      matchChoice "trait-match" "TRAIT_MATCH", matchChoice "tag-match" "TAG_MATCH", formatChoice] .no,
  leaf "show" "Show an object definition" [formatChoice] (oneName ""),
  leaf "resolve" "Resolve and compose an object" [formatChoice] (oneName ""),
  leaf "diagnostics" "Show files the registry could not index" [formatChoice] .no]

/-- The program with its verbs and options. -/
def program : Verb where
  name := "traitsmith"
  note := "Trait composition engine - resolve trait-based object definitions into composed schemas"
  choices := [
    ⟨"config", some 'c', .one, .something, "CONFIG", "Path to traitsmith.yaml config file", none⟩,
    several "traits" .something "DIR" "Trait library root (repeatable; overrides paths.traits)",
    several "objects" .something "DIR" "Object registry root (repeatable; overrides paths.objects)",
    single "schemas" .something "DIR" "Parameter schema directory (overrides paths.schemas)"]
  operands := .no
  verbs := [
    branch "trait" "Inspect the trait library" traitVerbs,
    branch "object" "Query and resolve objects in the registry" objectVerbs,
    leaf "generate" "Generate type artifacts for composed objects"
      [single "out" .something "OUT" "Output directory (overrides paths.output)",
        switch "stdout" "Print artifacts instead of writing files"]
      ⟨.any, .anything, "NAMES", "Objects to generate (default: all)"⟩,
    leaf "watch" "Watch object roots and print registry events"
      [single "interval" .natural "INTERVAL"
        "Poll interval in milliseconds (overrides registry.polling_interval_ms)"] .no,
    branch "config" "Manage configuration"
      [leaf "show" "Show current configuration" [formatChoice] .no],
    leaf "completions" "Generate shell completions" []
      ⟨.one, shells, "SHELL", "Shell to generate completions for"⟩]

/-- The mode that an option asks for. -/
def modeOf (s : Saying) (name : String) : MatchMode :=
  ((s.values name).head?.bind (Table.get? MatchMode.cases)).getD .any

/-- The command that verbs ask for, with what was said behind the last of them. -/
def commandOf (verbs : List String) (s : Saying) : Option Command :=
  let operand := s.operands.head?.getD ""
  let value := fun name => (s.values name).head?
  match verbs with
  | ["trait", "show"] => some (.showTrait operand (value "namespace") (value "version"))
  | ["trait", "check"] => some .checkTraits
  | ["trait", "order"] => some .orderTraits
  | ["object", "list"] =>
    some (.listObjects ⟨s.values "trait", s.values "tag", s.values "domain", modeOf s "trait-match",
      modeOf s "tag-match"⟩)
  | ["object", "show"] => some (.showObject operand)
  | ["object", "resolve"] => some (.resolveObject operand)
  | ["object", "diagnostics"] => some .showDiagnostics
  | ["generate"] => some (.generate s.operands ((value "out").map Path.mk) (s.has "stdout"))
  | ["watch"] => some (.watch ((value "interval").bind Domain.natural?))
  | ["config", "show"] => some .showSettings
  | ["completions"] => some (.completions operand)
  | _ => none

end CommandLine

open CommandLine

/-- What was said, as an invocation. -/
def Invocation.ofSayings (sayings : List Saying) : Option Invocation :=
  let last := sayings.getLast?.getD (.start "")
  let paths := fun name => (Saying.global sayings name).map Path.mk
  (commandOf ((sayings.map Saying.verb).drop 1) last).map fun command =>
    { command := command
      format := (last.values "format").head?.bind (Table.get? AnswerFormat.cases)
      settings := (paths "config").head?
      traits := paths "traits"
      objects := paths "objects"
      schemas := (paths "schemas").head? }

end TraitWeave
