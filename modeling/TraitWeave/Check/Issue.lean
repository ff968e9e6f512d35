import TraitWeave.Encode
import TraitWeave.Decode.Record
import TraitWeave.Schema.Pointer

/-!
# Issues

Checking the parameters of a trait gives issues. A report counts all of them and lists those that are asked
for; errors are always listed.

* `Issue`, `Issue.text`: an issue and how it is shown.
* `Report.ofIssues`: the report of issues.
-/

namespace TraitWeave

/-- How serious an issue is. -/
inductive Severity where
  | error
  | warning
  | info
  deriving DecidableEq, Repr

namespace Severity

/-- The name of a severity. -/
def name : Severity → String
  | error => "error"
  | warning => "warning"
  | info => "info"

/-- The severities by name. -/
def cases : List (String × Severity) := [("error", error), ("warning", warning), ("info", info)]

end Severity

/-- Something found in the parameters of a trait. -/
structure Issue where
  code : String
  message : String
  /-- The pointer to what is concerned. -/
  location : String
  field : Option String
  hint : Option String
  severity : Severity
  deriving DecidableEq, Repr

namespace Issue

/-- An issue of the whole. -/
def general (severity : Severity) (code message : String) (hint : Option String) : Issue :=
  ⟨code, message, "", none, hint, severity⟩

/-- An issue of a field. -/
def ofField (severity : Severity) (code message field : String) (hint : Option String) : Issue :=
  ⟨code, message, Pointer.text [field], some field, hint, severity⟩

/-- What an issue concerns, as it is shown. -/
def subject (i : Issue) : String :=
  match i.field with
  | some f => f
  | none => if i.location.isEmpty then "(root)" else i.location

/-- An issue as it is shown. -/
def text (i : Issue) : String :=
  i.subject ++ ": " ++ i.message ++
    match i.hint with
    | some h => " (hint: " ++ h ++ ")"
    | none => ""

/-- The fields of the record. -/
def record : Decode.Record Issue :=
  Decode.Record.start Issue.mk
    |>.require "code" Decode.text
    |>.require "message" Decode.text
    |>.require "location" Decode.text
    |>.optional "field" Decode.text
    |>.optional "fix_hint" Decode.text
    |>.require "severity" (Decode.variant Severity.cases)

/-- An issue from a value. -/
def decode : Decoder Issue := record.decode "struct ValidationIssue"

end Issue

/-- How many issues there are of each severity. -/
structure Summary where
  errors : Nat
  warnings : Nat
  infos : Nat
  deriving DecidableEq, Repr

/-- Count issues. -/
def Summary.of (issues : List Issue) : Summary :=
  let count := fun s => (issues.filter fun i => i.severity == s).length
  ⟨count .error, count .warning, count .info⟩

/-- Which issues besides errors are listed. -/
structure ReportOptions where
  warnings : Bool
  infos : Bool
  deriving DecidableEq, Repr

namespace ReportOptions

/-- Warnings are listed, and mere information is not. -/
def standard : ReportOptions := ⟨true, false⟩

/-- Whether issues of a severity are listed. -/
def lists (o : ReportOptions) : Severity → Bool
  | .error => true
  | .warning => o.warnings
  | .info => o.infos

end ReportOptions

/-- What came of a check. -/
structure Report where
  valid : Bool
  issues : List Issue
  summary : Summary

namespace Report

/-- The report of issues: all of them count, and some are listed. -/
def ofIssues (issues : List Issue) (options : ReportOptions) : Report :=
  let summary := Summary.of issues
  ⟨summary.errors == 0, issues.filter fun i => options.lists i.severity, summary⟩

/-- The errors that are listed. -/
def errors (r : Report) : List Issue := r.issues.filter fun i => i.severity == .error

end Report

end TraitWeave
