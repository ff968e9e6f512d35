import TraitWeave.Schema.Evaluation
import TraitWeave.Schema.Form
import TraitWeave.Schema.Standard.Later

/-!
# Schemas ready for use

Before it is used, a schema is checked: its draft must be known, its references must lead somewhere, its
keywords must have the right form, and its patterns must be patterns.

* `Compiled.of`: a schema that can be used, or why it cannot.
* `Compiled.findings`: what it finds.
-/

namespace TraitWeave.Schema

/-- The schemas that describe the drafts, by their addresses. -/
def standardDocuments : List (Uri × Resource) :=
  Standard.documents.filterMap fun (address, schema) =>
    match Reach.ofName address, Draft.detect schema with
    | .ok uri, .ok d => some (uri, ⟨d, schema⟩)
    | _, _ => none

/-- The library of the schemas that describe the drafts. -/
def Library.standard : Library := (Library.empty.gather standardDocuments).toOption.getD .empty

/-- The number of parts of all schemas of a library. -/
def Library.size (l : Library) : Nat := l.resources.foldl (fun n p => n + p.2.schema.parts) 0

/-- A schema that can be used. -/
structure Compiled where
  schema : Json
  /-- The number of parts of the schemas that it may lead to. -/
  size : Nat
  node : Node

/-- Every reference that is followed leads to another place, and from there not deeper than to all parts. -/
def Compiled.steps (size : Nat) : Nat := (size + 2) * (size + 2)

/-- The base of a document. -/
def baseOf (d : Draft) (schema : Json) : Except Lost Uri :=
  match d.identifier? schema with
  | some id => Reach.ofName id
  | none => .ok Reach.defaultBase

/-- The library and the place of a document of a draft. -/
def scopeOf (d : Draft) (schema : Json) : Except Lost Scope := do
  let base ← baseOf d schema
  let library ← Library.standard.gather [(base, ⟨d, schema⟩)]
  pure ⟨library, base, []⟩

/-- The schema, if it can be used. -/
def Compiled.of (schema : Json) : Except Refusal Compiled :=
  match Draft.detect schema with
  | .error name => .error (.lost (.unknownDraft name))
  | .ok d =>
    match scopeOf d schema with
    | .error l => .error (.lost l)
    | .ok scope =>
      match formFault d schema with
      | some f => .error (.form f)
      | none =>
        let size := scope.library.size
        match (Keyword.below (prepareIn (steps size)) ⟨scope, d, d.vocabularies, []⟩ schema).run [] with
        | .error r => .error r
        | .ok (node, _) => .ok ⟨schema, size, node⟩

/-- What a schema finds with a value. -/
def Compiled.findings (c : Compiled) (v : Json) : List Finding :=
  findingsIn (steps c.size) (steps c.size * (v.depth + 1)) c.node [] v

end TraitWeave.Schema
