import TraitWeave.Check.Issue
import TraitWeave.Name
import TraitWeave.Schema.Compiled
import TraitWeave.Trait.Request

/-!
# Checking parameters against schemas

The values of a trait's parameters are checked against its schema. What became of the schema is kept by
name and version, so a source is asked once; only a failure to load one is not kept.

* `Prepared`: what became of a schema.
* `Validator.check`: a check, and the validator that keeps what became of the schema.
* `Schema.Finding.issue`, `declarationIssues`: what a schema that is ready finds.
-/

namespace TraitWeave

/-- What to do about a finding. -/
def fixHint? (code : String) (field : Option String) : Option String :=
  let f := field.getD "the parameter"
  match code with
  | "required" => some ("Provide a value for \"" ++ f ++ "\" or give it a default")
  | "type" => some ("Change \"" ++ f ++ "\" to the declared type")
  | "enum" => some ("Use one of the allowed values for \"" ++ f ++ "\"")
  | "const" => some ("Use one of the allowed values for \"" ++ f ++ "\"")
  | "minimum" => some ("Keep \"" ++ f ++ "\" within the allowed range")
  | "maximum" => some ("Keep \"" ++ f ++ "\" within the allowed range")
  | "exclusiveMinimum" => some ("Keep \"" ++ f ++ "\" within the allowed range")
  | "exclusiveMaximum" => some ("Keep \"" ++ f ++ "\" within the allowed range")
  | "minLength" => some ("Adjust the length of \"" ++ f ++ "\"")
  | "maxLength" => some ("Adjust the length of \"" ++ f ++ "\"")
  | "minItems" => some ("Adjust the length of \"" ++ f ++ "\"")
  | "maxItems" => some ("Adjust the length of \"" ++ f ++ "\"")
  | "pattern" => some ("Make \"" ++ f ++ "\" match the declared pattern")
  | "additionalProperties" => some "Remove parameters the trait does not declare"
  | _ => none

/-- The member that a finding says is missing. -/
def Schema.Finding.missing? (f : Schema.Finding) : Option String :=
  match f.fault with
  | .missing key => if f.code == "required" then some key else none
  | _ => none

/-- A finding as an issue. A missing member is the place of its issue. -/
def Schema.Finding.issue (f : Schema.Finding) : Issue :=
  let place := Pointer.text f.place
  let parent := Pointer.field? place
  let (location, field) :=
    match f.missing? with
    | some key =>
      (place ++ Pointer.text [key],
        some (match parent with
          | some p => p ++ "." ++ key
          | none => key))
    | none => (place, parent)
  ⟨f.code, f.fault.message, location, field, fixHint? f.code field, .error⟩

/-- The issue of a member that is not declared, or is deprecated. -/
def declarationIssue? (schema : Json) (properties : Table Json) (key : String) : Option Issue :=
  match properties.get? key with
  | none =>
    match schema.member? "additionalProperties" with
    | some (.bool false) => none
    | _ =>
      some (.ofField .warning "unknown_parameter" ("\"" ++ key ++ "\" is not a declared parameter") key
        (some "Remove it or declare it on the trait"))
  | some property =>
    match property.member? "deprecated" with
    | some (.bool true) =>
      some (.ofField .info "deprecated_parameter" ("\"" ++ key ++ "\" is deprecated") key none)
    | _ => none

/-- The issues of members that are not declared, or are deprecated. -/
def declarationIssues (schema payload : Json) : List Issue :=
  match (schema.member? "properties").bind Json.asObj?, payload.asObj? with
  | some properties, some members => members.keys.filterMap (declarationIssue? schema properties)
  | _, _ => []

/-- What became of a schema. -/
inductive Prepared where
  /-- There is none where one was expected. -/
  | missing (location : String)
  | unusable (reason : String)
  | ready (schema : Schema.Compiled)

/-- A check that is asked for: the name shown, the key under which the schema is kept, and the request for
it. -/
structure Inquiry where
  label : String
  key : String
  request : Request

namespace Inquiry

/-- A check for a trait by its name. -/
def named (name : String) : Inquiry := ⟨name, Name.normalize name, .named name⟩

/-- A check for a request; versions are kept apart. -/
def of (r : Request) : Inquiry :=
  let label := r.schemaKey
  let version := Text.trim (r.version.getD "")
  let key := Name.normalize label
  ⟨label, if version.isEmpty then key else key ++ "@" ++ Text.lower version, r⟩

end Inquiry

/-- Asks a source that may change by being asked, and tells where schemas are expected. -/
structure SchemaDesk (σ : Type) where
  load : σ → Request → σ × Except String (Option Json)
  location : String → String

/-- What became of the schemas that were asked for. -/
structure Validator where
  cache : Table Prepared

namespace Validator

/-- Nothing was asked for. -/
def empty : Validator := ⟨[]⟩

/-- What becomes of the answer of a source. -/
def prepare (location : String) : Option Json → Prepared
  | none => .missing location
  | some schema =>
    match Schema.Compiled.of schema with
    | .ok c => .ready c
    | .error r => .unusable r.message

variable {σ : Type}

/-- What became of a schema: from the cache, or from the source and then kept. -/
def obtain (desk : SchemaDesk σ) (st : σ × Validator) (q : Inquiry) :
    (σ × Validator) × Except String Prepared :=
  match st.2.cache.get? q.key with
  | some p => (st, .ok p)
  | none =>
    match desk.load st.1 q.request with
    | (s, .error message) => ((s, st.2), .error message)
    | (s, .ok answer) =>
      let p := prepare (desk.location q.label) answer
      ((s, ⟨st.2.cache.put q.key p⟩), .ok p)

/-- The issues of values under what became of a schema. -/
def issues (desk : SchemaDesk σ) (label : String) (payload : Json) : Except String Prepared → List Issue
  | .error message =>
    [.general .error "schema_load_failed" message (some ("Check " ++ desk.location label))]
  | .ok (.missing location) =>
    [.general .error "schema_not_found" ("No parameter schema found for trait \"" ++ label ++ "\"")
      (some ("Create a parameter schema at " ++ location))]
  | .ok (.unusable reason) =>
    [.general .error "schema_invalid"
      ("Parameter schema for trait \"" ++ label ++ "\" is invalid: " ++ reason)
      (some ("Fix the schema at " ++ desk.location label))]
  | .ok (.ready c) =>
    (c.findings payload).map Schema.Finding.issue ++ declarationIssues c.schema payload

/-- A check of values. -/
def check (desk : SchemaDesk σ) (st : σ × Validator) (q : Inquiry) (payload : Json)
    (options : ReportOptions) : (σ × Validator) × Report :=
  let (st, prepared) := obtain desk st q
  (st, Report.ofIssues (issues desk q.label payload prepared) options)

/-- Forget what became of all schemas. -/
def clear (v : Validator) : Validator := { v with cache := [] }

/-- How many schemas are kept. -/
def cachedCount (v : Validator) : Nat := v.cache.length

end Validator

end TraitWeave
