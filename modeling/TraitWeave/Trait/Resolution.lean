import TraitWeave.Check.EnumFrom
import TraitWeave.Check.Source
import TraitWeave.Check.Validator

/-!
# Resolving references

The references of an object are resolved together. No two of them may go by one name; all are loaded
before the first failure is reported; the values of the parameters are checked if that is wanted.

* `ResolveError`, `ResolveError.message`: why a reference could not be resolved.
* `Reference.firstRepeated?`: the first reference that goes by a name used before.
* `Resolver.settle`: the resolved references, once they are loaded.
* `Resolver.resolveWith`: load and settle, whatever it is that loads.
* `Resolver.resolve`: the same with a loader of traits.
-/

namespace TraitWeave

/-- The object for which references are resolved. -/
structure Origin where
  name : Option String
  path : Option Path

/-- Why a reference could not be resolved. -/
inductive ResolveCause where
  | load (e : LoadError)
  | invalid (issues : List Issue)
  | duplicate (name previous : String)

/-- A reference that could not be resolved. -/
structure ResolveError where
  reference : Reference
  origin : Origin
  cause : ResolveCause

namespace ResolveError

/-- A detail, if it is known. -/
def detail (before : String) (s : Option String) (after : String) : String :=
  match s with
  | some s => before ++ s ++ after
  | none => ""

/-- The wording of a cause. -/
def causeText : ResolveCause → String
  | .load e => ": " ++ e.message
  | .invalid issues =>
    ": parameter validation failed" ++ Text.joined "" (issues.map fun i => "\n  - " ++ i.text)
  | .duplicate name previous =>
    ": duplicate trait name \"" ++ name ++ "\" (already referenced as \"" ++ previous ++ "\")"

/-- The wording of a failure. -/
def message (e : ResolveError) : String :=
  "Failed to resolve trait \"" ++ e.reference.name ++ "\"" ++
    detail " (alias \"" e.reference.nickname "\")" ++
    detail " (namespace \"" e.reference.scope "\")" ++
    detail " for object \"" e.origin.name "\"" ++
    detail " in " (e.origin.path.map Path.text) "" ++
    causeText e.cause

end ResolveError

namespace Reference

/-- The first reference that goes by a name used before, with that name as it was spelled then. -/
def firstRepeated? (seen : List String) : List Reference → Option (Reference × String)
  | [] => none
  | r :: rs =>
    match seen.find? fun n => Name.normalize n == Name.normalize r.effectiveName with
    | some previous => some (r, previous)
    | none => firstRepeated? (seen ++ [r.effectiveName]) rs

end Reference

namespace Resolver

variable {σ : Type}

/-- The errors in the values of a reference's parameters. -/
def parameterErrors (desk : SchemaDesk σ) (options : ReportOptions) (st : σ × Validator) (r : Reference)
    (t : Trait) (parameters : Table Json) : (σ × Validator) × List Issue :=
  let (st, report) := Validator.check desk st (Inquiry.of r.request) (.obj parameters) options
  (st, report.errors ++ (t.enumFromIssues parameters).filter fun i => i.severity == .error)

/-- A loaded reference with the values of its parameters, checked if there are options for that. -/
def apply (desk : SchemaDesk σ) (checking : Option ReportOptions) (st : σ × Validator) (r : Reference)
    (l : Loaded) : (σ × Validator) × Except ResolveCause Resolved :=
  let parameters := l.trait.parametersWith r.parameters
  let resolved : Resolved := ⟨r, l.trait, parameters, l.path⟩
  match checking with
  | none => (st, .ok resolved)
  | some options =>
    match parameterErrors desk options st r l.trait parameters with
    | (st, []) => (st, .ok resolved)
    | (st, issues) => (st, .error (.invalid issues))

/-- Resolve loaded references in order. `seen` holds the names that are in use and the names of the
references that use them. -/
def settle (desk : SchemaDesk σ) (checking : Option ReportOptions) :
    (σ × Validator) → List (String × String) → List (Reference × LoadOutcome) →
      (σ × Validator) × Except (Reference × ResolveCause) (List Resolved)
  | st, _, [] => (st, .ok [])
  | st, seen, (r, .error e) :: rest =>
    if r.optional && e.isNotFound then settle desk checking st seen rest
    else (st, .error (r, .load e))
  | st, seen, (r, .ok l) :: rest =>
    let name := r.nameOf l.trait
    match seen.find? fun p => p.1 == Name.normalize name with
    | some (_, previous) => (st, .error (r, .duplicate name previous))
    | none =>
      match apply desk checking st r l with
      | (st, .error cause) => (st, .error (r, cause))
      | (st, .ok resolved) =>
        match settle desk checking st (seen ++ [(Name.normalize name, r.name)]) rest with
        | (st, .ok more) => (st, .ok (resolved :: more))
        | (st, .error e) => (st, .error e)

/-- Load references in order. -/
def loadAll (load : σ → Request → σ × LoadOutcome) :
    σ → List Reference → σ × List (Reference × LoadOutcome)
  | s, [] => (s, [])
  | s, r :: rs =>
    let (s, outcome) := load s r.request
    let (s, more) := loadAll load s rs
    (s, (r, outcome) :: more)

/-- Resolve the references that are not disabled, in their order, whatever it is that loads them. -/
def resolveWith (load : σ → Request → σ × LoadOutcome) (desk : SchemaDesk σ)
    (checking : Option ReportOptions) (known : σ × Validator) (references : List Reference)
    (origin : Origin) : (σ × Validator) × Except ResolveError (List Resolved) :=
  let active := references.filter fun r => !r.disabled
  match Reference.firstRepeated? [] active with
  | some (r, previous) =>
    (known, .error ⟨r, origin, .duplicate r.effectiveName previous⟩)
  | none =>
    let (s, attempts) := loadAll load known.1 active
    let (st, result) := settle desk checking (s, known.2) [] attempts
    (st, result.mapError fun (r, cause) => ⟨r, origin, cause⟩)

end Resolver

/-- What resolves references: where parameters are checked, and what is asked of the reports. -/
structure Resolver where
  checking : Option (SchemaSource × ReportOptions)

/-- What a resolver has learned: the traits and the schemas. -/
structure Learned where
  loader : Loader
  validator : Validator

namespace Resolver

/-- Nothing has been learned yet. -/
def start (roots : List Path) : Learned := ⟨Loader.ofRoots roots, Validator.empty⟩

/-- The desk of a source. -/
def deskOf (files : Files) (roots : List Path) (source : SchemaSource) : SchemaDesk Loader where
  load l r := source.load files l r
  location := source.location roots

/-- The desk at which a resolver asks; one that does not check asks nothing. -/
def desk (files : Files) (roots : List Path) (rv : Resolver) : SchemaDesk Loader :=
  deskOf files roots ((rv.checking.map Prod.fst).getD .declared)

/-- Resolve references with a loader of traits. -/
def resolve (files : Files) (rv : Resolver) (known : Learned) (references : List Reference)
    (origin : Origin) : Learned × Except ResolveError (List Resolved) :=
  let ((loader, validator), result) :=
    resolveWith (Loader.load files) (rv.desk files known.loader.roots) (rv.checking.map Prod.snd)
      (known.loader, known.validator) references origin
  (⟨loader, validator⟩, result)

end Resolver

end TraitWeave
