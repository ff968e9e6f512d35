import TraitWeave.Proofs.Check.ParameterSchema
import TraitWeave.Proofs.Trait.Resolution

/-!
# What the options of a report change

The options choose which issues are listed besides errors. Validity and the counts are those of all issues, and
what is kept of the schemas is the same. A resolver reads the errors off a list that was cut already; as no error is
cut, it resolves or refuses references alike under any options.

* `Report.Excerpt`, `Report.ofIssues_excerpt`: what a report of issues says of all of them.
* `Validator.check_options`: two checks that differ in their options.
* `Resolver.settle_options`: settling under any two options, and from it resolving.
* `Resolver.outcome_of_any_options`: what the options of reports change, and what they do not.
-/

namespace TraitWeave

/-! ## Reports -/

/-- A report of issues that leaves out some which are no errors: what it says of all of them. -/
structure Report.Excerpt (issues : List Issue) (options : ReportOptions) (r : Report) : Prop where
  /-- Each error is listed, in order. -/
  errors : r.errors = issues.filter fun i => i.severity == .error
  valid : r.valid = true ↔ ∀ i ∈ issues, i.severity ≠ .error
  errorCount : r.summary.errors = issues.countP fun i => i.severity == .error
  warningCount : r.summary.warnings = issues.countP fun i => i.severity == .warning
  infoCount : r.summary.infos = issues.countP fun i => i.severity == .info
  sublist : r.issues.Sublist issues
  mem : ∀ i, i ∈ r.issues ↔ i ∈ issues ∧ options.lists i.severity = true

theorem Report.ofIssues_excerpt (issues : List Issue) (options : ReportOptions) :
    Excerpt issues options (ofIssues issues options) where
  errors := errors_ofIssues issues options
  valid := ofIssues_valid
  errorCount := List.countP_eq_length_filter.symm
  warningCount := List.countP_eq_length_filter.symm
  infoCount := List.countP_eq_length_filter.symm
  sublist := List.filter_sublist
  mem _ := List.mem_filter

/-- Two reports that differ at most in the issues listed besides errors. -/
structure Report.SameFindings (a b : Report) : Prop where
  valid : a.valid = b.valid
  summary : a.summary = b.summary
  errors : a.errors = b.errors

/-! ## Checks -/

variable {σ : Type} {desk : SchemaDesk σ}

/-- **Two checks that differ in their options** leave the same behind and find the same. -/
theorem Validator.check_options (desk : SchemaDesk σ) (st : σ × Validator) (q : Inquiry) (payload : Json)
    (o o' : ReportOptions) :
    (check desk st q payload o).1 = (check desk st q payload o').1 ∧
      (check desk st q payload o).2.SameFindings (check desk st q payload o').2 := by
  refine ⟨rfl, rfl, rfl, ?_⟩
  unfold check
  rw [Report.errors_ofIssues, Report.errors_ofIssues]

/-! ## References -/

namespace Resolver

theorem apply_options (st : σ × Validator) (r : Reference) (l : Loaded) (o o' : ReportOptions) :
    apply desk (some o) st r l = apply desk (some o') st r l :=
  (apply_some o (r, l)).trans (apply_some o' (r, l)).symm

/-- **Settling is the same under any options**: the result, and what is kept after it. -/
theorem settle_options (o o' : ReportOptions) (st : σ × Validator) (seen : List (String × String))
    (attempts : List Attempt) :
    settle desk (some o) st seen attempts = settle desk (some o') st seen attempts := by
  -- the state is carried along: what one reference leaves in the cache is what the next one meets
  induction attempts generalizing st seen with
  | nil => rfl
  | cons a rest ih =>
    obtain ⟨r, e | l⟩ := a
    · simp only [settle, ih]
    · simp only [settle, ih, apply_options st r l o o']

theorem resolveWith_options (load : σ → Request → σ × LoadOutcome) (desk : SchemaDesk σ) (o o' : ReportOptions)
    (known : σ × Validator) (references : List Reference) (origin : Origin) :
    resolveWith load desk (some o) known references origin =
      resolveWith load desk (some o') known references origin := by
  simp only [resolveWith, settle_options o o']

/-- **The options of reports change what is listed, and nothing else.** A report keeps every error, in order; it is
valid and counts as all issues have it, and what it lists is among these, in their order. A check leaves the same
behind and finds the same under any two options. And references are resolved under any two options with one result:
the same resolved references, or the same failure with the same issues in the same order, and the same kept of
traits and schemas. That holds whatever loads the traits and the schemas, and so for the loader and each source. -/
theorem outcome_of_any_options :
    (∀ issues options, Report.Excerpt issues options (Report.ofIssues issues options)) ∧
    (∀ (σ : Type) (desk : SchemaDesk σ) st q payload (o o' : ReportOptions),
      (Validator.check desk st q payload o).1 = (Validator.check desk st q payload o').1 ∧
        (Validator.check desk st q payload o).2.SameFindings (Validator.check desk st q payload o').2) ∧
    (∀ (σ : Type) (load : σ → Request → σ × LoadOutcome) (desk : SchemaDesk σ) known references origin
      (o o' : ReportOptions),
      resolveWith load desk (some o) known references origin =
        resolveWith load desk (some o') known references origin) ∧
    (∀ files source known references origin (o o' : ReportOptions),
      resolve files ⟨some (source, o)⟩ known references origin =
        resolve files ⟨some (source, o')⟩ known references origin) := by
  refine ⟨Report.ofIssues_excerpt, fun _ => Validator.check_options,
    fun _ load desk known references origin o o' => resolveWith_options load desk o o' known references origin,
    fun files source known references origin o o' => ?_⟩
  have hresolve := resolveWith_options (Loader.load files) (deskOf files known.loader.roots source) o o'
    (known.loader, known.validator) references origin
  unfold resolve desk
  simp only [Option.map_some, Option.getD_some, hresolve]

end Resolver

end TraitWeave
