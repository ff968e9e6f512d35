import TraitWeave.Trait.Resolution
import TraitWeave.Proofs.Name
import TraitWeave.Proofs.Trait.Loader

/-!
# What a validator reports after other checks

A validator keeps what became of a schema under a key. The key forgets letter case and blanks, and it writes
the version behind the name, while a source tells names apart in its own way. So a report is that of the first
check with the key, and as good as a new one where these checks are for one schema.

* `Validator.Call`: the two ways of asking for a check.
* `SchemaSource.SameSchema`: requests for which a source gives one schema.
* `Validator.Standing`: what a validator and its source keep after some checks.
* `Validator.report_as_new`: when a report is as good as that of a new validator.
* `Validator.report_not_as_new`: it is not where letter case tells two files apart.
-/

namespace TraitWeave

/-! ## Sources -/

namespace SchemaSource

variable {files : Files} {roots : List Path} {source : SchemaSource} {r s : Request}

/-- What a source answers that was asked nothing before. -/
def fresh (files : Files) (roots : List Path) (source : SchemaSource) (r : Request) : SchemaAnswer :=
  (source.load files (Loader.ofRoots roots) r).2

/-- Two requests name one schema: the same file, the same normalized name, or the same file of a trait. -/
def SameSchema : SchemaSource → Request → Request → Prop
  | directory _, s, r => s.schemaKey = r.schemaKey
  | given _, s, r => Name.normalize s.schemaKey = Name.normalize r.schemaKey
  | declared, s, r => s.SamePlace r

/-- Two requests that a source answers together: a loader of traits keeps its answers by key. -/
def Together : SchemaSource → Request → Request → Prop
  | declared, s, r => s.cacheKey = r.cacheKey
  | _, s, r => s = r

theorem Together.refl (source : SchemaSource) (r : Request) : source.Together r r := by
  cases source <;> rfl

theorem SameSchema.refl (source : SchemaSource) (r : Request) : source.SameSchema r r := by
  cases source
  · rfl
  · rfl
  · exact Request.SamePlace.refl r

/-- Outcomes that agree give the same schema, or none, or both fail. -/
theorem ofOutcome_agree {x y : LoadOutcome} (h : x.Agree y) :
    (ofOutcome x).toOption = (ofOutcome y).toOption := by
  unfold LoadOutcome.Agree at h
  cases x with
  | ok l =>
    cases y with
    | ok m => cases h; rfl
    | error e => cases h
  | error e =>
    cases y with
    | ok m => cases h
    | error e' =>
      have h := Except.error.inj h
      cases e <;> cases e' <;> first | rfl | cases h

theorem fresh_declared (files : Files) (roots : List Path) (r : Request) :
    declared.fresh files roots r = ofOutcome (Trait.find files roots r) :=
  congrArg ofOutcome (Loader.load_answer files (Loader.ofRoots roots) r)

/-- For one schema there is one answer, but for the wording of a failure. -/
theorem fresh_sameSchema (files : Files) (roots : List Path) (h : source.SameSchema s r) :
    (source.fresh files roots s).toOption = (source.fresh files roots r).toOption := by
  cases source with
  | directory dir => exact congrArg (fun name => (loadFile files dir name).toOption) h
  | given schemas => exact congrArg (fun name => some (Table.get? schemas name)) h
  | declared =>
    rw [fresh_declared, fresh_declared]
    exact ofOutcome_agree (h.agree files roots)

end SchemaSource

/-! ## Reports -/

namespace Report

/-- Two reports with one verdict, the same codes and the same counts. -/
structure Alike (a b : Report) : Prop where
  valid : a.valid = b.valid
  codes : a.issues.map Issue.code = b.issues.map Issue.code
  summary : a.summary = b.summary

/-- The code and the severity of an issue. -/
def kind (i : Issue) : String × Severity := (i.code, i.severity)

theorem ofIssues_alike {is js : List Issue} (h : is.map kind = js.map kind) (options : ReportOptions) :
    (ofIssues is options).Alike (ofIssues js options) := by
  have hcodes (is : List Issue) : (is.filter fun i => options.lists i.severity).map Issue.code =
      ((is.map kind).filter fun k => options.lists k.2).map Prod.fst := by
    rw [List.filter_map, List.map_map]
    rfl
  have hcount (is : List Issue) : Summary.of is =
      ⟨((is.map kind).filter fun k => k.2 == .error).length,
        ((is.map kind).filter fun k => k.2 == .warning).length,
        ((is.map kind).filter fun k => k.2 == .info).length⟩ := by
    simp only [Summary.of, List.filter_map, List.length_map]
    rfl
  have hsummary : Summary.of is = Summary.of js := by rw [hcount, hcount, h]
  refine ⟨?_, ?_, hsummary⟩
  · unfold ofIssues
    rw [hsummary]
  · unfold ofIssues
    rw [hcodes, hcodes, h]

end Report

namespace Validator

variable {σ : Type}

/-- The kinds of issues are those of the schema, whatever the name and the place that are told. -/
theorem issues_kind (desk : SchemaDesk σ) {a b : SchemaAnswer} (h : a.toOption = b.toOption)
    (label label' location location' : String) (payload : Json) :
    (issues desk label payload (a.map (prepare location))).map Report.kind =
      (issues desk label' payload (b.map (prepare location'))).map Report.kind := by
  cases a with
  | error e =>
    cases b with
    | error e' => rfl
    | ok b => cases h
  | ok a =>
    cases b with
    | error e' => cases h
    | ok b =>
      obtain rfl : a = b := Option.some.inj h
      cases a with
      | none => rfl
      | some schema =>
        simp only [Except.map, prepare]
        cases Schema.Compiled.of schema <;> rfl

/-! ## Checks -/

/-- A check that is asked for, by the name of a trait or by a request. -/
inductive Call where
  | validate (name : String) (payload : Json) (options : ReportOptions)
  | validateRequest (request : Request) (payload : Json) (options : ReportOptions)

namespace Call

/-- The request that is made of the source. -/
def request : Call → Request
  | validate name _ _ => .named name
  | validateRequest r _ _ => r

/-- What is asked for. -/
def inquiry : Call → Inquiry
  | validate name _ _ => .named name
  | validateRequest r _ _ => .of r

/-- The values that are checked. -/
def payload : Call → Json
  | validate _ payload _ => payload
  | validateRequest _ payload _ => payload

/-- What is asked of the report. -/
def options : Call → ReportOptions
  | validate _ _ options => options
  | validateRequest _ _ options => options

/-- A check by name is one for the request by that name. -/
theorem inquiry_eq (c : Call) : c.inquiry = Inquiry.of c.request := by
  cases c <;> rfl

end Call

/-- The report of a check, and what is kept after it. -/
def answer (files : Files) (roots : List Path) (source : SchemaSource) (st : Loader × Validator) (c : Call) :
    (Loader × Validator) × Report :=
  check (Resolver.deskOf files roots source) st c.inquiry c.payload c.options

/-- What a new validator and its source keep after some checks. -/
def after (files : Files) (roots : List Path) (source : SchemaSource) (cs : List Call) : Loader × Validator :=
  cs.foldl (fun st c => (answer files roots source st c).1) (Loader.ofRoots roots, empty)

/-- The report of a check that comes after others. -/
def report (files : Files) (roots : List Path) (source : SchemaSource) (before : List Call) (c : Call) : Report :=
  (answer files roots source (after files roots source before) c).2

variable {files : Files} {roots : List Path} {source : SchemaSource} {asked : List Request}
  {st : Loader × Validator} {r : Request}

/-- **What is kept after some requests**: answers that the source gave to some of them. Each schema stands under
the key of a request, and comes from one that the source answers together with it. -/
structure Standing (files : Files) (roots : List Path) (source : SchemaSource) (asked : List Request)
    (st : Loader × Validator) : Prop where
  rooted : st.1.roots = roots
  loaded : ∀ {k o}, st.1.cache.get? k = some o → ∃ s ∈ asked, s.cacheKey = k ∧ o = Trait.find files roots s
  kept : ∀ {k p}, st.2.cache.get? k = some p → ∃ s ∈ asked, (Inquiry.of s).key = k ∧
    ∃ s' ∈ asked, source.Together s' s ∧
      ∃ location, .ok p = (source.fresh files roots s').map (prepare location)

theorem standing_nil : Standing files roots source [] (Loader.ofRoots roots, empty) :=
  ⟨rfl, nofun, nofun⟩

/-- One more request takes nothing away. -/
theorem Standing.concat (h : Standing files roots source asked st) (r : Request) :
    Standing files roots source (asked ++ [r]) st where
  rooted := h.rooted
  loaded ho := by
    obtain ⟨s, hs, hso⟩ := h.loaded ho
    exact ⟨s, List.mem_append_left _ hs, hso⟩
  kept hp := by
    obtain ⟨s, hs, hkey, s', hs', hso⟩ := h.kept hp
    exact ⟨s, List.mem_append_left _ hs, hkey, s', List.mem_append_left _ hs', hso⟩

/-- The source answers as it would at first to a request that it answers together with this one. -/
theorem Standing.load_answer (h : Standing files roots source asked st) (r : Request) :
    ∃ s ∈ asked ++ [r], source.Together s r ∧ (source.load files st.1 r).2 = source.fresh files roots s := by
  have hself : r ∈ asked ++ [r] := List.mem_append_right _ (List.mem_singleton_self r)
  cases source with
  | directory dir => exact ⟨r, hself, rfl, rfl⟩
  | given schemas => exact ⟨r, hself, rfl, rfl⟩
  | declared =>
    have hload : (SchemaSource.declared.load files st.1 r).2 =
        SchemaSource.ofOutcome ((st.1.cache.get? r.cacheKey).getD (Trait.find files roots r)) := by
      rw [← h.rooted]
      exact congrArg SchemaSource.ofOutcome (Loader.load_answer files st.1 r)
    -- the loader answers this request anew, or as it did an earlier one of the same key
    cases hc : st.1.cache.get? r.cacheKey with
    | none =>
      rw [hc] at hload
      exact ⟨r, hself, rfl, hload.trans (SchemaSource.fresh_declared files roots r).symm⟩
    | some o =>
      obtain ⟨s, hs, hkey, rfl⟩ := h.loaded hc
      rw [hc] at hload
      exact ⟨s, List.mem_append_left _ hs, hkey, hload.trans (SchemaSource.fresh_declared files roots s).symm⟩

/-- What a source keeps after one more request. -/
theorem Standing.load_loader (h : Standing files roots source asked st) (r : Request) :
    (source.load files st.1 r).1.roots = roots ∧
      ∀ {k o}, (source.load files st.1 r).1.cache.get? k = some o →
        ∃ s ∈ asked ++ [r], s.cacheKey = k ∧ o = Trait.find files roots s := by
  have hold {k : String} {o : LoadOutcome} (ho : st.1.cache.get? k = some o) :
      ∃ s ∈ asked ++ [r], s.cacheKey = k ∧ o = Trait.find files roots s := (h.concat r).loaded ho
  cases source with
  | directory dir => exact ⟨h.rooted, hold⟩
  | given schemas => exact ⟨h.rooted, hold⟩
  | declared =>
    refine ⟨(Loader.load_roots files st.1 r).trans h.rooted, fun {k o} ho => ?_⟩
    have ho : (st.1.load files r).1.cache.get? k = some o := ho
    rw [Loader.load_cache, h.rooted, Option.or_eq_some_iff] at ho
    rcases ho with ho | ⟨-, ho⟩
    · exact hold ho
    · split at ho
      · rename_i hkey
        cases ho
        exact ⟨r, List.mem_append_right _ (List.mem_singleton_self r), hkey, rfl⟩
      · cases ho

/-- **One check.** What became of the schema is what became of an answer that the source gave at first: to a
request that it answers together with one of the same key. And what is kept stands. -/
theorem Standing.obtain (h : Standing files roots source asked st) (r : Request) :
    (∃ s ∈ asked ++ [r], (Inquiry.of s).key = (Inquiry.of r).key ∧ ∃ s' ∈ asked ++ [r], source.Together s' s ∧
      ∃ location, (Validator.obtain (Resolver.deskOf files roots source) st (Inquiry.of r)).2 =
        (source.fresh files roots s').map (prepare location)) ∧
    Standing files roots source (asked ++ [r])
      (Validator.obtain (Resolver.deskOf files roots source) st (Inquiry.of r)).1 := by
  unfold Validator.obtain
  cases hc : st.2.cache.get? (Inquiry.of r).key with
  | some p =>
    obtain ⟨s, hs, hkey, s', hs', htogether, location, hp⟩ := h.kept hc
    exact ⟨⟨s, List.mem_append_left _ hs, hkey, s', List.mem_append_left _ hs', htogether, location, hp⟩,
      h.concat r⟩
  | none =>
    obtain ⟨s', hs', htogether, hanswer⟩ := h.load_answer r
    obtain ⟨hrooted, hloaded⟩ := h.load_loader r
    have hself : r ∈ asked ++ [r] := List.mem_append_right _ (List.mem_singleton_self r)
    have hload : (Resolver.deskOf files roots source).load st.1 (Inquiry.of r).request =
        ((source.load files st.1 r).1, source.fresh files roots s') := Prod.ext rfl hanswer
    dsimp only
    rw [hload]
    cases hfresh : source.fresh files roots s' with
    | error message =>
      -- a failure is reported and not kept
      exact ⟨⟨r, hself, rfl, s', hs', htogether, "", by rw [hfresh]; rfl⟩, hrooted, hloaded,
        fun hp => (h.concat r).kept hp⟩
    | ok answer =>
      -- one more entry is kept, under the key of this request
      refine ⟨⟨r, hself, rfl, s', hs', htogether, _, by rw [hfresh]; rfl⟩, hrooted, hloaded, fun {k p} hp => ?_⟩
      dsimp only at hp
      rw [Table.get?_put] at hp
      split at hp
      · rename_i hkey
        cases hp
        exact ⟨r, hself, hkey, s', hs', htogether, _, by rw [hfresh]; rfl⟩
      · exact (h.concat r).kept hp

/-- What is kept stands after every run of checks. -/
theorem standing_after (files : Files) (roots : List Path) (source : SchemaSource) (cs : List Call) :
    Standing files roots source (cs.map Call.request) (after files roots source cs) := by
  induction cs using List.reverseRecOn with
  | nil => exact standing_nil
  | append_singleton cs c ih =>
    rw [List.map_append, List.map_singleton]
    have hafter : after files roots source (cs ++ [c]) =
        (Validator.obtain (Resolver.deskOf files roots source) (after files roots source cs) (.of c.request)).1 := by
      rw [← c.inquiry_eq]
      simp [after, answer, check]
    rw [hafter]
    exact (ih.obtain c.request).2

/-- **The report of a check** is what the source's first answer to some earlier request gives. -/
theorem report_of_standing (h : Standing files roots source asked st) (c : Call) :
    ∃ s ∈ asked ++ [c.request], (Inquiry.of s).key = c.inquiry.key ∧
      ∃ s' ∈ asked ++ [c.request], source.Together s' s ∧ ∃ location,
        (answer files roots source st c).2 = Report.ofIssues
          (issues (Resolver.deskOf files roots source) c.inquiry.label c.payload
            ((source.fresh files roots s').map (prepare location))) c.options := by
  obtain ⟨⟨s, hs, hkey, s', hs', htogether, location, hp⟩, -⟩ := h.obtain c.request
  refine ⟨s, hs, hkey.trans (congrArg Inquiry.key c.inquiry_eq).symm, s', hs', htogether, location, ?_⟩
  rw [← hp, ← c.inquiry_eq]
  rfl

/-! ## As good as a new report -/

/-- Where each of the requests that may have decided names the same schema, the report is as good as a new one. -/
theorem alike_of_standing {c : Call} {st' : Loader × Validator} {asked' : List Request}
    (h : Standing files roots source asked st) (h' : Standing files roots source asked' st')
    (hsame : ∀ s ∈ asked ++ [c.request], (Inquiry.of s).key = c.inquiry.key → ∀ s' ∈ asked ++ [c.request],
      source.Together s' s → source.SameSchema s' c.request)
    (hsame' : ∀ s ∈ asked' ++ [c.request], (Inquiry.of s).key = c.inquiry.key → ∀ s' ∈ asked' ++ [c.request],
      source.Together s' s → source.SameSchema s' c.request) :
    (answer files roots source st c).2.Alike (answer files roots source st' c).2 := by
  obtain ⟨s, hs, hkey, r, hr, htogether, location, hreport⟩ := report_of_standing h c
  obtain ⟨s', hs', hkey', r', hr', htogether', location', hreport'⟩ := report_of_standing h' c
  rw [hreport, hreport']
  have hfirst := SchemaSource.fresh_sameSchema files roots (hsame s hs hkey r hr htogether)
  have hsecond := SchemaSource.fresh_sameSchema files roots (hsame' s' hs' hkey' r' hr' htogether')
  exact Report.ofIssues_alike (issues_kind _ (hfirst.trans hsecond.symm) ..) c.options

/-- The name in a key ends before the version. -/
theorem takeWhile_key (h : '@' ∉ r.schemaKey.toList) :
    (Inquiry.of r).key.toList.takeWhile (· ≠ '@') = (Name.normalize r.schemaKey).toList := by
  have hname : ∀ d ∈ (Name.normalize r.schemaKey).toList, decide (d ≠ '@') = true := fun d hd => by
    refine decide_eq_true fun hat => ?_
    subst hat
    exact h (Name.mem_of_mem_normalize (by decide +kernel) (by decide) hd)
  unfold Inquiry.of
  dsimp only
  split
  · exact List.takeWhile_eq_self_iff.2 hname
  · rw [String.toList_append, String.toList_append, List.append_assoc, List.takeWhile_append_of_pos hname]
    exact List.append_nil _

theorem sameSchema_given {schemas : Table Json} {s : Request} (hs : '@' ∉ s.schemaKey.toList)
    (hr : '@' ∉ r.schemaKey.toList) (hkey : (Inquiry.of s).key = (Inquiry.of r).key) :
    (SchemaSource.given schemas).SameSchema s r := by
  apply String.toList_injective
  rw [← takeWhile_key hs, ← takeWhile_key hr, hkey]

/-- The calls of which one may have decided what is reported name the schema of this one: those with its key, and
those that the source answers together with them. -/
def Settled (source : SchemaSource) (before : List Call) (c : Call) : Prop :=
  ∀ s ∈ before ++ [c], s.inquiry.key = c.inquiry.key → ∀ s' ∈ before ++ [c],
    source.Together s'.request s.request → source.SameSchema s'.request c.request

theorem Settled.requests {before : List Call} {c : Call} (h : Settled source before c) :
    ∀ s ∈ before.map Call.request ++ [c.request], (Inquiry.of s).key = c.inquiry.key →
      ∀ s' ∈ before.map Call.request ++ [c.request], source.Together s' s → source.SameSchema s' c.request := by
  have mem_requests {r : Request} (hr : r ∈ before.map Call.request ++ [c.request]) :
      ∃ s ∈ before ++ [c], s.request = r := by
    rwa [← List.map_singleton, ← List.map_append, List.mem_map] at hr
  intro r hr hkey r' hr' htogether
  obtain ⟨s, hs, rfl⟩ := mem_requests hr
  obtain ⟨s', hs', rfl⟩ := mem_requests hr'
  exact h s hs (s.inquiry_eq ▸ hkey) s' hs' htogether

theorem settled_nil (source : SchemaSource) (c : Call) : Settled source [] c := fun _ _ _ s' hs' _ => by
  rw [List.mem_singleton.1 hs']
  exact .refl source _

/-- Among schemas given by name, only a name with an at sign may be taken for one with a version. -/
theorem settled_given (schemas : Table Json) {before : List Call} {c : Call}
    (h : ∀ s ∈ before ++ [c], '@' ∉ s.request.schemaKey.toList) : Settled (.given schemas) before c := by
  intro s hs hkey s' hs' htogether
  have hlast : c ∈ before ++ [c] := List.mem_append_right _ (List.mem_singleton_self c)
  have hsame : s'.request = s.request := htogether
  rw [hsame]
  rw [s.inquiry_eq, c.inquiry_eq] at hkey
  exact sameSchema_given (h s hs) (h c hlast) hkey

/-- **When the validator is transparent.** Where the calls that may have decided name the same schema, a report is
as good as that of a new validator, be its source new as well or the one that was asked before. Schemas that are
given by name are told apart by the key, unless a name has an at sign. -/
theorem report_as_new (files : Files) (roots : List Path) :
    (∀ source before c, Settled source before c →
      (report files roots source before c).Alike (report files roots source [] c) ∧
      (report files roots source before c).Alike
        (answer files roots source ((after files roots source before).1, empty) c).2) ∧
    (∀ schemas before c, (∀ s ∈ before ++ [c], '@' ∉ s.request.schemaKey.toList) →
      (report files roots (.given schemas) before c).Alike (report files roots (.given schemas) [] c)) := by
  have hsettled : ∀ source before c, Settled source before c →
      (report files roots source before c).Alike (report files roots source [] c) ∧
      (report files roots source before c).Alike
        (answer files roots source ((after files roots source before).1, empty) c).2 := by
    intro source before c h
    have hstanding := standing_after files roots source before
    exact ⟨alike_of_standing hstanding standing_nil h.requests (settled_nil source c).requests,
      alike_of_standing hstanding ⟨hstanding.rooted, hstanding.loaded, nofun⟩ h.requests h.requests⟩
  exact ⟨hsettled, fun schemas before c hat => (hsettled _ before c (settled_given schemas hat)).1⟩

/-- A directory with one schema, of an unknown draft, in a file whose name starts with a capital letter. -/
def schemaShelf : Files where
  isFile p := p.text = "schemas/Throttled.schema.json"
  text _ := .ok "\x7b\"$schema\": \"unknown\"\x7d"

/-- A check of no values. -/
def callFor (name : String) : Call := .validate name (.obj []) .standard

theorem report_as_new_throttled :
    (report schemaShelf [] (.directory ⟨"schemas"⟩) [callFor "Audited", callFor "Throttled"]
        (callFor "Throttled")).Alike
      (report schemaShelf [] (.directory ⟨"schemas"⟩) [] (callFor "Throttled")) ∧
    (report schemaShelf [] (.given [("throttled", .obj [])]) [callFor "Throttled"] (callFor " THROTTLED")).Alike
      (report schemaShelf [] (.given [("throttled", .obj [])]) [] (callFor " THROTTLED")) := by
  obtain ⟨hsettled, hgiven⟩ := report_as_new schemaShelf []
  refine ⟨(hsettled _ _ _ ?_).1, hgiven _ _ _ ?_⟩
  · have hkeys : ∀ s ∈ [callFor "Audited", callFor "Throttled", callFor "Throttled"],
        s.inquiry.key = (callFor "Throttled").inquiry.key →
          s.request.schemaKey = (callFor "Throttled").request.schemaKey := by
      decide +kernel
    intro s hs hkey s' _ htogether
    have hsame : s'.request = s.request := htogether
    rw [hsame]
    exact hkeys s hs hkey
  · decide +kernel

/-- A trait in a file that cannot be read, with a capital letter at the start of its name. -/
def brokenShelf : Files where
  isFile p := p.text = "traits/Throttled.trait.json"
  text _ := .ok ""

/-- **Letter case is forgotten by the key only**: after a check that finds no schema, the same check in the letters
of the file finds none either, and a new validator finds the file. So it is with the files of schemas, and with
those of traits. -/
theorem report_not_as_new :
    (¬ ∀ files roots dir before c, (report files roots (.directory dir) before c).Alike
      (report files roots (.directory dir) [] c)) ∧
    ¬ ∀ files roots before c, (report files roots .declared before c).Alike (report files roots .declared [] c) := by
  constructor
  · intro h
    have hcodes := (h schemaShelf [] ⟨"schemas"⟩ [callFor "throttled"] (callFor "Throttled")).codes
    have hkept : (report schemaShelf [] (.directory ⟨"schemas"⟩) [callFor "throttled"]
        (callFor "Throttled")).issues.map Issue.code = ["schema_not_found"] := by
      decide +kernel
    have hnew : (report schemaShelf [] (.directory ⟨"schemas"⟩) [] (callFor "Throttled")).issues.map Issue.code =
        ["schema_invalid"] := by
      decide +kernel
    rw [hkept, hnew] at hcodes
    exact absurd hcodes (by decide)
  · intro h
    have hcodes := (h brokenShelf [⟨"traits"⟩] [callFor "throttled"] (callFor "Throttled")).codes
    have hkept : (report brokenShelf [⟨"traits"⟩] .declared [callFor "throttled"]
        (callFor "Throttled")).issues.map Issue.code = ["schema_not_found"] := by
      decide +kernel
    have hnew : (report brokenShelf [⟨"traits"⟩] .declared [] (callFor "Throttled")).issues.map Issue.code =
        ["schema_load_failed"] := by
      decide +kernel
    rw [hkept, hnew] at hcodes
    exact absurd hcodes (by decide)

end Validator

end TraitWeave
