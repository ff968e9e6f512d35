import TraitWeave.Proofs.Trait.Loader
import TraitWeave.Proofs.Trait.Resolution
import Mathlib.Data.List.Infix

/-!
# What a loader keeps while the files change

A loader is asked again and again, cleared now and then, and the files may be others each time. Until it is
cleared, the first request with a key decides; a file is parsed only for a request that is the first with its
key and finds a file.

* `Loader.Asking`, `Loader.Step`, `Loader.run`: a request and the files at that moment, and a run of such requests
  and clearings.
* `Loader.recent`: the requests since the last clearing, and `Loader.run_cache` what is kept of them.
* `Loader.parsesLast`: whether the last step of a run parses a file.
* `Loader.Use`, `Loader.used`: what uses a loader, the resolver among them, and `Loader.Use.steps` the requests
  that it makes.
* `Loader.kept_until_cleared`: the answers, the files parsed and the requests kept, over every run.
-/

namespace TraitWeave

namespace Loader

/-- A request and the files at the moment when it is made. -/
structure Asking where
  files : Files
  request : Request

namespace Asking

/-- The key under which the answer is kept. -/
def key (x : Asking) : String := x.request.cacheKey

/-- What the files give at that moment. -/
def found (roots : List Path) (x : Asking) : LoadOutcome := Trait.find x.files roots x.request

end Asking

/-- What happens to a loader. -/
inductive Step where
  | load (x : Asking)
  | clear

/-- The loader after one step. -/
def step (l : Loader) : Step → Loader
  | .load x => (l.load x.files x.request).1
  | .clear => l.clear

/-- A new loader after some steps. -/
def run (roots : List Path) (steps : List Step) : Loader := steps.foldl step (ofRoots roots)

/-- The answer to a request that comes after some steps. -/
def outcome (roots : List Path) (before : List Step) (x : Asking) : LoadOutcome :=
  ((run roots before).load x.files x.request).2

/-- The requests since the loader was last cleared. -/
def recent (steps : List Step) : List Asking :=
  steps.foldl (fun xs s => match s with
    | .load x => xs ++ [x]
    | .clear => []) []

/-- No request with the key came since the loader was last cleared. -/
def Misses (before : List Step) (x : Asking) : Prop := ∀ y ∈ recent before, y.key ≠ x.key

instance (before : List Step) (x : Asking) : Decidable (Misses before x) :=
  inferInstanceAs (Decidable (∀ y ∈ recent before, y.key ≠ x.key))

/-- The last step is a request for which nothing is kept, and some candidate is a file at that moment. -/
def parsesLast (roots : List Path) (steps : List Step) : Bool :=
  match steps.getLast? with
  | some (.load x) => decide (Misses steps.dropLast x) && (x.request.candidates roots).any x.files.isFile
  | _ => false

/-- Requests for the same files, one after the other. -/
def loads (files : Files) (rs : List Request) : List Step := rs.map fun r => .load ⟨files, r⟩

variable {files : Files} {roots : List Path} {l : Loader} {before later steps : List Step} {x y : Asking}
  {r : Request}

/-! ## The requests since the last clearing -/

@[simp] theorem recent_load (steps : List Step) (x : Asking) :
    recent (steps ++ [.load x]) = recent steps ++ [x] := by
  simp [recent]

@[simp] theorem recent_clear (steps : List Step) : recent (steps ++ [.clear]) = [] := by
  simp [recent]

/-- Without a clearing in between, requests come to those before. -/
theorem recent_append (before : List Step) (h : Step.clear ∉ later) :
    recent (before ++ later) = recent before ++ recent later := by
  induction later using List.reverseRecOn with
  | nil => simp [recent]
  | append_singleton later s ih =>
    rw [List.mem_append, not_or] at h
    cases s with
    | load x => rw [← List.append_assoc, recent_load, recent_load, ih h.1, List.append_assoc]
    | clear => exact absurd (List.mem_singleton_self _) h.2

theorem recent_between (before : List Step) (x : Asking) (h : Step.clear ∉ later) :
    recent (before ++ .load x :: later) = recent before ++ [x] ++ recent later := by
  rw [List.append_cons, recent_append _ h, recent_load]

theorem not_misses_between (h : Step.clear ∉ later) (hkey : y.key = x.key) :
    ¬ Misses (before ++ .load x :: later) y := by
  intro hmisses
  refine hmisses x ?_ hkey.symm
  rw [recent_between before x h]
  simp

/-! ## One step -/

theorem load_of_isCached (h : l.isCached r = true) : (l.load files r).1 = l := by
  rw [isCached, Table.has_eq] at h
  obtain ⟨outcome, houtcome⟩ := Option.isSome_iff_exists.1 h
  simp only [load, houtcome]

theorem load_isCached (files : Files) (l : Loader) (r q : Request) :
    (l.load files r).1.isCached q = true ↔ l.isCached q = true ∨ r.cacheKey = q.cacheKey := by
  rw [isCached, isCached, Table.has_eq, Table.has_eq, load_cache]
  cases l.cache.get? q.cacheKey <;> by_cases hkey : r.cacheKey = q.cacheKey <;> simp [hkey]

/-- A file is parsed if nothing is kept and a candidate is a file. -/
theorem load_parses (files : Files) (l : Loader) (r : Request) :
    (l.load files r).1.parses =
      l.parses + if l.isCached r = false ∧ (r.candidates l.roots).any files.isFile = true then 1 else 0 := by
  have hlocate : (Trait.locate files l.roots r).isSome = (r.candidates l.roots).any files.isFile :=
    List.isSome_find?
  rw [isCached, Table.has_eq, ← hlocate]
  unfold load
  split <;> rename_i hget <;> simp [hget]

@[simp] theorem run_load (roots : List Path) (steps : List Step) (x : Asking) :
    run roots (steps ++ [.load x]) = ((run roots steps).load x.files x.request).1 := by
  simp [run, step]

@[simp] theorem run_clear (roots : List Path) (steps : List Step) :
    run roots (steps ++ [.clear]) = (run roots steps).clear := by
  simp [run, step]

/-! ## A run -/

@[simp] theorem run_roots (roots : List Path) (steps : List Step) : (run roots steps).roots = roots := by
  induction steps using List.reverseRecOn with
  | nil => rfl
  | append_singleton steps s ih =>
    cases s with
    | load x => rw [run_load, load_roots, ih]
    | clear => rw [run_clear, clear, ih]

/-- **What is kept under a key** is what the files gave to the first request with that key since the last
clearing, at its moment. -/
theorem run_cache (roots : List Path) (steps : List Step) (k : String) :
    (run roots steps).cache.get? k =
      ((recent steps).find? fun x => x.key = k).map (Asking.found roots) := by
  induction steps using List.reverseRecOn with
  | nil => rfl
  | append_singleton steps s ih =>
    cases s with
    | clear => rw [run_clear, recent_clear]; rfl
    | load x =>
      rw [run_load, load_cache, ih, run_roots, recent_load, List.find?_append, Option.map_or]
      by_cases hkey : x.request.cacheKey = k <;> simp [hkey, Asking.key, Asking.found]

theorem run_isCached (roots : List Path) (steps : List Step) (r : Request) :
    (run roots steps).isCached r = true ↔ ∃ x ∈ recent steps, x.key = r.cacheKey := by
  rw [isCached, Table.has_eq, run_cache, Option.isSome_map, List.find?_isSome]
  simp

theorem misses_iff (roots : List Path) (before : List Step) (x : Asking) :
    Misses before x ↔ (run roots before).isCached x.request = false := by
  rw [← Bool.not_eq_true, run_isCached]
  simp [Misses, Asking.key]

/-- The first of the requests with the key decides. -/
theorem outcome_eq_first (roots : List Path) (before : List Step) (x : Asking) :
    some (outcome roots before x) =
      ((recent before ++ [x]).find? fun y => y.key = x.key).map (Asking.found roots) := by
  rw [outcome, load_answer, run_roots, List.find?_append, Option.map_or, ← run_cache]
  cases hget : (run roots before).cache.get? x.key <;> rw [Asking.key] at hget <;> simp [hget, Asking.found]

/-- **Later requests with the key get the same answer**, whatever the files are then. -/
theorem outcome_kept (h : Step.clear ∉ later) (hkey : y.key = x.key) :
    outcome roots (before ++ .load x :: later) y = outcome roots before x := by
  apply Option.some.inj
  -- the search ends at `x` at the latest, so the requests behind it do not matter
  have hfound : ((recent before ++ [x]).find? fun z => z.key = x.key).isSome = true :=
    List.find?_isSome.2 ⟨x, by simp, by simp⟩
  rw [outcome_eq_first, outcome_eq_first, recent_between before x h, List.append_assoc, List.find?_append, hkey,
    Option.or_of_isSome hfound]

/-- A request that misses gets what the files give at its moment. -/
theorem outcome_of_misses (h : Misses before x) : outcome roots before x = x.found roots := by
  have hnone : ((recent before).find? fun y => y.key = x.key) = none := by
    simpa [List.find?_eq_none, Misses] using h
  apply Option.some.inj
  rw [outcome_eq_first, List.find?_append, hnone]
  simp

theorem parsesLast_load (roots : List Path) (before : List Step) (x : Asking) :
    parsesLast roots (before ++ [.load x]) = true ↔
      Misses before x ∧ (x.request.candidates roots).any x.files.isFile = true := by
  simp [parsesLast]

theorem parsesLast_clear (roots : List Path) (before : List Step) :
    parsesLast roots (before ++ [.clear]) = false := by
  simp [parsesLast]

/-- **The files parsed** are as many as there are steps that parse one. -/
theorem run_parses (roots : List Path) (steps : List Step) :
    (run roots steps).parses = steps.inits.countP (parsesLast roots) := by
  induction steps using List.reverseRecOn with
  | nil => rfl
  | append_singleton steps s ih =>
    -- there is one prefix more, the whole run, and it counts if its last step parses a file
    have hinits : (steps ++ [s]).inits = steps.inits ++ [steps ++ [s]] := by simp [List.inits_append]
    rw [hinits, List.countP_append, ← ih, List.countP_singleton]
    cases s with
    | load x =>
      rw [run_load, load_parses, run_roots]
      simp only [parsesLast_load, misses_iff roots]
    | clear => rw [run_clear, parsesLast_clear]; rfl

/-! ## What uses a loader -/

theorem run_loads (files : Files) (roots : List Path) (steps : List Step) (rs : List Request) :
    run roots (steps ++ loads files rs) = (run roots steps).after files rs := by
  rw [run, List.foldl_append, loads, List.foldl_map]
  rfl

theorem after_isCached (files : Files) (l : Loader) (rs : List Request) (q : Request) :
    (l.after files rs).isCached q = true ↔ l.isCached q = true ∨ ∃ r ∈ rs, r.cacheKey = q.cacheKey := by
  induction rs using List.reverseRecOn with
  | nil => simp [after]
  | append_singleton rs r ih => rw [after_concat, load_isCached, ih]; simp [or_and_right, exists_or, or_assoc]

end Loader

/-- A source that asks a loader asks it for the request itself. -/
theorem SchemaSource.load_of_isCached {files : Files} {source : SchemaSource} {l : Loader} {r : Request}
    (h : l.isCached r = true) : (source.load files l r).1 = l := by
  cases source with
  | directory dir => rfl
  | given schemas => rfl
  | declared => exact Loader.load_of_isCached h

namespace Resolver

section

variable {σ : Type} {desk : SchemaDesk σ} {checking : Option ReportOptions} {s : σ}

theorem obtain_source {q : Inquiry} (h : (desk.load s q.request).1 = s) (v : Validator) :
    (Validator.obtain desk (s, v) q).1.1 = s := by
  unfold Validator.obtain
  dsimp only
  split
  · rfl
  · split <;> rename_i heq <;> rw [heq] at h <;> exact h

theorem apply_source {r : Reference} {l : Loaded} (h : (desk.load s r.request).1 = s) (v : Validator) :
    (apply desk checking (s, v) r l).1.1 = s := by
  cases checking with
  | none => rfl
  | some options =>
    rw [apply_some options (r, l)]
    exact obtain_source h v

/-- Settling asks the source for the requests of the attempts only. -/
theorem settle_source {attempts : List Attempt} (h : ∀ a ∈ attempts, (desk.load s a.1.request).1 = s)
    (v : Validator) (seen : List (String × String)) :
    (settle desk checking (s, v) seen attempts).1.1 = s := by
  induction attempts generalizing v seen with
  | nil => rfl
  | cons a rest ih =>
    have hrest := ih fun b hb => h b (List.mem_cons_of_mem _ hb)
    obtain ⟨r, e | l⟩ := a
    · rw [settle]
      split
      · exact hrest v seen
      · rfl
    · -- of a loaded reference the parameters are checked, and nothing else asks the source
      have happly : (apply desk checking (s, v) r l).1.1 = s :=
        apply_source (h (r, .ok l) List.mem_cons_self) v
      simp only [settle]
      split
      · rfl
      · rcases hresult : apply desk checking (s, v) r l with ⟨⟨s', v'⟩, c | x⟩
        · rw [hresult] at happly
          exact happly
        · rw [hresult] at happly
          obtain rfl : s' = s := happly
          have hmore := hrest v' (seen ++ [(Name.normalize (r.nameOf l.trait), r.name)])
          dsimp only
          split <;> rename_i heq <;> rw [heq] at hmore <;> exact hmore

end

variable {files : Files} {l : Loader}

theorem loadAll_loader (files : Files) (l : Loader) (rs : List Reference) :
    (loadAll (Loader.load files) l rs).1 = l.after files (rs.map Reference.request) := by
  induction rs generalizing l with
  | nil => rfl
  | cons r rs ih => exact ih _

/-- An attempt is the answer after the requests of the references before it. -/
theorem mem_loadAll {rs : List Reference} {s : Reference} {answer : LoadOutcome}
    (h : (s, answer) ∈ (loadAll (Loader.load files) l rs).2) :
    ∃ earlier rest, rs = earlier ++ s :: rest ∧
      answer = ((l.after files (earlier.map Reference.request)).load files s.request).2 := by
  induction rs generalizing l with
  | nil => cases h
  | cons r rs ih =>
    rcases List.mem_cons.1 h with heq | h
    · obtain ⟨rfl, rfl⟩ := Prod.mk.inj heq
      exact ⟨[], rs, rfl, rfl⟩
    · obtain ⟨earlier, rest, hrs, ha⟩ := ih h
      exact ⟨r :: earlier, rest, congrArg (r :: ·) hrs, ha⟩

/-- **What resolving asks the loader**: the requests of the references that are not disabled, or nothing if two
of them go by one name. The check of the parameters asks for nothing else. -/
theorem resolve_loader (files : Files) (rv : Resolver) (known : Learned) (references : List Reference)
    (origin : Origin) :
    (resolve files rv known references origin).1.loader =
      if ((Reference.active references).map Reference.key).Nodup then
        known.loader.after files ((Reference.active references).map Reference.request)
      else known.loader := by
  unfold resolve
  cases hfirst : Reference.firstRepeated? [] (Reference.active references) with
  | some found =>
    rw [resolveWith_of_repeated hfirst, if_neg]
    rw [← Reference.firstRepeated?_eq_none, hfirst]
    exact Option.some_ne_none found
  | none =>
    rw [if_pos (Reference.firstRepeated?_eq_none.1 hfirst), ← loadAll_loader]
    unfold Reference.active at hfirst
    simp only [resolveWith, hfirst]
    refine settle_source (fun a ha => SchemaSource.load_of_isCached ?_) _ _
    -- all are loaded by now, so each request finds its answer kept
    obtain ⟨earlier, rest, hrs, -⟩ := mem_loadAll ha
    rw [loadAll_loader, Loader.after_isCached, hrs]
    exact .inr ⟨a.1.request, by simp, rfl⟩

end Resolver

namespace Loader

variable {roots : List Path}

/-- What uses a loader: a request, a request for the schema of a trait's parameters, the references of an object;
and it may be cleared. -/
inductive Use where
  | load (x : Asking)
  | schema (x : Asking)
  | resolve (files : Files) (rv : Resolver) (validator : Validator) (references : List Reference)
      (origin : Origin)
  | clear

/-- The loader after one use. -/
def use (l : Loader) : Use → Loader
  | .load x => (l.load x.files x.request).1
  | .schema x => (SchemaSource.declared.load x.files l x.request).1
  | .resolve files rv validator references origin =>
    (Resolver.resolve files rv ⟨l, validator⟩ references origin).1.loader
  | .clear => l.clear

/-- A new loader after some uses. -/
def used (roots : List Path) (uses : List Use) : Loader := uses.foldl use (ofRoots roots)

/-- The requests of the references that are not disabled; none if two of these go by one name. -/
def referenceSteps (files : Files) (references : List Reference) : List Step :=
  if ((Reference.active references).map Reference.key).Nodup then
    loads files ((Reference.active references).map Reference.request)
  else []

/-- What a use does to the loader. -/
def Use.steps : Use → List Step
  | .load x => [.load x]
  | .schema x => [.load x]
  | .resolve files _ _ references _ => referenceSteps files references
  | .clear => [.clear]

theorem run_referenceSteps (roots : List Path) (steps : List Step) (files : Files) (rv : Resolver)
    (validator : Validator) (references : List Reference) (origin : Origin) :
    (Resolver.resolve files rv ⟨run roots steps, validator⟩ references origin).1.loader =
      run roots (steps ++ referenceSteps files references) := by
  rw [Resolver.resolve_loader, referenceSteps]
  split
  · rw [run_loads]
  · rw [List.append_nil]

/-- A run of uses is a run of their requests. -/
theorem used_eq_run (roots : List Path) (uses : List Use) :
    used roots uses = run roots (uses.flatMap Use.steps) := by
  induction uses using List.reverseRecOn with
  | nil => rfl
  | append_singleton uses u ih =>
    have hlast : used roots (uses ++ [u]) = (run roots (uses.flatMap Use.steps)).use u := by
      rw [used, List.foldl_append, ← ih]
      rfl
    rw [hlast, List.flatMap_append, List.flatMap_singleton]
    cases u with
    | load x => rw [Use.steps, run_load, use]
    | schema x => rw [Use.steps, run_load]; rfl
    | clear => rw [Use.steps, run_clear, use]
    | resolve files rv validator references origin => exact run_referenceSteps ..

theorem clear_not_mem_loads (files : Files) (rs : List Request) : Step.clear ∉ loads files rs := by
  simp [loads]

/-- What a resolver was given for a request is what later requests with the key are given. -/
theorem attempt_kept {files : Files} {steps later : List Step} {validator : Validator}
    {references : List Reference} {s : Reference} {answer : LoadOutcome} {y : Asking}
    (hnames : ((Reference.active references).map Reference.key).Nodup)
    (hs : (s, answer) ∈ Resolver.attempts (Loader.load files) (run roots steps, validator) references)
    (h : Step.clear ∉ later) (hkey : y.key = s.request.cacheKey) :
    outcome roots (steps ++ referenceSteps files references ++ later) y = answer := by
  obtain ⟨earlier, rest, hactive, hanswer⟩ := Resolver.mem_loadAll hs
  -- the request of `s` is one of the steps, and no clearing comes behind it
  have hsteps : steps ++ referenceSteps files references ++ later =
      steps ++ loads files (earlier.map Reference.request) ++ .load ⟨files, s.request⟩ ::
        (loads files (rest.map Reference.request) ++ later) := by
    rw [referenceSteps, if_pos hnames, hactive]
    simp [loads]
  have hlater : Step.clear ∉ loads files (rest.map Reference.request) ++ later := by
    rw [List.mem_append, not_or]
    exact ⟨clear_not_mem_loads files _, h⟩
  have hkey : y.key = Asking.key ⟨files, s.request⟩ := hkey
  rw [hsteps, outcome_kept hlater hkey, hanswer, outcome, run_loads]

/-- After references were resolved there are answers to what was answered before and to their requests, or to
nothing more if two of them go by one name. -/
theorem resolve_isCached (roots : List Path) (steps : List Step) (files : Files) (rv : Resolver)
    (validator : Validator) (references : List Reference) (origin : Origin) (r : Request) :
    (Resolver.resolve files rv ⟨run roots steps, validator⟩ references origin).1.loader.isCached r = true ↔
      (run roots steps).isCached r = true ∨ ((Reference.active references).map Reference.key).Nodup ∧
        ∃ s ∈ Reference.active references, s.request.cacheKey = r.cacheKey := by
  rw [Resolver.resolve_loader]
  split
  · rename_i hnames
    rw [after_isCached]
    simp [hnames]
  · rename_i hnames
    simp [hnames]

/-- **Answers are kept until the loader is cleared.** Whatever becomes of the files, requests with one key get the
answer of the first of them, and that one gets what the files give at its moment. As many files are parsed as there
are requests that miss and find a file, so one for each key at most. What is kept are the requests since the last
clearing. The source of schemas and the resolver make requests like any other: the resolver those of the
references that are not disabled, or none if two of these go by one name. -/
theorem kept_until_cleared (roots : List Path) :
    (∀ before x later y, Step.clear ∉ later → y.key = x.key →
      outcome roots (before ++ .load x :: later) y = outcome roots before x ∧
      parsesLast roots (before ++ .load x :: later ++ [.load y]) = false) ∧
    (∀ before x, Misses before x → outcome roots before x = x.found roots) ∧
    (∀ steps, (run roots steps).parses = steps.inits.countP (parsesLast roots)) ∧
    (∀ steps r, (run roots steps).isCached r = true ↔ ∃ x ∈ recent steps, x.key = r.cacheKey) ∧
    (∀ uses, used roots uses = run roots (uses.flatMap Use.steps)) ∧
    (∀ before x, (SchemaSource.declared.load x.files (run roots before) x.request).2 =
      SchemaSource.ofOutcome (outcome roots before x)) ∧
    (∀ steps files rv validator references origin r,
      (Resolver.resolve files rv ⟨run roots steps, validator⟩ references origin).1.loader.isCached r = true ↔
        (run roots steps).isCached r = true ∨ ((Reference.active references).map Reference.key).Nodup ∧
          ∃ s ∈ Reference.active references, s.request.cacheKey = r.cacheKey) ∧
    (∀ steps files validator references,
      ((Reference.active references).map Reference.key).Nodup →
      ∀ s answer, (s, answer) ∈ Resolver.attempts (Loader.load files) (run roots steps, validator) references →
      ∀ later y, Step.clear ∉ later → y.key = s.request.cacheKey →
        outcome roots (steps ++ referenceSteps files references ++ later) y = answer) := by
  refine ⟨?_, fun _ _ => outcome_of_misses, run_parses roots, run_isCached roots, used_eq_run roots, fun _ _ => rfl,
    resolve_isCached roots, fun _ _ _ _ hnames _ _ hs _ _ => attempt_kept hnames hs⟩
  intro before x later y h hkey
  refine ⟨outcome_kept h hkey, Bool.eq_false_iff.2 fun hparses => ?_⟩
  exact not_misses_between h hkey ((parsesLast_load ..).1 hparses).1

/-- There are no files any more. -/
def bare : Files where
  isFile _ := false
  text _ := .error "gone"

/-- A trait is found, then its file is taken away; it is asked for by name and by a reference. -/
theorem kept_until_cleared_shelf :
    outcome [⟨"traits"⟩] ([] ++ .load ⟨shelf, .named "Auditable"⟩ :: [.load ⟨bare, .named "Ghost"⟩])
        ⟨bare, .named " AUDITABLE"⟩ = Asking.found [⟨"traits"⟩] ⟨shelf, .named "Auditable"⟩ ∧
    outcome [⟨"traits"⟩] ([] ++ referenceSteps shelf [.named "Auditable"] ++ []) ⟨bare, .named " AUDITABLE"⟩ =
      outcome [⟨"traits"⟩] [] ⟨shelf, (Reference.named "Auditable").request⟩ := by
  obtain ⟨hsame, hfirst, -, -, -, -, -, hresolved⟩ := kept_until_cleared [⟨"traits"⟩]
  have hkey : Asking.key ⟨bare, .named " AUDITABLE"⟩ = Asking.key ⟨shelf, .named "Auditable"⟩ := by
    decide +kernel
  have hactive : Reference.active [.named "Auditable"] = [.named "Auditable"] := rfl
  constructor
  · obtain ⟨hlater, -⟩ := hsame [] ⟨shelf, .named "Auditable"⟩ [.load ⟨bare, .named "Ghost"⟩]
      ⟨bare, .named " AUDITABLE"⟩ (by simp) hkey
    exact hlater.trans (hfirst [] ⟨shelf, .named "Auditable"⟩ nofun)
  · have hnames : ((Reference.active [Reference.named "Auditable"]).map Reference.key).Nodup := by
      rw [hactive]
      exact List.nodup_singleton _
    have hkey : Asking.key ⟨bare, .named " AUDITABLE"⟩ = (Reference.named "Auditable").request.cacheKey := by
      decide +kernel
    have hattempt : (Reference.named "Auditable",
        outcome [⟨"traits"⟩] [] ⟨shelf, (Reference.named "Auditable").request⟩) ∈
          Resolver.attempts (Loader.load shelf) (run [⟨"traits"⟩] [], .empty) [Reference.named "Auditable"] := by
      have hone (l : Loader) (r : Reference) :
          (Resolver.loadAll (Loader.load shelf) l [r]).2 = [(r, (l.load shelf r.request).2)] := rfl
      rw [Resolver.attempts, hactive, hone, List.mem_singleton, outcome]
    exact hresolved [] shelf .empty [.named "Auditable"] hnames _ _ hattempt [] _ (by simp) hkey

end Loader

end TraitWeave
