import TraitWeave.Trait.Loader
import TraitWeave.Proofs.Table
import Mathlib.Data.List.Find
import Mathlib.Data.List.Induction

/-!
# What a loader answers after other requests

A loader keeps its answers by key. The key forgets letter case, the files do not, so an answer is that of the
first request with the key.

* `Request.Respells`, `Request.SamePlace`: requests that are told apart by their spelling at most, and requests
  for which the same files are sought.
* `Loader.after_cache`: what a loader keeps after some requests.
* `Loader.transparent`: when a kept answer is as good as a new one.
* `Loader.not_transparent`: it is not where letter case tells two files apart.
-/

namespace TraitWeave

namespace Request

/-- The two differ at most in letter case and in blanks at the ends of namespace, name and version. -/
structure Respells (s r : Request) : Prop where
  scope : keyPart (s.scope.getD "") = keyPart (r.scope.getD "")
  name : keyPart s.name = keyPart r.name
  version : keyPart (s.version.getD "") = keyPart (r.version.getD "")

instance (s r : Request) : Decidable (s.Respells r) :=
  decidable_of_iff
    (keyPart (s.scope.getD "") = keyPart (r.scope.getD "") ∧ keyPart s.name = keyPart r.name ∧
      keyPart (s.version.getD "") = keyPart (r.version.getD ""))
    ⟨fun h => ⟨h.1, h.2.1, h.2.2⟩, fun h => ⟨h.scope, h.name, h.version⟩⟩

/-- The two name the same file in the same directories, letter by letter. -/
structure SamePlace (s r : Request) : Prop where
  segments : s.segments = r.segments
  leaf : s.leaf = r.leaf

variable {s r : Request}

theorem Respells.refl (r : Request) : r.Respells r := ⟨rfl, rfl, rfl⟩

theorem Respells.cacheKey_eq (h : s.Respells r) : s.cacheKey = r.cacheKey := by
  rw [cacheKey, cacheKey, h.scope, h.name, h.version]

theorem SamePlace.refl (r : Request) : r.SamePlace r := ⟨rfl, rfl⟩

theorem SamePlace.candidates_eq (h : s.SamePlace r) (roots : List Path) :
    s.candidates roots = r.candidates roots := by
  unfold candidates candidatesIn
  rw [h.segments, h.leaf]

end Request

/-- The failure for a request with another name. -/
def LoadError.renamed (name : String) : LoadError → LoadError
  | .notFound _ searched => .notFound name searched
  | .invalid _ path messages => .invalid name path messages
  | .unreadable _ path message => .unreadable name path message

theorem LoadError.renamed_ofProblems (name name' : String) (path : Path) (ps : List Document.Problem) :
    (ofProblems name' path ps).renamed name = ofProblems name path ps := by
  unfold ofProblems
  split <;> rfl

/-- The same trait from the same file, or the same failure but for the name in its wording. -/
def LoadOutcome.Agree (x y : LoadOutcome) : Prop :=
  x.mapError (LoadError.renamed "") = y.mapError (LoadError.renamed "")

namespace LoadOutcome.Agree

variable {x y z : LoadOutcome}

theorem refl (x : LoadOutcome) : Agree x x := rfl

theorem symm (h : Agree x y) : Agree y x := Eq.symm h

theorem trans (h : Agree x y) (h' : Agree y z) : Agree x z := Eq.trans h h'

/-- Of two answers that agree, both are traits or none is. -/
theorem isOk_eq (h : Agree x y) : x.isOk = y.isOk := by
  have h := congrArg Except.isOk h
  cases x <;> cases y <;> first | rfl | cases h

end LoadOutcome.Agree

open LoadOutcome (Agree)

/-- For requests at one place the files give answers that agree. -/
theorem Request.SamePlace.agree {s r : Request} (h : s.SamePlace r) (files : Files) (roots : List Path) :
    Agree (Trait.find files roots s) (Trait.find files roots r) := by
  have hlocate : Trait.locate files roots s = Trait.locate files roots r := by
    rw [Trait.locate, Trait.locate, h.candidates_eq]
  unfold Trait.find
  rw [hlocate, h.candidates_eq]
  cases Trait.locate files roots r with
  | none => rfl
  | some path =>
    dsimp only
    cases Trait.ofFile path (files.text path) with
    | ok t => rfl
    | error ps =>
      exact congrArg Except.error ((LoadError.renamed_ofProblems ..).trans (LoadError.renamed_ofProblems ..).symm)

namespace Loader

variable {files : Files} {roots : List Path} {r : Request}

/-! ## One request -/

@[simp] theorem load_roots (files : Files) (l : Loader) (r : Request) : (l.load files r).1.roots = l.roots := by
  unfold load
  split <;> rfl

theorem load_answer (files : Files) (l : Loader) (r : Request) :
    (l.load files r).2 = (l.cache.get? r.cacheKey).getD (Trait.find files l.roots r) := by
  unfold load
  split <;> rename_i h <;> rw [h] <;> rfl

/-- An answer that is kept stays; otherwise the request's own answer is kept. -/
theorem load_cache (files : Files) (l : Loader) (r : Request) (k : String) :
    (l.load files r).1.cache.get? k =
      (l.cache.get? k).or (if r.cacheKey = k then some (Trait.find files l.roots r) else none) := by
  unfold load
  split
  · rename_i outcome h
    by_cases hk : r.cacheKey = k
    · rw [← hk, h]
      rfl
    · rw [if_neg hk, Option.or_none]
  · rename_i h
    dsimp only
    rw [Table.get?_put]
    by_cases hk : r.cacheKey = k
    · rw [if_pos hk, if_pos hk, ← hk, h]
      rfl
    · rw [if_neg hk, if_neg hk, Option.or_none]

/-! ## Some requests -/

/-- The loader after some requests. -/
def after (files : Files) (l : Loader) (rs : List Request) : Loader :=
  rs.foldl (fun l r => (l.load files r).1) l

@[simp] theorem after_concat (files : Files) (l : Loader) (rs : List Request) (r : Request) :
    l.after files (rs ++ [r]) = ((l.after files rs).load files r).1 := by
  simp [after]

@[simp] theorem after_roots (files : Files) (l : Loader) (rs : List Request) :
    (l.after files rs).roots = l.roots := by
  induction rs using List.reverseRecOn with
  | nil => rfl
  | append_singleton rs r ih => rw [after_concat, load_roots, ih]

/-- **What is kept under a key** is what the files gave to the first request with that key. -/
theorem after_cache (files : Files) (roots : List Path) (rs : List Request) (k : String) :
    ((ofRoots roots).after files rs).cache.get? k =
      (rs.find? fun s => s.cacheKey = k).map (Trait.find files roots) := by
  induction rs using List.reverseRecOn with
  | nil => rfl
  | append_singleton rs r ih =>
    rw [after_concat, load_cache, ih, after_roots, List.find?_append]
    cases rs.find? fun s => s.cacheKey = k with
    | some s => rfl
    | none => by_cases hk : r.cacheKey = k <;> simp [hk, ofRoots]

/-- The answer of a loader to a request that comes after others. -/
def answer (files : Files) (roots : List Path) (before : List Request) (r : Request) : LoadOutcome :=
  (((ofRoots roots).after files before).load files r).2

/-- The answer of a new loader is what the files give. -/
theorem answer_nil (files : Files) (roots : List Path) (r : Request) :
    answer files roots [] r = Trait.find files roots r := load_answer files (ofRoots roots) r

/-- **The first request with the key decides.** -/
theorem answer_eq_first (files : Files) (roots : List Path) (before : List Request) (r : Request) :
    ∃ first, (before ++ [r]).find? (fun s => s.cacheKey = r.cacheKey) = some first ∧
      answer files roots before r = Trait.find files roots first := by
  rw [answer, load_answer, after_cache, after_roots, List.find?_append]
  cases before.find? fun s => s.cacheKey = r.cacheKey with
  | some s => exact ⟨s, rfl, rfl⟩
  | none => exact ⟨r, by simp, rfl⟩

/-! ## As good as a new answer -/

/-- Where earlier requests with the key only spell it otherwise, the first of those decides. -/
theorem answer_respelled {before : List Request}
    (h : ∀ s ∈ before, s.cacheKey = r.cacheKey → s.Respells r) :
    ∃ first, (before ++ [r]).find? (fun s => s.Respells r) = some first ∧
      answer files roots before r = answer files roots [] first := by
  obtain ⟨first, hfirst, hanswer⟩ := answer_eq_first files roots before r
  refine ⟨first, ?_, hanswer.trans (answer_nil ..).symm⟩
  -- among these requests to have the key is to spell the request otherwise at most
  rw [← hfirst]
  refine List.find?_congr fun s hs => ?_
  rw [decide_eq_decide]
  refine ⟨Request.Respells.cacheKey_eq, fun hkey => ?_⟩
  rcases List.mem_append.1 hs with hs | hs
  · exact h s hs hkey
  · rw [List.mem_singleton.1 hs]
    exact .refl r

/-- Where earlier requests with the key are for the same place, a kept answer is as good as a new one. -/
theorem answer_agree {before : List Request}
    (h : ∀ s ∈ before, s.cacheKey = r.cacheKey → s.SamePlace r) :
    Agree (answer files roots before r) (answer files roots [] r) := by
  obtain ⟨first, hfirst, hanswer⟩ := answer_eq_first files roots before r
  rw [hanswer, answer_nil]
  have hkey : first.cacheKey = r.cacheKey := by simpa using List.find?_some hfirst
  rcases List.mem_append.1 (List.mem_of_find?_eq_some hfirst) with hs | hs
  · exact (h first hs hkey).agree files roots
  · rw [List.mem_singleton.1 hs]
    exact .refl _

/-- **When the loader is transparent.** A request that some earlier ones spell otherwise gets what a new loader
gives to the first of those. A request gets what a new loader gives to it where the earlier ones with its key
are for the same place; so in whatever order such requests come, each gets the same answer. -/
theorem transparent (files : Files) (roots : List Path) :
    (∀ before r, (∀ s ∈ before, s.cacheKey = r.cacheKey → s.Respells r) →
      ∃ first, (before ++ [r]).find? (fun s => s.Respells r) = some first ∧
        answer files roots before r = answer files roots [] first) ∧
    (∀ before r, (∀ s ∈ before, s.cacheKey = r.cacheKey → s.SamePlace r) →
      Agree (answer files roots before r) (answer files roots [] r)) ∧
    (∀ rs rs' before later before' later' r, rs.Perm rs' →
      rs = before ++ r :: later → rs' = before' ++ r :: later' →
      (∀ s ∈ rs, s.cacheKey = r.cacheKey → s.SamePlace r) →
      Agree (answer files roots before r) (answer files roots before' r)) := by
  refine ⟨fun before r => answer_respelled, fun before r => answer_agree, ?_⟩
  intro rs rs' before later before' later' r hperm hrs hrs' h
  have hbefore : ∀ s ∈ before, s.cacheKey = r.cacheKey → s.SamePlace r := fun s hs =>
    h s (hrs ▸ List.mem_append_left _ hs)
  have hbefore' : ∀ s ∈ before', s.cacheKey = r.cacheKey → s.SamePlace r := fun s hs =>
    h s (hperm.mem_iff.2 (hrs' ▸ List.mem_append_left _ hs))
  exact (answer_agree hbefore).trans (answer_agree hbefore').symm

/-- One trait, in a file whose name starts with a capital letter. -/
def shelf : Files where
  isFile p := p.text = "traits/Auditable.trait.json"
  text _ := .ok "\x7b\"trait\": \x7b\"name\": \"Auditable\", \"version\": \"1\"\x7d, \"schema\": \x7b\x7d\x7d"

theorem transparent_shelf :
    (∃ first, [.named "Auditable", .named " AUDITABLE"].find? (fun s => s.Respells (.named " AUDITABLE")) =
        some first ∧
      answer shelf [⟨"traits"⟩] [.named "Auditable"] (.named " AUDITABLE") =
        answer shelf [⟨"traits"⟩] [] first) ∧
    Agree (answer shelf [⟨"traits"⟩] [.named "Auditable"] (.named " Auditable "))
      (answer shelf [⟨"traits"⟩] [] (.named " Auditable ")) ∧
    Agree (answer shelf [⟨"traits"⟩] [] (.named "Auditable"))
      (answer shelf [⟨"traits"⟩] [.named " Auditable "] (.named "Auditable")) := by
  have hrespells : (Request.named "Auditable").Respells (.named " AUDITABLE") := by decide +kernel
  have hplace : (Request.named "Auditable").SamePlace (.named " Auditable ") :=
    ⟨by decide +kernel, by decide +kernel⟩
  obtain ⟨hrespelled, hagree, hperm⟩ := transparent shelf [⟨"traits"⟩]
  refine ⟨hrespelled [.named "Auditable"] _ ?_, hagree [.named "Auditable"] _ ?_, ?_⟩
  · intro s hs _
    exact List.mem_singleton.1 hs ▸ hrespells
  · intro s hs _
    exact List.mem_singleton.1 hs ▸ hplace
  · refine hperm [.named "Auditable", .named " Auditable "] [.named " Auditable ", .named "Auditable"]
      [] [.named " Auditable "] [.named " Auditable "] [] _ (.swap _ _ _) rfl rfl fun s hs _ => ?_
    rcases List.mem_cons.1 hs with rfl | hs
    · exact .refl _
    · rw [List.mem_singleton.1 hs]
      exact ⟨hplace.segments.symm, hplace.leaf.symm⟩

/-- **Letter case is forgotten by the key only**: after a request that finds the file, the same request in
capital letters finds it as well, and a new loader finds nothing. -/
theorem not_transparent :
    ¬ ∀ (files : Files) (roots : List Path) (before : List Request) (r : Request),
      Agree (answer files roots before r) (answer files roots [] r) := by
  intro h
  have hagree := h shelf [⟨"traits"⟩] [.named "Auditable"] (.named "AUDITABLE")
  have hkept : (answer shelf [⟨"traits"⟩] [.named "Auditable"] (.named "AUDITABLE")).isOk = true := by
    decide +kernel
  have hnew : (answer shelf [⟨"traits"⟩] [] (.named "AUDITABLE")).isOk = false := by decide +kernel
  rw [hagree.isOk_eq, hnew] at hkept
  exact Bool.false_ne_true hkept

end Loader

end TraitWeave
