import TraitWeave.Proofs.Check.Validator
import TraitWeave.Proofs.Trait.Histories
import TraitWeave.Proofs.Trait.Segments

/-!
# The key of a schema as a name

The schema key of a request is its namespace and its name with a slash between them. A segment ends at the slash,
whatever stands on either side of it, so the key taken as a name has the segments of both. The last of them is the leaf,
and that is the leaf of the name where the name has any.

* `Request.splitSegments_schemaKey`: the segments of the key.
* `Request.samePlace_schemaKey_iff`: when the key leads to the place of the request.
* `SchemaSource.schemaKey_leads_back`: by the key the same files are probed, and the same schema is found.
-/

namespace TraitWeave

namespace Request

variable {r : Request}

/-- The directories that the namespace gives. -/
def scopeSegments (r : Request) : List String :=
  match r.scope with
  | some ns => splitSegments ns
  | none => []

theorem segments_eq (r : Request) : r.segments = r.scopeSegments ++ (splitSegments r.name).dropLast := rfl

/-- At a slash the segments of what stands before it end. -/
theorem splitSegments_slash (s t : String) : splitSegments (s ++ "/" ++ t) = splitSegments s ++ splitSegments t := by
  have hlist : (s ++ "/" ++ t).toList = s.toList ++ '/' :: t.toList := by simp
  rw [splitSegments_eq, splitSegments_eq, splitSegments_eq, hlist, segmentsOf_append _ _ rfl, List.map_append]

/-- **The segments of the key** are those of the namespace, then those of the name. -/
theorem splitSegments_schemaKey (r : Request) :
    splitSegments r.schemaKey = r.scopeSegments ++ splitSegments r.name := by
  unfold schemaKey scopeSegments
  cases r.scope with
  | none => rfl
  | some ns =>
    dsimp only
    split
    · rename_i hempty
      have hnone : splitSegments ns = [] := by rw [String.isEmpty_iff.1 hempty]; rfl
      rw [hnone, List.nil_append]
    · exact splitSegments_slash ns r.name

/-- **The key leads to the place of the request** just if the name has a segment, which then is the leaf of both, or if
the namespace has none either. -/
theorem samePlace_schemaKey_iff (r : Request) :
    (named r.schemaKey).SamePlace r ↔ splitSegments r.name ≠ [] ∨ r.scopeSegments = [] := by
  have hsegments : (named r.schemaKey).segments = (r.scopeSegments ++ splitSegments r.name).dropLast := by
    rw [← splitSegments_schemaKey]
    rfl
  have hleaf : (named r.schemaKey).leaf = ((r.scopeSegments ++ splitSegments r.name).getLast?).getD "" := by
    rw [← splitSegments_schemaKey]
    rfl
  constructor
  · intro h
    by_contra hboth
    obtain ⟨hname, hscope⟩ := not_or.1 hboth
    -- the last directory of the namespace would be the leaf of the key, and is a directory of the request
    have hsame := h.segments
    rw [hsegments, segments_eq, not_not.1 hname, List.dropLast_nil, List.append_nil] at hsame
    have hlength := congrArg List.length hsame
    rw [List.length_dropLast] at hlength
    have hpos := List.length_pos_iff.2 hscope
    omega
  · rintro (hname | hscope)
    · refine ⟨?_, ?_⟩
      · rw [hsegments, segments_eq, List.dropLast_append_of_ne_nil hname]
      · rw [hleaf, List.getLast?_append_of_ne_nil _ hname]
        rfl
    · refine ⟨?_, ?_⟩
      · rw [hsegments, segments_eq, hscope]
        rfl
      · rw [hleaf, hscope]
        rfl

end Request

namespace SchemaSource

open Request (named)

variable {r : Request}

/-- What a loader that keeps no answer for the request makes of it. -/
theorem load_declared (files : Files) {l : Loader} (h : l.isCached r = false) :
    (declared.load files l r).1.parses =
        l.parses + (if (r.candidates l.roots).any files.isFile = true then 1 else 0) ∧
      (declared.load files l r).2 = ofOutcome (Trait.find files l.roots r) := by
  have hnone : l.cache.get? r.cacheKey = none := by
    rw [Loader.isCached, Table.has_eq] at h
    exact Option.isNone_iff_eq_none.1 (by simpa using h)
  refine ⟨?_, ?_⟩
  · refine (Loader.load_parses files l r).trans ?_
    simp only [h, true_and]
  · refine congrArg ofOutcome ((Loader.load_answer files l r).trans ?_)
    rw [hnone]
    rfl

/-- **The key of a request leads where the request leads**, if the name has a segment: to the same directories, leaf and
candidates. The place where a schema is expected under the key is the first candidate of the request. A loader that
keeps no answer for either parses as many files for the one as for the other, and finds the same schema, none, or
fails for both. -/
theorem schemaKey_leads_back (h : Request.splitSegments r.name ≠ []) :
    (named r.schemaKey).segments = r.segments ∧ (named r.schemaKey).leaf = r.leaf ∧
      (∀ roots, (named r.schemaKey).candidates roots = r.candidates roots) ∧
      (∀ roots, declared.location roots r.schemaKey =
        ((r.candidates roots).head?.map Path.text).getD (r.schemaKey ++ ".trait.json")) ∧
      ∀ files, (∀ roots, Trait.locate files roots (named r.schemaKey) = Trait.locate files roots r) ∧
        ∀ l : Loader, l.isCached (named r.schemaKey) = false → l.isCached r = false →
          (declared.load files l (named r.schemaKey)).1.parses = (declared.load files l r).1.parses ∧
          (declared.load files l (named r.schemaKey)).2.toOption = (declared.load files l r).2.toOption := by
  have hplace := (Request.samePlace_schemaKey_iff r).2 (.inl h)
  have hcandidates := hplace.candidates_eq
  refine ⟨hplace.segments, hplace.leaf, hcandidates, fun roots => ?_, fun files => ⟨fun roots => ?_, ?_⟩⟩
  · unfold location
    dsimp only
    rw [hcandidates]
    cases r.candidates roots with
    | nil => rfl
    | cons p ps => rfl
  · rw [Trait.locate, Trait.locate, hcandidates]
  · intro l hkey hr
    obtain ⟨hparses, hanswer⟩ := load_declared files hkey
    obtain ⟨hparses', hanswer'⟩ := load_declared files hr
    refine ⟨by rw [hparses, hparses', hcandidates], ?_⟩
    rw [hanswer, hanswer']
    exact ofOutcome_agree (hplace.agree files l.roots)

/-- A request with separators of all kinds, blanks among them, to a loader that was asked nothing before. -/
theorem schemaKey_leads_back_mixed :
    let r : Request := ⟨" audit\\ Auditable :: ", some "core :: base/", some "2"⟩
    Request.splitSegments r.name ≠ [] ∧ r.schemaKey = "core :: base// audit\\ Auditable :: " ∧
      (named r.schemaKey).segments = ["core", "base", "audit"] ∧ (named r.schemaKey).leaf = "Auditable" ∧
      declared.location [⟨"traits"⟩] r.schemaKey = "traits/core/base/audit/Auditable.trait.json" ∧
      (declared.load Loader.shelf (.ofRoots [⟨"traits"⟩]) (named r.schemaKey)).1.parses =
        (declared.load Loader.shelf (.ofRoots [⟨"traits"⟩]) r).1.parses := by
  intro r
  have hname : Request.splitSegments r.name ≠ [] := by decide +kernel
  obtain ⟨hsegments, hleaf, -, hlocation, hload⟩ := schemaKey_leads_back hname
  refine ⟨hname, rfl, hsegments.trans (by decide +kernel), hleaf.trans (by decide +kernel),
    (hlocation _).trans (by decide +kernel), ?_⟩
  exact ((hload Loader.shelf).2 (.ofRoots [⟨"traits"⟩]) rfl rfl).1

end SchemaSource

end TraitWeave
