import TraitWeave.Compose.Composed
import TraitWeave.Proofs.Table
import TraitWeave.Proofs.Trait.Conflicts

/-!
# Conflicts about parameters

Every declaration of a parameter is compared with every later one of the same name. As long as no trait
declares the parameter twice, these are the pairs of traits that declare it.

* `Parameter.Differs`: two declarations with different types or literal values.
* `Compose.Disagree`, `Compose.Wavers`: two traits that declare a parameter differently, and one that does.
* `Compose.filter_parameterConflicts`: the conflicts about a parameter, by its declarations.
* `Compose.Exact`: one conflict for each two traits that disagree, and no other.
* `Object.parameter_conflicts`: **the conflicts of a composed object are exact for each parameter that no trait
  declares twice**; of a trait that does, its own declarations are told as a conflict.
-/

namespace TraitWeave

open Name (SameLetters)

/-! ## Two declarations -/

/-- The texts of values, in no order. -/
def Compose.textsOf (vs : List Json) : Set String := { text | ∃ v ∈ vs, v.compact = text }

namespace Parameter

/-- The literal values as they are written. -/
def literalSet (p : Parameter) : Option (Set String) := p.literals?.map Compose.textsOf

/-- The declarations differ in type, but for the case of ASCII letters, or in the set of literal values. -/
def Differs (p q : Parameter) : Prop :=
  ¬ SameLetters p.kind q.kind ∨ p.literalSet ≠ q.literalSet

end Parameter

namespace Compose

theorem foldKind_eq_iff {s t : String} : foldKind s = foldKind t ↔ SameLetters s t := by
  unfold foldKind SameLetters Text.eqIgnoringAsciiCase
  rw [String.ofList_inj, beq_iff_eq]

theorem coveredBy_iff {vs ws : List Json} :
    coveredBy vs ws = true ↔ ∀ v ∈ vs, ∃ w ∈ ws, w.compact = v.compact := by
  unfold coveredBy
  simp only [List.all_eq_true, List.any_eq_true, beq_iff_eq]
  exact forall₂_congr fun v _ => exists_congr fun w => and_congr_right' eq_comm

theorem sameLiterals_iff {vs ws : Option (List Json)} :
    sameLiterals vs ws = true ↔ vs.map textsOf = ws.map textsOf := by
  cases vs with
  | none => cases ws <;> simp [sameLiterals]
  | some vs =>
    cases ws with
    | none => simp [sameLiterals]
    | some ws =>
      rw [sameLiterals, Bool.and_eq_true, coveredBy_iff, coveredBy_iff, Option.map_some, Option.map_some,
        Option.some_inj, Set.Subset.antisymm_iff]
      refine and_congr ?_ ?_
      · simp [textsOf, Set.subset_def]
      · simp [textsOf, Set.subset_def]

/-- The contribution that a trait makes with a declaration. -/
def contributionOf (d : Resolved × Parameter) : Contribution :=
  ⟨d.1.name, d.2.kind, d.2.literals?, d.1.parameters.get? d.2.name⟩

theorem contributionsDiffer_iff {d e : Resolved × Parameter} :
    contributionsDiffer (contributionOf d) (contributionOf e) = true ↔ d.2.Differs e.2 := by
  unfold contributionsDiffer differs Parameter.Differs
  rw [Bool.or_eq_true, bne_iff_ne, Bool.not_eq_true', ← Bool.not_eq_true, sameLiterals_iff]
  refine or_congr (not_congr ?_) Iff.rfl
  rw [Option.map_some, Option.map_some, Option.some_inj, foldKind_eq_iff]
  rfl

/-! ## All declarations -/

/-- The declarations of all traits, each with its trait. -/
def declarations (resolved : List Resolved) : List (Resolved × Parameter) :=
  resolved.flatMap fun r => r.trait.parameters.map (r, ·)

/-- Two traits declare the parameter differently. -/
def Disagree (key : String) (r s : Resolved) : Prop :=
  ∃ p ∈ r.trait.parameters, ∃ q ∈ s.trait.parameters, p.name = key ∧ q.name = key ∧ p.Differs q

/-- The trait declares the parameter twice, differently. -/
def Wavers (key : String) (r : Resolved) : Prop :=
  ∃ p q, [p, q].Sublist r.trait.parameters ∧ p.name = key ∧ q.name = key ∧ p.Differs q

/-- No two declarations of the trait are of the parameter. -/
def DeclaresOnce (key : String) (r : Resolved) : Prop :=
  r.trait.parameters.Pairwise fun p q => ¬ (p.name = key ∧ q.name = key)

variable {resolved : List Resolved} {key : String} {r s : Resolved} {d e : Resolved × Parameter}

/-- One of two declarations before the other: both are of one trait, or their traits stand in this order. -/
theorem pair_sublist_declarations :
    [d, e].Sublist (declarations resolved) ↔
      (∃ r ∈ resolved, ∃ p q, [p, q].Sublist r.trait.parameters ∧ d = (r, p) ∧ e = (r, q)) ∨
        ∃ r s, [r, s].Sublist resolved ∧
          (∃ p ∈ r.trait.parameters, d = (r, p)) ∧ ∃ q ∈ s.trait.parameters, e = (s, q) := by
  have hown (r : Resolved) : [d, e].Sublist (r.trait.parameters.map (r, ·)) ↔
      ∃ p q, [p, q].Sublist r.trait.parameters ∧ d = (r, p) ∧ e = (r, q) := by
    rw [List.sublist_map_iff]
    constructor
    · rintro ⟨ps, hps, heq⟩
      obtain ⟨p, qs, rfl, hd, htail⟩ := List.map_eq_cons_iff.1 heq.symm
      obtain ⟨q, rest, rfl, he, hrest⟩ := List.map_eq_cons_iff.1 htail
      obtain rfl := List.map_eq_nil_iff.1 hrest
      exact ⟨p, q, hps, hd.symm, he.symm⟩
    · rintro ⟨p, q, hps, rfl, rfl⟩
      exact ⟨[p, q], hps, rfl⟩
  have hmem (d : Resolved × Parameter) (r : Resolved) :
      d ∈ r.trait.parameters.map (r, ·) ↔ ∃ p ∈ r.trait.parameters, d = (r, p) := by
    simp [eq_comm]
  unfold declarations
  simp only [Graph.pair_sublist_flatMap, hown, hmem]

theorem contributions_eq (resolved : List Resolved) :
    contributions resolved = Table.grouped ((declarations resolved).map fun d => (d.2.name, contributionOf d)) := by
  have hentries : resolved.flatMap contributionsOf =
      (declarations resolved).map fun d => (d.2.name, contributionOf d) := by
    unfold declarations contributionsOf
    rw [List.map_flatMap]
    simp only [List.map_map]
    rfl
  rw [contributions, hentries]
  rfl

/-- The contributions to a parameter are those of its declarations. -/
theorem getD_contributions (resolved : List Resolved) (key : String) :
    ((contributions resolved).get? key).getD [] =
      ((declarations resolved).filter fun d => d.2.name == key).map contributionOf := by
  rw [contributions_eq, Table.getD_get?_grouped, List.filter_map, List.map_map]
  rfl

/-! ## Kinds of conflicts -/

theorem kind_fieldConflicts {t : Table (List (Candidate Field))} {c : Conflict} (h : c ∈ fieldConflicts t) :
    c.kind = .field := by
  obtain ⟨p, -, hc⟩ := List.mem_flatMap.1 h
  obtain ⟨q, -, rfl⟩ := List.mem_map.1 hc
  rfl

theorem kind_parameterConflicts {t : Table (List Contribution)} {c : Conflict} (h : c ∈ parameterConflicts t) :
    c.kind = .parameter := by
  obtain ⟨p, -, hc⟩ := List.mem_flatMap.1 h
  obtain ⟨q, -, rfl⟩ := List.mem_map.1 hc
  rfl

theorem kind_incompatibilities {c : Conflict} (h : c ∈ incompatibilities resolved) : c.kind = .incompatible := by
  obtain ⟨q, -, rfl⟩ := List.mem_map.1 h
  rfl

/-! ## The conflicts about one parameter -/

/-- The conflicts that a table of contributions gives for a name are those of its contributions. -/
theorem filter_key_parameterConflicts {t : Table (List Contribution)} (ht : t.keys.Nodup) (key : String) :
    (parameterConflicts t).filter (fun c => c.key == key) =
      ((Graph.pairs ((t.get? key).getD [])).filter fun q => contributionsDiffer q.1 q.2).map fun q =>
        ⟨.parameter, key, q.1.source, q.2.source⟩ := by
  induction t with
  | nil => rfl
  | cons p t ih =>
    obtain ⟨hp, ht⟩ := List.nodup_cons.1 ht
    unfold parameterConflicts at ih ⊢
    rw [List.flatMap_cons, List.filter_append, ih ht, Table.get?_cons, List.filter_map]
    by_cases hk : p.1 = key
    · -- all that the entry gives is about the name, and the rest has no other entry of it
      have hnone : Table.get? t key = none := Table.get?_eq_none_of_not_mem (hk ▸ hp)
      rw [if_pos hk, hnone, List.filter_eq_self.2 fun q _ => by simpa using hk, ← hk]
      exact List.append_nil _
    · rw [if_neg hk, List.filter_eq_nil_iff.2 fun q _ => by simpa using hk]
      rfl

/-- **The conflicts about a parameter**: one for each two of its declarations that differ. -/
theorem filter_parameterConflicts (resolved : List Resolved) (key : String) :
    (parameterConflicts (contributions resolved)).filter (fun c => c.key == key) =
      ((Graph.pairs ((declarations resolved).filter fun d => d.2.name == key)).filter fun q =>
        contributionsDiffer (contributionOf q.1) (contributionOf q.2)).map fun q =>
          ⟨.parameter, key, q.1.1.name, q.2.1.name⟩ := by
  have hnodup : (contributions resolved).keys.Nodup := by
    rw [contributions_eq]
    exact Table.nodup_grouped _
  rw [filter_key_parameterConflicts hnodup, getD_contributions, Graph.pairs_map, List.filter_map, List.map_map]
  rfl

/-- A conflict is told of two declarations of one name that differ, one before the other. -/
theorem mem_parameterConflicts {c : Conflict} :
    c ∈ parameterConflicts (contributions resolved) ↔
      ∃ d e, [d, e].Sublist (declarations resolved) ∧ d.2.name = c.key ∧ e.2.name = c.key ∧
        d.2.Differs e.2 ∧ c = ⟨.parameter, c.key, d.1.name, e.1.name⟩ := by
  have hkey : c ∈ parameterConflicts (contributions resolved) ↔
      c ∈ (parameterConflicts (contributions resolved)).filter fun x => x.key == c.key := by
    simp
  rw [hkey, filter_parameterConflicts, Graph.pairs_filter, List.mem_map]
  constructor
  · rintro ⟨⟨d, e⟩, hmem, heq⟩
    obtain ⟨hmem, hdiffer⟩ := List.mem_filter.1 hmem
    obtain ⟨hpair, hnames⟩ := List.mem_filter.1 hmem
    obtain ⟨hd, he⟩ := Bool.and_eq_true_iff.1 hnames
    exact ⟨d, e, Graph.mem_pairs_sublist.1 hpair, beq_iff_eq.1 hd, beq_iff_eq.1 he,
      contributionsDiffer_iff.1 hdiffer, heq.symm⟩
  · rintro ⟨d, e, hpair, hd, he, hdiffer, heq⟩
    refine ⟨(d, e), List.mem_filter.2 ⟨List.mem_filter.2 ⟨Graph.mem_pairs_sublist.2 hpair, ?_⟩,
      contributionsDiffer_iff.2 hdiffer⟩, heq.symm⟩
    rw [Bool.and_eq_true, beq_iff_eq, beq_iff_eq]
    exact ⟨hd, he⟩

/-- **A conflict is told** of two traits that disagree, in their order, or of one that wavers. -/
theorem told_iff {c : Conflict} :
    c ∈ parameterConflicts (contributions resolved) ↔
      (∃ r s, [r, s].Sublist resolved ∧ Disagree c.key r s ∧ c = ⟨.parameter, c.key, r.name, s.name⟩) ∨
        ∃ r ∈ resolved, Wavers c.key r ∧ c = ⟨.parameter, c.key, r.name, r.name⟩ := by
  rw [mem_parameterConflicts]
  constructor
  · rintro ⟨d, e, hpair, hd, he, hdiffer, hc⟩
    rcases pair_sublist_declarations.1 hpair with
      ⟨r, hr, p, q, hpq, rfl, rfl⟩ | ⟨r, s, hrs, ⟨p, hp, rfl⟩, q, hq, rfl⟩
    · exact .inr ⟨r, hr, ⟨p, q, hpq, hd, he, hdiffer⟩, hc⟩
    · exact .inl ⟨r, s, hrs, ⟨p, hp, q, hq, hd, he, hdiffer⟩, hc⟩
  · rintro (⟨r, s, hrs, ⟨p, hp, q, hq, hd, he, hdiffer⟩, hc⟩ | ⟨r, hr, ⟨p, q, hpq, hd, he, hdiffer⟩, hc⟩)
    · exact ⟨(r, p), (s, q), pair_sublist_declarations.2 (.inr ⟨r, s, hrs, ⟨p, hp, rfl⟩, q, hq, rfl⟩),
        hd, he, hdiffer, hc⟩
    · exact ⟨(r, p), (r, q), pair_sublist_declarations.2 (.inl ⟨r, hr, p, q, hpq, rfl, rfl⟩),
        hd, he, hdiffer, hc⟩

/-! ## Parameters that no trait declares twice -/

theorem DeclaresOnce.not_wavers (h : DeclaresOnce key r) : ¬ Wavers key r := by
  rintro ⟨p, q, hpq, hp, hq, -⟩
  exact List.pairwise_iff_forall_sublist.1 h hpq ⟨hp, hq⟩

/-- Then the declarations of the parameter are of different traits. -/
theorem nodup_declaring (hnames : (resolved.map Resolved.name).Nodup)
    (honce : ∀ r ∈ resolved, DeclaresOnce key r) :
    (((declarations resolved).filter fun d => d.2.name == key).map fun d => d.1.name).Nodup := by
  refine List.pairwise_map.2 (List.pairwise_iff_forall_sublist.2 fun {d e} hpair => ?_)
  have hd : d.2.name = key := by
    simpa using (List.mem_filter.1 (hpair.subset List.mem_cons_self)).2
  have he : e.2.name = key := by
    simpa using (List.mem_filter.1 (hpair.subset (List.mem_cons_of_mem _ List.mem_cons_self))).2
  rcases pair_sublist_declarations.1 (hpair.trans List.filter_sublist) with
    ⟨r, hr, p, q, hpq, rfl, rfl⟩ | ⟨r, s, hrs, ⟨p, -, rfl⟩, q, -, rfl⟩
  · exact absurd ⟨hd, he⟩ (List.pairwise_iff_forall_sublist.1 (honce r hr) hpq)
  · exact List.pairwise_iff_forall_sublist.1 (List.pairwise_map.1 hnames) hrs

/-- Among conflicts, those about a parameter are exact. -/
structure Exact (resolved : List Resolved) (key : String) (told : List Conflict) : Prop where
  /-- None is told twice. -/
  once : told.Nodup
  /-- One is told of each two traits that disagree, the earlier one first, and no other is told. -/
  told_iff : ∀ c, c ∈ told ↔
    ∃ r s, [r, s].Sublist resolved ∧ Disagree key r s ∧ c = ⟨.parameter, key, r.name, s.name⟩
  /-- Two traits are named. -/
  two : ∀ c ∈ told, c.first ≠ c.second

theorem exact_of_once (hnames : (resolved.map Resolved.name).Nodup)
    (honce : ∀ r ∈ resolved, DeclaresOnce key r) :
    Exact resolved key ((parameterConflicts (contributions resolved)).filter fun c => c.key == key) := by
  have htold (c : Conflict) :
      c ∈ (parameterConflicts (contributions resolved)).filter (fun c => c.key == key) ↔
        ∃ r s, [r, s].Sublist resolved ∧ Disagree key r s ∧ c = ⟨.parameter, key, r.name, s.name⟩ := by
    rw [List.mem_filter, Compose.told_iff, beq_iff_eq]
    constructor
    · rintro ⟨h | ⟨r, hr, hwavers, -⟩, rfl⟩
      · exact h
      · exact absurd hwavers (honce r hr).not_wavers
    · rintro ⟨r, s, hrs, hdisagree, rfl⟩
      exact ⟨.inl ⟨r, s, hrs, hdisagree, rfl⟩, rfl⟩
  refine ⟨?_, htold, fun c hc => ?_⟩
  · -- the pairs of names are told apart, so the conflicts are
    have hpairs := Graph.nodup_pairs (nodup_declaring hnames honce)
    rw [Graph.pairs_map] at hpairs
    rw [filter_parameterConflicts]
    refine (List.Nodup.of_map (fun c : Conflict => (c.first, c.second)) ?_)
    rw [List.map_map]
    exact hpairs.sublist (List.filter_sublist.map _)
  · obtain ⟨r, s, hrs, -, rfl⟩ := (htold c).1 hc
    exact List.pairwise_iff_forall_sublist.1 (List.pairwise_map.1 hnames) hrs

end Compose

/-! ## The composed object -/

namespace Object

open Compose (parameterConflicts contributions Disagree Wavers DeclaresOnce Exact)

theorem conflictsOf_parameter (foundation : Table Field) (o : Object) (resolved : List Resolved)
    (base : Option Composed) :
    (o.compose foundation resolved base).conflictsOf .parameter = parameterConflicts (contributions resolved) := by
  unfold Composed.conflictsOf compose
  rw [List.filter_append, List.filter_append,
    List.filter_eq_nil_iff.2 fun c hc => by simp [Compose.kind_fieldConflicts hc],
    List.filter_eq_self.2 fun c hc => by simp [Compose.kind_parameterConflicts hc],
    List.filter_eq_nil_iff.2 fun c hc => by simp [Compose.kind_incompatibilities hc],
    List.nil_append, List.append_nil]

/-- **The conflicts about parameters.** Each is of two traits that declare a parameter differently, in the
order of the traits, or of one trait that does so itself; and of each such there is one. Where the traits
have different names and none of them declares the parameter twice, the conflicts about it are exact. -/
theorem parameter_conflicts (foundation : Table Field) (o : Object) (resolved : List Resolved)
    (base : Option Composed) :
    let told := (o.compose foundation resolved base).conflictsOf .parameter
    (∀ c, c ∈ told ↔
      (∃ r s, [r, s].Sublist resolved ∧ Disagree c.key r s ∧ c = ⟨.parameter, c.key, r.name, s.name⟩) ∨
        ∃ r ∈ resolved, Wavers c.key r ∧ c = ⟨.parameter, c.key, r.name, r.name⟩) ∧
    ((resolved.map Resolved.name).Nodup → ∀ key, (∀ r ∈ resolved, DeclaresOnce key r) →
      Exact resolved key (told.filter fun c => c.key == key)) := by
  intro told
  have heq : told = parameterConflicts (contributions resolved) :=
    conflictsOf_parameter foundation o resolved base
  rw [heq]
  exact ⟨fun _ => Compose.told_iff, fun hnames _ honce => Compose.exact_of_once hnames honce⟩

/-- A trait of which only the name and its parameters are given, without values. -/
def declaring (name : String) (parameters : List Parameter) : Resolved :=
  ⟨.named name, { Graph.refusing name [] with parameters := parameters }, [], ⟨""⟩⟩

/-- A parameter of which only the type is given. -/
def level (kind : String) : Parameter := ⟨"level", kind, false, none, none, none, false, Rules.empty⟩

theorem level_differs : (level "string").Differs (level "number") := by
  left
  unfold SameLetters
  decide

/-- An object that declares nothing itself. -/
def plainObject : Object := ⟨⟨"Doc", none, none, none, [], []⟩, [], [], [], [], [], [], Resolutions.empty, []⟩

theorem parameter_conflicts_leveled :
    let resolved := [declaring "Leveled" [level "string"], declaring "Graded" [level "number"]]
    let told := (plainObject.compose [] resolved none).conflictsOf .parameter
    Exact resolved "level" (told.filter fun c => c.key == "level") ∧
      ⟨.parameter, "level", "Leveled", "Graded"⟩ ∈ told := by
  intro resolved told
  obtain ⟨htold, hexact⟩ := parameter_conflicts [] plainObject resolved none
  have honce : ∀ r ∈ resolved, DeclaresOnce "level" r :=
    List.forall_mem_cons.2 ⟨List.pairwise_singleton _ _,
      List.forall_mem_singleton.2 (List.pairwise_singleton _ _)⟩
  have hdisagree : Disagree "level" (declaring "Leveled" [level "string"]) (declaring "Graded" [level "number"]) :=
    ⟨_, List.mem_cons_self, _, List.mem_cons_self, rfl, rfl, level_differs⟩
  exact ⟨hexact (by decide) "level" honce, (htold _).2 (.inl ⟨_, _, List.Sublist.refl _, hdisagree, rfl⟩)⟩

/-- A conflict does not always name two traits. -/
theorem parameter_conflicts_not_two :
    ¬ ∀ (foundation : Table Field) (o : Object) (resolved : List Resolved) (base : Option Composed),
      (resolved.map Resolved.name).Nodup →
        ∀ c ∈ (o.compose foundation resolved base).conflictsOf .parameter, c.first ≠ c.second := by
  intro h
  have htwo := h [] plainObject [declaring "Leveled" [level "string", level "number"]] none (by decide)
    ⟨.parameter, "level", "Leveled", "Leveled"⟩
  rw [conflictsOf_parameter, Compose.told_iff] at htwo
  exact htwo (.inr ⟨_, List.mem_cons_self, ⟨_, _, List.Sublist.refl _, rfl, rfl, level_differs⟩, rfl⟩) rfl

end Object

end TraitWeave
