import TraitWeave.Schema.Compiled

/-!
# Schemas without names and references

A schema that has no name, anchor, reference or draft of its own, and holds only such schemas, adds nothing to a
library but itself, and where it stands is where its parts stand.

* `Plain`: such schemas.
* `Plain.scopeOf`: the library of a document that is such a schema.
* `Plain.inside`: the context inside of one.
-/

namespace TraitWeave.Schema

/-- The keywords that give a schema a name, an anchor, a reference or a draft of its own. -/
def namingKeywords : List String := ["$id", "$schema", "$ref", "$anchor", "$dynamicAnchor"]

/-- A schema without these keywords that holds only such schemas. -/
inductive Plain : Json → Prop
  | intro {schema : Json} (own : ∀ key ∈ namingKeywords, schema.member? key = none)
      (held : ∀ s ∈ Draft.y2020.subschemas schema, Plain s) : Plain schema

namespace Plain

variable {schema : Json}

theorem own (h : Plain schema) {key : String} (hkey : key ∈ namingKeywords) : schema.member? key = none := by
  cases h with
  | intro own _ => exact own key hkey

theorem held (h : Plain schema) {s : Json} (hs : s ∈ Draft.y2020.subschemas schema) : Plain s := by
  cases h with
  | intro _ held => exact held s hs

theorem identifier? (h : Plain schema) : Draft.y2020.identifier? schema = none := by
  have hid : schema.member? "$id" = none := h.own (by decide)
  unfold Draft.identifier? Draft.idKey
  simp only [hid, Option.bind_none]

theorem anchors (h : Plain schema) : Draft.y2020.anchors schema = [] := by
  have hanchor : schema.member? "$anchor" = none := h.own (by decide)
  have hdynamic : schema.member? "$dynamicAnchor" = none := h.own (by decide)
  unfold Draft.anchors
  simp only [hanchor, hdynamic, Option.bind_none, Option.toList_none, List.map_nil, List.append_nil]

theorem references (h : Plain schema) : Gathered.references schema = [] := by
  have href : schema.member? "$ref" = none := h.own (by decide)
  have hdraft : schema.member? "$schema" = none := h.own (by decide)
  unfold Gathered.references
  simp [href, hdraft]

theorem detectOr (h : Plain schema) (d : Draft) : d.detectOr schema = .ok d := by
  have hdraft : schema.member? "$schema" = none := h.own (by decide)
  unfold Draft.detectOr
  simp only [hdraft, Option.bind_none]

theorem noteReferences (h : Plain schema) (fuel : Nat) (base : Uri) (root : Json) (g : Gathered) :
    Gathered.noteReferences fuel base root schema g = .ok g := by
  cases fuel with
  | zero => rfl
  | succ fuel =>
    unfold Gathered.noteReferences
    split
    · rfl
    · rw [h.references]
      rfl

theorem baseOf (h : Plain schema) (base : Uri) : Gathered.baseOf base ⟨.y2020, schema⟩ = .ok base := by
  unfold Gathered.baseOf
  simp only [h.identifier?]

/-- What is gathered of a schema: nothing, and its parts are still to be visited. -/
theorem visit (h : Plain schema) (fuel : Nat) (base : Uri) (g : Gathered) :
    Gathered.visit fuel base ⟨.y2020, schema⟩ g =
      .ok ((Draft.y2020.subschemas schema).map fun s => (base, ⟨.y2020, s⟩), g) := by
  have hstep {s : Json} (hs : Plain s) (found : List (Uri × Resource)) :
      (do
        let sub ← Gathered.nested .y2020 s
        let subBase ← Gathered.baseOf base sub
        let g ← Gathered.noteReferences fuel subBase sub.schema sub.schema g
        pure (found ++ [(base, sub)], g)) =
      (.ok (found ++ [(base, ⟨.y2020, s⟩)], g) : Except Lost (List (Uri × Resource) × Gathered)) := by
    unfold Gathered.nested
    simp only [hs.detectOr, bind, Except.bind, hs.baseOf, hs.noteReferences, pure, Except.pure]
  have hfold : ∀ (ss : List Json) (found : List (Uri × Resource)), (∀ s ∈ ss, Plain s) →
      ss.foldlM (fun (p : List (Uri × Resource) × Gathered) s => do
        let sub ← Gathered.nested .y2020 s
        let subBase ← Gathered.baseOf base sub
        let g ← Gathered.noteReferences fuel subBase sub.schema sub.schema p.2
        pure (p.1 ++ [(base, sub)], g)) (found, g) =
      (.ok (found ++ ss.map fun s => (base, ⟨.y2020, s⟩), g) : Except Lost (List (Uri × Resource) × Gathered)) := by
    intro ss
    induction ss with
    | nil => intro found _; simp; rfl
    | cons s ss ih =>
      intro found hs
      rw [List.forall_mem_cons] at hs
      rw [List.map_cons, List.append_cons, List.foldlM_cons]
      exact (congrArg (· >>= _) (hstep hs.1 found)).trans (ih _ hs.2)
  unfold Gathered.visit
  simp only [h.baseOf, bind, Except.bind, Library.insertAnchors, h.anchors, List.foldl_nil, h.identifier?,
    Option.isSome_none, Bool.false_eq_true, if_false, h.noteReferences]
  exact hfold _ [] fun s hs => h.held hs

/-- Nothing is gathered of such schemas. -/
theorem visitAll (size fuel : Nat) {work : List (Uri × Resource)}
    (hwork : ∀ p ∈ work, p.2.draft = .y2020 ∧ Plain p.2.schema) (g : Gathered) :
    Gathered.visitAll size fuel work g = .ok g := by
  induction fuel generalizing work with
  | zero => rfl
  | succ fuel ih =>
    cases work with
    | nil => rfl
    | cons p rest =>
      obtain ⟨base, d, schema⟩ := p
      rw [List.forall_mem_cons] at hwork
      obtain ⟨⟨hd, hplain⟩, hrest⟩ := hwork
      dsimp only at hd hplain
      subst hd
      unfold Gathered.visitAll
      rw [hplain.visit]
      refine ih fun q hq => ?_
      rcases List.mem_append.1 hq with hq | hq
      · exact hrest q hq
      · obtain ⟨s, hs, rfl⟩ := List.mem_map.1 hq
        exact ⟨rfl, hplain.held hs⟩

/-- A document that is such a schema adds itself. -/
theorem gather (h : Plain schema) (l : Library) (base : Uri) :
    l.gather [(base, ⟨.y2020, schema⟩)] = .ok (l.insert base ⟨.y2020, schema⟩) := by
  have hwork : ∀ p ∈ [(base, (⟨.y2020, schema⟩ : Resource))], p.2.draft = .y2020 ∧ Plain p.2.schema := by
    rintro p hp
    rw [List.mem_singleton.1 hp]
    exact ⟨rfl, h⟩
  unfold Library.gather
  simp only [List.foldl_cons, List.foldl_nil, visitAll _ _ hwork]
  rfl

theorem scopeOf (h : Plain schema) :
    Schema.scopeOf .y2020 schema =
      .ok ⟨Library.standard.insert Reach.defaultBase ⟨.y2020, schema⟩, Reach.defaultBase, []⟩ := by
  unfold Schema.scopeOf Schema.baseOf
  simp only [h.identifier?, bind, Except.bind, h.gather]
  rfl

/-- Inside of such a schema nothing has changed. -/
theorem inside (h : Plain schema) {c : Context} (hc : c.draft = .y2020) : c.inside schema = .ok c := by
  have hnamed : c.draft.named schema = .y2020 := by
    unfold Draft.named
    rw [h.detectOr, hc]
  unfold Context.inside Scope.inside
  simp only [hnamed, h.identifier?, Except.map]
  rw [← hc]

end Plain

end TraitWeave.Schema
