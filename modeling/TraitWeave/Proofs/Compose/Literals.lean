import TraitWeave.Compose.Composed
import TraitWeave.Proofs.Compose.Candidates

/-!
# Literal values of merged declarations

The literal values of a field are spelled in the declaration itself, or else in its rules. A merge takes the
later values of each spelling by itself, and the declaration's own spelling is read before the rules.

* `Field.Hides`: an earlier declaration's own values stand before the ones that a later one has in its rules.
* `Field.literals?_mergeAll?`: the values of any number of declarations merged.
* `Field.literals?_mergeAll?_last`: they are the last ones, where no declaration hides those of a later one.
* `Field.later_literals_stand`: **of two declarations the later values stand unless the earlier one hides them.**
* `Field.hides_bindEnumFrom`: values bound from a parameter hide those of the rules that are put over them.
-/

namespace TraitWeave.Field

variable {depth : Depth} {earlier later f : Field}

/-! ## Two declarations -/

/-- The earlier declaration has values of its own, and the later one has other values, in its rules only. -/
def Hides (earlier later : Field) : Prop :=
  later.allowed = none ∧
    ∃ vs ws, earlier.allowed = some vs ∧ later.rules.allowed = some ws ∧ vs ≠ ws

theorem literals?_eq (f : Field) : f.literals? = f.allowed.or f.rules.allowed := by
  unfold literals?
  cases f.allowed <;> rfl

theorem allowed_merge (depth : Depth) (earlier later : Field) :
    (merge depth earlier later).allowed = later.allowed.or earlier.allowed := rfl

theorem allowed_rules_merge (depth : Depth) (earlier later : Field) :
    (merge depth earlier later).rules.allowed = later.rules.allowed.or earlier.rules.allowed := rfl

/-- Both spellings are merged first, and one of them is read then. -/
theorem literals?_merge (depth : Depth) (earlier later : Field) :
    (merge depth earlier later).literals? =
      (later.allowed.or earlier.allowed).or (later.rules.allowed.or earlier.rules.allowed) :=
  literals?_eq _

/-- Hidden values have no effect. -/
theorem Hides.literals?_merge (h : Hides earlier later) (depth : Depth) :
    (merge depth earlier later).literals? = earlier.literals? := by
  obtain ⟨hlater, vs, ws, hvs, -, -⟩ := h
  rw [Field.literals?_merge, literals?_eq earlier, hlater, hvs]
  rfl

theorem literals?_merge_of_not_hides (h : ¬ Hides earlier later) (depth : Depth) :
    (merge depth earlier later).literals? = later.literals?.or earlier.literals? := by
  rw [literals?_merge, literals?_eq, literals?_eq]
  cases hlater : later.allowed with
  | some us => rfl
  | none =>
    cases hearlier : earlier.allowed with
    | none => rfl
    | some vs =>
      cases hrules : later.rules.allowed with
      | none => rfl
      | some ws =>
        -- the rules may only repeat what the earlier declaration says
        have hsame : vs = ws := by
          by_contra hne
          exact h ⟨hlater, vs, ws, hearlier, hrules, hne⟩
        rw [hsame]

/-- **The later literal values stand, or else the earlier ones**, in every merge of two declarations but one
in which the earlier one hides the later values; then the earlier values stand. -/
theorem later_literals_stand (depth : Depth) (earlier later : Field) :
    ((merge depth earlier later).literals? = later.literals?.or earlier.literals? ↔ ¬ Hides earlier later) ∧
      (Hides earlier later → (merge depth earlier later).literals? = earlier.literals?) := by
  refine ⟨⟨fun h hhides => ?_, fun h => literals?_merge_of_not_hides h depth⟩,
    fun h => h.literals?_merge depth⟩
  -- both would be the values of the merge
  have hmerged := hhides.literals?_merge depth
  obtain ⟨hlater, vs, ws, hvs, hws, hne⟩ := hhides
  rw [h, literals?_eq, literals?_eq, hlater, hvs, hws] at hmerged
  exact hne (Option.some.inj hmerged).symm

/-- A declaration with values of its own. -/
def drafted : Field := { ofKind "string" with allowed := some [.str "draft", .str "live"] }

/-- A declaration that has other values in its rules. -/
def restated : Field :=
  { empty with rules := { Rules.empty with allowed := some [.str "open", .str "closed"] } }

theorem hides_drafted : Hides drafted restated := by
  refine ⟨rfl, _, _, rfl, rfl, fun hsame => ?_⟩
  have hnames := congrArg (List.filterMap Json.asStr?) hsame
  exact absurd hnames (by decide)

theorem later_literals_stand_drafted :
    Hides drafted restated ∧
      (merge .shallow drafted restated).literals? = some [.str "draft", .str "live"] :=
  ⟨hides_drafted, (later_literals_stand .shallow drafted restated).2 hides_drafted⟩

/-- **The later values do not always stand.** -/
theorem later_literals_not_stand :
    ¬ ∀ depth earlier later, (merge depth earlier later).literals? = later.literals?.or earlier.literals? := by
  intro h
  have hstands := h .shallow drafted restated
  have hnames := congrArg (Option.map (List.filterMap Json.asStr?)) hstands
  exact absurd hnames (by decide)

/-! ## Any number of declarations -/

/-- The last values that any declaration spells itself, or else the last ones in any rules. -/
theorem literals?_mergeAll? (depth : Depth) (cs : List (Candidate Field)) :
    (Candidate.mergeAll? (merge depth) cs).bind (fun c => c.value.literals?) =
      (cs.reverse.findSome? fun c => c.value.allowed).or
        (cs.reverse.findSome? fun c => c.value.rules.allowed) := by
  have hown := Candidate.mergeAll?_attribute Field.allowed (allowed_merge depth) cs
  have hrules := Candidate.mergeAll?_attribute (fun f => f.rules.allowed) (allowed_rules_merge depth) cs
  rw [← hown, ← hrules]
  cases Candidate.mergeAll? (merge depth) cs with
  | none => rfl
  | some c => exact literals?_eq c.value

/-- What all declarations merged hide is hidden by one of them. -/
theorem exists_hides {cs : List (Candidate Field)} {b : Candidate Field}
    (hb : Candidate.mergeAll? (merge depth) cs = some b) (h : Hides b.value later) :
    ∃ c ∈ cs, Hides c.value later := by
  obtain ⟨hlater, vs, ws, hvs, hws, hne⟩ := h
  have hlast := Candidate.mergeAll?_attribute Field.allowed (allowed_merge depth) cs
  rw [hb, Option.bind_some, hvs] at hlast
  obtain ⟨c, hc, hown⟩ := List.exists_of_findSome?_eq_some hlast.symm
  exact ⟨c, List.mem_reverse.1 hc, hlater, vs, ws, hown, hws, hne⟩

/-- Where no declaration hides the values of a later one, the last values that are declared stand. -/
theorem literals?_mergeAll?_last (depth : Depth) {cs : List (Candidate Field)}
    (h : cs.Pairwise fun c d => ¬ Hides c.value d.value) :
    (Candidate.mergeAll? (merge depth) cs).bind (fun c => c.value.literals?) =
      cs.reverse.findSome? fun c => c.value.literals? := by
  induction cs using List.reverseRecOn with
  | nil => rfl
  | append_singleton cs d ih =>
    obtain ⟨hcs, -, hd⟩ := List.pairwise_append.1 h
    have hlast : ((cs ++ [d]).reverse.findSome? fun c => c.value.literals?) =
        d.value.literals?.or (cs.reverse.findSome? fun c => c.value.literals?) := by
      rw [List.reverse_concat, List.findSome?_cons]
      cases d.value.literals? <;> rfl
    rw [hlast, ← ih hcs, Candidate.mergeAll?_concat]
    cases hb : Candidate.mergeAll? (merge depth) cs with
    | none => exact Option.or_none.symm
    | some b =>
      have hshown : ¬ Hides b.value d.value := fun hhides => by
        obtain ⟨c, hc, hhides⟩ := exists_hides hb hhides
        exact hd c hc d List.mem_cons_self hhides
      exact literals?_merge_of_not_hides hshown depth

/-! ## Values bound from a parameter -/

theorem allowed_bindEnumFrom {parameters : Table Json} {source : String} {vs : List Json}
    (hf : f.rules.enumFrom = some source) (hvs : allowedFrom? parameters source = some vs) :
    (f.bindEnumFrom parameters).allowed = some vs := by
  unfold bindEnumFrom
  simp only [hf, hvs]

/-- Values bound from a parameter become the declaration's own, and hide others in the rules of a later one. -/
theorem hides_bindEnumFrom {parameters : Table Json} {source : String} {vs ws : List Json}
    (hf : f.rules.enumFrom = some source) (hvs : allowedFrom? parameters source = some vs)
    (hlater : later.allowed = none) (hrules : later.rules.allowed = some ws) (hne : vs ≠ ws) :
    Hides (f.bindEnumFrom parameters) later :=
  ⟨hlater, vs, ws, allowed_bindEnumFrom hf hvs, hrules, hne⟩

end TraitWeave.Field
