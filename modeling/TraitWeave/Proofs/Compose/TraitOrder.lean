import TraitWeave.Proofs.Compose.Parameters
import Mathlib.Data.Multiset.MapFold
import Mathlib.Data.Sym.Sym2

/-!
# Conflicts do not depend on the order of the traits

Each kind of conflict compares every value with all later ones. The comparisons are symmetric, so another order
of the traits only turns a pair around. It also changes the order in which keys come, and with it the order of
the conflicts.

* `Conflict.unordered`: a conflict whose two sources are in no order.
* `Compose.differs_comm`, `Compose.unordered_pairs`: the comparisons, and the conflicts among values of one key.
* `Compose.perm_fieldConflicts`, `Compose.perm_parameterConflicts`, `Compose.perm_incompatibilities`: each kind.
* `Object.conflicts_perm`: **traits in another order give the same conflicts.**
-/

namespace TraitWeave

/-- A conflict whose two sources are in no order. Of traits that refuse each other the key is one of the two
sources, so it is left out; the wording follows from the rest. -/
def Conflict.unordered (c : Conflict) : Conflict.Kind × Option String × Sym2 String :=
  (c.kind, if c.kind = .incompatible then none else some c.key, s(c.first, c.second))

namespace Compose

variable {resolved resolved' : List Resolved}

/-! ## Comparisons -/

theorem differs_comm (kindA kindB : Option String) (valuesA valuesB : Option (List Json)) :
    differs kindA kindB valuesA valuesB = differs kindB kindA valuesB valuesA := by
  have hvalues : sameLiterals valuesA valuesB = sameLiterals valuesB valuesA := by
    rw [Bool.eq_iff_iff, sameLiterals_iff, sameLiterals_iff]
    exact eq_comm
  rw [differs, differs, hvalues, bne_comm]

theorem fieldsDiffer_comm (a b : Field) : fieldsDiffer a b = fieldsDiffer b a := differs_comm _ _ _ _

theorem contributionsDiffer_comm (a b : Contribution) : contributionsDiffer a b = contributionsDiffer b a :=
  differs_comm _ _ _ _

section

variable {α : Type} {kind : Conflict.Kind} {key : String} {differ : α → α → Bool} {source : α → String}

/-- The conflict of two values of a key, if they differ. -/
def between (kind : Conflict.Kind) (key : String) (differ : α → α → Bool) (source : α → String) (a b : α) :
    Option (Conflict.Kind × Option String × Sym2 String) :=
  if differ a b then some (Conflict.unordered ⟨kind, key, source a, source b⟩) else none

theorem between_comm (h : ∀ a b, differ a b = differ b a) (a b : α) :
    between kind key differ source a b = between kind key differ source b a := by
  unfold between Conflict.unordered
  rw [h, Sym2.eq_swap]

/-- The conflicts among the values of a key. -/
theorem unordered_pairs (kind : Conflict.Kind) (key : String) (differ : α → α → Bool) (source : α → String)
    (as : List α) :
    ((((Graph.pairs as).filter fun q => differ q.1 q.2).map fun q =>
      (⟨kind, key, source q.1, source q.2⟩ : Conflict)).map Conflict.unordered) =
      (Graph.pairs as).filterMap fun q => between kind key differ source q.1 q.2 := by
  rw [List.map_map, ← List.filterMap_eq_map, List.filterMap_filter]
  rfl

/-- **The conflicts among the values of a key** do not depend on the order of the values. -/
theorem perm_pairs_unordered (kind : Conflict.Kind) (key : String) (source : α → String) {as bs : List α}
    (hdiffer : ∀ a b, differ a b = differ b a) (h : as.Perm bs) :
    ((((Graph.pairs as).filter fun q => differ q.1 q.2).map fun q =>
      (⟨kind, key, source q.1, source q.2⟩ : Conflict)).map Conflict.unordered).Perm
      ((((Graph.pairs bs).filter fun q => differ q.1 q.2).map fun q =>
        (⟨kind, key, source q.1, source q.2⟩ : Conflict)).map Conflict.unordered) := by
  rw [unordered_pairs, unordered_pairs]
  exact Graph.perm_pairs (between_comm hdiffer) h

end

/-! ## The three kinds -/

/-- The conflicts about fields do not depend on the order of what the layers declare. -/
theorem perm_fieldConflicts {entries entries' : List (String × Candidate Field)} (h : entries.Perm entries') :
    ((fieldConflicts (Candidate.gather entries)).map Conflict.unordered).Perm
      ((fieldConflicts (Candidate.gather entries')).map Conflict.unordered) := by
  rw [fieldConflicts, fieldConflicts, List.map_flatMap, List.map_flatMap]
  refine Table.perm_flatMap_grouped (fun key as bs hab => ?_) h
  -- among the declarations of one field only those of the traits are compared
  have htraits := hab.filter fun c => c.layer == .trait
  have hcomm (a b : Candidate Field) : fieldsDiffer a.value b.value = fieldsDiffer b.value a.value :=
    fieldsDiffer_comm _ _
  exact perm_pairs_unordered .field key (fun c => c.source) hcomm htraits

/-- The conflicts about parameters do not depend on the order of the traits. -/
theorem perm_parameterConflicts (h : resolved.Perm resolved') :
    ((parameterConflicts (contributions resolved)).map Conflict.unordered).Perm
      ((parameterConflicts (contributions resolved')).map Conflict.unordered) := by
  rw [parameterConflicts, parameterConflicts, List.map_flatMap, List.map_flatMap]
  refine Table.perm_flatMap_grouped (fun key as bs hab => ?_) (h.flatMap_right contributionsOf)
  exact perm_pairs_unordered .parameter key Contribution.source contributionsDiffer_comm hab

/-- One of two traits refuses the other. -/
def refuseEachOther (r s : Resolved) : Bool :=
  r.trait.declaresConflictWith s.trait.name || s.trait.declaresConflictWith r.trait.name

/-- Traits that refuse each other are told by name, without their positions. -/
theorem incompatibilities_eq (resolved : List Resolved) :
    incompatibilities resolved = ((Graph.pairs resolved).filter fun q => refuseEachOther q.1 q.2).map fun q =>
      ⟨.incompatible, q.2.name, q.1.name, q.2.name⟩ := by
  have hnames : ∀ q ∈ Graph.pairs resolved.zipIdx,
      ((resolved[q.1.2]?.map Resolved.name).getD "", (resolved[q.2.2]?.map Resolved.name).getD "") =
        (q.1.1.name, q.2.1.name) := by
    intro q hq
    obtain ⟨-, hfirst, hsecond⟩ := Graph.mem_pairs_zipIdx.1 hq
    rw [hfirst, hsecond]
    rfl
  have hpairs : Graph.pairs resolved = (Graph.pairs resolved.zipIdx).map (Prod.map Prod.fst Prod.fst) := by
    rw [← Graph.pairs_map, List.zipIdx_map_fst]
  -- both sides are about the pairs of traits with their positions
  rw [incompatibilities, Graph.conflictingPairs, List.zipIdx_map, Graph.pairs_map, hpairs, List.filter_map,
    List.filter_map, List.map_map, List.map_map, List.map_map]
  refine List.map_congr_left fun q hq => ?_
  obtain ⟨hfirst, hsecond⟩ := Prod.mk.inj (hnames q (List.mem_filter.1 hq).1)
  simp only [Function.comp_apply, Prod.map, id, hfirst, hsecond]

/-- Which traits refuse each other does not depend on their order. -/
theorem perm_incompatibilities (h : resolved.Perm resolved') :
    ((incompatibilities resolved).map Conflict.unordered).Perm
      ((incompatibilities resolved').map Conflict.unordered) := by
  -- the key is left out, so it may be the same for all
  have hkeyless (rs : List Resolved) : (incompatibilities rs).map Conflict.unordered =
      (((Graph.pairs rs).filter fun q => refuseEachOther q.1 q.2).map fun q =>
        (⟨.incompatible, "", q.1.name, q.2.name⟩ : Conflict)).map Conflict.unordered := by
    rw [incompatibilities_eq, List.map_map, List.map_map]
    rfl
  rw [hkeyless, hkeyless]
  exact perm_pairs_unordered .incompatible "" Resolved.name (fun _ _ => Bool.or_comm _ _) h

end Compose

/-! ## The composed object -/

namespace Object

variable {resolved resolved' : List Resolved}

theorem perm_fieldLayers (foundation : Table Field) (o : Object) (base : Option Composed)
    (h : resolved.Perm resolved') :
    (o.fieldLayers foundation resolved base).Perm (o.fieldLayers foundation resolved' base) :=
  (((h.flatMap_right _).append_left _).append_right _).append_right _

/-- **Conflicts do not depend on the order of the traits.** An object composed with the same traits in another
order has the same conflicts, each as often, when the two sources of a conflict are in no order. -/
theorem conflicts_perm (foundation : Table Field) (o : Object) (base : Option Composed)
    (h : resolved.Perm resolved') :
    ((o.compose foundation resolved base).conflicts : Multiset Conflict).map Conflict.unordered =
      ((o.compose foundation resolved' base).conflicts : Multiset Conflict).map Conflict.unordered := by
  rw [Multiset.map_coe, Multiset.map_coe, Multiset.coe_eq_coe]
  simp only [compose, List.map_append]
  exact ((Compose.perm_fieldConflicts (perm_fieldLayers foundation o base h)).append
    (Compose.perm_parameterConflicts h)).append (Compose.perm_incompatibilities h)

/-- A trait with a field and a parameter of one type, which refuses some traits. -/
def shelved (name kind : String) (refused : List String) : Resolved :=
  ⟨.named name, { Graph.refusing name refused with
    parameters := [level kind], schema := [("status", .ofKind kind)] }, [], ⟨""⟩⟩

/-- Two traits that are in conflict in all three ways, in both orders. -/
theorem conflicts_perm_shelved :
    let resolved := [shelved "Draft" "string" [], shelved "Live" "number" ["draft"]]
    let resolved' := [shelved "Live" "number" ["draft"], shelved "Draft" "string" []]
    resolved.Perm resolved' ∧
      (plainObject.compose [] resolved none).conflicts =
        [⟨.field, "status", "Draft", "Live"⟩, ⟨.parameter, "level", "Draft", "Live"⟩,
          ⟨.incompatible, "Live", "Draft", "Live"⟩] ∧
      ((plainObject.compose [] resolved none).conflicts : Multiset Conflict).map Conflict.unordered =
        ((plainObject.compose [] resolved' none).conflicts : Multiset Conflict).map Conflict.unordered := by
  intro resolved resolved'
  have hperm : resolved.Perm resolved' := .swap _ _ _
  exact ⟨hperm, by decide, conflicts_perm [] plainObject none hperm⟩

end Object

end TraitWeave
