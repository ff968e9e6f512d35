import TraitWeave.Proofs.Trait.Conflicts

/-!
# Which cycles are told

The search for cycles follows a path and tells of a cycle where it comes back to its path. It does not enter again
what it is done with, so of cycles that have a part of their way in common some may be passed over.

* `Graph.cycles_told`: every cycle has a step in common with one that is told, and a cycle that has none in common
  with another one is told, once.
* `Graph.cycles_not_all_told`: not every cycle is.
-/

namespace TraitWeave.Graph

/-- **Which cycles are told.** Every cycle of the graph has a step in common with one that is told. So a cycle that has
no step in common with any other is told, exactly once and from its earliest node on. -/
theorem cycles_told (ts : List Trait) :
    let g := ofTraits ts
    (∀ cycle, ElementaryCycle g.DependsOn cycle →
      ∃ told, ElementaryCycle g.DependsOn told ∧ told.map g.nameAt ∈ g.cycles ∧ Overlap cycle told) ∧
    ∀ cycle, ElementaryCycle g.DependsOn cycle →
      (∀ other, ElementaryCycle g.DependsOn other → Overlap cycle other → other = cycle) →
      g.cycles.count (cycle.map g.nameAt) = 1 := by
  intro g
  have hproper : g.edges.Proper := proper_ofNodes _
  have hneeds : g.edges.Needs = g.DependsOn := needs_ofNodes _
  have hshared : ∀ cycle, ElementaryCycle g.DependsOn cycle →
      ∃ told, ElementaryCycle g.DependsOn told ∧ told.map g.nameAt ∈ g.cycles ∧ Overlap cycle told := by
    intro cycle hcycle
    rw [← hneeds] at hcycle
    obtain ⟨told, htold, hoverlap⟩ := Digraph.exists_overlap hproper hcycle
    exact ⟨told, (elementary_of_mem_cycles htold).1, List.mem_map_of_mem htold, hoverlap⟩
  refine ⟨hshared, fun cycle hcycle hapart => ?_⟩
  obtain ⟨told, helementary, htold, hoverlap⟩ := hshared cycle hcycle
  rw [hapart told helementary hoverlap] at htold
  exact List.count_eq_one_of_mem (nodup_cycles_ofNodes _) htold

/-- The cycles are told where they have only nodes in common. -/
example : (ofNodes [⟨"A", ["B", "C"], []⟩, ⟨"B", ["A"], []⟩, ⟨"C", ["A"], []⟩]).cycles =
    [["A", "B", "A"], ["A", "C", "A"]] := by
  decide

/-- Of three traits the first one depends on both others, the second on the third, and that on the first. -/
def detour : List Trait :=
  [{ refusing "A" [] with dependencies := [.name "B", .name "C"] },
    { refusing "B" [] with dependencies := [.name "C"] },
    { refusing "C" [] with dependencies := [.name "A"] }]

/-- **Not every cycle is told**: the way from the first trait to the third and back is not, since the search has come
to the third trait by the second one before. -/
theorem cycles_not_all_told :
    ¬ ∀ (ts : List Trait) (cycle : List Nat), ElementaryCycle (ofTraits ts).DependsOn cycle →
      (ofTraits ts).cycles.count (cycle.map (ofTraits ts).nameAt) = 1 := by
  intro h
  have hneeds : (ofTraits detour).edges.Needs = (ofTraits detour).DependsOn := needs_ofNodes _
  have hcycle : ElementaryCycle (ofTraits detour).edges.Needs [0, 2, 0] := by
    refine ⟨0, [2], rfl, ?_, by decide, by decide⟩
    rw [List.isChain_cons_cons, List.isChain_cons_cons]
    exact ⟨show 2 ∈ _ by decide, show 0 ∈ _ by decide, .singleton 0⟩
  rw [hneeds] at hcycle
  have hcount := h detour [0, 2, 0] hcycle
  revert hcount
  decide

end TraitWeave.Graph
