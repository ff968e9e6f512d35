import TraitWeave.Proofs.Digraph.Precedence
import Mathlib.Data.List.Induction
import Mathlib.Data.List.Perm.Subperm

/-!
# What can be reached in a digraph

What can be reached from a position is collected step by step: of what is pending the latest position is looked
at, and its successors are pending from then on unless they are known.

* `Reach.foldl_add`: what looking at one position adds.
* `Digraph.Collecting`: what holds throughout a collection.
* `Digraph.reach_collecting`: nothing is pending at the end, for the fuel is enough.
* `Digraph.mem_closure`: what is found is all that is needed at any distance, but for the start.
-/

namespace TraitWeave.Digraph

open Relation (TransGen)

variable {g : Digraph} {start i j fuel : Nat} {found rest : List Nat} {r : Reach}

/-! ## Looking at one position -/

theorem Reach.add_eq (start : Nat) (r : Reach) (i : Nat) :
    r.add start i = if i ∈ start :: r.found then r else ⟨r.found ++ [i], i :: r.pending⟩ := by
  simp [Reach.add]

/-- **What is new among some positions** is found in their order, and pending in the opposite one. -/
theorem Reach.foldl_add (start : Nat) (r : Reach) (is : List Nat) :
    ∃ new, is.foldl (Reach.add start) r = ⟨r.found ++ new, new.reverse ++ r.pending⟩ ∧ new.Nodup ∧
      ∀ j, j ∈ new ↔ j ∈ is ∧ j ∉ start :: r.found := by
  induction is using List.reverseRecOn with
  | nil => exact ⟨[], by simp, List.nodup_nil, by simp⟩
  | append_singleton is i ih =>
    obtain ⟨new, hfold, hnodup, hmem⟩ := ih
    rw [List.foldl_concat, hfold, Reach.add_eq]
    dsimp only
    by_cases hi : i ∈ start :: (r.found ++ new)
    · -- known, so that it adds nothing: it was so before, or is one of the others
      refine ⟨new, if_pos hi, hnodup, fun j => ?_⟩
      rw [hmem, List.mem_append, List.mem_singleton]
      refine ⟨fun hj => ⟨.inl hj.1, hj.2⟩, ?_⟩
      rintro ⟨hj | rfl, hj'⟩
      · exact ⟨hj, hj'⟩
      · rw [← List.cons_append, List.mem_append] at hi
        exact (hmem j).1 (hi.resolve_left hj')
    · have hnew : i ∉ new := fun h => hi (List.mem_cons_of_mem _ (List.mem_append_right _ h))
      have hold : i ∉ start :: r.found := fun h => hi (by
        rw [← List.cons_append]
        exact List.mem_append_left _ h)
      refine ⟨new ++ [i], ?_, ?_, fun j => ?_⟩
      · rw [if_neg hi]
        simp
      · rw [← List.concat_eq_append]
        exact (List.nodup_concat _ _).2 ⟨hnew, hnodup⟩
      · rw [List.mem_append, List.mem_append, List.mem_singleton, hmem]
        constructor
        · rintro (⟨hj, hj'⟩ | rfl)
          · exact ⟨.inl hj, hj'⟩
          · exact ⟨.inr rfl, hold⟩
        · rintro ⟨hj | hj, hj'⟩
          · exact .inl ⟨hj, hj'⟩
          · exact .inr hj

/-! ## A collection -/

/-- **What holds throughout a collection.** All that is found is needed by the start. What a position needs is
known, unless the position is still pending. -/
structure Collecting (g : Digraph) (start : Nat) (r : Reach) : Prop where
  nodup : (start :: r.found).Nodup
  bounded : ∀ i ∈ start :: r.found, i < g.size
  reached : ∀ i ∈ r.found, TransGen g.Needs start i
  distinct : r.pending.Nodup
  known : r.pending ⊆ start :: r.found
  closed : ∀ i ∈ start :: r.found, i ∉ r.pending → ∀ j, g.Needs i j → j ∈ start :: r.found

namespace Collecting

theorem initial (h : start < g.size) : Collecting g start ⟨[], [start]⟩ where
  nodup := List.nodup_singleton start
  bounded _ hi := List.mem_singleton.1 hi ▸ h
  reached _ hi := absurd hi List.not_mem_nil
  distinct := List.nodup_singleton start
  known := List.Subset.refl _
  closed _ hi hpending := absurd hi hpending

/-- A position that is known is the start, or the start needs it. -/
theorem needs (h : Collecting g start r) (hi : i ∈ start :: r.found) (hij : g.Needs i j) :
    TransGen g.Needs start j := by
  rcases List.mem_cons.1 hi with rfl | hi
  · exact .single hij
  · exact (h.reached i hi).tail hij

/-- **One step**: the latest position is looked at. It is not pending any more, and what is new is. -/
theorem look (h : Collecting g start ⟨found, i :: rest⟩) (hproper : g.Proper) :
    ∃ new, (g.succ i).foldl (Reach.add start) ⟨found, rest⟩ = ⟨found ++ new, new.reverse ++ rest⟩ ∧
      Collecting g start ⟨found ++ new, new.reverse ++ rest⟩ := by
  obtain ⟨new, hfold, hnodup, hmem⟩ := Reach.foldl_add start ⟨found, rest⟩ (g.succ i)
  obtain ⟨hirest, hrest⟩ := List.nodup_cons.1 h.distinct
  have hi : i ∈ start :: found := h.known List.mem_cons_self
  have hknown : ∀ {j}, j ∈ start :: found → j ∈ start :: (found ++ new) := fun hj => by
    rw [← List.cons_append]
    exact List.mem_append_left _ hj
  have hsplit : ∀ {j}, j ∈ start :: (found ++ new) → j ∈ start :: found ∨ j ∈ new := fun hj => by
    rwa [← List.cons_append, List.mem_append] at hj
  refine ⟨new, hfold, ?_, ?_, ?_, ?_, ?_, ?_⟩
  · rw [← List.cons_append]
    refine List.nodup_append'.2 ⟨h.nodup, hnodup, fun j hj hnew => ?_⟩
    exact ((hmem j).1 hnew).2 hj
  · intro j hj
    rcases hsplit hj with hj | hj
    · exact h.bounded j hj
    · exact hproper.bounded i j ((hmem j).1 hj).1
  · intro j hj
    rcases List.mem_append.1 hj with hj | hj
    · exact h.reached j hj
    · exact h.needs hi ((hmem j).1 hj).1
  · refine List.nodup_append'.2 ⟨List.nodup_reverse.2 hnodup, hrest, fun j hj hjrest => ?_⟩
    exact ((hmem j).1 (List.mem_reverse.1 hj)).2 (h.known (List.mem_cons_of_mem _ hjrest))
  · intro j hj
    rcases List.mem_append.1 hj with hj | hj
    · exact List.mem_cons_of_mem _ (List.mem_append_right _ (List.mem_reverse.1 hj))
    · exact hknown (h.known (List.mem_cons_of_mem _ hj))
  · intro j hj hpending k hjk
    have hjnew : j ∉ new := fun hnew => hpending (List.mem_append_left _ (List.mem_reverse.2 hnew))
    have hjrest : j ∉ rest := fun hjrest => hpending (List.mem_append_right _ hjrest)
    have hj : j ∈ start :: found := (hsplit hj).resolve_right hjnew
    by_cases hji : j = i
    · -- the position that was looked at: what it needs was known, or is new
      subst hji
      by_cases hk : k ∈ start :: found
      · exact hknown hk
      · exact List.mem_cons_of_mem _ (List.mem_append_right _ ((hmem k).2 ⟨hjk, hk⟩))
    · have hold : j ∉ i :: rest := by
        rw [List.mem_cons, not_or]
        exact ⟨hji, hjrest⟩
      exact hknown (h.closed j hj hold k hjk)

/-- No more is known than there are positions. -/
theorem length_le (h : Collecting g start r) : r.found.length + 1 ≤ g.size := by
  have hsubset : start :: r.found ⊆ List.range g.size := fun i hi => List.mem_range.2 (h.bounded i hi)
  have hlength := (List.subperm_of_subset h.nodup hsubset).length_le
  rwa [List.length_cons, List.length_range] at hlength

end Collecting

/-- **A whole collection.** What was looked at is what is known and not pending, so it cannot be more than there
are positions; where the fuel covers the others, nothing is pending at the end. -/
theorem reach_collecting (hproper : g.Proper) (h : Collecting g start r)
    (hfuel : g.size + r.pending.length ≤ fuel + (r.found.length + 1)) :
    Collecting g start (g.reach start fuel r) ∧ (g.reach start fuel r).pending = [] := by
  induction fuel generalizing r with
  | zero =>
    have hlength := h.length_le
    have hnone : r.pending.length = 0 := by omega
    exact ⟨h, List.length_eq_zero_iff.1 hnone⟩
  | succ fuel ih =>
    obtain ⟨found, pending⟩ := r
    cases pending with
    | nil => exact ⟨h, rfl⟩
    | cons i rest =>
      obtain ⟨new, hfold, hnext⟩ := h.look hproper
      simp only [reach, hfold]
      refine ih hnext ?_
      simp only [List.length_cons, List.length_append, List.length_reverse] at hfuel ⊢
      omega

/-! ## What is reached -/

/-- **The collection comes to an end**: nothing is pending any more. -/
theorem pending_closure (hproper : g.Proper) (h : start < g.size) :
    (g.reach start g.size ⟨[], [start]⟩).pending = [] :=
  (reach_collecting hproper (.initial h) (by simp)).2

theorem closure_collecting (hproper : g.Proper) (h : start < g.size) :
    Collecting g start ⟨g.closure start, []⟩ := by
  have hfuel : g.size + [start].length ≤ g.size + (([] : List Nat).length + 1) := by simp
  obtain ⟨hend, hpending⟩ := reach_collecting hproper (.initial h) hfuel
  have hstate : g.reach start g.size ⟨[], [start]⟩ = ⟨g.closure start, []⟩ :=
    congrArg (Reach.mk (g.closure start)) hpending
  rwa [hstate] at hend

/-- The start comes first, and nothing is found twice. -/
theorem nodup_closure (hproper : g.Proper) (h : start < g.size) : (start :: g.closure start).Nodup :=
  (closure_collecting hproper h).nodup

/-- **What is found** is all that the start needs at any distance, but for the start itself. -/
theorem mem_closure (hproper : g.Proper) (h : start < g.size) :
    j ∈ g.closure start ↔ j ≠ start ∧ TransGen g.Needs start j := by
  have hend := closure_collecting hproper h
  constructor
  · intro hj
    refine ⟨?_, hend.reached j hj⟩
    rintro rfl
    exact (List.nodup_cons.1 hend.nodup).1 hj
  · rintro ⟨hne, hneeds⟩
    have hall : j ∈ start :: g.closure start := by
      induction hneeds with
      | single hij => exact hend.closed _ List.mem_cons_self List.not_mem_nil _ hij
      | @tail k j _ hkj ih =>
        by_cases hk : k = start
        · exact hend.closed _ (hk ▸ List.mem_cons_self) List.not_mem_nil _ hkj
        · exact hend.closed _ (ih hk) List.not_mem_nil _ hkj
    exact (List.mem_cons.1 hall).resolve_left hne

end TraitWeave.Digraph
