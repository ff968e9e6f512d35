import TraitWeave.Digraph
import Mathlib.Data.Fintype.Card
import Mathlib.Data.List.Chain
import Mathlib.Data.Set.Finite.Basic
import Mathlib.Order.WellFounded

/-!
# What has to come first

A relation `R` on positions says what each of them needs: `R i j` when `j` has to come before `i`.

* `Legal`: a list in which everything comes after what it needs, and `Legal.before` for needs at any distance.
* `Acyclic`: nothing needs itself, and `Acyclic.exists_free`: among finitely many positions one needs no other.
* `ElementaryCycle`: a closed path of needs that meets no position twice, from its least position on.
* `Traverses`, `Overlap`: a path that goes from one position right on to another, and two paths that do so alike.
* `Digraph.Needs`, `Digraph.Proper`: what a digraph says of its positions.
-/

namespace TraitWeave

open Relation (TransGen)

/-- Every position comes after all that it needs. -/
def Legal (R : Nat → Nat → Prop) (order : List Nat) : Prop :=
  ∀ before i after, order = before ++ i :: after → ∀ j, R i j → j ∈ before

/-- Nothing needs itself, at any distance. -/
def Acyclic (R : Nat → Nat → Prop) : Prop := ∀ i, ¬ TransGen R i i

/-- A path along needs, from a position over others back to it. No position is met twice, and it starts at
the least one. -/
def ElementaryCycle (R : Nat → Nat → Prop) (path : List Nat) : Prop :=
  ∃ least rest, path = least :: rest ++ [least] ∧ path.IsChain R ∧ (least :: rest).Nodup ∧
    ∀ i ∈ rest, least < i

/-- The path goes from `i` right on to `j`. -/
def Traverses (path : List Nat) (i j : Nat) : Prop := [i, j] <:+: path

/-- The paths have a step in common. -/
def Overlap (path other : List Nat) : Prop := ∃ i j, Traverses path i j ∧ Traverses other i j

variable {R S : Nat → Nat → Prop} {order path : List Nat} {i j n : Nat}

/-! ## Legal orders -/

namespace Legal

theorem nil : Legal R [] := fun before i after h => by simp at h

theorem of_append {later : List Nat} (h : Legal R (order ++ later)) : Legal R order := by
  rintro before i after rfl
  exact h before i (after ++ later) (by simp)

theorem concat (h : Legal R order) (hi : ∀ j, R i j → j ∈ order) : Legal R (order ++ [i]) := by
  intro before k after heq
  rcases List.eq_nil_or_concat after with rfl | ⟨after, l, rfl⟩
  · obtain ⟨rfl, hk⟩ := List.append_inj' heq rfl
    obtain rfl : i = k := by simpa using hk
    exact hi
  · rw [List.concat_eq_append, ← List.cons_append, ← List.append_assoc] at heq
    exact h before k after (List.append_inj' heq rfl).1

/-- An order stays legal when less is needed. -/
theorem imp (h : Legal R order) (hneeds : ∀ i j, S i j → R i j) : Legal S order :=
  fun before i after heq j hij => h before i after heq j (hneeds i j hij)

/-- What a position needs at any distance comes before it. -/
theorem before {before after : List Nat} (h : Legal R (before ++ i :: after)) (hij : TransGen R i j) :
    j ∈ before := by
  induction hij using TransGen.head_induction_on generalizing before after with
  | single hij => exact h _ _ _ rfl _ hij
  | head hik _ ih =>
    obtain ⟨early, late, rfl⟩ := List.mem_iff_append.1 (h _ _ _ rfl _ hik)
    exact List.mem_append_left _ (ih h.of_append)

/-- A position of a legal order does not need itself. -/
theorem not_needs_self (h : Legal R order) (hi : i ∈ order) : ¬ TransGen R i i := by
  intro hcycle
  obtain ⟨before, after, rfl, hfirst⟩ := List.eq_append_cons_of_mem hi
  exact hfirst (h.before hcycle)

/-- A legal order of all that has needs leaves no cycle. -/
theorem acyclic (h : Legal R order) (hall : ∀ i j, R i j → i ∈ order) : Acyclic R := by
  intro i hcycle
  obtain ⟨j, hij, -⟩ := Relation.TransGen.head'_iff.1 hcycle
  exact h.not_needs_self (hall i j hij) hcycle

end Legal

/-! ## Cycles -/

/-- Among finitely many positions there is one that needs none of them. -/
theorem Acyclic.exists_free (h : Acyclic R) {s : Set Nat} (hfinite : s.Finite) (hs : s.Nonempty) :
    ∃ i ∈ s, ∀ j ∈ s, ¬ R i j := by
  have : Finite s := hfinite
  let needed : s → s → Prop := fun a b => TransGen R b a
  have : IsTrans s needed := ⟨fun a b c hab hbc => hbc.trans hab⟩
  have : Std.Irrefl needed := ⟨fun a => h a⟩
  obtain ⟨i, hi⟩ := hs
  obtain ⟨m, -, hm⟩ := (Finite.wellFounded_of_trans_of_irrefl needed).has_min Set.univ ⟨⟨i, hi⟩, trivial⟩
  exact ⟨m, m.2, fun j hj hmj => hm ⟨j, hj⟩ trivial (.single hmj)⟩

/-- A cycle leads back to where it starts. -/
theorem ElementaryCycle.not_acyclic (h : ElementaryCycle R path) : ¬ Acyclic R := by
  obtain ⟨least, rest, rfl, hchain, -, -⟩ := h
  have hpairs : (least :: rest ++ [least]).Pairwise (TransGen R) :=
    List.isChain_iff_pairwise.1 (hchain.imp fun _ _ => TransGen.single)
  exact fun hacyclic => hacyclic least (List.pairwise_cons.1 hpairs |>.1 _ (by simp))

/-- Each position of a cycle needs another one. -/
theorem ElementaryCycle.exists_needs (h : ElementaryCycle R path) (hi : i ∈ path) : ∃ j, R i j := by
  obtain ⟨least, rest, rfl, hchain, -, -⟩ := h
  have hfrom : i ∈ least :: rest := by
    rcases List.mem_append.1 hi with hi | hi
    · exact hi
    · exact List.mem_singleton.1 hi ▸ List.mem_cons_self
  obtain ⟨before, after, heq⟩ := List.mem_iff_append.1 hfrom
  rw [heq, List.append_assoc, List.cons_append] at hchain
  cases after with
  | nil => exact ⟨least, (List.isChain_append_cons_cons.1 hchain).2.1⟩
  | cons j js => exact ⟨j, (List.isChain_append_cons_cons.1 hchain).2.1⟩

theorem isChain_iff_traverses : path.IsChain R ↔ ∀ i j, Traverses path i j → R i j := by
  rw [List.isChain_iff_forall_rel_of_append_cons_cons]
  constructor
  · rintro h i j ⟨before, after, heq⟩
    have hpath : path = before ++ i :: j :: after := by rw [← heq, List.append_assoc]; rfl
    exact h hpath
  · rintro h i j before after rfl
    exact h i j ⟨before, after, by rw [List.append_assoc]; rfl⟩

/-- Where some of the needs lead to no cycle, each cycle passes one of the others. -/
theorem ElementaryCycle.exists_traverses (h : ElementaryCycle R path) (hS : Acyclic S) :
    ∃ i j, Traverses path i j ∧ ¬ S i j := by
  by_contra hnone
  push Not at hnone
  obtain ⟨least, rest, rfl, -, hnodup, hleast⟩ := h
  have hcycle : ElementaryCycle S (least :: rest ++ [least]) :=
    ⟨least, rest, rfl, isChain_iff_traverses.2 hnone, hnodup, hleast⟩
  exact hcycle.not_acyclic hS

theorem ElementaryCycle.needs (h : ElementaryCycle R path) (hij : Traverses path i j) : R i j := by
  obtain ⟨least, rest, rfl, hchain, -, -⟩ := h
  exact isChain_iff_traverses.1 hchain i j hij

theorem ElementaryCycle.ne_nil (h : ElementaryCycle R path) : path ≠ [] := by
  obtain ⟨least, rest, rfl, -⟩ := h
  simp

theorem ElementaryCycle.nodup_dropLast (h : ElementaryCycle R path) : path.dropLast.Nodup := by
  obtain ⟨least, rest, rfl, -, hnodup, -⟩ := h
  rw [List.dropLast_concat]
  exact hnodup

/-! ## Digraphs -/

namespace Digraph

variable {g : Digraph}

/-- `j` is a successor of `i`: it has to come first. -/
def Needs (g : Digraph) (i j : Nat) : Prop := j ∈ g.succ i

/-- Successors are positions, and each is listed once. -/
structure Proper (g : Digraph) : Prop where
  bounded : ∀ i, ∀ j ∈ g.succ i, j < g.size
  nodup : ∀ i, (g.succ i).Nodup

theorem Needs.lt (h : g.Needs i j) : i < g.size := by
  by_contra hi
  rw [Needs, succ, List.getD_eq_getElem?_getD, List.getElem?_eq_none (Nat.le_of_not_lt hi)] at h
  cases h

theorem mem_pred : j ∈ g.pred i ↔ g.Needs j i := by
  unfold pred
  rw [List.mem_filter, List.mem_range, List.contains_iff_mem]
  exact ⟨And.right, fun h => ⟨Needs.lt h, h⟩⟩

theorem nodup_pred (g : Digraph) (i : Nat) : (g.pred i).Nodup := List.nodup_range.filter _

/-- A legal order of all positions leaves no cycle. -/
theorem acyclic_of_legal (h : Legal g.Needs order) (hall : ∀ i < g.size, i ∈ order) : Acyclic g.Needs :=
  h.acyclic fun i _ hij => hall i (Needs.lt hij)

end Digraph

end TraitWeave
