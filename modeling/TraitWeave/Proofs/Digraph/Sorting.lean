import TraitWeave.Proofs.Digraph.Precedence
import Mathlib.Data.List.Infix
import Mathlib.Order.Basic

/-!
# Ordering a digraph

Positions are placed as they become ready, the least one first, and each position counts how many of its
successors are not placed yet.

* `Digraph.sort?`: the same ordering, given up where a count would fall below zero.
* `Digraph.Sorted`: what holds between two placements, with `Digraph.Sorted.place` for one of them.
* `Digraph.sort_sorted`: a run never gives up, and ends when nothing is ready.
* `Digraph.order?_eq_some`, `Digraph.isSome_order?`: the order, and when there is one.
-/

namespace TraitWeave

/-! ## The least of two orders -/

/-- At the first difference, `xs` has the smaller position. -/
def Precedes (xs ys : List Nat) : Prop :=
  ∃ common i xs' j ys', xs = common ++ i :: xs' ∧ ys = common ++ j :: ys' ∧ i < j

namespace Precedes

variable {xs ys : List Nat}

theorem append (h : Precedes xs ys) (zs : List Nat) : Precedes (xs ++ zs) ys := by
  obtain ⟨common, i, xs', j, ys', rfl, rfl, hij⟩ := h
  exact ⟨common, i, xs' ++ zs, j, ys', by simp, rfl, hij⟩

theorem lt (h : Precedes xs ys) : xs < ys := by
  obtain ⟨common, i, xs', j, ys', rfl, rfl, hij⟩ := h
  exact List.append_left_lt (List.cons_lt_cons_iff.2 (.inl hij))

end Precedes

namespace Digraph

variable {g : Digraph} {s s' : Sorting} {i j n : Nat} {is : List Nat}

/-! ## Positions that are ready -/

theorem mem_insertOnce : j ∈ insertOnce i is ↔ j = i ∨ j ∈ is := by
  induction is with
  | nil => simp [insertOnce]
  | cons k ks ih =>
    unfold insertOnce
    split
    · simp
    · split
      · rename_i hik
        simp [hik]
      · rw [List.mem_cons, ih, List.mem_cons, or_left_comm]

theorem rising_insertOnce (h : is.Pairwise (· < ·)) : (insertOnce i is).Pairwise (· < ·) := by
  induction is with
  | nil => exact List.pairwise_singleton _ _
  | cons k ks ih =>
    obtain ⟨hk, hks⟩ := List.pairwise_cons.1 h
    unfold insertOnce
    split
    · rename_i hik
      refine List.pairwise_cons.2 ⟨fun l hl => ?_, h⟩
      rcases List.mem_cons.1 hl with rfl | hl
      · exact hik
      · exact hik.trans (hk l hl)
    · split
      · exact h
      · refine List.pairwise_cons.2 ⟨fun l hl => ?_, ih hks⟩
        rcases mem_insertOnce.1 hl with rfl | hl
        · omega
        · exact hk l hl

/-! ## Counting down -/

/-- One successor of `i` has been placed; nothing where all of them were placed before. -/
def Sorting.release? (s : Sorting) (i : Nat) : Option Sorting :=
  if s.awaiting.getD i 0 = 0 then none else some (s.release i)

/-- The ordering, given up where a count would fall below zero. -/
def sort? (g : Digraph) : Nat → Sorting → Option Sorting
  | 0, s => some s
  | fuel + 1, s =>
    match s.ready with
    | [] => some s
    | i :: rest =>
      ((g.pred i).foldlM Sorting.release? { s with ready := rest, placed := s.placed ++ [i] }).bind
        (sort? g fuel)

/-- What releasing `is` comes to: each of them awaits one successor less, and is ready when none is left. -/
structure Released (s s' : Sorting) (is : List Nat) : Prop where
  awaiting : ∀ j, s.awaiting.getD j 0 = s'.awaiting.getD j 0 + if j ∈ is then 1 else 0
  ready : ∀ j, j ∈ s'.ready ↔ j ∈ s.ready ∨ j ∈ is ∧ s'.awaiting.getD j 0 = 0
  rising : s.ready.Pairwise (· < ·) → s'.ready.Pairwise (· < ·)
  placed : s'.placed = s.placed

theorem released_nil (s : Sorting) : Released s s [] := ⟨by simp, by simp, id, rfl⟩

theorem awaiting_release_self (s : Sorting) (i : Nat) :
    (s.release i).awaiting.getD i 0 = s.awaiting.getD i 0 - 1 := by
  by_cases hi : i < s.awaiting.length <;> simp [Sorting.release, List.getD_eq_getElem?_getD, hi]

theorem awaiting_release_of_ne (s : Sorting) (hj : j ≠ i) :
    (s.release i).awaiting.getD j 0 = s.awaiting.getD j 0 := by
  simp [Sorting.release, List.getD_eq_getElem?_getD, Ne.symm hj]

theorem released_release (h : s.awaiting.getD i 0 ≠ 0) : Released s (s.release i) [i] := by
  have hself := awaiting_release_self s i
  refine ⟨fun j => ?_, fun j => ?_, fun hs => ?_, rfl⟩
  · by_cases hj : j = i
    · subst hj
      rw [hself, if_pos (List.mem_singleton_self j)]
      omega
    · rw [awaiting_release_of_ne s hj, if_neg (by simpa using hj), Nat.add_zero]
  · have hready : (s.release i).ready =
        if s.awaiting.getD i 0 - 1 = 0 then insertOnce i s.ready else s.ready := rfl
    rw [hready, List.mem_singleton]
    split
    · rename_i hzero
      rw [mem_insertOnce]
      constructor
      · rintro (rfl | hj)
        · exact .inr ⟨rfl, by rw [hself, hzero]⟩
        · exact .inl hj
      · rintro (hj | ⟨rfl, -⟩)
        · exact .inr hj
        · exact .inl rfl
    · rename_i hzero
      refine ⟨.inl, ?_⟩
      rintro (hj | ⟨rfl, hj⟩)
      · exact hj
      · exact absurd (hself.symm.trans hj) hzero
  · unfold Sorting.release
    dsimp only
    split
    · exact rising_insertOnce hs
    · exact hs

theorem Released.cons {s₁ : Sorting} (h₁ : Released s s₁ [i]) (h : Released s₁ s' is) (hi : i ∉ is) :
    Released s s' (i :: is) where
  awaiting j := by
    have h₁ := h₁.awaiting j
    have h := h.awaiting j
    by_cases hj : j = i
    · subst hj
      simp only [List.mem_cons, List.not_mem_nil, or_false, if_true, hi, if_false] at h₁ h ⊢
      omega
    · simp only [List.mem_cons, List.not_mem_nil, or_false, hj, if_false, false_or] at h₁ h ⊢
      omega
  ready j := by
    have hcount := h.awaiting j
    rw [h.ready, h₁.ready, List.mem_singleton, List.mem_cons]
    constructor
    · rintro ((hj | ⟨rfl, hj⟩) | hj)
      · exact .inl hj
      · rw [if_neg hi] at hcount
        exact .inr ⟨.inl rfl, by omega⟩
      · exact .inr ⟨.inr hj.1, hj.2⟩
    · rintro (hj | ⟨rfl | hj, hzero⟩)
      · exact .inl (.inl hj)
      · rw [if_neg hi] at hcount
        exact .inl (.inr ⟨rfl, by omega⟩)
      · exact .inr ⟨hj, hzero⟩
  rising hs := h.rising (h₁.rising hs)
  placed := h.placed.trans h₁.placed

/-- Positions that all await something are released without giving up. -/
theorem foldl_release (is : List Nat) (his : is.Nodup) (hawait : ∀ i ∈ is, s.awaiting.getD i 0 ≠ 0) :
    is.foldlM Sorting.release? s = some (is.foldl Sorting.release s) ∧
      Released s (is.foldl Sorting.release s) is := by
  induction is generalizing s with
  | nil => exact ⟨rfl, released_nil s⟩
  | cons i is ih =>
    obtain ⟨hi, his⟩ := List.nodup_cons.1 his
    have hzero := hawait i List.mem_cons_self
    have hone := released_release hzero
    -- the others are not `i`, so they await as much as before
    have hstill : ∀ j ∈ is, (s.release i).awaiting.getD j 0 ≠ 0 := by
      intro j hj
      have hne : j ∉ [i] := by
        rw [List.mem_singleton]
        rintro rfl
        exact hi hj
      have hcount := hone.awaiting j
      rw [if_neg hne, Nat.add_zero] at hcount
      rw [← hcount]
      exact hawait j (List.mem_cons_of_mem _ hj)
    obtain ⟨hsome, hrest⟩ := ih his hstill
    refine ⟨?_, hone.cons hrest hi⟩
    rw [List.foldlM_cons, Sorting.release?, if_neg hzero]
    exact hsome

/-! ## Between two placements -/

/-- **What holds between two placements.** -/
structure Sorted (g : Digraph) (s : Sorting) : Prop where
  /-- A position awaits its successors that are not placed. -/
  awaiting : ∀ i, s.awaiting.getD i 0 = (g.succ i).countP fun j => decide (j ∉ s.placed)
  ready : ∀ i, i ∈ s.ready ↔ i < g.size ∧ i ∉ s.placed ∧ ∀ j, g.Needs i j → j ∈ s.placed
  rising : s.ready.Pairwise (· < ·)
  bounded : ∀ i ∈ s.placed, i < g.size
  nodup : s.placed.Nodup
  legal : Legal g.Needs s.placed
  /-- No other order is ahead. -/
  least : ∀ order, Legal g.Needs order → order.Perm (List.range g.size) →
    s.placed <+: order ∨ Precedes s.placed order

theorem sorted_start (g : Digraph) : Sorted g g.sortingStart where
  awaiting i := by
    simp only [sortingStart, List.not_mem_nil, not_false_eq_true, decide_true, List.countP_true, succ,
      List.getD_eq_getElem?_getD, List.getElem?_map]
    cases g.next[i]? <;> rfl
  ready i := by
    simp only [sortingStart, List.mem_filter, List.mem_range, List.isEmpty_iff, List.not_mem_nil,
      not_false_eq_true, true_and, Needs, List.eq_nil_iff_forall_not_mem]
  rising := List.pairwise_lt_range.filter _
  bounded := by simp [sortingStart]
  nodup := List.nodup_nil
  legal := Legal.nil
  least order _ _ := .inl List.nil_prefix

/-- Placing a position takes it from the count of those that need it. -/
theorem countP_placed {placed : List Nat} (h : is.Nodup) (hi : i ∉ placed) :
    is.countP (fun j => decide (j ∉ placed)) =
      is.countP (fun j => decide (j ∉ placed ++ [i])) + if i ∈ is then 1 else 0 := by
  induction is with
  | nil => rfl
  | cons j js ih =>
    obtain ⟨hj, hjs⟩ := List.nodup_cons.1 h
    rw [List.countP_cons, List.countP_cons, ih hjs]
    by_cases hij : i = j
    · subst hij
      simp [hi, hj]
    · simp [hij, Ne.symm hij, Nat.add_right_comm]

namespace Sorted

/-- A position that needs one that is not placed is not placed either. -/
theorem not_mem_of_needs (h : Sorted g s) (hi : i ∉ s.placed) (hji : g.Needs j i) : j ∉ s.placed := by
  intro hj
  obtain ⟨before, after, heq⟩ := List.mem_iff_append.1 hj
  exact hi (heq ▸ List.mem_append_left _ (h.legal before j after heq i hji))

/-- What comes next in another order is ready. -/
theorem next_mem_ready (h : Sorted g s) {tail : List Nat} (hlegal : Legal g.Needs (s.placed ++ j :: tail))
    (hperm : (s.placed ++ j :: tail).Perm (List.range g.size)) : j ∈ s.ready := by
  have hnodup : (s.placed ++ j :: tail).Nodup := hperm.nodup_iff.2 List.nodup_range
  refine (h.ready j).2 ⟨?_, ?_, hlegal _ _ _ rfl⟩
  · exact List.mem_range.1 (hperm.mem_iff.1 (by simp))
  · intro hmem
    exact (List.nodup_append.1 hnodup).2.2 j hmem j List.mem_cons_self rfl

/-- With the least position that is ready at its end the list is still ahead of other orders. -/
theorem least_concat (h : Sorted g s) {rest order : List Nat} (hready : s.ready = i :: rest)
    (hlegal : Legal g.Needs order) (hperm : order.Perm (List.range g.size)) :
    s.placed ++ [i] <+: order ∨ Precedes (s.placed ++ [i]) order := by
  obtain ⟨hi, hnew, -⟩ := (h.ready i).1 (hready ▸ List.mem_cons_self)
  obtain ⟨hleast, -⟩ := List.pairwise_cons.1 (hready ▸ h.rising)
  rcases h.least order hlegal hperm with hbegins | hahead
  · obtain ⟨tail, rfl⟩ := hbegins
    cases tail with
    | nil =>
      rw [List.append_nil] at hperm
      exact absurd (hperm.mem_iff.2 (List.mem_range.2 hi)) hnew
    | cons j tail =>
      -- the next position of the other order is ready, and so not before the least one
      have hj := h.next_mem_ready hlegal hperm
      rw [hready, List.mem_cons] at hj
      rcases hj with rfl | hj
      · exact .inl ⟨tail, by simp⟩
      · exact .inr ⟨s.placed, i, [], j, tail, rfl, rfl, hleast j hj⟩
  · exact .inr (hahead.append [i])

/-- Once `i` is placed too, what is ready was ready before or needs `i`, the last that it needs. -/
theorem ready_concat (h : Sorted g s) {rest : List Nat} (hready : s.ready = i :: rest) (j : Nat) :
    (j ∈ rest ∨ g.Needs j i ∧ ∀ k, g.Needs j k → k ∈ s.placed ++ [i]) ↔
      j < g.size ∧ j ∉ s.placed ++ [i] ∧ ∀ k, g.Needs j k → k ∈ s.placed ++ [i] := by
  obtain ⟨-, hnew, hneeds⟩ := (h.ready i).1 (hready ▸ List.mem_cons_self)
  obtain ⟨hleast, -⟩ := List.pairwise_cons.1 (hready ▸ h.rising)
  have hold := h.ready j
  rw [hready, List.mem_cons] at hold
  simp only [List.mem_append, List.mem_singleton, not_or]
  constructor
  -- what was ready needs nothing more, and what needs `i` was not placed
  · rintro (hj | ⟨hji, hj⟩)
    · obtain ⟨hlt, hout, hin⟩ := hold.1 (.inr hj)
      exact ⟨hlt, ⟨hout, (Nat.ne_of_lt (hleast j hj)).symm⟩, fun k hk => .inl (hin k hk)⟩
    · refine ⟨Needs.lt hji, ⟨h.not_mem_of_needs hnew hji, ?_⟩, hj⟩
      rintro rfl
      exact hnew (hneeds j hji)
  · rintro ⟨hlt, ⟨hout, hne⟩, hj⟩
    by_cases hji : g.Needs j i
    · exact .inr ⟨hji, hj⟩
    · have hin : ∀ k, g.Needs j k → k ∈ s.placed := by
        intro k hk
        rcases hj k hk with hk' | rfl
        · exact hk'
        · exact absurd hk hji
      exact .inl ((hold.2 ⟨hlt, hout, hin⟩).resolve_left hne)

/-- **One placement**: the least position that is ready is placed, and those that need it are released. -/
theorem place (hg : g.Proper) (h : Sorted g s) {rest : List Nat} (hready : s.ready = i :: rest)
    (hr : Released { s with ready := rest, placed := s.placed ++ [i] } s' (g.pred i)) : Sorted g s' := by
  obtain ⟨hi, hnew, hneeds⟩ := (h.ready i).1 (hready ▸ List.mem_cons_self)
  have hplaced : s'.placed = s.placed ++ [i] := hr.placed
  -- both sides are one less just where `i` is needed
  have hcount : ∀ j, s'.awaiting.getD j 0 = (g.succ j).countP fun k => decide (k ∉ s'.placed) := by
    intro j
    have hbefore := h.awaiting j
    have hreleased := hr.awaiting j
    rw [countP_placed (hg.nodup j) hnew] at hbefore
    simp only [mem_pred, Needs] at hreleased
    rw [hplaced]
    omega
  have hzero : ∀ j, s'.awaiting.getD j 0 = 0 ↔ ∀ k, g.Needs j k → k ∈ s'.placed := by
    intro j
    rw [hcount, List.countP_eq_zero]
    simp [Needs]
  refine ⟨hcount, fun j => ?_, hr.rising (List.pairwise_cons.1 (hready ▸ h.rising)).2, ?_, ?_, ?_,
    fun order hlegal hperm => ?_⟩
  · rw [hr.ready, mem_pred, hzero, hplaced]
    exact h.ready_concat hready j
  · intro j hj
    rw [hplaced, List.mem_append, List.mem_singleton] at hj
    rcases hj with hj | rfl
    · exact h.bounded j hj
    · exact hi
  · rw [hplaced]
    refine List.nodup_append.2 ⟨h.nodup, List.nodup_singleton i, ?_⟩
    rintro a ha b hb rfl
    exact hnew (List.mem_singleton.1 hb ▸ ha)
  · rw [hplaced]
    exact h.legal.concat hneeds
  · rw [hplaced]
    exact h.least_concat hready hlegal hperm

/-- Those that need a position await something as long as it is not placed. -/
theorem awaiting_pred (h : Sorted g s) (hi : i ∉ s.placed) : ∀ j ∈ g.pred i, s.awaiting.getD j 0 ≠ 0 := by
  intro j hj
  rw [h.awaiting]
  have hpos : 0 < (g.succ j).countP fun k => decide (k ∉ s.placed) :=
    List.countP_pos_iff.2 ⟨i, mem_pred.1 hj, by simpa using hi⟩
  omega

/-- When as many are placed as there are, all of them are. -/
theorem perm (h : Sorted g s) (hlength : g.size ≤ s.placed.length) : s.placed.Perm (List.range g.size) := by
  have hsubset : s.placed ⊆ List.range g.size := fun j hj => List.mem_range.2 (h.bounded j hj)
  exact (List.subperm_of_subset h.nodup hsubset).perm_of_length_le (by simpa using hlength)

/-- At most as many are placed as there are. -/
theorem length_le (h : Sorted g s) : s.placed.length ≤ g.size := by
  have hsubset : s.placed ⊆ List.range g.size := fun j hj => List.mem_range.2 (h.bounded j hj)
  simpa using (List.subperm_of_subset h.nodup hsubset).length_le

end Sorted

/-! ## The whole run -/

/-- **A run never gives up**, and ends when nothing is ready. -/
theorem sort_sorted (hg : g.Proper) (fuel : Nat) (h : Sorted g s) (hfuel : g.size ≤ fuel + s.placed.length) :
    g.sort? fuel s = some (g.sort fuel s) ∧ Sorted g (g.sort fuel s) ∧ (g.sort fuel s).ready = [] := by
  induction fuel generalizing s with
  | zero =>
    refine ⟨rfl, h, List.eq_nil_iff_forall_not_mem.2 fun i hi => ?_⟩
    obtain ⟨hlt, hout, -⟩ := (h.ready i).1 hi
    exact hout ((h.perm (by omega)).mem_iff.2 (List.mem_range.2 hlt))
  | succ fuel ih =>
    unfold sort? sort
    cases hready : s.ready with
    | nil => exact ⟨rfl, h, hready⟩
    | cons i rest =>
      obtain ⟨-, hnew, -⟩ := (h.ready i).1 (hready ▸ List.mem_cons_self)
      obtain ⟨hsome, hreleased⟩ :=
        foldl_release (s := { s with ready := rest, placed := s.placed ++ [i] }) (g.pred i)
          (g.nodup_pred i) (h.awaiting_pred hnew)
      have hlength := congrArg List.length hreleased.placed
      rw [List.length_append, List.length_singleton] at hlength
      dsimp only
      rw [hsome, Option.bind_some]
      exact ih (h.place hg hready hreleased) (by omega)

/-- **The counts never fall below zero.** -/
theorem sort?_sortingStart (hg : g.Proper) :
    g.sort? g.size g.sortingStart = some (g.sort g.size g.sortingStart) :=
  (sort_sorted hg g.size (sorted_start g) (Nat.le_add_right _ _)).1

theorem sorted_placed (hg : g.Proper) :
    ∃ s, s.placed = g.placed ∧ Sorted g s ∧ s.ready = [] :=
  ⟨_, rfl, (sort_sorted hg g.size (sorted_start g) (Nat.le_add_right _ _)).2⟩

/-- Without a cycle all positions are placed: one that is left and needs none of the others would be
ready. -/
theorem length_placed (hg : g.Proper) (h : Acyclic g.Needs) : g.placed.length = g.size := by
  obtain ⟨s, hplaced, hs, hready⟩ := sorted_placed hg
  rw [← hplaced]
  by_contra hne
  have hleft : ∃ i, i < g.size ∧ i ∉ s.placed := by
    by_contra hnone
    have hsubset : List.range g.size ⊆ s.placed := fun i hi =>
      not_not.1 fun hout => hnone ⟨i, List.mem_range.1 hi, hout⟩
    have hlength := (List.subperm_of_subset List.nodup_range hsubset).length_le
    rw [List.length_range] at hlength
    exact hne (Nat.le_antisymm hs.length_le hlength)
  -- one that is left needs none of those that are left, and so is ready, though nothing is
  obtain ⟨m, ⟨hm, hout⟩, hfree⟩ :=
    h.exists_free (s := {i | i < g.size ∧ i ∉ s.placed}) ((Set.finite_lt_nat g.size).subset fun i hi => hi.1) hleft
  have hin : ∀ j, g.Needs m j → j ∈ s.placed := fun j hj =>
    not_not.1 fun hj' => hfree j ⟨hg.bounded m j hj, hj'⟩ hj
  have hmem := (hs.ready m).2 ⟨hm, hout, hin⟩
  rw [hready] at hmem
  cases hmem

/-- **The order** has every position once, each after its successors, and no other such order is less. -/
theorem order?_eq_some (hg : g.Proper) {order : List Nat} (h : g.order? = some order) :
    order.Perm (List.range g.size) ∧ Legal g.Needs order ∧
      ∀ other, Legal g.Needs other → other.Perm (List.range g.size) → order ≤ other := by
  unfold order? at h
  split at h
  · rename_i hlength
    obtain rfl := Option.some.inj h
    obtain ⟨s, hplaced, hs, -⟩ := sorted_placed hg
    rw [← hplaced] at hlength ⊢
    refine ⟨hs.perm hlength.ge, hs.legal, fun other hlegal hperm => ?_⟩
    rcases hs.least other hlegal hperm with hbegins | hahead
    · have hsame : other.length = g.size := by rw [hperm.length_eq, List.length_range]
      exact (hbegins.eq_of_length (hlength.trans hsame.symm)).le
    · exact le_of_lt hahead.lt
  · cases h

/-- **There is an order when there is no cycle.** -/
theorem isSome_order? (hg : g.Proper) : g.order?.isSome ↔ Acyclic g.Needs := by
  constructor
  · intro h
    obtain ⟨order, h⟩ := Option.isSome_iff_exists.1 h
    obtain ⟨hperm, hlegal, -⟩ := order?_eq_some hg h
    exact acyclic_of_legal hlegal fun i hi => hperm.mem_iff.2 (List.mem_range.2 hi)
  · intro h
    unfold order?
    rw [if_pos (length_placed hg h)]
    rfl

end Digraph

end TraitWeave
