import TraitWeave.Trait.Graph
import Mathlib.Data.List.Nodup

/-!
# The pairs of a list

`Graph.pairs` has each two elements of a list, the earlier one first.

* `mem_pairs`, `mem_pairs_sublist`: a pair is two positions, one before the other.
* `pairs_map`, `pairs_filter`: pairs of a list that is mapped or filtered.
* `nodup_pairs`: a list without repetitions has no pair twice.
* `perm_pairs`: the order of the list does not matter where the two of a pair are in no order.
* `pair_sublist_flatMap`: two elements of lists that are put together are of one of the lists, or of two of them.
-/

namespace TraitWeave.Graph

variable {α β : Type} {xs : List α} {x y : α} {i j : Nat}

/-! ## What the pairs are -/

theorem mem_pairs_sublist : (x, y) ∈ pairs xs ↔ [x, y].Sublist xs := by
  induction xs with
  | nil => simp [pairs]
  | cons z xs ih =>
    rw [pairs, List.mem_append, ih, List.mem_map]
    constructor
    · rintro (⟨y, hy, heq⟩ | h)
      · obtain ⟨rfl, rfl⟩ := Prod.mk.inj heq
        exact (List.singleton_sublist.2 hy).cons_cons z
      · exact h.cons z
    · intro h
      rcases List.sublist_cons_iff.1 h with h | ⟨rest, heq, hrest⟩
      · exact .inr h
      · obtain ⟨rfl, rfl⟩ := List.cons.inj heq
        exact .inl ⟨y, List.singleton_sublist.1 hrest, rfl⟩

/-! ## Pairs by position -/

theorem mem_pairs : (x, y) ∈ pairs xs ↔ ∃ i j : Nat, i < j ∧ xs[i]? = some x ∧ xs[j]? = some y := by
  induction xs with
  | nil => simp [pairs]
  | cons z xs ih =>
    rw [pairs, List.mem_append, ih, List.mem_map]
    constructor
    · rintro (⟨y, hy, heq⟩ | ⟨i, j, hij, hx, hy⟩)
      · obtain ⟨rfl, rfl⟩ := Prod.mk.inj heq
        obtain ⟨j, hj⟩ := List.getElem?_of_mem hy
        exact ⟨0, j + 1, by omega, rfl, hj⟩
      · exact ⟨i + 1, j + 1, by omega, hx, hy⟩
    · rintro ⟨i, j, hij, hx, hy⟩
      obtain ⟨j, rfl⟩ : ∃ k, j = k + 1 := ⟨j - 1, by omega⟩
      cases i with
      | zero =>
        obtain rfl : z = x := by simpa using hx
        exact .inl ⟨y, List.mem_of_getElem? hy, rfl⟩
      | succ i => exact .inr ⟨i, j, by omega, hx, hy⟩

theorem mem_pairs_range {n : Nat} : (i, j) ∈ pairs (List.range n) ↔ i < j ∧ j < n := by
  rw [mem_pairs]
  constructor
  · rintro ⟨i', j', hij, hi, hj⟩
    rw [List.getElem?_eq_some_iff] at hi hj
    simp only [List.length_range, List.getElem_range] at hi hj
    obtain ⟨-, rfl⟩ := hi
    obtain ⟨hj, rfl⟩ := hj
    exact ⟨hij, hj⟩
  · rintro ⟨hij, hj⟩
    exact ⟨i, j, hij, List.getElem?_range (by omega), List.getElem?_range hj⟩

theorem mem_pairs_zipIdx {p q : α × Nat} :
    (p, q) ∈ pairs xs.zipIdx ↔ p.2 < q.2 ∧ xs[p.2]? = some p.1 ∧ xs[q.2]? = some q.1 := by
  rw [mem_pairs]
  simp only [List.getElem?_zipIdx, Nat.zero_add, Option.map_eq_some_iff]
  constructor
  · rintro ⟨i, j, hij, ⟨x, hx, rfl⟩, ⟨y, hy, rfl⟩⟩
    exact ⟨hij, hx, hy⟩
  · rintro ⟨hij, hp, hq⟩
    exact ⟨p.2, q.2, hij, ⟨p.1, hp, rfl⟩, ⟨q.1, hq, rfl⟩⟩

/-! ## Mapped and filtered lists -/

theorem pairs_map (f : α → β) (xs : List α) : pairs (xs.map f) = (pairs xs).map (Prod.map f f) := by
  induction xs with
  | nil => rfl
  | cons x xs ih => simp [pairs, ih, Function.comp_def]

theorem pairs_filter (p : α → Bool) (xs : List α) :
    pairs (xs.filter p) = (pairs xs).filter fun q => p q.1 && p q.2 := by
  induction xs with
  | nil => rfl
  | cons x xs ih =>
    rw [pairs, List.filter_append, ← ih, List.filter_map]
    by_cases hx : p x = true
    · have hrest : xs.filter ((fun q : α × α => p q.1 && p q.2) ∘ (x, ·)) = xs.filter p :=
        List.filter_congr fun y _ => by simp [hx]
      rw [List.filter_cons_of_pos hx, pairs, hrest]
    · have hrest : xs.filter ((fun q : α × α => p q.1 && p q.2) ∘ (x, ·)) = [] :=
        List.filter_eq_nil_iff.2 fun y _ => by simp [hx]
      rw [List.filter_cons_of_neg hx, hrest]
      rfl

theorem nodup_pairs (h : xs.Nodup) : (pairs xs).Nodup := by
  induction xs with
  | nil => exact List.nodup_nil
  | cons x xs ih =>
    obtain ⟨hx, hxs⟩ := List.nodup_cons.1 h
    have hfirst : (xs.map (x, ·)).Nodup := hxs.map fun _ _ heq => (Prod.mk.inj heq).2
    refine List.nodup_append'.2 ⟨hfirst, ih hxs, fun q hq hrest => ?_⟩
    -- the pairs of the rest do not begin with `x`
    obtain ⟨y, -, rfl⟩ := List.mem_map.1 hq
    exact hx ((mem_pairs_sublist.1 hrest).subset List.mem_cons_self)

/-! ## Lists in another order -/

/-- Two lists with the same elements have the same pairs, if the two of a pair are in no order. -/
theorem perm_pairs {ys : List α} {f : α → α → Option β} (hf : ∀ x y, f x y = f y x) (h : xs.Perm ys) :
    ((pairs xs).filterMap fun q => f q.1 q.2).Perm ((pairs ys).filterMap fun q => f q.1 q.2) := by
  induction h with
  | nil => exact .refl _
  | cons x h ih =>
    rw [pairs, pairs, List.filterMap_append, List.filterMap_append]
    exact ((h.map _).filterMap _).append ih
  | swap x y l =>
    -- the two are a pair of their own, and each is a pair with every other one
    simp only [pairs, List.map_cons, List.cons_append, List.filterMap_cons, List.filterMap_append, hf y x]
    have hrest := List.perm_append_comm_assoc ((l.map (y, ·)).filterMap fun q => f q.1 q.2)
      ((l.map (x, ·)).filterMap fun q => f q.1 q.2) ((pairs l).filterMap fun q => f q.1 q.2)
    cases f x y with
    | none => exact hrest
    | some b => exact hrest.cons b
  | trans _ _ ih ih' => exact ih.trans ih'

/-! ## Lists put together -/

theorem pair_sublist_append {ys : List α} :
    [x, y].Sublist (xs ++ ys) ↔ [x, y].Sublist xs ∨ [x, y].Sublist ys ∨ x ∈ xs ∧ y ∈ ys := by
  constructor
  · intro h
    obtain ⟨left, right, heq, hleft, hright⟩ := List.sublist_append_iff.1 h
    match left, heq with
    | [], heq =>
      subst heq
      exact .inr (.inl hright)
    | [a], heq =>
      obtain ⟨rfl, rfl⟩ := List.cons.inj heq
      exact .inr (.inr ⟨List.singleton_sublist.1 hleft, List.singleton_sublist.1 hright⟩)
    | [a, b], heq =>
      obtain ⟨rfl, htail⟩ := List.cons.inj heq
      obtain ⟨rfl, -⟩ := List.cons.inj htail
      exact .inl hleft
  · rintro (h | h | ⟨hx, hy⟩)
    · exact List.sublist_append_of_sublist_left h
    · exact List.sublist_append_of_sublist_right h
    · exact (List.singleton_sublist.2 hx).append (List.singleton_sublist.2 hy)

theorem pair_sublist_flatMap {f : β → List α} {bs : List β} :
    [x, y].Sublist (bs.flatMap f) ↔
      (∃ b ∈ bs, [x, y].Sublist (f b)) ∨ ∃ b c, [b, c].Sublist bs ∧ x ∈ f b ∧ y ∈ f c := by
  induction bs with
  | nil => simp
  | cons b bs ih =>
    rw [List.flatMap_cons, pair_sublist_append, ih]
    constructor
    · rintro (h | (⟨c, hc, h⟩ | ⟨c, d, hcd, hx, hy⟩) | ⟨hx, hy⟩)
      · exact .inl ⟨b, List.mem_cons_self, h⟩
      · exact .inl ⟨c, List.mem_cons_of_mem _ hc, h⟩
      · exact .inr ⟨c, d, hcd.cons b, hx, hy⟩
      · obtain ⟨c, hc, hy⟩ := List.mem_flatMap.1 hy
        exact .inr ⟨b, c, (List.singleton_sublist.2 hc).cons_cons b, hx, hy⟩
    · rintro (⟨c, hc, h⟩ | ⟨c, d, hcd, hx, hy⟩)
      · rcases List.mem_cons.1 hc with rfl | hc
        · exact .inl h
        · exact .inr (.inl (.inl ⟨c, hc, h⟩))
      · rcases List.sublist_cons_iff.1 hcd with hcd | ⟨rest, heq, hrest⟩
        · exact .inr (.inl (.inr ⟨c, d, hcd, hx, hy⟩))
        · obtain ⟨rfl, rfl⟩ := List.cons.inj heq
          exact .inr (.inr ⟨hx, List.mem_flatMap.2 ⟨d, List.singleton_sublist.1 hrest, hy⟩⟩)

end TraitWeave.Graph
