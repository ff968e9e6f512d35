import TraitWeave.Proofs.Digraph.Precedence
import Mathlib.Data.List.Cycle
import Mathlib.Data.List.TakeWhile

/-!
# Searching a digraph for cycles

A depth-first search follows a path along needs. A need that leads back to the path closes a cycle; a
position is done when all that it needs is done.

* `Digraph.canonical_elementary`: a closed path, turned so that it starts at its least position.
* `Digraph.Searching`: what holds throughout a search. Needs apart that lie on a cycle that was found, what is
  done is in a legal order.
* `Digraph.visit_searching`: one visit; `Digraph.cycles_searching`: the whole search.
* `Digraph.cycles_elementary`, `Digraph.cycles_eq_nil`: what is found are cycles, and one is found if there is one.
* `Digraph.exists_overlap`: each cycle has a step in common with one that is found.
-/

namespace TraitWeave.Digraph

variable {g : Digraph} {R : Nat → Nat → Prop} {s s' : Search} {i j fuel : Nat} {cycle is : List Nat}

/-! ## Closing a path -/

theorem takeWhile_first {before after : List Nat} (h : i ∉ before) :
    (before ++ i :: after).takeWhile (· ≠ i) = before := by
  have hpass : ∀ k ∈ before, decide (k ≠ i) = true := fun k hk => decide_eq_true (ne_of_mem_of_not_mem hk h)
  rw [List.takeWhile_append_of_pos hpass, List.takeWhile_cons_of_neg (by simp), List.append_nil]

theorem dropWhile_first {before after : List Nat} (h : i ∉ before) :
    (before ++ i :: after).dropWhile (· ≠ i) = i :: after := by
  have hpass : ∀ k ∈ before, decide (k ≠ i) = true := fun k hk => decide_eq_true (ne_of_mem_of_not_mem hk h)
  rw [List.dropWhile_append_of_pos hpass, List.dropWhile_cons_of_neg (by simp)]

/-- The path is cut at its least position, and the parts change places. -/
theorem exists_canonical (hne : cycle ≠ []) : ∃ before least after, cycle = before ++ least :: after ∧
    canonical cycle = least :: (after ++ before) ++ [least] ∧ ∀ k ∈ cycle, least ≤ k := by
  obtain ⟨least, hleast⟩ : ∃ least, cycle.min? = some least :=
    Option.isSome_iff_exists.1 (List.isSome_min?_of_ne_nil hne)
  obtain ⟨hmem, hle⟩ := List.min?_eq_some_iff.1 hleast
  obtain ⟨before, after, rfl, hfirst⟩ := List.eq_append_cons_of_mem hmem
  refine ⟨before, least, after, rfl, ?_, hle⟩
  unfold canonical
  rw [hleast]
  dsimp only
  rw [dropWhile_first hfirst, takeWhile_first hfirst]
  rfl

/-- **A closed path, turned to its least position.** -/
theorem canonical_elementary (hne : cycle ≠ []) (hchain : Cycle.Chain R cycle) (hnodup : cycle.Nodup) :
    ElementaryCycle R (canonical cycle) := by
  obtain ⟨before, least, after, rfl, hcanonical, hle⟩ := exists_canonical hne
  have hrotated : (before ++ least :: after).IsRotated (least :: (after ++ before)) :=
    List.isRotated_append
  refine ⟨least, after ++ before, hcanonical, ?_, hrotated.nodup_iff.1 hnodup, fun k hk => ?_⟩
  · rw [hcanonical]
    rw [Cycle.coe_eq_coe.2 hrotated] at hchain
    exact hchain
  · have hne : k ≠ least := by
      rintro rfl
      exact (List.nodup_cons.1 (hrotated.nodup_iff.1 hnodup)).1 hk
    have hk : k ∈ before ++ least :: after := hrotated.mem_iff.2 (List.mem_cons_of_mem _ hk)
    exact lt_of_le_of_ne (hle k hk) hne.symm

/-- The closed path goes from its last position right on to its first one. -/
theorem canonical_traverses {rest : List Nat} (hlast : (j :: rest).getLast? = some i) :
    Traverses (canonical (j :: rest)) i j := by
  obtain ⟨before, least, after, hcycle, hcanonical, -⟩ := exists_canonical (List.cons_ne_nil j rest)
  obtain ⟨front, hfront⟩ : ∃ front, least :: after = front ++ [i] := by
    rw [hcycle, List.getLast?_append_cons] at hlast
    exact List.getLast?_eq_some_iff.1 hlast
  obtain ⟨back, hback⟩ : ∃ back, before ++ [least] = j :: back := by
    cases before with
    | nil => exact ⟨[], by rw [(List.cons.inj hcycle).1]; rfl⟩
    | cons k before => exact ⟨before ++ [least], by rw [(List.cons.inj hcycle).1]; rfl⟩
  have hparts : canonical (j :: rest) = (least :: after) ++ (before ++ [least]) := by
    rw [hcanonical]
    simp
  rw [hparts, hfront, hback]
  exact ⟨front, back, by simp⟩

/-! ## The search -/

/-- The need of `i` for `j` lies on a cycle that was found. -/
def Search.Closes (s : Search) (i j : Nat) : Prop := ∃ cycle ∈ s.found, Traverses cycle i j

/-- **What holds throughout a search.** -/
structure Searching (g : Digraph) (s : Search) : Prop where
  /-- Each position of the path is needed by the one from which it was reached. -/
  chain : s.path.IsChain fun i j => g.Needs j i
  nodup : s.path.Nodup
  bounded : ∀ i ∈ s.path, i < g.size
  elementary : ∀ cycle ∈ s.found, ElementaryCycle g.Needs cycle
  distinct : s.found.Nodup
  legal : Legal (fun i j => g.Needs i j ∧ ¬ s.Closes i j) s.done.reverse

/-- What a part of a search leaves behind: the path is as it was, and nothing is forgotten. -/
structure Continues (s s' : Search) : Prop where
  path : s'.path = s.path
  done : s.done ⊆ s'.done
  found : s.found ⊆ s'.found

theorem Continues.refl (s : Search) : Continues s s := ⟨rfl, List.Subset.refl _, List.Subset.refl _⟩

theorem Continues.trans {s₁ s₂ s₃ : Search} (h : Continues s₁ s₂) (h' : Continues s₂ s₃) :
    Continues s₁ s₃ :=
  ⟨h'.path.trans h.path, List.Subset.trans h.done h'.done, List.Subset.trans h.found h'.found⟩

/-- The need of `i` for `j` was looked at: the search is done with `j`, or it has found a cycle with this need. -/
def Settled (s : Search) (i j : Nat) : Prop := j ∈ s.done ∨ s.Closes i j

theorem Settled.continues (h : Settled s i j) (hs : Continues s s') : Settled s' i j :=
  h.imp (fun hj => hs.done hj) fun ⟨cycle, hcycle, hpasses⟩ => ⟨cycle, hs.found hcycle, hpasses⟩

/-- What a visit does with one successor. -/
def look (g : Digraph) (fuel : Nat) (s : Search) (j : Nat) : Search :=
  if s.done.contains j then s
  else if s.path.contains j then s.close j
  else visit g fuel j s

theorem visit_succ (g : Digraph) (fuel i : Nat) (s : Search) :
    g.visit (fuel + 1) i s =
      let left := (g.succ i).foldl (g.look fuel) { s with path := i :: s.path }
      { left with path := s.path, done := i :: left.done } := rfl

namespace Searching

theorem start (g : Digraph) : Searching g ⟨[], [], []⟩ :=
  ⟨.nil, List.nodup_nil, by simp, by simp, List.nodup_nil, Legal.nil⟩

/-- A path does not yet have a position that is not on it, so fuel is left. -/
theorem length_path_lt (h : Searching g s) (hi : i < g.size) (hout : i ∉ s.path) :
    s.path.length < g.size := by
  have hsubset : i :: s.path ⊆ List.range g.size := by
    intro j hj
    rcases List.mem_cons.1 hj with rfl | hj
    · exact List.mem_range.2 hi
    · exact List.mem_range.2 (h.bounded j hj)
  have hlength := (List.subperm_of_subset (List.nodup_cons.2 ⟨hout, h.nodup⟩) hsubset).length_le
  rw [List.length_cons, List.length_range] at hlength
  exact hlength

theorem enter (h : Searching g s) (hi : i < g.size) (hout : i ∉ s.path)
    (hlast : ∀ k ∈ s.path.head?, g.Needs k i) : Searching g { s with path := i :: s.path } where
  chain := h.chain.cons hlast
  nodup := List.nodup_cons.2 ⟨hout, h.nodup⟩
  bounded j hj := by
    rcases List.mem_cons.1 hj with rfl | hj
    · exact hi
    · exact h.bounded j hj
  elementary := h.elementary
  distinct := h.distinct
  legal := h.legal

/-- The path from its end back to `i`, which the closed cycle passes. -/
theorem exists_inner (hi : i ∈ s.path) :
    ∃ inner outer, s.path = inner ++ i :: outer ∧ s.path.takeWhile (· ≠ i) = inner := by
  obtain ⟨inner, outer, hpath, hfirst⟩ := List.eq_append_cons_of_mem hi
  exact ⟨inner, outer, hpath, hpath ▸ takeWhile_first hfirst⟩

/-- The cycle that is closed where the path ends with a need for one of its positions. -/
theorem elementary_close (h : Searching g s) (hi : i ∈ s.path) (hlast : ∀ k ∈ s.path.head?, g.Needs k i) :
    ElementaryCycle g.Needs (canonical (i :: (s.path.takeWhile (· ≠ i)).reverse)) := by
  obtain ⟨inner, outer, hpath, htake⟩ := exists_inner hi
  have hinner : inner ++ [i] <+: s.path := ⟨outer, by simp [hpath]⟩
  have hchain := List.IsChain.prefix h.chain hinner
  rw [htake]
  refine canonical_elementary (List.cons_ne_nil _ _) ?_ ?_
  · -- the path from `i` on, and the need for `i` at its end
    have hreverse : i :: inner.reverse ++ [i] = (i :: (inner ++ [i])).reverse := by simp
    have hclosed : (i :: (inner ++ [i])).IsChain fun k l => g.Needs l k := by
      refine hchain.cons fun k hk => hlast k ?_
      rw [hpath]
      cases inner with
      | nil => simpa using hk
      | cons l ls => simpa using hk
    rw [Cycle.chain_coe_cons, ← List.cons_append, hreverse, List.isChain_reverse]
    exact hclosed
  · have hsub := h.nodup.sublist hinner.sublist
    have hrev : i :: inner.reverse = (inner ++ [i]).reverse := by simp
    rw [hrev]
    exact List.nodup_reverse.2 hsub

/-- The cycle that is closed has the need that closes it. -/
theorem traverses_close (hi : i ∈ s.path) {k : Nat} (hk : s.path.head? = some k) :
    Traverses (canonical (i :: (s.path.takeWhile (· ≠ i)).reverse)) k i := by
  obtain ⟨inner, outer, hpath, htake⟩ := exists_inner hi
  rw [htake]
  refine canonical_traverses ?_
  rw [hpath] at hk
  cases inner with
  | nil => simpa using hk
  | cons l ls =>
    obtain rfl : l = k := by simpa using hk
    rw [List.reverse_cons, ← List.cons_append, List.getLast?_concat]

theorem close (h : Searching g s) (hi : i ∈ s.path) (hlast : ∀ k ∈ s.path.head?, g.Needs k i) :
    Searching g (s.close i) ∧ Continues s (s.close i) ∧ ∀ k ∈ s.path.head?, (s.close i).Closes k i := by
  unfold Search.close
  dsimp only
  split
  · rename_i hknown
    exact ⟨h, .refl s, fun k hk => ⟨_, List.contains_iff_mem.1 hknown, traverses_close hi hk⟩⟩
  · rename_i hnew
    have hcycle := h.elementary_close hi hlast
    have hfound : s.found ⊆ s.found ++ [canonical (i :: (s.path.takeWhile (· ≠ i)).reverse)] :=
      List.subset_append_left _ _
    refine ⟨⟨h.chain, h.nodup, h.bounded, fun c hc => ?_, ?_, ?_⟩, ⟨rfl, List.Subset.refl _, hfound⟩,
      fun k hk => ⟨_, List.mem_append_right _ (List.mem_singleton_self _), traverses_close hi hk⟩⟩
    · rcases List.mem_append.1 hc with hc | hc
      · exact h.elementary c hc
      · rw [List.mem_singleton.1 hc]
        exact hcycle
    · refine List.nodup_append.2 ⟨h.distinct, List.nodup_singleton _, ?_⟩
      rintro a ha b hb rfl
      rw [List.mem_singleton.1 hb] at ha
      exact hnew (List.contains_iff_mem.2 ha)
    · -- with one more cycle found, fewer needs are left for the order
      refine h.legal.imp fun k l ⟨hneeds, hopen⟩ => ⟨hneeds, fun ⟨c, hc, hpasses⟩ => ?_⟩
      exact hopen ⟨c, hfound hc, hpasses⟩

/-- The search is done with a position when all that the position needs was looked at. -/
theorem leave (h : Searching g s) (hall : ∀ j, g.Needs i j → Settled s i j) {path : List Nat}
    (hpath : s.path = i :: path) : Searching g { s with path := path, done := i :: s.done } where
  chain := (hpath ▸ h.chain).tail
  nodup := (List.nodup_cons.1 (hpath ▸ h.nodup)).2
  bounded j hj := h.bounded j (hpath ▸ List.mem_cons_of_mem _ hj)
  elementary := h.elementary
  distinct := h.distinct
  legal := by
    rw [List.reverse_cons]
    exact h.legal.concat fun j ⟨hneeds, hopen⟩ => List.mem_reverse.2 ((hall j hneeds).resolve_right hopen)

end Searching

/-- What is asked of a visit of `i`, and what it gives. -/
def VisitsWell (g : Digraph) (fuel : Nat) : Prop :=
  ∀ i s, Searching g s → i < g.size → i ∉ s.path → (∀ k ∈ s.path.head?, g.Needs k i) →
    g.size ≤ fuel + s.path.length →
    Searching g (g.visit fuel i s) ∧ Continues s (g.visit fuel i s) ∧ i ∈ (g.visit fuel i s).done

/-- One successor of the position at the end of the path. -/
theorem look_searching (hg : g.Proper) (hvisit : VisitsWell g fuel) (h : Searching g s) {path : List Nat}
    (hpath : s.path = i :: path) (hi : g.Needs i j) (hfuel : g.size ≤ fuel + s.path.length) :
    Searching g (g.look fuel s j) ∧ Continues s (g.look fuel s j) ∧ Settled (g.look fuel s j) i j := by
  have hhead : s.path.head? = some i := by rw [hpath]; rfl
  have hlast : ∀ k ∈ s.path.head?, g.Needs k j := fun k hk => Option.some.inj (hhead.symm.trans hk) ▸ hi
  unfold look
  split
  · rename_i hdone
    exact ⟨h, .refl s, .inl (List.contains_iff_mem.1 hdone)⟩
  · split
    · rename_i hback
      obtain ⟨h', hs, hcloses⟩ := h.close (List.contains_iff_mem.1 hback) hlast
      exact ⟨h', hs, .inr (hcloses i hhead)⟩
    · rename_i hnew
      have hout : j ∉ s.path := fun hj => hnew (List.contains_iff_mem.2 hj)
      obtain ⟨h', hs, hj⟩ := hvisit j s h (hg.bounded i j hi) hout hlast hfuel
      exact ⟨h', hs, .inl hj⟩

/-- The successors of the position at the end of the path, one after the other. -/
theorem foldl_look (hg : g.Proper) (hvisit : VisitsWell g fuel) {path : List Nat} (js : List Nat)
    (hjs : ∀ j ∈ js, g.Needs i j) (h : Searching g s) (hpath : s.path = i :: path)
    (hfuel : g.size ≤ fuel + s.path.length) :
    Searching g (js.foldl (g.look fuel) s) ∧ Continues s (js.foldl (g.look fuel) s) ∧
      ∀ j ∈ js, Settled (js.foldl (g.look fuel) s) i j := by
  induction js generalizing s with
  | nil => exact ⟨h, .refl s, by simp⟩
  | cons j js ih =>
    obtain ⟨h₁, hs₁, hj₁⟩ := look_searching hg hvisit h hpath (hjs j List.mem_cons_self) hfuel
    obtain ⟨h₂, hs₂, hrest⟩ := ih (fun k hk => hjs k (List.mem_cons_of_mem _ hk)) h₁
      (hs₁.path.trans hpath) (by rw [hs₁.path]; exact hfuel)
    refine ⟨h₂, hs₁.trans hs₂, fun k hk => ?_⟩
    rcases List.mem_cons.1 hk with rfl | hk
    · exact hj₁.continues hs₂
    · exact hrest k hk

/-- **A visit** keeps what holds throughout a search, and is done with its position. -/
theorem visit_searching (hg : g.Proper) (fuel : Nat) : VisitsWell g fuel := by
  induction fuel with
  | zero =>
    intro i s h hi hout _ hfuel
    have := h.length_path_lt hi hout
    omega
  | succ fuel ih =>
    intro i s h hi hout hlast hfuel
    rw [visit_succ]
    set entered : Search := { s with path := i :: s.path } with hentered
    have henter : Searching g entered := h.enter hi hout hlast
    have hfuel' : g.size ≤ fuel + entered.path.length := by
      rw [hentered, List.length_cons]
      omega
    obtain ⟨hleft, hcontinues, hall⟩ := foldl_look hg ih (g.succ i) (fun j hj => hj) henter rfl hfuel'
    refine ⟨hleft.leave hall hcontinues.path, ⟨rfl, ?_, hcontinues.found⟩, List.mem_cons_self⟩
    exact List.subset_cons_of_subset _ hcontinues.done

/-- What the whole search does with one position. -/
def seek (g : Digraph) (s : Search) (i : Nat) : Search :=
  if s.done.contains i then s else g.visit g.size i s

theorem cycles_eq (g : Digraph) : g.cycles = ((List.range g.size).foldl g.seek ⟨[], [], []⟩).found := rfl

theorem seek_searching (hg : g.Proper) (h : Searching g s) (hpath : s.path = []) (hi : i < g.size) :
    Searching g (g.seek s i) ∧ Continues s (g.seek s i) ∧ i ∈ (g.seek s i).done := by
  unfold seek
  split
  · rename_i hdone
    exact ⟨h, .refl s, List.contains_iff_mem.1 hdone⟩
  · exact visit_searching hg g.size i s h hi (by simp [hpath]) (by simp [hpath]) (Nat.le_add_right _ _)

/-- The positions of a list, one after the other. -/
theorem foldl_seek (hg : g.Proper) (his : ∀ i ∈ is, i < g.size) (h : Searching g s) (hpath : s.path = []) :
    Searching g (is.foldl g.seek s) ∧ Continues s (is.foldl g.seek s) ∧
      ∀ i ∈ is, i ∈ (is.foldl g.seek s).done := by
  induction is generalizing s with
  | nil => exact ⟨h, .refl s, by simp⟩
  | cons i is ih =>
    obtain ⟨h₁, hs₁, hi⟩ := seek_searching hg h hpath (his i List.mem_cons_self)
    obtain ⟨h₂, hs₂, hrest⟩ :=
      ih (fun j hj => his j (List.mem_cons_of_mem _ hj)) h₁ (hs₁.path.trans hpath)
    refine ⟨h₂, hs₁.trans hs₂, fun j hj => ?_⟩
    rcases List.mem_cons.1 hj with rfl | hj
    · exact hs₂.done hi
    · exact hrest j hj

/-- **The whole search**: it is done with every position. -/
theorem cycles_searching (hg : g.Proper) :
    ∃ s, s.found = g.cycles ∧ Searching g s ∧ ∀ i < g.size, i ∈ s.done := by
  obtain ⟨hs, -, hall⟩ := foldl_seek hg (fun i hi => List.mem_range.1 hi) (Searching.start g) rfl
  exact ⟨_, (cycles_eq g).symm, hs, fun i hi => hall i (List.mem_range.2 hi)⟩

/-- **What is found are elementary cycles**, and none of them twice. -/
theorem cycles_elementary (hg : g.Proper) :
    (∀ cycle ∈ g.cycles, ElementaryCycle g.Needs cycle) ∧ g.cycles.Nodup := by
  obtain ⟨s, hfound, hs, -⟩ := cycles_searching hg
  rw [← hfound]
  exact ⟨hs.elementary, hs.distinct⟩

/-- **Each cycle has a step in common with one that is found**: without the steps of these the search is done with
all positions in a legal order. -/
theorem exists_overlap (hg : g.Proper) (h : ElementaryCycle g.Needs cycle) :
    ∃ found ∈ g.cycles, Overlap cycle found := by
  obtain ⟨s, hfound, hs, hall⟩ := cycles_searching hg
  have hacyclic := hs.legal.acyclic fun i j hij => List.mem_reverse.2 (hall i (Needs.lt hij.1))
  obtain ⟨i, j, hij, hclosed⟩ := h.exists_traverses hacyclic
  obtain ⟨found, hmem, hpasses⟩ := not_not.1 (not_and.1 hclosed (h.needs hij))
  exact ⟨found, hfound ▸ hmem, i, j, hij, hpasses⟩

/-- **A cycle is found if there is one**: otherwise the search is done with all positions in a legal
order. -/
theorem cycles_eq_nil (hg : g.Proper) : g.cycles = [] ↔ Acyclic g.Needs := by
  obtain ⟨s, hfound, hs, hall⟩ := cycles_searching hg
  rw [← hfound]
  constructor
  · intro hnone
    have hlegal : Legal g.Needs s.done.reverse := by
      refine hs.legal.imp fun i j hij => ⟨hij, fun ⟨cycle, hcycle, _⟩ => ?_⟩
      rw [hnone] at hcycle
      cases hcycle
    exact acyclic_of_legal hlegal fun i hi => List.mem_reverse.2 (hall i hi)
  · intro hacyclic
    refine List.eq_nil_iff_forall_not_mem.2 fun cycle hcycle => ?_
    exact (hs.elementary cycle hcycle).not_acyclic hacyclic

end TraitWeave.Digraph
