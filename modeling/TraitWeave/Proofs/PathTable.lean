import TraitWeave.PathTable
import Mathlib.Data.List.Nodup

/-!
# Tables by path behave as maps

Paths are told apart by their components, so all statements hold up to `Path.same`.

* `Path.compareTo_eq`, `Path.compareTo_trans`: the order of paths is a linear order of their components.
* `PathTable.get?_put`, `PathTable.get?_erase`: what is found after each change.
* `PathTable.Ordered`: each path stands after the ones before it in the order, as `put` keeps it.
* `PathTable.Ordered.agree_iff`: ordered tables are equal when the same is found in them.
-/

namespace TraitWeave

open Std

namespace Path

/-! ## The order of paths -/

/-- The text of a component that is a name. -/
def Component.label : Component → String
  | name s => s
  | _ => ""

theorem Component.compare_eq (a b : Component) :
    a.compare b = compareLex (compareOn rank) (compareOn label) a b := by
  cases a <;> cases b <;> rfl

instance : TransCmp Component.compare := by
  have h : Component.compare = compareLex (compareOn Component.rank) (compareOn Component.label) :=
    funext fun a => funext fun b => Component.compare_eq a b
  rw [h]; infer_instance

instance : LawfulEqCmp Component.compare where
  eq_of_compare {a b} h := by
    rw [Component.compare_eq, compareLex_eq_eq] at h
    have hr : a.rank = b.rank := LawfulEqOrd.eq_of_compare h.1
    have hl : a.label = b.label := LawfulEqOrd.eq_of_compare h.2
    cases a <;> cases b <;> simp_all [Component.rank, Component.label]

theorem compareComponents_eq (as bs : List Component) :
    compareComponents as bs = List.compareLex Component.compare as bs := by
  induction as generalizing bs with
  | nil => cases bs <;> rfl
  | cons a as ih =>
    cases bs with
    | nil => rfl
    | cons b bs =>
      rw [List.compareLex_cons_cons, compareComponents, ih]
      cases a.compare b <;> rfl

theorem compareTo_def (p q : Path) :
    p.compareTo q = List.compareLex Component.compare p.components q.components :=
  compareComponents_eq _ _

variable {p q r : Path}

theorem same_iff : p.same q = true ↔ p.components = q.components := by
  unfold same; exact beq_iff_eq

@[simp] theorem same_refl (p : Path) : p.same p = true := same_iff.2 rfl

theorem same_symm (h : p.same q = true) : q.same p = true := same_iff.2 (same_iff.1 h).symm

theorem same_comm (p q : Path) : p.same q = q.same p :=
  Bool.eq_iff_iff.2 ⟨same_symm, same_symm⟩

theorem same_trans (h : p.same q = true) (h' : q.same r = true) : p.same r = true :=
  same_iff.2 ((same_iff.1 h).trans (same_iff.1 h'))

/-- A path that is the same as another is the same as all that the other is the same as. -/
theorem same_congr (h : p.same q = true) (r : Path) : p.same r = q.same r := by
  unfold same; rw [same_iff.1 h]

theorem same_congr_right (h : p.same q = true) (r : Path) : r.same p = r.same q := by
  unfold same; rw [same_iff.1 h]

theorem compareTo_eq : p.compareTo q = .eq ↔ p.same q = true := by
  rw [compareTo_def, LawfulEqCmp.compare_eq_iff_eq, same_iff]

theorem compareTo_trans (h : p.compareTo q = .lt) (h' : q.compareTo r = .lt) :
    p.compareTo r = .lt := by
  rw [compareTo_def] at *; exact TransCmp.lt_trans h h'

theorem compareTo_gt : p.compareTo q = .gt ↔ q.compareTo p = .lt := by
  rw [compareTo_def, compareTo_def]; exact OrientedCmp.gt_iff_lt

theorem not_same_of_lt (h : p.compareTo q = .lt) : p.same q = false := by
  rw [Bool.eq_false_iff, Ne, ← compareTo_eq, h]; decide

theorem compareTo_congr (h : p.same q = true) (r : Path) : p.compareTo r = q.compareTo r := by
  unfold compareTo; rw [same_iff.1 h]

theorem compareTo_congr_right (h : p.same q = true) (r : Path) : r.compareTo p = r.compareTo q := by
  unfold compareTo; rw [same_iff.1 h]

end Path

namespace PathTable

variable {α : Type} {t : PathTable α} {p q : Path} {v : α}

/-! ## What is found -/

@[simp] theorem get?_nil (p : Path) : get? ([] : PathTable α) p = none := rfl

theorem get?_cons (e : Path × α) (t : PathTable α) (p : Path) :
    get? (e :: t) p = if e.1.same p then some e.2 else get? t p := by
  unfold get?
  rw [List.find?_cons]
  by_cases h : e.1.same p = true <;> simp [h]

/-- What is found does not depend on how the path is written. -/
theorem get?_congr (t : PathTable α) (h : p.same q = true) : get? t p = get? t q := by
  induction t with
  | nil => rfl
  | cons e t ih => rw [get?_cons, get?_cons, ih, Path.same_congr_right h]

theorem get?_put (t : PathTable α) (p q : Path) (v : α) :
    get? (put t p v) q = if p.same q then some v else get? t q := by
  induction t with
  | nil => simp [put, get?_cons]
  | cons e t ih =>
    obtain ⟨r, w⟩ := e
    unfold put
    split
    · simp [get?_cons]
    · rename_i hr
      have hpr := Path.compareTo_eq.1 hr
      rw [get?_cons, get?_cons, Path.same_congr hpr]
      by_cases h : r.same q = true <;> simp [h]
    · rename_i hr
      simp only [get?_cons, ih]
      by_cases h : r.same q = true
      · -- the entry is found first, and it is not the one that was put
        have hpq : p.same q = false := by
          rw [← Path.same_congr_right h p, Path.same_comm]
          exact Path.not_same_of_lt (Path.compareTo_gt.1 hr)
        simp [h, hpq]
      · simp [h]

theorem get?_erase (t : PathTable α) (p q : Path) :
    get? (erase t p) q = if p.same q then none else get? t q := by
  induction t with
  | nil => simp [erase]
  | cons e t ih =>
    unfold erase at ih ⊢
    rw [List.filter_cons]
    by_cases he : e.1.same p = true
    · rw [if_neg (by simp [he]), ih, get?_cons, Path.same_congr he]
      by_cases h : p.same q = true <;> simp [h]
    · rw [if_pos (by simp [he])]
      simp only [get?_cons, ih]
      by_cases h : e.1.same q = true
      · have hpq : ¬ p.same q = true := fun hpq => he (Path.same_trans h (Path.same_symm hpq))
        simp [h, hpq]
      · simp [h]

theorem get?_foldl_erase (ps : List Path) (t : PathTable α) (q : Path) :
    get? (ps.foldl erase t) q = if ps.any (·.same q) then none else get? t q := by
  induction ps generalizing t with
  | nil => rfl
  | cons p ps ih =>
    rw [List.foldl_cons, ih, get?_erase, List.any_cons]
    cases p.same q <;> cases ps.any (·.same q) <;> rfl

theorem has_eq (t : PathTable α) (p : Path) : has t p = (get? t p).isSome := by
  induction t with
  | nil => rfl
  | cons e t ih =>
    unfold has at ih ⊢
    rw [List.any_cons, ih, get?_cons]
    by_cases h : e.1.same p = true <;> simp [h]

theorem has_iff : has t p = true ↔ ∃ v, get? t p = some v := by
  rw [has_eq, Option.isSome_iff_exists]

/-- What is found stands in the table, under a spelling of the path. -/
theorem exists_mem_of_get? (h : get? t p = some v) : ∃ r, (r, v) ∈ t ∧ r.same p = true := by
  induction t with
  | nil => simp at h
  | cons e t ih =>
    rw [get?_cons] at h
    split at h
    · rename_i he; cases h; exact ⟨e.1, List.mem_cons_self, he⟩
    · obtain ⟨r, hr, hs⟩ := ih h
      exact ⟨r, List.mem_cons_of_mem _ hr, hs⟩

theorem get?_eq_none : get? t p = none ↔ ∀ e ∈ t, ¬ e.1.same p = true := by
  induction t with
  | nil => simp
  | cons e t ih =>
    rw [get?_cons]
    by_cases h : e.1.same p = true <;> simp [h, ih]

theorem has_of_mem_paths (h : p ∈ paths t) : has t p = true := by
  obtain ⟨e, he, rfl⟩ := List.mem_map.1 h
  exact List.any_eq_true.2 ⟨e, he, Path.same_refl _⟩

/-! ## Ordered tables -/

/-- The paths rise. -/
def Ordered (t : PathTable α) : Prop := t.Pairwise fun a b => a.1.compareTo b.1 = .lt

theorem mem_put {e : Path × α} (h : e ∈ put t p v) : e = (p, v) ∨ (e.2 = v ∧ e.1 ∈ paths t) ∨ e ∈ t := by
  induction t with
  | nil => exact .inl (by simpa [put] using h)
  | cons c t ih =>
    obtain ⟨r, w⟩ := c
    unfold put at h
    split at h
    · exact (List.mem_cons.1 h).imp id .inr
    · rcases List.mem_cons.1 h with rfl | h
      · exact .inr (.inl ⟨rfl, List.mem_cons_self⟩)
      · exact .inr (.inr (List.mem_cons_of_mem _ h))
    · rcases List.mem_cons.1 h with rfl | h
      · exact .inr (.inr List.mem_cons_self)
      · rcases ih h with h | ⟨h, hm⟩ | h
        · exact .inl h
        · exact .inr (.inl ⟨h, List.mem_cons_of_mem _ hm⟩)
        · exact .inr (.inr (List.mem_cons_of_mem _ h))

/-- No new spelling comes into the table but the one that is put. -/
theorem mem_paths_put (h : q ∈ paths (put t p v)) : q = p ∨ q ∈ paths t := by
  obtain ⟨e, he, rfl⟩ := List.mem_map.1 h
  rcases mem_put he with rfl | ⟨-, h⟩ | h
  · exact .inl rfl
  · exact .inr h
  · exact .inr (List.mem_map_of_mem h)

theorem Ordered.put (h : Ordered t) (p : Path) (v : α) : Ordered (put t p v) := by
  induction t with
  | nil => exact List.pairwise_singleton _ _
  | cons c t ih =>
    obtain ⟨r, w⟩ := c
    obtain ⟨hr, ht⟩ := List.pairwise_cons.1 h
    unfold PathTable.put
    split
    · rename_i hp
      refine List.pairwise_cons.2 ⟨fun e he => ?_, h⟩
      rcases List.mem_cons.1 he with rfl | he
      · exact hp
      · exact Path.compareTo_trans hp (hr e he)
    · exact List.pairwise_cons.2 ⟨hr, ht⟩
    · rename_i hp
      refine List.pairwise_cons.2 ⟨fun e he => ?_, ih ht⟩
      rcases mem_paths_put (List.mem_map_of_mem (f := Prod.fst) he) with h' | h'
      · rw [h']; exact Path.compareTo_gt.1 hp
      · obtain ⟨c, hc, hce⟩ := List.mem_map.1 h'
        rw [← hce]; exact hr c hc

theorem Ordered.filter (h : Ordered t) (f : Path × α → Bool) : Ordered (t.filter f) :=
  h.sublist List.filter_sublist

theorem Ordered.erase (h : Ordered t) (p : Path) : Ordered (erase t p) := h.filter _

theorem Ordered.foldl_erase (h : Ordered t) (ps : List Path) : Ordered (ps.foldl PathTable.erase t) := by
  induction ps generalizing t with
  | nil => exact h
  | cons p ps ih => exact ih (h.erase p)

theorem mem_paths_erase (h : q ∈ paths (erase t p)) : q ∈ paths t := by
  obtain ⟨e, he, rfl⟩ := List.mem_map.1 h
  exact List.mem_map_of_mem (List.mem_of_mem_filter he)

/-- In an ordered table each entry is found. -/
theorem Ordered.get?_of_mem (h : Ordered t) (hm : (p, v) ∈ t) : get? t p = some v := by
  induction t with
  | nil => simp at hm
  | cons c t ih =>
    obtain ⟨hc, ht⟩ := List.pairwise_cons.1 h
    rw [get?_cons]
    rcases List.mem_cons.1 hm with rfl | hm
    · simp
    · rw [Path.not_same_of_lt (hc _ hm)]
      exact ih ht hm

/-- What stands before all entries of a table is not found in it. -/
theorem get?_eq_none_of_lt (h : ∀ e ∈ t, p.compareTo e.1 = .lt) : get? t p = none :=
  get?_eq_none.2 fun e he hs => by
    have hne := Path.not_same_of_lt (h e he)
    rw [Path.same_comm, hs] at hne
    cases hne

/-- What a test of paths and values leaves over. -/
theorem Ordered.get?_filter (h : Ordered t) (f : Path × α → Bool)
    (hf : ∀ e ∈ t, e.1.same p = true → f e = f (p, e.2)) :
    get? (t.filter f) p = (get? t p).filter fun v => f (p, v) := by
  induction t with
  | nil => rfl
  | cons c t ih =>
    obtain ⟨hc, ht⟩ := List.pairwise_cons.1 h
    have ih := ih ht fun e he => hf e (List.mem_cons_of_mem _ he)
    rw [List.filter_cons, get?_cons]
    by_cases hp : c.1.same p = true
    · have hfc := hf c List.mem_cons_self hp
      -- the later entries are of other paths
      have hnone : get? t p = none :=
        get?_eq_none_of_lt fun e he => by rw [← Path.compareTo_congr hp]; exact hc e he
      by_cases hfp : f (p, c.2) = true
      · rw [hfc, if_pos hfp, get?_cons, if_pos hp, if_pos hp, Option.filter_some, if_pos hfp]
      · rw [hfc, if_neg hfp, if_pos hp, ih, hnone, Option.filter_some, if_neg hfp]; rfl
    · rw [if_neg hp, ← ih]
      split
      · rw [get?_cons, if_neg hp]
      · rfl

/-! ## Equal tables -/

variable {u : PathTable α}

/-- The tables have the same paths, however they are written, with the same values. -/
def Agree (t u : PathTable α) : Prop := List.Forall₂ (fun a b => a.1.same b.1 = true ∧ a.2 = b.2) t u

theorem Agree.get?_eq (h : Agree t u) (p : Path) : get? t p = get? u p := by
  induction h with
  | nil => rfl
  | cons hab _ ih => rw [get?_cons, get?_cons, Path.same_congr hab.1, hab.2, ih]

/-- A table in which the same is found as in an ordered one does not begin before it. -/
theorem Ordered.not_lt_of_get?_eq {e c : Path × α} (hu : Ordered (c :: u))
    (h : ∀ p, get? (e :: t) p = get? (c :: u) p) : e.1.compareTo c.1 ≠ .lt := by
  intro hlt
  have hfound := h e.1
  rw [get?_cons, if_pos (Path.same_refl _), get?_eq_none_of_lt] at hfound
  · cases hfound
  · intro d hd
    rcases List.mem_cons.1 hd with rfl | hd
    · exact hlt
    · exact Path.compareTo_trans hlt ((List.pairwise_cons.1 hu).1 d hd)

/-- **Ordered tables are told apart by what is found in them.** -/
theorem Ordered.agree_iff (ht : Ordered t) (hu : Ordered u) :
    Agree t u ↔ ∀ p, get? t p = get? u p := by
  refine ⟨Agree.get?_eq, fun h => ?_⟩
  induction t generalizing u with
  | nil =>
    cases u with
    | nil => exact .nil
    | cons c u =>
      have hfound := h c.1
      rw [get?_cons, if_pos (Path.same_refl _)] at hfound
      cases hfound
  | cons e t ih =>
    obtain ⟨he, ht'⟩ := List.pairwise_cons.1 ht
    cases u with
    | nil =>
      have hfound := h e.1
      rw [get?_cons, if_pos (Path.same_refl _)] at hfound
      cases hfound
    | cons c u =>
      obtain ⟨hc, hu'⟩ := List.pairwise_cons.1 hu
      -- neither first path comes before the other, so they are the same
      have hs : e.1.same c.1 = true := by
        cases horder : e.1.compareTo c.1 with
        | lt => exact absurd horder (hu.not_lt_of_get?_eq h)
        | eq => exact Path.compareTo_eq.1 horder
        | gt => exact absurd (Path.compareTo_gt.1 horder) (ht.not_lt_of_get?_eq fun p => (h p).symm)
      have hvalue : e.2 = c.2 := by
        have hfound := h e.1
        rw [get?_cons, get?_cons, if_pos (Path.same_refl _), if_pos (Path.same_symm hs)] at hfound
        exact Option.some.inj hfound
      refine .cons ⟨hs, hvalue⟩ (ih ht' hu' fun p => ?_)
      by_cases hp : e.1.same p = true
      · -- the path stands at the head of both tables only
        rw [get?_eq_none_of_lt fun d hd => by rw [← Path.compareTo_congr hp]; exact he d hd,
          get?_eq_none_of_lt fun d hd => by
            rw [← Path.compareTo_congr hp, Path.compareTo_congr hs]; exact hc d hd]
      · have hfound := h p
        rwa [get?_cons, get?_cons, if_neg hp, if_neg (Path.same_congr hs p ▸ hp)] at hfound

end PathTable

end TraitWeave
