import TraitWeave.Proofs.PathTable
import TraitWeave.Registry.Snapshot

/-!
# What two snapshots differ in

Snapshots are compared by what they say of each path, however the path is written.

* `Snapshot.mem_added`, `Snapshot.mem_changed`, `Snapshot.mem_removed`: what is listed, as it is written.
* `Snapshot.among_added`, `Snapshot.among_changed`, `Snapshot.among_removed`: of which paths.
* `Snapshot.among_diff`, `Snapshot.diff_self`: where anything is listed at all.
* `Snapshot.Diff.apply`: one snapshot brought to the state of the other where a list says so.
* `Snapshot.diff_exact`: each difference is in one of the lists, at its place in the order, and they lead from one
  snapshot to the other.
-/

namespace TraitWeave

open PathTable (get? put erase paths Ordered Agree)

namespace Path

variable {p : Path} {ps qs : List Path}

/-- The path stands in the list, however it is written there. -/
def Among (p : Path) (ps : List Path) : Prop := ∃ q ∈ ps, q.same p = true

theorem any_same : ps.any (·.same p) = true ↔ p.Among ps := List.any_eq_true

theorem among_append : p.Among (ps ++ qs) ↔ p.Among ps ∨ p.Among qs := by
  simp only [Among, List.mem_append, or_and_right, exists_or]

theorem among_of_mem (h : p ∈ ps) : p.Among ps := ⟨p, h, same_refl p⟩

/-- Each path stands after the ones before it. -/
def Rising (ps : List Path) : Prop := ps.Pairwise fun p q => p.compareTo q = .lt

end Path

theorem PathTable.Ordered.rising {α : Type} {t : PathTable α} (h : Ordered t) : Path.Rising (paths t) :=
  List.pairwise_map.2 h

namespace Snapshot

variable {previous current : Snapshot} {p : Path}

/-! ## What is listed -/

theorem mem_missing {t u : Snapshot} :
    p ∈ (t.filter fun e => !PathTable.has u e.1).map Prod.fst ↔ p ∈ paths t ∧ get? u p = none := by
  simp only [paths, List.mem_map, List.mem_filter, PathTable.has_eq, Bool.not_eq_true',
    Option.isSome_eq_false_iff, Option.isNone_iff_eq_none]
  constructor
  · rintro ⟨e, ⟨he, hnone⟩, rfl⟩
    exact ⟨⟨e, he, rfl⟩, hnone⟩
  · rintro ⟨⟨e, he, rfl⟩, hnone⟩
    exact ⟨e, ⟨he, hnone⟩, rfl⟩

theorem mem_removed : p ∈ (diff previous current).removed ↔ p ∈ paths previous ∧ get? current p = none :=
  mem_missing

theorem mem_added : p ∈ (diff previous current).added ↔ p ∈ paths current ∧ get? previous p = none :=
  mem_missing

theorem isChanged_iff {stamp : Stamp} :
    isChanged previous p stamp = true ↔ ∃ old, get? previous p = some old ∧ old ≠ stamp := by
  unfold isChanged
  cases get? previous p <;> simp

theorem mem_changed : p ∈ (diff previous current).changed ↔
    ∃ stamp old, (p, stamp) ∈ current ∧ get? previous p = some old ∧ old ≠ stamp := by
  simp only [diff, List.mem_map, List.mem_filter, isChanged_iff]
  constructor
  · rintro ⟨⟨p, stamp⟩, ⟨hmem, old, hold, hne⟩, rfl⟩
    exact ⟨stamp, old, hmem, hold, hne⟩
  · rintro ⟨stamp, old, hmem, hold, hne⟩
    exact ⟨(p, stamp), ⟨hmem, old, hold, hne⟩, rfl⟩

theorem added_rising (h : Ordered current) : Path.Rising (diff previous current).added := (h.filter _).rising

theorem changed_rising (h : Ordered current) : Path.Rising (diff previous current).changed := (h.filter _).rising

theorem removed_rising (h : Ordered previous) : Path.Rising (diff previous current).removed := (h.filter _).rising

/-! ## Of which paths -/

theorem among_missing {t u : Snapshot} :
    p.Among ((t.filter fun e => !PathTable.has u e.1).map Prod.fst) ↔ get? t p ≠ none ∧ get? u p = none := by
  constructor
  · rintro ⟨q, hq, hs⟩
    obtain ⟨hmem, hnone⟩ := mem_missing.1 hq
    obtain ⟨stamp, hstamp⟩ := PathTable.has_iff.1 (PathTable.has_of_mem_paths hmem)
    rw [← PathTable.get?_congr _ hs, ← PathTable.get?_congr _ hs, hstamp]
    exact ⟨Option.some_ne_none _, hnone⟩
  · rintro ⟨hsome, hnone⟩
    obtain ⟨stamp, hstamp⟩ := Option.ne_none_iff_exists'.1 hsome
    obtain ⟨q, hq, hs⟩ := PathTable.exists_mem_of_get? hstamp
    refine ⟨q, mem_missing.2 ⟨List.mem_map_of_mem hq, ?_⟩, hs⟩
    rw [PathTable.get?_congr _ hs, hnone]

theorem among_removed :
    p.Among (diff previous current).removed ↔ get? previous p ≠ none ∧ get? current p = none := among_missing

theorem among_added :
    p.Among (diff previous current).added ↔ get? current p ≠ none ∧ get? previous p = none := among_missing

theorem among_changed (h : Ordered current) : p.Among (diff previous current).changed ↔
    ∃ old stamp, get? previous p = some old ∧ get? current p = some stamp ∧ old ≠ stamp := by
  constructor
  · rintro ⟨q, hq, hs⟩
    obtain ⟨stamp, old, hmem, hold, hne⟩ := mem_changed.1 hq
    rw [← PathTable.get?_congr _ hs, ← PathTable.get?_congr _ hs]
    exact ⟨old, stamp, hold, h.get?_of_mem hmem, hne⟩
  · rintro ⟨old, stamp, hold, hstamp, hne⟩
    obtain ⟨q, hq, hs⟩ := PathTable.exists_mem_of_get? hstamp
    refine ⟨q, mem_changed.2 ⟨stamp, old, hq, ?_, hne⟩, hs⟩
    rw [PathTable.get?_congr _ hs, hold]

namespace Diff

/-- All paths that are listed. -/
def paths (d : Diff) : List Path := d.added ++ d.changed ++ d.removed

theorem among_paths {d : Diff} :
    p.Among d.paths ↔ p.Among d.added ∨ p.Among d.changed ∨ p.Among d.removed := by
  rw [paths, Path.among_append, Path.among_append, or_assoc]

theorem isEmpty_iff {d : Diff} : d.isEmpty = true ↔ ∀ p : Path, ¬ p.Among d.paths := by
  have hnil : d.isEmpty = true ↔ d.paths = [] := by
    simp [isEmpty, paths, List.isEmpty_iff, and_assoc]
  rw [hnil]
  constructor
  · rintro h p ⟨q, hq, -⟩
    rw [h] at hq
    cases hq
  · exact fun h => List.eq_nil_iff_forall_not_mem.2 fun p hp => h p (Path.among_of_mem hp)

end Diff

/-- The paths that are listed are those of which the snapshots say different things. -/
theorem among_diff (h : Ordered current) :
    p.Among (diff previous current).paths ↔ get? previous p ≠ get? current p := by
  rw [Diff.among_paths, among_added, among_changed h, among_removed]
  cases get? previous p <;> cases get? current p <;> simp

theorem diff_self (h : Ordered current) : diff current current = ⟨[], [], []⟩ := by
  have hempty : (diff current current).isEmpty = true := Diff.isEmpty_iff.2 fun p hp => (among_diff h).1 hp rfl
  generalize diff current current = d at hempty ⊢
  obtain ⟨added, changed, removed⟩ := d
  simpa [Diff.isEmpty, and_assoc] using hempty

/-! ## From one snapshot to the other -/

/-- Give a path the stamp that it has in another snapshot. -/
def restamp (source t : Snapshot) (p : Path) : Snapshot :=
  match get? source p with
  | some stamp => put t p stamp
  | none => t

/-- A snapshot after the removed paths were erased, and the added and the changed ones were set to their stamps in
another snapshot. -/
def Diff.apply (d : Diff) (previous current : Snapshot) : Snapshot :=
  (d.added ++ d.changed).foldl (restamp current) (d.removed.foldl erase previous)

theorem get?_restamp (source t : Snapshot) (p q : Path) :
    get? (restamp source t p) q = if p.same q then (get? source q).or (get? t q) else get? t q := by
  unfold restamp
  by_cases hs : p.same q = true
  · rw [PathTable.get?_congr source hs, if_pos hs]
    cases get? source q with
    | none => rfl
    | some stamp => rw [PathTable.get?_put, if_pos hs, Option.some_or]
  · rw [if_neg hs]
    cases get? source p with
    | none => rfl
    | some stamp => rw [PathTable.get?_put, if_neg hs]

theorem get?_foldl_restamp (source : Snapshot) (ps : List Path) (t : Snapshot) (q : Path) :
    get? (ps.foldl (restamp source) t) q =
      if ps.any (·.same q) then (get? source q).or (get? t q) else get? t q := by
  induction ps generalizing t with
  | nil => rfl
  | cons p ps ih =>
    rw [List.foldl_cons, ih, get?_restamp, List.any_cons]
    cases p.same q <;> cases ps.any (·.same q) <;> cases get? source q <;> rfl

theorem restamp_ordered {t : Snapshot} (h : Ordered t) (source : Snapshot) (p : Path) :
    Ordered (restamp source t p) := by
  unfold restamp
  split
  · exact h.put _ _
  · exact h

theorem Diff.apply_ordered (d : Diff) (h : Ordered previous) (current : Snapshot) :
    Ordered (d.apply previous current) :=
  List.foldlRecOn _ _ (h.foldl_erase d.removed) fun _ ht p _ => restamp_ordered ht current p

/-- **The lists lead from one snapshot to the other.** -/
theorem get?_apply_diff (h : Ordered current) (q : Path) :
    get? ((diff previous current).apply previous current) q = get? current q := by
  classical
  rw [Diff.apply, get?_foldl_restamp, PathTable.get?_foldl_erase]
  simp only [Path.any_same, Path.among_append, among_added, among_changed h, among_removed]
  cases get? previous q <;> cases get? current q <;> simp

/-- **The lists tell what two snapshots differ in**, once and in order, and nothing else. -/
structure Diff.Exact (d : Diff) (previous current : Snapshot) : Prop where
  added_rising : Path.Rising d.added
  changed_rising : Path.Rising d.changed
  removed_rising : Path.Rising d.removed
  /-- No path is in two of the lists, whichever way it is written there. -/
  disjoint : ∀ p : Path, ¬ (p.Among d.added ∧ p.Among d.changed) ∧ ¬ (p.Among d.added ∧ p.Among d.removed) ∧
    ¬ (p.Among d.changed ∧ p.Among d.removed)
  added : ∀ p : Path, p.Among d.added ↔ get? current p ≠ none ∧ get? previous p = none
  changed : ∀ p : Path, p.Among d.changed ↔
    ∃ old stamp, get? previous p = some old ∧ get? current p = some stamp ∧ old ≠ stamp
  removed : ∀ p : Path, p.Among d.removed ↔ get? previous p ≠ none ∧ get? current p = none
  paths : ∀ p : Path, p.Among d.paths ↔ get? previous p ≠ get? current p
  isEmpty : d.isEmpty = true ↔ Agree previous current
  apply : Agree (d.apply previous current) current

/-- **The difference of two snapshots is exact**: each path of which they say different things is in one of the lists,
which one depends on what they say, and no other path is; the lists are in order, are empty where the snapshots are
equal and only there, and lead from one to the other. -/
theorem diff_exact (hprevious : Ordered previous) (hcurrent : Ordered current) :
    (diff previous current).Exact previous current where
  added_rising := added_rising hcurrent
  changed_rising := changed_rising hcurrent
  removed_rising := removed_rising hprevious
  disjoint p := by
    rw [among_added, among_changed hcurrent, among_removed]
    cases get? previous p <;> cases get? current p <;> simp
  added _ := among_added
  changed _ := among_changed hcurrent
  removed _ := among_removed
  paths _ := among_diff hcurrent
  isEmpty := by
    simp only [Diff.isEmpty_iff, among_diff hcurrent, not_not]
    exact (hprevious.agree_iff hcurrent).symm
  apply := ((Diff.apply_ordered _ hprevious current).agree_iff hcurrent).2 (get?_apply_diff hcurrent)

/-- Three files. -/
def monday : Snapshot := [(⟨"a"⟩, ⟨1, 5⟩), (⟨"b//c"⟩, ⟨1, 7⟩), (⟨"d"⟩, ⟨1, 7⟩)]

/-- One of them is gone and another has come. Of the two that stay one has changed, and both are written in another
way. -/
def tuesday : Snapshot := [(⟨"b/c"⟩, ⟨2, 7⟩), (⟨"d/."⟩, ⟨1, 7⟩), (⟨"e"⟩, ⟨1, 5⟩)]

theorem diff_exact_respelled :
    (Ordered monday ∧ Ordered tuesday ∧ diff monday tuesday = ⟨[⟨"e"⟩], [⟨"b/c"⟩], [⟨"a"⟩]⟩) ∧
      (diff monday tuesday).Exact monday tuesday := by
  have hmonday : Ordered monday := by unfold Ordered; decide +kernel
  have htuesday : Ordered tuesday := by unfold Ordered; decide +kernel
  exact ⟨⟨hmonday, htuesday, by decide +kernel⟩, diff_exact hmonday htuesday⟩

end Snapshot

end TraitWeave
