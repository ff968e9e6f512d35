import TraitWeave.Proofs.PathTable
import TraitWeave.Proofs.Registry.Index
import TraitWeave.Registry.Contents

/-!
# What a step of a refresh does

Each step of a refresh is about one path: the path comes to hold a record, to wait for a name, or neither.
All other paths stay as they are.

* `Contents.Coherent`: the files that hold records and the records themselves say the same.
* `Contents.Moves`: what a step changes, told for each path and each name.
* `Progress.drop_moves`, `Progress.reject_moves`, `Progress.take_moves`: the steps.
* `Contents.Moves.record_cases`, `Contents.Moves.stays`: where a record comes from, and that one of another file stays.
* `Contents.Moves.coherent`, `Progress.read_coherent`: a step keeps the contents coherent.
-/

namespace TraitWeave

open PathTable (get? put erase paths)

namespace Contents

/-- **The files that hold records and the records say the same.** -/
structure Coherent (c : Contents) : Prop where
  keyed : ∀ k r, c.index.records.get? k = some r → r.key = k
  holder : ∀ p k, get? c.holders p = some k ↔
    ∃ r, c.index.records.get? k = some r ∧ r.path.same p = true
  rising : c.index.records.Rising
  waiting : PathTable.Ordered c.waiting
  diagnostics : PathTable.Ordered c.diagnostics

theorem Coherent.empty : Coherent .empty where
  keyed k r h := by simp [Contents.empty, Index.empty] at h
  holder p k := by simp [Contents.empty, Index.empty]
  rising := List.Pairwise.nil
  waiting := List.Pairwise.nil
  diagnostics := List.Pairwise.nil

variable {c c' : Contents} {p q : Path} {k : String} {r : Record}

namespace Coherent

theorem normalize (h : c.Coherent) (hr : c.index.records.get? k = some r) : Name.normalize k = k := by
  rw [← h.keyed k r hr]; exact r.normalize_key

theorem holds (h : c.Coherent) (hr : c.index.records.get? k = some r) :
    get? c.holders r.path = some r.key := by
  rw [h.keyed k r hr]
  exact (h.holder _ _).2 ⟨r, hr, Path.same_refl _⟩

/-- The holders and the records do not depend on what waits and what is said. -/
theorem settled (h : c.Coherent) (p : Path) : (c.settled p).Coherent :=
  ⟨h.keyed, h.holder, h.rising, h.waiting.erase p, h.diagnostics.erase p⟩

theorem forget (h : c.Coherent) (p : Path) : Coherent { c with waiting := erase c.waiting p } :=
  ⟨h.keyed, h.holder, h.rising, h.waiting.erase p, h.diagnostics⟩

end Coherent

/-- A path may hold what it is given: no other path holds a record of that name. -/
def MayHold (c : Contents) (p : Path) (held : Option Record) : Prop :=
  ∀ r, held = some r → r.path.same p = true ∧
    ∀ other, c.index.records.get? r.key = some other → other.path.same p = true

theorem mayHold_none (c : Contents) (p : Path) : c.MayHold p none := fun r h => by cases h

/-- What a step does: `p` comes to hold `held` and to wait for `awaited`, and `d` is said of it. -/
structure Moves (c c' : Contents) (p : Path) (held : Option Record) (awaited : Option String)
    (d : Option Diagnostic) : Prop where
  holder : ∀ q, get? c'.holders q = if p.same q then held.map Record.key else get? c.holders q
  awaits : ∀ q, get? c'.waiting q = if p.same q then awaited else get? c.waiting q
  said : ∀ q, get? c'.diagnostics q = if p.same q then d else get? c.diagnostics q
  record : ∀ k, c'.index.records.get? k =
    if held.map Record.key = some k then held
    else if get? c.holders p = some k then none else c.index.records.get? k
  snapshot : c'.snapshot = c.snapshot
  rising : c.index.records.Rising → c'.index.records.Rising
  waiting : PathTable.Ordered c.waiting → PathTable.Ordered c'.waiting
  diagnostics : PathTable.Ordered c.diagnostics → PathTable.Ordered c'.diagnostics
  spelled : ∀ q ∈ paths c'.waiting, q = p ∨ q ∈ paths c.waiting

namespace Moves

variable {held : Option Record} {awaited : Option String} {d : Option Diagnostic}

/-- A record stays unless it is the one that the path held, or one of the name it now holds. -/
theorem record_other (h : c.Moves c' p held awaited d) (hheld : held.map Record.key ≠ some k)
    (hp : get? c.holders p ≠ some k) : c'.index.records.get? k = c.index.records.get? k := by
  rw [h.record, if_neg hheld, if_neg hp]

/-- **A record that stands after a step** is the one that the path now holds, or it stood there before and the path
did not hold it. -/
theorem record_cases (h : c.Moves c' p held awaited d) (hr : c'.index.records.get? k = some r) :
    held = some r ∧ r.key = k ∨ c.index.records.get? k = some r ∧ get? c.holders p ≠ some k := by
  rw [h.record] at hr
  split at hr
  · rename_i hk
    rw [hr] at hk
    exact .inl ⟨hr, Option.some.inj hk⟩
  · split at hr
    · cases hr
    · rename_i hp
      exact .inr ⟨hr, hp⟩

/-- The name of a record stays where the path held nothing. -/
theorem named (h : c.Moves c' p held awaited d) (hp : get? c.holders p = none)
    (hk : ∃ r, c.index.records.get? k = some r) : ∃ r, c'.index.records.get? k = some r := by
  by_cases hheld : held.map Record.key = some k
  · obtain ⟨r, hr, -⟩ := Option.map_eq_some_iff.1 hheld
    exact ⟨r, by rw [h.record, if_pos hheld, hr]⟩
  · rw [h.record_other hheld (by simp [hp])]
    exact hk

/-- **A record of another file stays** where the path takes no name from another. -/
theorem stays (h : c.Moves c' p held awaited d) (hc : c.Coherent) (hheld : c.MayHold p held)
    (hr : c.index.records.get? k = some r) (hs : r.path.same p = false) :
    c'.index.records.get? k = some r := by
  refine (h.record_other (fun hk => ?_) fun hp => ?_).trans hr
  · obtain ⟨r', rfl, rfl⟩ := Option.map_eq_some_iff.1 hk
    rw [(hheld r' rfl).2 r hr] at hs
    cases hs
  · obtain ⟨r', hr', hp⟩ := (hc.holder p k).1 hp
    obtain rfl := Option.some.inj (hr.symm.trans hr')
    rw [hp] at hs
    cases hs

/-- **A step keeps the contents coherent** where the path takes no name from another. -/
theorem coherent (h : c.Moves c' p held awaited d) (hc : c.Coherent) (hheld : c.MayHold p held) :
    c'.Coherent where
  rising := h.rising hc.rising
  waiting := h.waiting hc.waiting
  diagnostics := h.diagnostics hc.diagnostics
  keyed k r hr := by
    rcases h.record_cases hr with ⟨-, hk⟩ | ⟨hr, -⟩
    · exact hk
    · exact hc.keyed k r hr
  holder q k := by
    rw [h.holder]
    by_cases hpq : p.same q = true
    · rw [if_pos hpq]
      constructor
      · intro hk
        obtain ⟨r, rfl, rfl⟩ := Option.map_eq_some_iff.1 hk
        refine ⟨r, by rw [h.record, if_pos hk], ?_⟩
        exact Path.same_trans (hheld r rfl).1 hpq
      · rintro ⟨r, hr, hs⟩
        rcases h.record_cases hr with ⟨rfl, rfl⟩ | ⟨hr, hp⟩
        · rfl
        · -- a record of this path that stood before would have been held by it
          have hrp := Path.same_trans hs (Path.same_symm hpq)
          exact absurd ((hc.holder p k).2 ⟨r, hr, hrp⟩) hp
    · rw [if_neg hpq, hc.holder]
      constructor
      · rintro ⟨r, hr, hs⟩
        refine ⟨r, h.stays hc hheld hr (Bool.eq_false_iff.2 fun hp => hpq ?_), hs⟩
        exact Path.same_trans (Path.same_symm hp) hs
      · rintro ⟨r, hr, hs⟩
        rcases h.record_cases hr with ⟨hr, -⟩ | ⟨hr, -⟩
        · have hrp := (hheld r hr).1
          exact absurd (Path.same_trans (Path.same_symm hrp) hs) hpq
        · exact ⟨r, hr, hs⟩

end Moves

end Contents

namespace Progress

open Contents

variable {s : Progress} {p : Path} {r : Record}

/-! ## Giving up a record -/

/-- **A file gives up its record**: it held none, or the record goes and this is told. -/
theorem release_cases (h : s.contents.Coherent) (p : Path) :
    (get? s.contents.holders p = none ∧ s.release p = s) ∨
    ∃ r, s.contents.index.records.get? r.key = some r ∧ r.path.same p = true ∧
      s.release p =
        { contents := { s.contents with
            holders := erase s.contents.holders p, index := (s.contents.index.remove r.key).1 }
          tally := { s.tally with removed := s.tally.removed + 1 }
          events := s.events ++ [.removed r] } := by
  cases hp : get? s.contents.holders p with
  | none =>
    left
    refine ⟨rfl, ?_⟩
    simp only [release, Contents.release, hp]
  | some k =>
    right
    obtain ⟨r, hr, hs⟩ := (h.holder p k).1 hp
    have hk := h.normalize hr
    obtain rfl := h.keyed k r hr
    refine ⟨r, hr, hs, ?_⟩
    -- the record that is found under the name is of this file, and so it is removed
    have hremoved := (Index.remove_records s.contents.index hk).2
    simp only [release, Contents.release, hp, Index.get?_eq _ hk, hr, hs, if_true]
    rw [hremoved, hr]

/-- What is left when a file gives up its record, except one under the name `keep`. -/
structure Yields (c c' : Contents) (p : Path) (keep : Option String) : Prop where
  other : ∀ q, p.same q = false → get? c'.holders q = get? c.holders q
  holder : ∀ k, get? c'.holders p = some k → keep = some k ∧ get? c.holders p = some k
  record : ∀ k, c'.index.records.get? k =
    if get? c.holders p = some k ∧ keep ≠ some k then none else c.index.records.get? k
  rising : c.index.records.Rising → c'.index.records.Rising
  waiting : c'.waiting = c.waiting
  diagnostics : c'.diagnostics = c.diagnostics
  snapshot : c'.snapshot = c.snapshot

theorem release_yields (h : s.contents.Coherent) (p : Path) :
    Yields s.contents (s.release p).contents p none := by
  rcases release_cases h p with ⟨hp, heq⟩ | ⟨r, hr, hs, heq⟩
  · rw [heq]
    exact ⟨fun q _ => rfl, fun k hk => by simp [hp] at hk, fun k => by simp [hp], id, rfl, rfl, rfl⟩
  · have hrecords := (Index.remove_records s.contents.index r.normalize_key).1
    have hp : get? s.contents.holders p = some r.key := (h.holder p _).2 ⟨r, hr, hs⟩
    rw [heq]
    refine ⟨fun q hq => ?_, fun k hk => ?_, fun k => ?_, fun ht => ?_, rfl, rfl, rfl⟩
    · simp only [PathTable.get?_erase, hq, if_neg Bool.false_ne_true]
    · simp [PathTable.get?_erase] at hk
    · simp [hrecords, Table.get?_erase, hp]
    · simpa only [hrecords] using ht.erase r.key

/-- Before a file takes a record it gives up what it holds under another name. -/
theorem rename_yields (h : s.contents.Coherent) (r : Record) :
    Yields s.contents (s.rename r).contents r.path (some r.key) := by
  unfold rename
  cases hp : get? s.contents.holders r.path with
  | none =>
    exact ⟨fun q _ => rfl, fun k hk => by simp [hp] at hk, fun k => by simp [hp], id, rfl, rfl, rfl⟩
  | some j =>
    by_cases hj : j = r.key
    · -- the file keeps the record of the same name, to be updated
      subst hj
      refine ⟨fun q _ => by simp, fun k hk => by simpa [hp] using hk, fun k => ?_, by simp, by simp,
        by simp, by simp⟩
      simp only [Option.map_some, Option.getD_some, bne_self_eq_false, Bool.false_eq_true, if_false]
      rw [if_neg fun hk => hk.2 (hp.symm.trans hk.1)]
    · have hr := release_yields h r.path
      simp only [Option.map_some, Option.getD_some, bne_iff_ne.2 hj, if_true]
      refine ⟨hr.other, fun k hk => absurd (hr.holder k hk).1 (by simp), fun k => ?_, hr.rising,
        hr.waiting, hr.diagnostics, hr.snapshot⟩
      rw [hr.record, hp]
      by_cases hk : j = k
      · subst hk; simp [Ne.symm hj]
      · simp [hk]

namespace Yields

variable {c c' : Contents} {keep : Option String}

/-- The holders as a step about the path leaves them. -/
theorem holder_eq (h : Yields c c' p none) (q : Path) :
    get? c'.holders q = if p.same q then none else get? c.holders q := by
  split
  · rename_i hq
    rw [← PathTable.get?_congr _ hq]
    cases hp : get? c'.holders p with
    | none => rfl
    | some k => exact absurd (h.holder k hp).1 (by simp)
  · rename_i hq; exact h.other q (by simpa using hq)

theorem record_eq (h : Yields c c' p none) (k : String) :
    c'.index.records.get? k = if get? c.holders p = some k then none else c.index.records.get? k := by
  rw [h.record]; simp

/-- A file that gives up its record and waits no more; `d` is said of it, or nothing. -/
theorem moves {before after : PathTable Diagnostic} {d : Option Diagnostic}
    (h : Yields { c with waiting := erase c.waiting p, diagnostics := before } c' p none)
    (hsaid : ∀ q, get? after q = if p.same q then d else get? c.diagnostics q)
    (hordered : PathTable.Ordered c.diagnostics → PathTable.Ordered after) :
    c.Moves { c' with diagnostics := after } p none none d where
  holder := h.holder_eq
  awaits q := (congrArg (get? · q) h.waiting).trans (PathTable.get?_erase _ _ _)
  said := hsaid
  record k := by
    rw [if_neg (by simp)]
    exact h.record_eq k
  snapshot := h.snapshot
  rising := h.rising
  waiting hw := h.waiting ▸ hw.erase p
  diagnostics := hordered
  spelled _ hq := .inr (PathTable.mem_paths_erase (h.waiting ▸ hq))

end Yields

/-! ## The steps -/

theorem drop_moves (h : s.contents.Coherent) (p : Path) :
    s.contents.Moves (s.drop p).contents p none none none := by
  have hr := release_yields (s := { s with contents := s.contents.settled p }) (h.settled p) p
  refine hr.moves (fun q => ?_) fun hd => ?_
  · exact (congrArg (get? · q) hr.diagnostics).trans (PathTable.get?_erase _ _ _)
  · exact hr.diagnostics ▸ hd.erase p

theorem reject_moves (h : s.contents.Coherent) (p : Path) (message : String) :
    s.contents.Moves (s.reject p message).contents p none none (some (.ofProblems p message)) := by
  let c := { s.contents with waiting := erase s.contents.waiting p }
  have hr := release_yields (s := { s with contents := c }) (h.forget p) p
  refine hr.moves (fun q => ?_) fun hd => ?_
  · refine (PathTable.get?_put _ _ _ _).trans ?_
    rw [hr.diagnostics]; rfl
  · exact (hr.diagnostics ▸ hd).put p _

theorem hold_contents (s : Progress) (r : Record) :
    (s.hold r).contents =
      { s.contents.settled r.path with
        index := (s.contents.index.insert r).1, holders := put s.contents.holders r.path r.key } := by
  unfold hold
  dsimp only
  split <;> rfl

theorem rival?_eq_none {c : Contents} :
    rival? c r = none ↔ ∀ other, c.index.records.get? r.key = some other →
      other.path.same r.path = true := by
  rw [rival?, Index.get?_eq _ r.normalize_key]
  simp

theorem rival?_eq_some {c : Contents} {other : Record} :
    rival? c r = some other ↔
      c.index.records.get? r.key = some other ∧ other.path.same r.path = false := by
  rw [rival?, Index.get?_eq _ r.normalize_key]
  simp

/-- A file that takes a record under a name that is free, or that it holds. -/
theorem hold_moves {c : Contents} (hc : c.Coherent) (hy : Yields c s.contents r.path (some r.key)) :
    c.Moves (s.hold r).contents r.path (some r) none none := by
  have hrecords := (Index.insert_records (hy.rising hc.rising) r).1
  rw [hold_contents]
  refine ⟨fun q => ?_, fun q => ?_, fun q => ?_, fun k => ?_, hy.snapshot, fun ht => ?_, fun hw => ?_,
    fun hd => ?_, fun q hq => ?_⟩
  · rw [PathTable.get?_put, Option.map_some]
    split
    · rfl
    · rename_i hq; exact hy.other q (by simpa using hq)
  · rw [← hy.waiting]; exact PathTable.get?_erase _ _ _
  · rw [← hy.diagnostics]; exact PathTable.get?_erase _ _ _
  · simp only [hrecords, Table.get?_place, Option.map_some, Option.some.injEq]
    split
    · rfl
    · rename_i hk
      rw [hy.record]
      simp [hk]
  · simpa only [hrecords] using (hy.rising ht).place r.key r
  · exact (hy.waiting ▸ hw).erase _
  · exact (hy.diagnostics ▸ hd).erase _
  · exact .inr (hy.waiting ▸ PathTable.mem_paths_erase hq)

/-- A file that has to wait, since another file holds the name. -/
theorem defer_moves {c : Contents} (hc : c.Coherent) (hy : Yields c s.contents r.path (some r.key))
    {other : Record} (hother : c.index.records.get? r.key = some other)
    (hs : other.path.same r.path = false) :
    c.Moves (s.defer r other).contents r.path none (some r.key) (some (.ofDuplicate r other)) := by
  -- the name is of another file, so whatever this one held is given up
  have hfree : get? c.holders r.path ≠ some r.key := fun hp => by
    obtain ⟨r', hr', hs'⟩ := (hc.holder _ _).1 hp
    obtain rfl := Option.some.inj (hother.symm.trans hr')
    exact absurd hs' (by simp [hs])
  have hnone : get? s.contents.holders r.path = none := by
    cases hp : get? s.contents.holders r.path with
    | none => rfl
    | some k =>
      obtain ⟨hk, hp⟩ := hy.holder k hp
      exact absurd (Option.some.inj hk ▸ hp) hfree
  refine ⟨fun q => ?_, fun q => ?_, fun q => PathTable.get?_put _ _ _ _ |>.trans ?_, fun k => ?_,
    hy.snapshot, hy.rising, fun hw => ?_, fun hd => ?_, fun q hq => ?_⟩
  · by_cases hq : r.path.same q = true
    · rw [if_pos hq]
      exact (PathTable.get?_congr _ hq).symm.trans hnone
    · rw [if_neg hq]
      exact hy.other q (by simpa using hq)
  · rw [← hy.waiting]; exact PathTable.get?_put _ _ _ _
  · rw [hy.diagnostics]; rfl
  · rw [if_neg (by simp)]
    refine (hy.record k).trans ?_
    by_cases hk : r.key = k
    · subst hk; simp [hfree]
    · simp [hk]
  · exact (hy.waiting ▸ hw).put _ _
  · exact (hy.diagnostics ▸ hd).put _ _
  · exact (PathTable.mem_paths_put hq).imp id fun hq => hy.waiting ▸ hq

/-- **A file takes its record**: it comes to hold it, or another file holds the name and it waits. -/
theorem take_moves (h : s.contents.Coherent) (r : Record) :
    (s.contents.Moves (s.take r).contents r.path (some r) none none ∧
      ∀ other, s.contents.index.records.get? r.key = some other → other.path.same r.path = true) ∨
    ∃ other, s.contents.index.records.get? r.key = some other ∧ other.path.same r.path = false ∧
      s.contents.Moves (s.take r).contents r.path none (some r.key) (some (.ofDuplicate r other)) := by
  have hy := rename_yields h r
  have hkey : (s.rename r).contents.index.records.get? r.key =
      s.contents.index.records.get? r.key := by
    rw [hy.record]; simp
  unfold take
  dsimp only
  split
  · rename_i other hrival
    obtain ⟨hother, hs⟩ := rival?_eq_some.1 hrival
    exact .inr ⟨other, hkey ▸ hother, hs, defer_moves h hy (hkey ▸ hother) hs⟩
  · rename_i hrival
    exact .inl ⟨hold_moves h hy, hkey ▸ rival?_eq_none.1 hrival⟩

/-! ## Coherence -/

theorem drop_coherent (h : s.contents.Coherent) (p : Path) : (s.drop p).contents.Coherent :=
  (drop_moves h p).coherent h (mayHold_none _ _)

theorem reject_coherent (h : s.contents.Coherent) (p : Path) (message : String) :
    (s.reject p message).contents.Coherent :=
  (reject_moves h p message).coherent h (mayHold_none _ _)

theorem take_coherent (h : s.contents.Coherent) (r : Record) : (s.take r).contents.Coherent := by
  rcases take_moves h r with ⟨hm, hs⟩ | ⟨other, -, -, hm⟩
  · refine hm.coherent h ?_
    rintro r' ⟨⟩
    exact ⟨Path.same_refl _, hs⟩
  · exact hm.coherent h (mayHold_none _ _)

variable {files : Files}

theorem read_of_error {ps : List Document.Problem} (stamp : Stamp)
    (h : Object.ofFile p (files.text p) = .error ps) :
    s.read files p stamp = s.reject p (Document.Problem.rendered ps) := by
  unfold read; rw [h]

theorem read_of_ok {o : Object} (stamp : Stamp) (h : Object.ofFile p (files.text p) = .ok o) :
    s.read files p stamp = s.take (.of o p stamp) := by
  unfold read; rw [h]

theorem read_coherent (files : Files) (h : s.contents.Coherent) (p : Path) (stamp : Stamp) :
    (s.read files p stamp).contents.Coherent := by
  rcases ho : Object.ofFile p (files.text p) with ps | o
  · rw [read_of_error stamp ho]; exact reject_coherent h _ _
  · rw [read_of_ok stamp ho]; exact take_coherent h _

end Progress

end TraitWeave
