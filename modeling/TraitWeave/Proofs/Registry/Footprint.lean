import TraitWeave.Proofs.Registry.Changelog
import TraitWeave.Proofs.Registry.Refresh

/-!
# What a refresh can change

A refresh is about files that have changed and about files that wait. Records of other files stay, and a file
that declares a free name takes it.

* `Contents.Confined`: what steps about some paths can change.
* `Contents.Stages.confined`, `Contents.Stages.concerns`: the paths that a refresh is about.
* `Contents.Stages.stays`, `Contents.Stages.reread_record`: records that stay.
* `Progress.foldl_readFound_first`, `Progress.foldl_readFound_after`: which of several files takes a name.
-/

namespace TraitWeave

open PathTable (get? put erase paths)

namespace Contents

variable {c c' c'' : Contents} {ps qs : List Path} {S : Path → Prop} {T T' : PathTable FileReading}
  {files : Files} {found : Snapshot}

/-! ## Steps about some paths -/

/-- **What steps about some paths can change.** A record that comes is declared by one of them. -/
structure Confined (ps : List Path) (declares : Path → Record → Prop) (c c' : Contents) : Prop where
  coherent : c'.Coherent
  awaits : ∀ q, (∀ p ∈ ps, p.same q = false) → get? c'.waiting q = get? c.waiting q
  stays : ∀ k r, c.index.records.get? k = some r → (∀ p ∈ ps, r.path.same p = false) →
    c'.index.records.get? k = some r
  came : ∀ k r, c'.index.records.get? k = some r →
    c.index.records.get? k = some r ∨ ∃ p ∈ ps, declares p r

/-- What a file declares when it is read now. -/
def ReadNow (files : Files) (found : Snapshot) (p : Path) (r : Record) : Prop :=
  ∃ stamp, get? found p = some stamp ∧ (FileReading.of files p stamp).record? = some r

variable {declares declares' : Path → Record → Prop}

namespace Confined

theorem refl (h : c.Coherent) : Confined [] declares c c :=
  ⟨h, fun _ _ => rfl, fun _ _ hr _ => hr, fun _ _ => .inl⟩

theorem trans (h : Confined ps declares c c') (h' : Confined qs declares c' c'') :
    Confined (ps ++ qs) declares c c'' where
  coherent := h'.coherent
  awaits q hq := by
    rw [h'.awaits q fun p hp => hq p (List.mem_append_right _ hp)]
    exact h.awaits q fun p hp => hq p (List.mem_append_left _ hp)
  stays k r hr hq := by
    have hfirst := h.stays k r hr fun p hp => hq p (List.mem_append_left _ hp)
    exact h'.stays k r hfirst fun p hp => hq p (List.mem_append_right _ hp)
  came k r hr := by
    rcases h'.came k r hr with hr | ⟨p, hp, hd⟩
    · exact (h.came k r hr).imp_right fun ⟨p, hp, hd⟩ => ⟨p, List.mem_append_left _ hp, hd⟩
    · exact .inr ⟨p, List.mem_append_right _ hp, hd⟩

theorem weaken (h : Confined ps declares c c') (hd : ∀ p ∈ ps, ∀ r, declares p r → declares' p r) :
    Confined ps declares' c c' where
  coherent := h.coherent
  awaits := h.awaits
  stays := h.stays
  came k r hr := (h.came k r hr).imp_right fun ⟨p, hp, hr⟩ => ⟨p, hp, hd p hp r hr⟩

/-- What waits afterwards has waited before, or one of the steps was about it. -/
theorem waited (h : Confined ps declares c c') {q : Path} {k : String}
    (hk : get? c'.waiting q = some k) : (∃ p ∈ ps, p.same q = true) ∨ get? c.waiting q = some k := by
  by_cases hq : ∃ p ∈ ps, p.same q = true
  · exact .inl hq
  · -- no step was about the path, so what it waits for is what it waited for
    rw [h.awaits q fun p hp => Bool.eq_false_iff.2 fun hs => hq ⟨p, hp, hs⟩] at hk
    exact .inr hk

/-- A step is about its path. -/
theorem of_moves {p : Path} {held : Option Record} {awaited : Option String} {d : Option Diagnostic}
    (h : c.Moves c' p held awaited d) (hc : c.Coherent) (hheld : c.MayHold p held)
    (hd : ∀ r, held = some r → declares p r) : Confined [p] declares c c' where
  coherent := h.coherent hc hheld
  awaits q hq := by rw [h.awaits, hq p List.mem_cons_self, if_neg Bool.false_ne_true]
  stays k r hr hp := h.stays hc hheld hr (hp p List.mem_cons_self)
  came k r hr := by
    rcases h.record_cases hr with ⟨hr, -⟩ | ⟨hr, -⟩
    · exact .inr ⟨p, List.mem_cons_self, hd r hr⟩
    · exact .inl hr

/-- Steps about one path each. -/
theorem foldl {f : Progress → Path → Progress} (hf : ∀ s p, s.contents.Coherent →
      Confined [p] declares s.contents (f s p).contents) (ps : List Path) {s : Progress}
    (h : s.contents.Coherent) : Confined ps declares s.contents (ps.foldl f s).contents := by
  induction ps generalizing s with
  | nil => exact .refl h
  | cons p ps ih => exact (hf s p h).trans (ih (hf s p h).coherent)

end Confined

end Contents

namespace Progress

open Contents

variable {s : Progress}

theorem drop_confined (h : s.contents.Coherent) (p : Path) :
    Confined [p] (fun _ _ => False) s.contents (s.drop p).contents :=
  .of_moves (drop_moves h p) h (mayHold_none _ _) fun r hr => by cases hr

theorem readFound_confined (files : Files) (found : Snapshot) (h : s.contents.Coherent) (p : Path) :
    Confined [p] (ReadNow files found) s.contents (readFound files found s p).contents := by
  unfold readFound
  split
  · rename_i stamp hstamp
    obtain ⟨held, awaited, d, hcomes, hm⟩ := read_moves files h p stamp
    refine .of_moves hm h hcomes.mayHold ?_
    rintro r rfl
    cases hcomes with
    | held r hr hs => exact ⟨stamp, hstamp, hr⟩
  · exact ⟨h, fun _ _ => rfl, fun _ _ hr _ => hr, fun _ _ => .inl⟩

end Progress

namespace Contents

open Progress

variable {c : Contents} {S : Path → Prop} {T T₁ T₂ T₃ : PathTable FileReading} {w : Survey}
  {found : Snapshot} {p q : Path} {k : String}

/-! ## The paths that a refresh is about -/

/-- Nothing has happened to the file since the last scan, as far as its stamp tells. -/
def Untouched (c : Contents) (found : Snapshot) (p : Path) : Prop := get? found p = get? c.snapshot p

instance (c : Contents) (found : Snapshot) (p : Path) : Decidable (c.Untouched found p) :=
  inferInstanceAs (Decidable (get? found p = get? c.snapshot p))

theorem Untouched.congr (h : p.same q = true) (hp : c.Untouched found p) : c.Untouched found q := by
  rw [Untouched, ← PathTable.get?_congr _ h, ← PathTable.get?_congr _ h]
  exact hp

/-- There is reason to read the file: something has happened to it, or it waits. -/
def Concerns (c : Contents) (found : Snapshot) (p : Path) : Prop :=
  ¬ c.Untouched found p ∨ ∃ k, get? c.waiting p = some k

theorem Concerns.congr (h : p.same q = true) (hp : c.Concerns found p) : c.Concerns found q := by
  rw [Concerns, ← PathTable.get?_congr _ h]
  exact hp.imp_left fun hnot hq => hnot (hq.congr (Path.same_symm h))

theorem not_untouched_of_removed (hp : p ∈ (Snapshot.diff c.snapshot found).removed) :
    ¬ c.Untouched found p := by
  obtain ⟨hold, hnone⟩ := Snapshot.mem_removed.1 hp
  obtain ⟨stamp, hstamp⟩ := PathTable.has_iff.1 (PathTable.has_of_mem_paths hold)
  rw [Untouched, hnone, hstamp]
  exact (Option.some_ne_none _).symm

theorem not_untouched_of_added (hp : p ∈ (Snapshot.diff c.snapshot found).added) :
    ¬ c.Untouched found p := by
  obtain ⟨hnew, hnone⟩ := Snapshot.mem_added.1 hp
  obtain ⟨stamp, hstamp⟩ := PathTable.has_iff.1 (PathTable.has_of_mem_paths hnew)
  rw [Untouched, hnone, hstamp]
  exact Option.some_ne_none _

theorem not_untouched_of_changed (hordered : PathTable.Ordered found)
    (hp : p ∈ (Snapshot.diff c.snapshot found).changed) : ¬ c.Untouched found p := by
  obtain ⟨stamp, old, hmem, hold, hne⟩ := Snapshot.mem_changed.1 hp
  rw [Untouched, hordered.get?_of_mem hmem, hold]
  exact fun heq => hne (Option.some.inj heq).symm

theorem dropped_confined (h : c.Coherent) (scan : Scan) :
    Confined (Snapshot.diff c.snapshot scan.snapshot).removed (fun _ _ => False) c
      (c.dropped scan).contents :=
  .foldl (s := ⟨c, .zero, []⟩) (fun _ p hs => drop_confined hs p) _ h

/-- Reading files is about these files. -/
theorem foldl_readFound_confined (files : Files) (found : Snapshot) (ps : List Path) {s : Progress}
    (h : s.contents.Coherent) :
    Confined ps (ReadNow files found) s.contents (ps.foldl (readFound files found) s).contents :=
  .foldl (fun _ p hs => readFound_confined files found hs p) ps h

/-- The paths that a refresh is about, in the order of its stages. -/
def touched (c : Contents) (w : Survey) : List Path :=
  (Snapshot.diff c.snapshot w.scan.snapshot).removed ++
    (c.dropped w.scan).contents.queue (Snapshot.diff c.snapshot w.scan.snapshot) ++
    (c.reread w.files w.scan).contents.freed

namespace Stages

/-- The first two stages. -/
theorem reread_confined (h : Stages S w c T T₁ T₂ T₃) (hc : c.Coherent) :
    Confined ((Snapshot.diff c.snapshot w.scan.snapshot).removed ++
        (c.dropped w.scan).contents.queue (Snapshot.diff c.snapshot w.scan.snapshot))
      (ReadNow w.files w.scan.snapshot) c (c.reread w.files w.scan).contents :=
  ((dropped_confined hc w.scan).weaken fun _ _ _ hd => hd.elim).trans
    (foldl_readFound_confined _ _ _ h.dropped.coherent)

/-- The errors of the scan are about nothing but diagnostics. -/
theorem refresh_index (h : Stages S w c T T₁ T₂ T₃) :
    (c.refresh w.files w.scan).contents.index = (c.promoted w.files w.scan).contents.index :=
  (noteErrors_spec h.promoted.tracks.coherent w.scan.errors).1.index

/-- **What a refresh can change.** -/
theorem confined (h : Stages S w c T T₁ T₂ T₃) (hc : c.Coherent) :
    Confined (c.touched w) (ReadNow w.files w.scan.snapshot) c (c.refresh w.files w.scan).contents := by
  have hpromoted : Confined (c.touched w) (ReadNow w.files w.scan.snapshot) c
      (c.promoted w.files w.scan).contents := by
    refine (h.reread_confined hc).trans ?_
    rw [Contents.promoted, promote_eq w.files h.reread.tracks h.meets]
    exact foldl_readFound_confined _ _ _ h.reread.tracks.coherent
  have hwaiting : (c.refresh w.files w.scan).contents.waiting =
      (c.promoted w.files w.scan).contents.waiting :=
    (noteErrors_spec h.promoted.tracks.coherent w.scan.errors).1.waiting
  refine ⟨refresh_coherent hc w.files w.scan, ?_, ?_, ?_⟩
  · rw [hwaiting]; exact hpromoted.awaits
  · rw [h.refresh_index]; exact hpromoted.stays
  · rw [h.refresh_index]; exact hpromoted.came

/-- A refresh is about files that have changed and about files that waited. -/
theorem concerns (h : Stages S w c T T₁ T₂ T₃) (hc : c.Coherent)
    (hordered : PathTable.Ordered w.scan.snapshot) (hp : p ∈ c.touched w) :
    c.Concerns w.scan.snapshot p := by
  have hremoved : ∀ q ∈ (Snapshot.diff c.snapshot w.scan.snapshot).removed,
      c.Concerns w.scan.snapshot q := fun q hq => .inl (not_untouched_of_removed hq)
  have hqueue : ∀ q ∈ (c.dropped w.scan).contents.queue (Snapshot.diff c.snapshot w.scan.snapshot),
      c.Concerns w.scan.snapshot q := by
    intro q hq
    rcases List.mem_append.1 ((mem_distinct _).1 q hq) with hq | hq
    · rcases List.mem_append.1 hq with hq | hq
      · obtain ⟨k, hk, -⟩ := waits_of_mem_freed h.dropped.coherent hq
        rcases (dropped_confined hc w.scan).waited hk with ⟨r, hr, hs⟩ | hk
        · exact (hremoved r hr).congr hs
        · exact .inr ⟨k, hk⟩
      · exact .inl (not_untouched_of_added hq)
    · exact .inl (not_untouched_of_changed hordered hq)
  rcases List.mem_append.1 hp with hp | hp
  · rcases List.mem_append.1 hp with hp | hp
    · exact hremoved p hp
    · exact hqueue p hp
  · -- a file that waits for a name given up on the way
    obtain ⟨k, hk, -⟩ := waits_of_mem_freed h.reread.tracks.coherent hp
    rcases (h.reread_confined hc).waited hk with ⟨r, hr, hs⟩ | hk
    · rcases List.mem_append.1 hr with hr | hr
      · exact (hremoved r hr).congr hs
      · exact (hqueue r hr).congr hs
    · exact .inr ⟨k, hk⟩

/-- **A record stays** where nothing has happened to its file. -/
theorem stays (h : Stages S w c T T₁ T₂ T₃) (hT : Tracks S c T)
    (hordered : PathTable.Ordered w.scan.snapshot) {r : Record}
    (hr : c.index.records.get? k = some r) (hp : c.Untouched w.scan.snapshot r.path) :
    (c.refresh w.files w.scan).contents.index.records.get? k = some r := by
  refine (h.confined hT.coherent).stays k r hr fun q hq => Bool.eq_false_iff.2 fun hs => ?_
  rcases (h.concerns hT.coherent hordered hq).congr (Path.same_symm hs) with hnot | ⟨j, hj⟩
  · exact hnot hp
  · -- a file does not wait while it holds a name
    rw [hT.not_waits hr] at hj
    cases hj

/-- The last round of a refresh. -/
theorem refresh_record (h : Stages S w c T T₁ T₂ T₃) :
    (c.refresh w.files w.scan).contents.index =
      ((c.reread w.files w.scan).contents.freed.foldl (readFound w.files w.scan.snapshot)
        (c.reread w.files w.scan)).contents.index := by
  rw [h.refresh_index, Contents.promoted, promote_eq w.files h.reread.tracks h.meets]

/-- What is held after the queue was read stays to the end. -/
theorem reread_record (h : Stages S w c T T₁ T₂ T₃)
    (hr : (c.reread w.files w.scan).contents.index.records.get? k = some r) :
    (c.refresh w.files w.scan).contents.index.records.get? k = some r := by
  rw [h.refresh_record]
  exact (foldl_readFound_confined _ _ _ h.reread.tracks.coherent).stays k r hr fun p hp =>
    h.reread.tracks.not_freed hr hp

end Stages

end Contents

/-! ## Reading files for a name -/

namespace Progress

open Contents

variable {s : Progress} {files : Files} {found : Snapshot} {p q : Path} {k : String} {r r' : Record}

/-- A file that declares a free name takes it. -/
theorem readFound_takes (hc : s.contents.Coherent) (hfree : s.contents.index.records.get? k = none)
    (hr : ReadNow files found p r) (hkey : r.key = k) :
    (readFound files found s p).contents.index.records.get? k = some r := by
  obtain ⟨stamp, hstamp, hrec⟩ := hr
  rw [readFound_of_found s hstamp]
  obtain ⟨held, awaited, d, hcomes, hm⟩ := read_moves files hc p stamp
  cases hcomes with
  | rejected message hnone =>
    rw [hnone] at hrec
    cases hrec
  | held r' hr' hs =>
    obtain rfl := Option.some.inj (hr'.symm.trans hrec)
    rw [hm.record, Option.map_some, hkey, if_pos rfl]
  | deferred r' other hr' hother hs =>
    obtain rfl := Option.some.inj (hr'.symm.trans hrec)
    rw [hkey, hfree] at hother
    cases hother

/-- **The first of some files takes a free name**, of those that declare it. -/
theorem foldl_readFound_first (ps : List Path) (hps : ps.Pairwise fun p q => p.compareTo q = .lt)
    (hc : s.contents.Coherent) (hfree : s.contents.index.records.get? k = none) (hq : q ∈ ps)
    (hr : ReadNow files found q r) (hkey : r.key = k) :
    ∃ r', (ps.foldl (readFound files found) s).contents.index.records.get? k = some r' ∧
      r'.path ∈ ps ∧ r'.path.compareTo q ≠ .gt := by
  induction ps generalizing s with
  | nil => cases hq
  | cons p ps ih =>
    obtain ⟨hafter, hps⟩ := List.pairwise_cons.1 hps
    have hone := readFound_confined files found hc p
    rw [List.foldl_cons]
    cases hnext : (readFound files found s p).contents.index.records.get? k with
    | none =>
      rcases List.mem_cons.1 hq with rfl | hq
      · rw [readFound_takes hc hfree hr hkey] at hnext
        cases hnext
      · obtain ⟨r', hr', hmem, hle⟩ := ih hps hone.coherent hnext hq
        exact ⟨r', hr', List.mem_cons_of_mem _ hmem, hle⟩
    | some r₁ =>
      -- the first file takes the name, and no other one takes it away
      obtain rfl : r₁.path = p := by
        rcases hone.came k r₁ hnext with hold | ⟨p', hp', stamp, -, hrec⟩
        · rw [hfree] at hold
          cases hold
        · exact (FileReading.record?_path hrec).trans (List.mem_singleton.1 hp')
      refine ⟨r₁, (foldl_readFound_confined files found ps hone.coherent).stays k r₁ hnext
        fun q hq => Path.not_same_of_lt (hafter q hq), List.mem_cons_self, ?_⟩
      rcases List.mem_cons.1 hq with rfl | hq
      · rw [Path.compareTo_eq.2 (Path.same_refl _)]
        decide
      · rw [hafter q hq]
        decide

/-- A name that goes from one file to another goes to one that is read after the first. -/
theorem foldl_readFound_after (ps : List Path) (hc : s.contents.Coherent)
    (hr : s.contents.index.records.get? k = some r)
    (hr' : (ps.foldl (readFound files found) s).contents.index.records.get? k = some r')
    (hne : r.path.same r'.path = false) :
    ∃ before h after, ps = before ++ h :: after ∧ h.same r.path = true ∧ r'.path ∈ after := by
  induction ps generalizing s with
  | nil =>
    obtain rfl := Option.some.inj (hr.symm.trans hr')
    rw [Path.same_refl] at hne
    cases hne
  | cons p ps ih =>
    have hone := readFound_confined files found hc p
    by_cases hp : p.same r.path = true
    · -- the file that holds the name is read, and the others come after it
      refine ⟨[], p, ps, rfl, hp, ?_⟩
      rcases (foldl_readFound_confined files found ps hone.coherent).came k r' hr' with
        hnext | ⟨p', hp', stamp, -, hrec⟩
      · -- neither the record that was there nor one that this file declares
        rcases hone.came k r' hnext with hold | ⟨p', hp', stamp, -, hrec⟩
        · obtain rfl := Option.some.inj (hr.symm.trans hold)
          rw [Path.same_refl] at hne
          cases hne
        · have hpath : r'.path = p := (FileReading.record?_path hrec).trans (List.mem_singleton.1 hp')
          rw [hpath, Path.same_symm hp] at hne
          cases hne
      · obtain rfl : r'.path = p' := FileReading.record?_path hrec
        exact hp'
    · -- another file is read, which leaves the record where it is
      have hstays := hone.stays k r hr fun p' hp' => by
        rw [List.mem_singleton.1 hp', Path.same_comm]
        exact Bool.eq_false_iff.2 hp
      obtain ⟨before, h, after, rfl, hs, hafter⟩ := ih hone.coherent hstays hr'
      exact ⟨p :: before, h, after, rfl, hs, hafter⟩

end Progress

namespace Contents

/-! ## Queues -/

theorem distinct_eq {ps : List Path} (h : ps.Pairwise fun p q => p.same q = false) :
    distinct ps = ps := by
  induction ps using List.reverseRecOn with
  | nil => rfl
  | append_singleton ps p ih =>
    obtain ⟨hps, -, hlast⟩ := List.pairwise_append.1 h
    have hnew : ps.any (·.same p) = false := by
      simpa using fun q hq => hlast q hq p (List.mem_singleton_self p)
    rw [distinct_concat, ih hps, hnew, if_neg Bool.false_ne_true]

/-- Paths that differ come first in a queue, as they are. -/
theorem distinct_append {ps : List Path} (h : ps.Pairwise fun p q => p.same q = false) (qs : List Path) :
    ∃ rest, distinct (ps ++ qs) = ps ++ rest ∧ ∀ q ∈ rest, ∀ p ∈ ps, p.same q = false := by
  induction qs using List.reverseRecOn with
  | nil => exact ⟨[], by simpa using distinct_eq h, by simp⟩
  | append_singleton qs q ih =>
    obtain ⟨rest, heq, hrest⟩ := ih
    rw [← List.append_assoc, distinct_concat, heq]
    split
    · exact ⟨rest, rfl, hrest⟩
    · rename_i hnew
      refine ⟨rest ++ [q], List.append_assoc _ _ _, fun q' hq' p hp => ?_⟩
      rcases List.mem_append.1 hq' with hq' | hq'
      · exact hrest q' hq' p hp
      · obtain rfl := List.mem_singleton.1 hq'
        exact Bool.eq_false_iff.2 fun hs =>
          hnew (List.any_eq_true.2 ⟨p, List.mem_append_left _ hp, hs⟩)

theorem distinct_sublist (ps : List Path) : (distinct ps).Sublist ps := by
  induction ps using List.reverseRecOn with
  | nil => exact .slnil
  | append_singleton ps p ih =>
    rw [distinct_concat]
    split
    · exact ih.trans (List.sublist_append_left _ _)
    · exact ih.append (.refl _)

theorem sublist_of_not_mem {ps qs rest : List Path} (h : (p :: ps).Sublist (qs ++ rest)) (hp : p ∉ qs) :
    (p :: ps).Sublist rest := by
  induction qs with
  | nil => exact h
  | cons q qs ih =>
    have hne : p ≠ q := fun heq => hp (heq ▸ List.mem_cons_self)
    exact ih (h.of_cons_of_ne hne) fun hmem => hp (List.mem_cons_of_mem _ hmem)

end Contents

end TraitWeave
