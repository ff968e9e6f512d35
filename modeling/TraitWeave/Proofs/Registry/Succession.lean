import TraitWeave.Proofs.Registry.Frame
import TraitWeave.Proofs.Registry.Refinement

/-!
# Who takes a name that was given up

A file gives up its name while another one waits for it. After the same refresh the name is held again. Files
that have changed may take it before the one that waited; where the first file is gone, only files that waited
come into question.

* `Contents.Vacated`: a name is given up while a file waits for it.
* `Contents.Succession`: who holds the name afterwards.
* `Registry.followAll_succession`: a refresh at any time in any run.
* `Registry.WaitersFirst`: the name goes to a file that waited for it, which does not hold in general.
-/

namespace TraitWeave

open PathTable (get? paths)

namespace Survey

variable (w : Survey) (p : Path) (k : String)

theorem declares_iff : w.Declares p k ↔ p ∈ paths w.scan.snapshot ∧
    (Object.ofFile p (w.files.text p)).toOption.any (fun o => Name.normalize o.name == k) = true := by
  unfold Declares
  cases Object.ofFile p (w.files.text p) <;> simp [Except.toOption]

instance : Decidable (w.Declares p k) := decidable_of_iff' _ (w.declares_iff p k)

/-- A file declares a name, under whatever spelling it was found. -/
def Names : Prop := ∃ q ∈ paths w.scan.snapshot, q.same p = true ∧ w.Declares q k

instance : Decidable (w.Names p k) :=
  inferInstanceAs (Decidable (∃ q ∈ paths w.scan.snapshot, q.same p = true ∧ w.Declares q k))

end Survey

namespace Contents

/-- The file that holds the record of a name. -/
def holder? (c : Contents) (k : String) : Option Path := (c.index.get? k).map Record.path

/-- **A name is given up while a file waits for it.** The file `h` that holds it has changed and does not declare
it any more; a file that waits for it has not changed and still declares it. -/
structure Vacated (c : Contents) (w : Survey) (k : String) (h : Path) : Prop where
  held : c.holder? k = some h
  changed : ¬ c.Untouched w.scan.snapshot h
  given : ¬ w.Names h k
  waits : ∃ q, get? c.waiting q = some k ∧ c.Untouched w.scan.snapshot q ∧ w.Names q k

/-- **Who holds a name after it was given up** by `h`: the file `p`, which declares it. -/
structure Succession (c c' : Contents) (w : Survey) (k : String) (h p : Path) : Prop where
  holds : c'.holder? k = some p
  names : w.Names p k
  /-- It waited for the name, or it has changed, or it waited for another name which it declares no more. -/
  origin : get? c.waiting p = some k ∨ ¬ c.Untouched w.scan.snapshot p ∨
    ∃ j, j ≠ k ∧ get? c.waiting p = some j
  /-- If `h` is gone, it waited in any case, for a name of a file that is gone. -/
  gone : get? w.scan.snapshot h = none → ∃ j h', get? c.waiting p = some j ∧
    c.holder? j = some h' ∧ get? w.scan.snapshot h' = none
  /-- No file that waited for the name comes before it by its path, unless it has changed and comes after `h`,
  which has changed too. -/
  first : (get? w.scan.snapshot h ≠ none ∧ get? c.snapshot p ≠ none ∧
      ¬ c.Untouched w.scan.snapshot p ∧ h.compareTo p = .lt) ∨
    ∀ q, get? c.waiting q = some k → c.Untouched w.scan.snapshot q → w.Names q k → p.compareTo q ≠ .gt

end Contents

/-- **Files are told apart by the components of their paths**: a file has the same text under all spellings
that were met, and the snapshot lists the files in order. -/
structure Survey.Legible (S : Path → Prop) (w : Survey) : Prop where
  spelled : ∀ p, S p → ∀ q, S q → p.same q = true → w.files.text p = w.files.text q
  found : ∀ p ∈ paths w.scan.snapshot, S p
  ordered : PathTable.Ordered w.scan.snapshot

open Contents Progress

variable {S : Path → Prop} {w : Survey} {c c' : Contents} {T T' T₁ T₂ T₃ : PathTable FileReading}
  {k : String} {p q : Path} {r : Record}

/-! ## What files declare -/

theorem Survey.Names.congr (h : p.same q = true) : w.Names p k → w.Names q k := fun ⟨p', hp', hs, hn⟩ =>
  ⟨p', hp', Path.same_trans hs h, hn⟩

namespace Survey.Legible

/-- A record read now says what its file declares. -/
theorem names (hw : w.Legible S) (hp : S p) (hr : ReadNow w.files w.scan.snapshot p r) :
    w.Names r.path r.key := by
  obtain ⟨stamp, hstamp, hrec⟩ := hr
  rcases ho : Object.ofFile p (w.files.text p) with ps | o
  · rw [FileReading.record?_of_error _ ho] at hrec
    cases hrec
  · rw [FileReading.record?_of_ok _ ho] at hrec
    obtain rfl := Option.some.inj hrec
    obtain ⟨q, hq, hs⟩ := PathTable.exists_mem_of_get? hstamp
    have hq := List.mem_map_of_mem (f := Prod.fst) hq
    refine ⟨q, hq, hs, hq, o, ?_, (Record.of_key o p stamp).symm⟩
    rw [hw.spelled q (hw.found q hq) p hp hs]
    exact Object.ofFile_congr (Path.same_symm hs) ho

/-- A file that declares a name gives a record of that name when it is read. -/
theorem readNow (hw : w.Legible S) (hp : S p) (hn : w.Names p k) :
    ∃ r, ReadNow w.files w.scan.snapshot p r ∧ r.key = k := by
  obtain ⟨q, hq, hs, -, o, ho, hkey⟩ := hn
  obtain ⟨stamp, hstamp⟩ := PathTable.has_iff.1 (PathTable.has_of_mem_paths hq)
  rw [PathTable.get?_congr _ hs] at hstamp
  rw [hw.spelled q (hw.found q hq) p hp hs] at ho
  refine ⟨.of o p stamp, ⟨stamp, hstamp, FileReading.record?_of_ok _ (Object.ofFile_congr hs ho)⟩, ?_⟩
  rw [Record.of_key, hkey]

end Survey.Legible

/-- The record of a file that has changed says what the file declares now. -/
theorem Contents.Refreshes.names (h : Refreshes S w c c' T T') (hT : Steady S c T) (hw : w.Legible S)
    (hr : c'.index.records.get? k = some r) (hchanged : ¬ c.Untouched w.scan.snapshot r.path) :
    w.Names r.path k := by
  obtain ⟨ρ, hρ, hrec⟩ := h.tracks.of_record hr
  obtain ⟨hsame, hSρ⟩ := h.tracks.spelled _ ρ hρ
  have hmeet := h.meets r.path
  rw [Meets, hρ, Option.map_some] at hmeet
  rcases h.made _ ρ hρ with hold | hnow
  · -- an earlier reading has the stamp of the last scan
    have hbefore := hT.meets r.path
    rw [Meets, hold, Option.map_some] at hbefore
    exact absurd (hmeet.symm.trans hbefore) hchanged
  · rw [← h.tracks.coherent.keyed k r hr]
    refine hw.names hSρ ⟨ρ.stamp, ?_, hnow ▸ hrec⟩
    rw [PathTable.get?_congr _ hsame, hmeet]

/-! ## Reading files for a name -/

namespace Progress

variable {s : Progress}

/-- **The first of the files that wait for a free name takes it.** -/
theorem foldl_freed_first (hT : Tracks S s.contents T) (hw : w.Legible S)
    (hfree : s.contents.index.records.get? k = none) (hq : get? s.contents.waiting q = some k)
    (hn : w.Names q k) :
    ∃ r, (s.contents.freed.foldl (readFound w.files w.scan.snapshot) s).contents.index.records.get? k =
        some r ∧
      r.path ∈ s.contents.freed ∧ r.path.compareTo q ≠ .gt := by
  rcases awaited_freed hT q k hq with ⟨r, hr⟩ | ⟨p, hp, hs⟩
  · rw [hfree] at hr
    cases hr
  · obtain ⟨r, hr, hkey⟩ := hw.readNow (hT.waiting p (freed_waiting hp)) (hn.congr (Path.same_symm hs))
    obtain ⟨r', hr', hmem, hle⟩ :=
      foldl_readFound_first _ (freed_rising hT.coherent) hT.coherent hfree hp hr hkey
    refine ⟨r', hr', hmem, ?_⟩
    rwa [Path.compareTo_congr_right hs] at hle

end Progress

/-! ## The stages -/

namespace Contents

/-- After the files were read that waited for names of files that are gone. -/
def retried (files : Files) (c : Contents) (scan : Scan) : Progress :=
  (c.dropped scan).contents.freed.foldl (readFound files scan.snapshot) (c.dropped scan)

namespace Stages

/-- A file that the scan found is not among those that are gone. -/
theorem not_gone (hfound : get? w.scan.snapshot q ≠ none) :
    ∀ p ∈ (Snapshot.diff c.snapshot w.scan.snapshot).removed, p.same q = false := by
  refine fun p hp => Bool.eq_false_iff.2 fun hs => hfound ?_
  rw [← PathTable.get?_congr _ hs]
  exact (Snapshot.mem_removed.1 hp).2

/-- A file that was read and is left after the first stage was found. -/
theorem found_of_dropped (h : Stages S w c T T₁ T₂ T₃) (hT : Steady S c T) {ρ : FileReading}
    (hρ : get? T₁ q = some ρ) : get? w.scan.snapshot q ≠ none := by
  rw [h.gone] at hρ
  split at hρ
  · cases hρ
  · rename_i hany
    intro hnone
    have hmeet := hT.meets q
    rw [Meets, hρ] at hmeet
    obtain ⟨p, hp, hs⟩ := PathTable.exists_mem_of_get? hmeet.symm
    refine hany (List.any_eq_true.2 ⟨p, Snapshot.mem_removed.2 ⟨List.mem_map_of_mem hp, ?_⟩, hs⟩)
    rw [PathTable.get?_congr _ hs, hnone]

theorem found_of_freed (h : Stages S w c T T₁ T₂ T₃) (hT : Steady S c T)
    (hp : p ∈ (c.dropped w.scan).contents.freed) : get? w.scan.snapshot p ≠ none := by
  obtain ⟨j, hj, -⟩ := waits_of_mem_freed h.dropped.coherent hp
  obtain ⟨-, -, ρ, -, hρ, -⟩ := waits_of_tracks h.dropped hj
  exact h.found_of_dropped hT hρ

/-- The records that are left after the first stage are those of files that were found. -/
theorem dropped_record (h : Stages S w c T T₁ T₂ T₃) (hT : Steady S c T) :
    (c.dropped w.scan).contents.index.records.get? k = some r ↔
      c.index.records.get? k = some r ∧ get? w.scan.snapshot r.path ≠ none := by
  have hconfined := dropped_confined hT.tracks.coherent w.scan
  constructor
  · intro hr
    obtain ⟨ρ, hρ, -⟩ := h.dropped.of_record hr
    refine ⟨?_, h.found_of_dropped hT hρ⟩
    rcases hconfined.came k r hr with hr | ⟨_, -, hfalse⟩
    · exact hr
    · exact hfalse.elim
  · rintro ⟨hr, hfound⟩
    refine hconfined.stays k r hr fun p hp => ?_
    rw [Path.same_comm]
    exact not_gone hfound p hp

/-- A file that waits and has not changed waits on while the files that are gone are dropped. -/
theorem dropped_waits (hT : Steady S c T) (hq : get? c.waiting q = some k)
    (huntouched : c.Untouched w.scan.snapshot q) :
    get? (c.dropped w.scan).contents.waiting q = some k := by
  refine ((dropped_confined hT.tracks.coherent w.scan).awaits q fun p hp => ?_).trans hq
  exact Bool.eq_false_iff.2 fun hs =>
    not_untouched_of_removed hp (huntouched.congr (Path.same_symm hs))

/-- A file that waits when the files that are gone were dropped has waited for the name of such a file. -/
theorem dropped_freed (h : Stages S w c T T₁ T₂ T₃) (hT : Steady S c T)
    (hp : p ∈ (c.dropped w.scan).contents.freed) :
    ∃ j h', get? c.waiting p = some j ∧ c.holder? j = some h' ∧ get? w.scan.snapshot h' = none := by
  obtain ⟨j, hj, hfree⟩ := waits_of_mem_freed h.dropped.coherent hp
  obtain ⟨-, hnormal, -⟩ := waits_of_tracks h.dropped hj
  rw [(dropped_confined hT.tracks.coherent w.scan).awaits p (not_gone (h.found_of_freed hT hp))] at hj
  rcases hT.awaited p j hj with ⟨other, hother⟩ | ⟨_, hmem, -⟩
  · refine ⟨j, other.path, hj, ?_, ?_⟩
    · rw [holder?, Index.get?_eq _ hnormal, hother, Option.map_some]
    · by_contra hne
      rw [Index.has_eq _ hnormal, (h.dropped_record hT).2 ⟨hother, hne⟩] at hfree
      cases hfree
  · cases hmem

/-- The record of a file that waited for a name of a file that is gone, once it has taken the name, stays to
the end. -/
theorem retried_record (h : Stages S w c T T₁ T₂ T₃)
    (hp : r.path ∈ (c.dropped w.scan).contents.freed)
    (hr : (c.retried w.files w.scan).contents.index.records.get? k = some r) :
    (c.refresh w.files w.scan).contents.index.records.get? k = some r := by
  have hcoherent : (c.retried w.files w.scan).contents.Coherent :=
    (foldl_readFound_confined _ _ _ h.dropped.coherent).coherent
  -- the rest of the queue is about other files
  obtain ⟨rest, hqueue, hrest⟩ := distinct_append (freed_pairwise h.dropped.coherent)
    ((Snapshot.diff c.snapshot w.scan.snapshot).added ++ (Snapshot.diff c.snapshot w.scan.snapshot).changed)
  refine h.reread_record ?_
  rw [Contents.reread, queue, List.append_assoc, hqueue, List.foldl_append]
  exact (foldl_readFound_confined _ _ rest hcoherent).stays k r hr fun q hq => hrest q hq _ hp

/-! ## The name of a file that is gone -/

/-- **The name of a file that is gone** goes to the first of the files that waited for it, or to one before
them that waited for another such name. -/
theorem heir (h : Stages S w c T T₁ T₂ T₃) (hT : Steady S c T) (hw : w.Legible S)
    (hr : c.index.records.get? k = some r) (hgone : get? w.scan.snapshot r.path = none)
    (hq : get? c.waiting q = some k) (huntouched : c.Untouched w.scan.snapshot q) (hn : w.Names q k) :
    ∃ r', (c.refresh w.files w.scan).contents.index.records.get? k = some r' ∧
      r'.path ∈ (c.dropped w.scan).contents.freed ∧ r'.path.compareTo q ≠ .gt := by
  have hfree : (c.dropped w.scan).contents.index.records.get? k = none := by
    rw [Option.eq_none_iff_forall_ne_some]
    intro r' hr'
    obtain ⟨hr', hfound⟩ := (h.dropped_record hT).1 hr'
    obtain rfl := Option.some.inj (hr.symm.trans hr')
    exact hfound hgone
  obtain ⟨r', hr', hmem, hle⟩ := foldl_freed_first h.dropped hw hfree (dropped_waits hT hq huntouched) hn
  exact ⟨r', h.retried_record hmem hr', hmem, hle⟩

/-! ## The name of a file that has changed -/

/-- A name that another file took while the queue was read went to one that has changed and comes later. -/
theorem overtaken (h : Stages S w c T T₁ T₂ T₃) (hT : Steady S c T)
    (hordered : PathTable.Ordered w.scan.snapshot) {r' : Record}
    (hr : c.index.records.get? k = some r) (hfound : get? w.scan.snapshot r.path ≠ none)
    (hr' : (c.reread w.files w.scan).contents.index.records.get? k = some r')
    (hne : r.path.same r'.path = false) :
    get? c.snapshot r'.path ≠ none ∧ ¬ c.Untouched w.scan.snapshot r'.path ∧
      r.path.compareTo r'.path = .lt := by
  have hdropped := (h.dropped_record hT).2 ⟨hr, hfound⟩
  obtain ⟨before, p, after, hqueue, hs, hafter⟩ :=
    foldl_readFound_after _ h.dropped.coherent hdropped hr' hne
  -- the file that holds the name does not wait and is not new, so it and the rest have changed
  have hfreed : p ∉ (c.dropped w.scan).contents.freed := fun hp => by
    rw [Path.same_comm, h.dropped.not_freed hdropped hp] at hs
    cases hs
  have hadded : p ∉ (Snapshot.diff c.snapshot w.scan.snapshot).added := fun hp => by
    obtain ⟨ρ, hρ, -⟩ := hT.tracks.of_record hr
    have hmeet := hT.meets r.path
    rw [Meets, hρ, ← PathTable.get?_congr _ hs, (Snapshot.mem_added.1 hp).2] at hmeet
    cases hmeet
  have hsublist : (p :: after).Sublist ((c.dropped w.scan).contents.freed ++
      (Snapshot.diff c.snapshot w.scan.snapshot).added ++
      (Snapshot.diff c.snapshot w.scan.snapshot).changed) := by
    refine (List.sublist_append_right before _).trans ?_
    rw [← hqueue]
    exact distinct_sublist _
  have hchanged := sublist_of_not_mem hsublist fun hp => (List.mem_append.1 hp).elim hfreed hadded
  have hmem := hchanged.subset (List.mem_cons_of_mem _ hafter)
  obtain ⟨-, old, -, hold, -⟩ := Snapshot.mem_changed.1 hmem
  refine ⟨by rw [hold]; exact Option.some_ne_none _, not_untouched_of_changed hordered hmem, ?_⟩
  rw [← Path.compareTo_congr hs]
  exact (List.pairwise_cons.1 ((Snapshot.changed_rising hordered).sublist hchanged)).1 _ hafter

/-- A file that waits for a name of a file that was found, and has not changed, waits on until the queue was
read. -/
theorem reread_waits (h : Stages S w c T T₁ T₂ T₃) (hT : Steady S c T) (hw : w.Legible S)
    (hr : c.index.records.get? k = some r) (hfound : get? w.scan.snapshot r.path ≠ none)
    (hq : get? c.waiting q = some k) (huntouched : c.Untouched w.scan.snapshot q) :
    get? (c.reread w.files w.scan).contents.waiting q = some k := by
  have hwaits := dropped_waits hT hq huntouched
  refine ((foldl_readFound_confined _ _ _ h.dropped.coherent).awaits q fun p hp => ?_).trans hwaits
  refine Bool.eq_false_iff.2 fun hs => ?_
  have huntouched := huntouched.congr (Path.same_symm hs)
  rcases List.mem_append.1 ((mem_distinct _).1 p hp) with hp | hp
  · rcases List.mem_append.1 hp with hp | hp
    · -- the name is not free
      obtain ⟨j, hj, hfree⟩ := waits_of_mem_freed h.dropped.coherent hp
      rw [PathTable.get?_congr _ hs, hwaits] at hj
      obtain rfl := Option.some.inj hj
      rw [Index.has_eq _ (waits_of_tracks hT.tracks hq).2.1, (h.dropped_record hT).2 ⟨hr, hfound⟩] at hfree
      cases hfree
    · exact not_untouched_of_added hp huntouched
  · exact not_untouched_of_changed hw.ordered hp huntouched

/-- **A name that is free after the queue was read** goes to the first of the files that wait for it. -/
theorem promoted_first (h : Stages S w c T T₁ T₂ T₃) (hT : Steady S c T) (hw : w.Legible S)
    (hr : c.index.records.get? k = some r) (hfound : get? w.scan.snapshot r.path ≠ none)
    (hfree : (c.reread w.files w.scan).contents.index.records.get? k = none)
    (hq : get? c.waiting q = some k) (huntouched : c.Untouched w.scan.snapshot q) (hn : w.Names q k) :
    ∃ r', (c.refresh w.files w.scan).contents.index.records.get? k = some r' ∧
      r'.path.compareTo q ≠ .gt := by
  have hwaits := h.reread_waits hT hw hr hfound hq huntouched
  obtain ⟨r', hr', -, hle⟩ := foldl_freed_first h.reread.tracks hw hfree hwaits hn
  refine ⟨r', ?_, hle⟩
  rw [h.refresh_record]
  exact hr'

end Stages

/-! ## Succession -/

/-- A record of another file than before is one that its file declares now, and there was reason to read it. -/
theorem Stages.newcomer (h : Stages S w c T T₁ T₂ T₃) (hT : Steady S c T) (hw : w.Legible S)
    (hrefresh : Refreshes S w c (c.refresh w.files w.scan).contents T T')
    (hr : (c.refresh w.files w.scan).contents.index.records.get? k = some r)
    (hne : c.index.records.get? k ≠ some r) :
    w.Names r.path k ∧ c.Concerns w.scan.snapshot r.path := by
  rcases (h.confined hT.tracks.coherent).came k r hr with hold | ⟨p, hp, hread⟩
  · exact absurd hold hne
  · obtain ⟨ρ, hρ, hrec⟩ := hrefresh.tracks.of_record hr
    have hS : S r.path := FileReading.record?_path hrec ▸ (hrefresh.tracks.spelled _ ρ hρ).2
    -- the record was read on the way, and from its own file
    obtain rfl : r.path = p := let ⟨_, _, hrec⟩ := hread; FileReading.record?_path hrec
    rw [← hrefresh.tracks.coherent.keyed k r hr]
    exact ⟨hw.names hS hread, h.concerns hT.tracks.coherent hw.ordered hp⟩

/-- **The file that takes the name.** A file that is gone leaves it to one that waited for a name of such a
file. Else a file that has changed may take it, if it comes later; or else the first one that waits. -/
theorem Stages.successor (h : Stages S w c T T₁ T₂ T₃) (hT : Steady S c T) (hw : w.Legible S)
    (hr : c.index.records.get? k = some r)
    (hlost : ∀ r', (c.refresh w.files w.scan).contents.index.records.get? k = some r' →
      r.path.same r'.path = false)
    (hq : get? c.waiting q = some k) (huntouched : c.Untouched w.scan.snapshot q) (hn : w.Names q k) :
    ∃ r', (c.refresh w.files w.scan).contents.index.records.get? k = some r' ∧
      (get? w.scan.snapshot r.path = none → ∃ j h', get? c.waiting r'.path = some j ∧
        c.holder? j = some h' ∧ get? w.scan.snapshot h' = none) ∧
      ((get? w.scan.snapshot r.path ≠ none ∧ get? c.snapshot r'.path ≠ none ∧
          ¬ c.Untouched w.scan.snapshot r'.path ∧ r.path.compareTo r'.path = .lt) ∨
        ∀ q, get? c.waiting q = some k → c.Untouched w.scan.snapshot q → w.Names q k →
          r'.path.compareTo q ≠ .gt) := by
  by_cases hnone : get? w.scan.snapshot r.path = none
  · -- the name is free before the queue, so files that waited are read first
    obtain ⟨r', hr', hmem, -⟩ := h.heir hT hw hr hnone hq huntouched hn
    refine ⟨r', hr', fun _ => h.dropped_freed hT hmem, .inr fun q hq huntouched hn => ?_⟩
    obtain ⟨r'', hr'', -, hle⟩ := h.heir hT hw hr hnone hq huntouched hn
    obtain rfl := Option.some.inj (hr'.symm.trans hr'')
    exact hle
  · -- after the queue either a file of the queue has taken the name, or it is free for those that wait
    cases hreread : (c.reread w.files w.scan).contents.index.records.get? k with
    | some r' =>
      have hr' := h.reread_record hreread
      exact ⟨r', hr', fun hgone => absurd hgone hnone,
        .inl ⟨hnone, h.overtaken hT hw.ordered hr hnone hreread (hlost r' hr')⟩⟩
    | none =>
      obtain ⟨r', hr', -⟩ := h.promoted_first hT hw hr hnone hreread hq huntouched hn
      refine ⟨r', hr', fun hgone => absurd hgone hnone, .inr fun q hq huntouched hn => ?_⟩
      obtain ⟨r'', hr'', hle⟩ := h.promoted_first hT hw hr hnone hreread hq huntouched hn
      obtain rfl := Option.some.inj (hr'.symm.trans hr'')
      exact hle

/-- **A name that was given up while a file waits for it is held again** after the same refresh. -/
theorem refresh_succession (hT : Steady S c T) (hw : w.Legible S) {p : Path} (hp : c.Vacated w k p) :
    ∃ q, Succession c (c.refresh w.files w.scan).contents w k p q := by
  obtain ⟨q, hq, huntouched, hn⟩ := hp.waits
  obtain ⟨-, hnormal, -⟩ := waits_of_tracks hT.tracks hq
  obtain ⟨r, hr, rfl⟩ := Option.map_eq_some_iff.1 hp.held
  rw [Index.get?_eq _ hnormal] at hr
  obtain ⟨T₁, T₂, T₃, hstages⟩ := refresh_stages w hT.tracks hT.meets hT.spelled hw.found
  obtain ⟨T', hrefresh⟩ := refresh_tracks w hT.tracks hT.meets hT.spelled hw.found
  -- the file that held the name does not declare it any more
  have hlost : ∀ r', (c.refresh w.files w.scan).contents.index.records.get? k = some r' →
      r.path.same r'.path = false := by
    refine fun r' hr' => Bool.eq_false_iff.2 fun hs => hp.given ?_
    have hchanged : ¬ c.Untouched w.scan.snapshot r'.path := fun h =>
      hp.changed (h.congr (Path.same_symm hs))
    exact (hrefresh.names hT hw hr' hchanged).congr (Path.same_symm hs)
  -- so who holds it now has come to it in this refresh
  obtain ⟨r', hr', hgone, hfirst⟩ := hstages.successor hT hw hr hlost hq huntouched hn
  have hne : c.index.records.get? k ≠ some r' := fun hold => by
    obtain rfl := Option.some.inj (hr.symm.trans hold)
    exact absurd (Path.same_refl _) (Bool.eq_false_iff.1 (hlost _ hr'))
  obtain ⟨hnames, hconcerns⟩ := hstages.newcomer hT hw hrefresh hr' hne
  refine ⟨r'.path, ?_, hnames, ?_, hgone, hfirst⟩
  · rw [holder?, Index.get?_eq _ hnormal, hr', Option.map_some]
  · rcases hconcerns with hchanged | ⟨j, hj⟩
    · exact .inr (.inl hchanged)
    · by_cases hjk : j = k
      · exact .inl (hjk ▸ hj)
      · exact .inr (.inr ⟨j, hjk, hj⟩)

end Contents

namespace Registry

variable (options : RegistryOptions) (resolver : Resolver) (traitRoots : List Path)
  (foundation : Table Field)

/-- **In every run a name that is given up while a file waits for it is held again** after the same refresh. -/
theorem followAll_succession (ws : List Survey) (w : Survey) (h : w.Legible (· ∈ spellings (ws ++ [w]))) :
    let rg := (start options resolver traitRoots foundation).followAll ws
    ∀ k p, rg.contents.Vacated w k p →
      ∃ q, Succession rg.contents (rg.follow w).registry.contents w k p q := by
  intro rg k p hvacated
  obtain ⟨T, hT, -⟩ := followAll_steady options resolver traitRoots foundation
    (· ∈ spellings (ws ++ [w])) ws fun v hv => spellings_mem (List.mem_append_left _ hv)
  rw [follow_contents]
  exact refresh_succession hT h hvacated

theorem legible_of_spellings {ws : List Survey} {w : Survey}
    (hspelled : ∀ p ∈ spellings (ws ++ [w]), ∀ q ∈ spellings (ws ++ [w]), p.same q = true →
      w.files.text p = w.files.text q)
    (hordered : PathTable.Ordered w.scan.snapshot) : w.Legible (· ∈ spellings (ws ++ [w])) :=
  ⟨hspelled, spellings_mem (List.mem_append_right _ (List.mem_singleton_self w)), hordered⟩

theorem followAll_succession_survivor :
    let rg := (start (.ofRoots [⟨"objects"⟩]) ⟨none⟩ [] []).followAll [twins]
    survivor.Legible (· ∈ spellings ([twins] ++ [survivor])) ∧
      rg.contents.Vacated survivor "user" ⟨"objects/a.object.json"⟩ ∧
      Succession rg.contents (rg.follow survivor).registry.contents survivor "user"
        ⟨"objects/a.object.json"⟩ ⟨"objects/b.object.json"⟩ := by
  intro rg
  have hlegible : survivor.Legible (· ∈ spellings ([twins] ++ [survivor])) :=
    legible_of_spellings (by decide +kernel) (by unfold PathTable.Ordered; decide +kernel)
  -- what the run gives is evaluated once
  obtain ⟨hheld, hchanged, hgiven, hwaits, hb⟩ : rg.contents.holder? "user" = some ⟨"objects/a.object.json"⟩ ∧
      ¬ rg.contents.Untouched survivor.scan.snapshot ⟨"objects/a.object.json"⟩ ∧
      ¬ survivor.Names ⟨"objects/a.object.json"⟩ "user" ∧
      (get? rg.contents.waiting ⟨"objects/b.object.json"⟩ = some "user" ∧
        rg.contents.Untouched survivor.scan.snapshot ⟨"objects/b.object.json"⟩ ∧
        survivor.Names ⟨"objects/b.object.json"⟩ "user") ∧
      (rg.follow survivor).registry.contents.holder? "user" = some ⟨"objects/b.object.json"⟩ := by
    decide +kernel
  have hvacated : rg.contents.Vacated survivor "user" ⟨"objects/a.object.json"⟩ :=
    ⟨hheld, hchanged, hgiven, ⟨"objects/b.object.json"⟩, hwaits⟩
  obtain ⟨q, hq⟩ := followAll_succession _ _ _ _ [twins] survivor hlegible "user" _ hvacated
  obtain rfl := Option.some.inj (hq.holds.symm.trans hb)
  exact ⟨hlegible, hvacated, hq⟩

/-! ## Files that did not wait may come first -/

/-- A name that is given up while a file waits for it goes to a file that has waited for it. -/
def WaitersFirst (rg : Registry) (w : Survey) : Prop :=
  ∀ k p, rg.contents.Vacated w k p → ∃ q,
    (rg.follow w).registry.contents.holder? k = some q ∧ get? rg.contents.waiting q = some k

theorem not_waitersFirst_of {rg : Registry} {w : Survey} {k : String} {p q r : Path}
    (h : (rg.contents.holder? k = some p ∧ ¬ rg.contents.Untouched w.scan.snapshot p ∧ ¬ w.Names p k) ∧
      (get? rg.contents.waiting q = some k ∧ rg.contents.Untouched w.scan.snapshot q ∧ w.Names q k) ∧
      (rg.follow w).registry.contents.holder? k = some r ∧ get? rg.contents.waiting r ≠ some k) :
    ¬ rg.WaitersFirst w := by
  obtain ⟨⟨hheld, hchanged, hgiven⟩, hwaits, hnext, hnew⟩ := h
  intro hfirst
  obtain ⟨r, hr, hwaited⟩ := hfirst k p ⟨hheld, hchanged, hgiven, q, hwaits⟩
  obtain rfl := Option.some.inj (hnext.symm.trans hr)
  exact hnew hwaited

/-- Files that declare one name each, with the time of their last change. -/
def naming (files : PathTable (String × Nat)) : Survey where
  files := ⟨PathTable.has files, fun p =>
    match get? files p with
    | some (name, _) => .ok ("\x7b\"object\": \x7b\"name\": \"" ++ name ++ "\"\x7d\x7d")
    | none => .error "No such file or directory"⟩
  scan := ⟨files.map fun e => (e.1, ⟨e.2.2, 24 + e.2.1.utf8ByteSize⟩), []⟩

/-- Two files of one name. -/
def pair : Survey :=
  naming [(⟨"./b.object.json"⟩, "User", 1), (⟨"./c.object.json"⟩, "User", 1)]

/-- The one that holds the name has changed it, and there is a new file, which comes first by its path. -/
def pairLater : Survey :=
  naming [(⟨"./a.object.json"⟩, "User", 2), (⟨"./b.object.json"⟩, "Account", 2),
    (⟨"./c.object.json"⟩, "User", 1)]

/-- Two files of one name, and one of another. -/
def trio : Survey :=
  naming [(⟨"./a.object.json"⟩, "User", 1), (⟨"./b.object.json"⟩, "User", 1),
    (⟨"./c.object.json"⟩, "Account", 1)]

/-- The one that holds the name has changed it, and the third has changed to it. -/
def trioLater : Survey :=
  naming [(⟨"./a.object.json"⟩, "Invoice", 2), (⟨"./b.object.json"⟩, "User", 1),
    (⟨"./c.object.json"⟩, "User", 2)]

/-- Two files of each of two names. -/
def quartet : Survey :=
  naming [(⟨"./a.object.json"⟩, "Account", 1), (⟨"./b.object.json"⟩, "User", 1),
    (⟨"./c.object.json"⟩, "Account", 1), (⟨"./d.object.json"⟩, "User", 1)]

/-- Those that hold the names are gone, and one that waited for the first has changed to the second. -/
def quartetLater : Survey :=
  naming [(⟨"./c.object.json"⟩, "User", 2), (⟨"./d.object.json"⟩, "User", 1)]

theorem overtaken_pair :
    ¬ ((start (.ofRoots [⟨"."⟩]) ⟨none⟩ [] []).followAll [pair]).WaitersFirst pairLater :=
  not_waitersFirst_of (k := "user") (p := ⟨"./b.object.json"⟩) (q := ⟨"./c.object.json"⟩)
    (r := ⟨"./a.object.json"⟩) (by decide +kernel)

theorem overtaken_trio :
    ¬ ((start (.ofRoots [⟨"."⟩]) ⟨none⟩ [] []).followAll [trio]).WaitersFirst trioLater :=
  not_waitersFirst_of (k := "user") (p := ⟨"./a.object.json"⟩) (q := ⟨"./b.object.json"⟩)
    (r := ⟨"./c.object.json"⟩) (by decide +kernel)

theorem overtaken_quartet :
    ¬ ((start (.ofRoots [⟨"."⟩]) ⟨none⟩ [] []).followAll [quartet]).WaitersFirst quartetLater :=
  not_waitersFirst_of (k := "user") (p := ⟨"./b.object.json"⟩) (q := ⟨"./d.object.json"⟩)
    (r := ⟨"./c.object.json"⟩) (by decide +kernel)

/-- **Waiting files do not always come first**: a new file, one that has changed, and one that has waited for
another name take the name before the one that waits for it. -/
theorem not_waitersFirst :
    let rg (w : Survey) := (start (.ofRoots [⟨"."⟩]) ⟨none⟩ [] []).followAll [w]
    (pairLater.Legible (· ∈ spellings ([pair] ++ [pairLater])) ∧ ¬ (rg pair).WaitersFirst pairLater) ∧
      (trioLater.Legible (· ∈ spellings ([trio] ++ [trioLater])) ∧
        ¬ (rg trio).WaitersFirst trioLater) ∧
      (quartetLater.Legible (· ∈ spellings ([quartet] ++ [quartetLater])) ∧
        ¬ (rg quartet).WaitersFirst quartetLater) := by
  refine ⟨⟨legible_of_spellings (by decide +kernel) ?_, overtaken_pair⟩,
    ⟨legible_of_spellings (by decide +kernel) ?_, overtaken_trio⟩,
    legible_of_spellings (by decide +kernel) ?_, overtaken_quartet⟩
  all_goals unfold PathTable.Ordered; decide +kernel

end Registry

end TraitWeave
