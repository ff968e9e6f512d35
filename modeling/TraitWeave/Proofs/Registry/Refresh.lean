import TraitWeave.Proofs.Registry.Readings
import TraitWeave.Proofs.Registry.Snapshot
import Mathlib.Data.List.Induction

/-!
# What a refresh reads

A refresh reads what has changed since the last one, and files that wait for names which are free.

* `Contents.Rereads`: what reading some files does to the table of the last readings.
* `Progress.promote_eq`, `Progress.promote_rereads`: one round of promotions, after which no file waits for a
  free name.
* `Progress.noteErrors_spec`: what the errors of the scan do.
* `Contents.refresh_stages`, `Contents.refresh_tracks`: the stages of a refresh, and all of it.
* `Contents.Steady`: what is known of the contents between two refreshes.
-/

namespace TraitWeave

open PathTable (get? put erase paths)

namespace Contents

variable {c c' c'' : Contents} {S : Path → Prop} {T T' T'' : PathTable FileReading} {files : Files}
  {found : Snapshot}

/-! ## Readings of files -/

/-- Every path is known with the stamp that it has among the files found. -/
def Meets (found : Snapshot) (T : PathTable FileReading) (q : Path) : Prop :=
  (get? T q).map FileReading.stamp = get? found q

theorem Meets.congr {p q : Path} (h : p.same q = true) (hp : Meets found T p) :
    Meets found T q := by
  rw [Meets, ← PathTable.get?_congr _ h, ← PathTable.get?_congr _ h]
  exact hp

/-- **What reading some files does.** `T` and `T'` are the last readings before and after. -/
structure Rereads (S : Path → Prop) (files : Files) (found : Snapshot) (c c' : Contents)
    (T T' : PathTable FileReading) : Prop where
  tracks : Tracks S c' T'
  labels : Labels c T → Labels c' T'
  /-- Each reading is an earlier one, or it was made now, of a file that was found. -/
  made : ∀ q ρ, get? T' q = some ρ →
    get? T q = some ρ ∨ ρ = .of files ρ.path ρ.stamp ∧ get? found q = some ρ.stamp
  meets : ∀ q, Meets found T q → Meets found T' q

theorem Rereads.refl (h : Tracks S c T) : Rereads S files found c c T T :=
  ⟨h, id, fun _ _ => .inl, fun _ => id⟩

theorem Rereads.trans (h : Rereads S files found c c' T T')
    (h' : Rereads S files found c' c'' T' T'') :
    Rereads S files found c c'' T T'' where
  tracks := h'.tracks
  labels := h'.labels ∘ h.labels
  made q ρ hρ := by
    rcases h'.made q ρ hρ with hρ | hnow
    · exact h.made q ρ hρ
    · exact .inr hnow
  meets q := h'.meets q ∘ h.meets q

/-! ## Files that wait -/

/-- Every name for which a file waits is held, or the file is one of the list. -/
def Awaited (c : Contents) (ps : List Path) : Prop :=
  ∀ q k, get? c.waiting q = some k →
    (∃ r, c.index.records.get? k = some r) ∨ ∃ p ∈ ps, p.same q = true

/-- The files that wait for a free name come in the order of their paths. -/
theorem freed_rising (h : c.Coherent) : c.freed.Pairwise fun p q => p.compareTo q = .lt := by
  unfold freed
  rw [List.pairwise_map]
  exact h.waiting.filter _

theorem freed_pairwise (h : c.Coherent) : c.freed.Pairwise fun p q => p.same q = false :=
  (freed_rising h).imp Path.not_same_of_lt

/-- A file that waits holds nothing, and declared the name when it was read. -/
theorem waits_of_tracks (h : Tracks S c T) {q : Path} {k : String}
    (hk : get? c.waiting q = some k) :
    get? c.holders q = none ∧ Name.normalize k = k ∧
      ∃ ρ r, get? T q = some ρ ∧ ρ.record? = some r ∧ r.key = k := by
  have hstands := h.stands q
  cases hρ : get? T q with
  | none =>
    rw [hρ] at hstands
    rw [hstands.2] at hk
    cases hk
  | some ρ =>
    rw [hρ, Option.bind_some] at hstands
    cases hr : ρ.record? with
    | none =>
      rw [hr] at hstands
      rw [hstands.2] at hk
      cases hk
    | some r =>
      rw [hr] at hstands
      rcases hstands with ⟨-, -, hw⟩ | ⟨hholder, hw⟩
      -- one that holds its record does not wait
      · rw [hw] at hk
        cases hk
      · obtain rfl := Option.some.inj (hw.symm.trans hk)
        exact ⟨hholder, r.normalize_key, ρ, r, rfl, hr, rfl⟩

theorem freed_waiting {p : Path} (hp : p ∈ c.freed) : p ∈ paths c.waiting := by
  obtain ⟨e, he, rfl⟩ := List.mem_map.1 hp
  exact List.mem_map_of_mem (List.mem_of_mem_filter he)

theorem awaited_freed (h : Tracks S c T) : Awaited c c.freed := by
  intro q k hk
  obtain ⟨-, hnormal, -⟩ := waits_of_tracks h hk
  by_cases hhas : c.index.has k = true
  · rw [Index.has_eq _ hnormal] at hhas
    exact .inl (Option.isSome_iff_exists.1 hhas)
  · obtain ⟨p, hp, hs⟩ := PathTable.exists_mem_of_get? hk
    refine .inr ⟨p, List.mem_map.2 ⟨(p, k), List.mem_filter.2 ⟨hp, ?_⟩, rfl⟩, hs⟩
    simpa using hhas

theorem waits_of_mem_freed (h : c.Coherent) {p : Path} (hp : p ∈ c.freed) :
    ∃ k, get? c.waiting p = some k ∧ c.index.has k = false := by
  obtain ⟨⟨q, k⟩, hq, rfl⟩ := List.mem_map.1 hp
  obtain ⟨hq, hfree⟩ := List.mem_filter.1 hq
  exact ⟨k, h.waiting.get?_of_mem hq, by simpa using hfree⟩

/-- A file that holds a record does not wait. -/
theorem Tracks.not_waits (h : Tracks S c T) {k : String} {r : Record}
    (hr : c.index.records.get? k = some r) : get? c.waiting r.path = none := by
  rw [Option.eq_none_iff_forall_ne_some]
  intro j hj
  have hholds := h.coherent.holds hr
  rw [(waits_of_tracks h hj).1] at hholds
  cases hholds

theorem Tracks.not_freed (h : Tracks S c T) {k : String} {r : Record} {p : Path}
    (hr : c.index.records.get? k = some r) (hp : p ∈ c.freed) : r.path.same p = false := by
  refine Bool.eq_false_iff.2 fun hs => ?_
  obtain ⟨j, hj, -⟩ := waits_of_mem_freed h.coherent hp
  rw [← PathTable.get?_congr _ hs, h.not_waits hr] at hj
  cases hj

/-- No file waits for a free name where every name for which one waits is held. -/
theorem freed_eq_nil (h : Tracks S c T) (ha : Awaited c []) : c.freed = [] := by
  rw [List.eq_nil_iff_forall_not_mem]
  intro p hp
  obtain ⟨k, hk, hfree⟩ := waits_of_mem_freed h.coherent hp
  obtain ⟨-, hnormal, -⟩ := waits_of_tracks h hk
  rcases ha p k hk with ⟨r, hr⟩ | ⟨q, hq, -⟩
  · simp [Index.has_eq _ hnormal, hr] at hfree
  · cases hq

/-! ## Errors of the scan -/

/-- Only the diagnostics change, and these stay in order. -/
structure Relabels (c c' : Contents) : Prop where
  index : c'.index = c.index
  snapshot : c'.snapshot = c.snapshot
  holders : c'.holders = c.holders
  waiting : c'.waiting = c.waiting
  diagnostics : PathTable.Ordered c.diagnostics → PathTable.Ordered c'.diagnostics

theorem Relabels.trans (h : Relabels c c') (h' : Relabels c' c'') :
    Relabels c c'' :=
  ⟨h'.index.trans h.index, h'.snapshot.trans h.snapshot, h'.holders.trans h.holders,
    h'.waiting.trans h.waiting, h'.diagnostics ∘ h.diagnostics⟩

theorem Relabels.tracks (h : Relabels c c') (hT : Tracks S c T) : Tracks S c' T where
  coherent :=
    ⟨by rw [h.index]; exact hT.coherent.keyed, by rw [h.index, h.holders]; exact hT.coherent.holder,
      by rw [h.index]; exact hT.coherent.rising, by rw [h.waiting]; exact hT.coherent.waiting,
      h.diagnostics hT.coherent.diagnostics⟩
  stands p := by
    have hstands := hT.stands p
    unfold Stands at hstands ⊢
    rw [h.index, h.holders, h.waiting]
    exact hstands
  spelled := hT.spelled
  waiting := by rw [h.waiting]; exact hT.waiting

theorem Relabels.awaited (h : Relabels c c') {ps : List Path} (ha : Awaited c ps) :
    Awaited c' ps := by
  unfold Awaited
  rw [h.index, h.waiting]
  exact ha

/-- There is an error of the scan on the path. -/
def Unscanned (c : Contents) (q : Path) : Prop :=
  ∃ d, get? c.diagnostics q = some d ∧ d.kind = .unscanned

/-- There is an error of the scan on the path, with its message. -/
def Reports (c : Contents) (q : Path) (message : String) : Prop :=
  ∃ d, get? c.diagnostics q = some d ∧ d.kind = .unscanned ∧ d.message = message

theorem Reports.unscanned {q : Path} {message : String} (h : Reports c q message) : Unscanned c q :=
  let ⟨d, hd, hkind, _⟩ := h
  ⟨d, hd, hkind⟩

end Contents

namespace Progress

open Contents

variable {s : Progress} {p : Path} {S : Path → Prop} {T : PathTable FileReading} {files : Files}
  {found : Snapshot}

/-! ## Reading files -/

/-- A file that was found is read. -/
theorem read_rereads (files : Files) (h : Tracks S s.contents T) (hp : S p) {stamp : Stamp}
    (hfound : get? found p = some stamp) :
    Rereads S files found s.contents (s.read files p stamp).contents T (put T p (.of files p stamp)) ∧
      Meets found (put T p (.of files p stamp)) p := by
  obtain ⟨htracks, hlabels⟩ := read_tracks files h hp stamp
  have hmeets : ∀ q, p.same q = true → Meets found (put T p (.of files p stamp)) q := by
    intro q hq
    rw [Meets, PathTable.get?_put, if_pos hq, ← PathTable.get?_congr _ hq, hfound]
    rfl
  refine ⟨⟨htracks, hlabels, fun q ρ hρ => ?_, fun q hq => ?_⟩, hmeets p (Path.same_refl p)⟩
  · rw [PathTable.get?_put] at hρ
    split at hρ
    · rename_i hq
      obtain rfl := Option.some.inj hρ
      exact .inr ⟨rfl, by rw [← PathTable.get?_congr _ hq, hfound]; rfl⟩
    · exact .inl hρ
  · by_cases hpq : p.same q = true
    · exact hmeets q hpq
    · rw [Meets, PathTable.get?_put, if_neg hpq]
      exact hq

theorem readFound_of_found (s : Progress) {stamp : Stamp} (h : get? found p = some stamp) :
    readFound files found s p = s.read files p stamp := by
  unfold readFound; rw [h]

theorem readFreed_of_found (s : Progress) {stamp : Stamp} (h : get? found p = some stamp) :
    readFreed files found s p = s.read files p stamp := by
  unfold readFreed; rw [h]

/-- Files that are there are read in the same way whether they waited or not. -/
theorem foldl_readFreed_eq (files : Files) (s : Progress) {ps : List Path}
    (h : ∀ p ∈ ps, get? found p ≠ none) :
    ps.foldl (readFreed files found) s = ps.foldl (readFound files found) s :=
  List.foldl_ext _ _ s fun s p hp => by
    obtain ⟨stamp, hstamp⟩ := Option.ne_none_iff_exists'.1 (h p hp)
    rw [readFreed_of_found s hstamp, readFound_of_found s hstamp]

/-- Reading the files of a list that were found: each of them is known with its stamp afterwards. -/
theorem foldl_readFound (files : Files) (found : Snapshot) (ps : List Path) (hps : ∀ p ∈ ps, S p)
    (h : Tracks S s.contents T) :
    ∃ T', Rereads S files found s.contents (ps.foldl (readFound files found) s).contents T T' ∧
      ∀ p ∈ ps, get? found p ≠ none → Meets found T' p := by
  induction ps generalizing s T with
  | nil => exact ⟨T, .refl h, by simp⟩
  | cons p ps ih =>
    have hp := hps p List.mem_cons_self
    have hps : ∀ q ∈ ps, S q := fun q hq => hps q (List.mem_cons_of_mem _ hq)
    rw [List.foldl_cons]
    unfold readFound
    cases hfound : get? found p with
    | none =>
      obtain ⟨T', hrest, hmeets⟩ := ih hps h
      refine ⟨T', hrest, fun q hq hne => ?_⟩
      rcases List.mem_cons.1 hq with rfl | hq
      · exact absurd hfound hne
      · exact hmeets q hq hne
    | some stamp =>
      obtain ⟨hone, hmeet⟩ := read_rereads files h hp hfound
      -- once known with its stamp, a file stays so while the others are read
      obtain ⟨T', hrest, hmeets⟩ := ih hps hone.tracks
      refine ⟨T', hone.trans hrest, fun q hq hne => ?_⟩
      rcases List.mem_cons.1 hq with rfl | hq
      · exact hrest.meets q hmeet
      · exact hmeets q hq hne

/-- Reading files that wait and are there. None of them gives up a name, so afterwards each holds the name
for which it waited, or waits for a name that is held. -/
theorem foldl_waiting (files : Files) (ps : List Path) (hps : ps.Pairwise fun p q => p.same q = false)
    (hwaits : ∀ p ∈ ps, ∃ k, get? s.contents.waiting p = some k) (ha : Awaited s.contents ps)
    (h : Tracks S s.contents T) (hspelled : ∀ p ∈ ps, S p) (hfound : ∀ p ∈ ps, get? found p ≠ none) :
    ∃ T', Rereads S files found s.contents (ps.foldl (readFound files found) s).contents T T' ∧
      Awaited (ps.foldl (readFound files found) s).contents [] := by
  induction ps generalizing s T with
  | nil => exact ⟨T, .refl h, ha⟩
  | cons p ps ih =>
    obtain ⟨hne, hps⟩ := List.pairwise_cons.1 hps
    obtain ⟨k, hk⟩ := hwaits p List.mem_cons_self
    obtain ⟨hholder, -, -⟩ := waits_of_tracks h hk
    obtain ⟨stamp, hstamp⟩ := Option.ne_none_iff_exists'.1 (hfound p List.mem_cons_self)
    obtain ⟨hone, -⟩ := read_rereads files h (hspelled p List.mem_cons_self) hstamp
    obtain ⟨held, awaited, d, hcomes, hm⟩ := read_moves files h.coherent p stamp
    -- reading one file leaves the others waiting
    have hwaits' : ∀ q ∈ ps, ∃ k, get? (s.read files p stamp).contents.waiting q = some k := by
      intro q hq
      rw [hm.awaits, hne q hq, if_neg Bool.false_ne_true]
      exact hwaits q (List.mem_cons_of_mem _ hq)
    have ha' : Awaited (s.read files p stamp).contents ps := by
      intro q j hj
      rw [hm.awaits] at hj
      split at hj
      · exact .inl (hcomes.awaited_named hm h.coherent hj)
      · rename_i hpq
        -- the file held nothing, so every name that was held still is
        rcases ha q j hj with hnamed | ⟨p', hp', hs⟩
        · exact .inl (hm.named hholder hnamed)
        · rcases List.mem_cons.1 hp' with rfl | hp'
          · exact absurd hs hpq
          · exact .inr ⟨p', hp', hs⟩
    rw [List.foldl_cons, readFound_of_found s hstamp]
    obtain ⟨T', hrest, hlast⟩ := ih hps hwaits' ha' hone.tracks
      (fun q hq => hspelled q (List.mem_cons_of_mem _ hq))
      fun q hq => hfound q (List.mem_cons_of_mem _ hq)
    exact ⟨T', hone.trans hrest, hlast⟩

/-- The files that wait for free names take these names, as far as they are there. -/
theorem foldl_freed (files : Files) (h : Tracks S s.contents T)
    (hfound : ∀ p ∈ s.contents.freed, get? found p ≠ none) :
    ∃ T', Rereads S files found s.contents
        (s.contents.freed.foldl (readFound files found) s).contents T T' ∧
      Awaited (s.contents.freed.foldl (readFound files found) s).contents [] :=
  foldl_waiting files _ (freed_pairwise h.coherent)
    (fun _ hp => (waits_of_mem_freed h.coherent hp).imp fun _ => And.left) (awaited_freed h) h
    (fun _ hp => h.waiting _ (freed_waiting hp)) hfound

theorem promote_of_freed (files : Files) (found : Snapshot) (h : s.contents.freed = []) :
    s.promote files found = s := by
  rw [promote, h]

/-- A file that waits is there where the table says what the scan says. -/
theorem found_of_freed (h : Tracks S s.contents T) (hmeets : ∀ q, Meets found T q) :
    ∀ p ∈ s.contents.freed, get? found p ≠ none := by
  intro p hp
  obtain ⟨k, hk, -⟩ := waits_of_mem_freed h.coherent hp
  obtain ⟨-, -, ρ, -, hρ, -⟩ := waits_of_tracks h hk
  rw [← hmeets p, hρ]
  exact Option.some_ne_none _

/-- **One round is enough**: it leaves no file that waits for a free name. -/
theorem promote_eq (files : Files) (h : Tracks S s.contents T) (hmeets : ∀ q, Meets found T q) :
    s.promote files found = s.contents.freed.foldl (readFound files found) s := by
  have hfound := found_of_freed h hmeets
  obtain ⟨T', hfold, ha⟩ := foldl_freed files h hfound
  have hstop := freed_eq_nil hfold.tracks ha
  have heq := foldl_readFreed_eq files s hfound
  rw [promote]
  split
  · rename_i hfree; rw [hfree]; rfl
  · dsimp only
    rw [heq]
    split
    · exact promote_of_freed files found hstop
    · rfl

/-- **No file is left waiting for a free name.** -/
theorem promote_rereads (files : Files) (h : Tracks S s.contents T) (hmeets : ∀ q, Meets found T q) :
    ∃ T', Rereads S files found s.contents (s.promote files found).contents T T' ∧
      Awaited (s.promote files found).contents [] := by
  rw [promote_eq files h hmeets]
  exact foldl_freed files h (found_of_freed h hmeets)

/-! ## Noting errors -/

theorem noteError_relabels (s : Progress) (p : Path) (message : String) :
    Relabels s.contents (s.noteError p message).contents := by
  unfold noteError
  dsimp only
  split
  · exact ⟨rfl, rfl, rfl, rfl, id⟩
  · exact ⟨rfl, rfl, rfl, rfl, fun h => h.put _ _⟩

theorem noteError_other (s : Progress) (message : String) {q : Path} (hq : p.same q = false) :
    get? (s.noteError p message).contents.diagnostics q = get? s.contents.diagnostics q := by
  unfold noteError
  dsimp only
  split
  · rfl
  · refine (PathTable.get?_put _ _ _ _).trans ?_
    simp [Diagnostic.ofScan, hq]

theorem noteError_self (s : Progress) (message : String) {q : Path} (hq : p.same q = true) :
    Reports (s.noteError p message).contents q message := by
  unfold noteError Reports
  dsimp only
  split
  · rename_i hknown
    cases hold : get? s.contents.diagnostics p with
    | none => simp [hold] at hknown
    | some old =>
      simp only [hold, Option.map_some, Option.getD_some, Bool.and_eq_true, beq_iff_eq] at hknown
      exact ⟨old, by rw [← PathTable.get?_congr _ hq, hold], hknown⟩
  · refine ⟨.ofScan p message, (PathTable.get?_put _ _ _ _).trans ?_, rfl, rfl⟩
    simp [Diagnostic.ofScan, hq]

theorem foldl_noteError (s : Progress) (errors : List (Path × String)) (q : Path) :
    let s' := errors.foldl (fun s e => s.noteError e.1 e.2) s
    Relabels s.contents s'.contents ∧
      ((∃ e ∈ errors, e.1.same q = true) ∨ Unscanned s.contents q → Unscanned s'.contents q) ∧
      ((∀ e ∈ errors, e.1.same q = false) →
        get? s'.contents.diagnostics q = get? s.contents.diagnostics q) := by
  induction errors generalizing s with
  | nil => exact ⟨⟨rfl, rfl, rfl, rfl, id⟩, by simp, fun _ => rfl⟩
  | cons e errors ih =>
    obtain ⟨hrelabels, hself, hother⟩ := ih (s.noteError e.1 e.2)
    refine ⟨(noteError_relabels s e.1 e.2).trans hrelabels, fun h => hself ?_, fun h => ?_⟩
    · by_cases he : e.1.same q = true
      · exact .inr (noteError_self s e.2 he).unscanned
      · rcases h with ⟨f, hf, hs⟩ | ⟨d, hd, hkind⟩
        · rcases List.mem_cons.1 hf with rfl | hf
          · exact absurd hs he
          · exact .inl ⟨f, hf, hs⟩
        · refine .inr ⟨d, ?_, hkind⟩
          rw [noteError_other s e.2 (by simpa using he)]
          exact hd
    · refine (hother fun f hf => h f (List.mem_cons_of_mem _ hf)).trans ?_
      exact noteError_other s e.2 (h e List.mem_cons_self)

/-- **The errors of the scan** are on the paths where it had them, and nothing else is said anew. -/
theorem noteErrors_spec (hs : s.contents.Coherent) (errors : List (Path × String)) :
    Relabels s.contents (s.noteErrors errors).contents ∧ ∀ q,
      ((∃ e ∈ errors, e.1.same q = true) → Unscanned (s.noteErrors errors).contents q) ∧
      ((∀ e ∈ errors, e.1.same q = false) →
        get? (s.noteErrors errors).contents.diagnostics q =
          (get? s.contents.diagnostics q).filter fun d => d.kind != .unscanned) := by
  have hforget : Relabels s.contents (s.forgetErrors errors).contents :=
    ⟨rfl, rfl, rfl, rfl, fun h => h.filter _⟩
  refine ⟨hforget.trans (foldl_noteError (s.forgetErrors errors) errors ⟨""⟩).1, fun q => ?_⟩
  obtain ⟨-, hself, hother⟩ := foldl_noteError (s.forgetErrors errors) errors q
  refine ⟨fun h => hself (.inl h), fun h => (hother h).trans ?_⟩
  refine (hs.diagnostics.get?_filter _ fun e _ he => ?_).trans ?_
  · simp only [Path.same_congr_right he]
  · have hnone : (errors.any fun f => f.1.same q) = false := by simpa using h
    simp only [hnone, Bool.or_false]

/-- There is an error on a path just where the scan had one. -/
theorem unscanned_noteErrors (hs : s.contents.Coherent) (errors : List (Path × String)) (q : Path) :
    Unscanned (s.noteErrors errors).contents q ↔ ∃ e ∈ errors, e.1.same q = true := by
  obtain ⟨hself, hother⟩ := (noteErrors_spec hs errors).2 q
  refine ⟨?_, hself⟩
  rintro ⟨d, hd, hkind⟩
  by_contra hq
  rw [hother fun e he => Bool.eq_false_iff.2 fun hs => hq ⟨e, he, hs⟩, Option.filter_eq_some_iff,
    hkind] at hd
  exact absurd hd.2 (by decide)

end Progress

/-! ## What has changed -/

namespace Contents

open Progress

variable {S : Path → Prop} {T : PathTable FileReading} {found previous : Snapshot}

theorem distinct_concat (ps : List Path) (p : Path) :
    distinct (ps ++ [p]) =
      if (distinct ps).any (·.same p) then distinct ps else distinct ps ++ [p] := by
  simp [distinct]

theorem mem_distinct (ps : List Path) :
    (∀ p ∈ distinct ps, p ∈ ps) ∧ ∀ p ∈ ps, ∃ q ∈ distinct ps, q.same p = true := by
  induction ps using List.reverseRecOn with
  | nil => simp [distinct]
  | append_singleton ps p ih =>
    obtain ⟨hsub, hall⟩ := ih
    rw [distinct_concat]
    split
    · rename_i hany
      refine ⟨fun q hq => List.mem_append_left _ (hsub q hq), fun q hq => ?_⟩
      rcases List.mem_append.1 hq with hq | hq
      · exact hall q hq
      -- left out, since another spelling of it is there
      · obtain rfl := List.mem_singleton.1 hq
        exact List.any_eq_true.1 hany
    · refine ⟨fun q hq => ?_, fun q hq => ?_⟩
      · rcases List.mem_append.1 hq with hq | hq
        · exact List.mem_append_left _ (hsub q hq)
        · exact List.mem_append_right _ hq
      · rcases List.mem_append.1 hq with hq | hq
        · obtain ⟨r, hr, hs⟩ := hall q hq
          exact ⟨r, List.mem_append_left _ hr, hs⟩
        · obtain rfl := List.mem_singleton.1 hq
          exact ⟨q, List.mem_append_right _ hq, Path.same_refl q⟩

theorem foldl_drop {s : Progress} (ps : List Path) (hps : ∀ p ∈ ps, S p)
    (h : Tracks S s.contents T) :
    Tracks S (ps.foldl drop s).contents (ps.foldl erase T) ∧
      (Labels s.contents T → Labels (ps.foldl drop s).contents (ps.foldl erase T)) := by
  induction ps generalizing s T with
  | nil => exact ⟨h, id⟩
  | cons p ps ih =>
    obtain ⟨hone, hlabels⟩ := drop_tracks h (hps p List.mem_cons_self)
    obtain ⟨hrest, hlabels'⟩ := ih (fun q hq => hps q (List.mem_cons_of_mem _ hq)) hone
    exact ⟨hrest, hlabels' ∘ hlabels⟩

/-- A path of which the table says what the last scan said is dropped, or has to be read, or has not
changed. -/
theorem meets_or_mem_diff (hT : ∀ q, Meets previous T q) (q : Path) :
    Meets found ((Snapshot.diff previous found).removed.foldl erase T) q ∨
      ∃ p, (p ∈ (Snapshot.diff previous found).added ∨ p ∈ (Snapshot.diff previous found).changed) ∧
        p.same q = true ∧ get? found p ≠ none := by
  have hq := hT q
  cases hfound : get? found q with
  | none =>
    -- the file is gone, so its path was dropped
    left
    rw [Meets, PathTable.get?_foldl_erase, hfound]
    split
    · rfl
    · rename_i hany
      cases hold : get? previous q with
      | none => rw [Meets, hold] at hq; exact hq
      | some stamp =>
        obtain ⟨p, hp, hs⟩ := PathTable.exists_mem_of_get? hold
        refine absurd (List.any_eq_true.2 ⟨p, Snapshot.mem_removed.2 ⟨List.mem_map_of_mem hp, ?_⟩, hs⟩) hany
        rw [PathTable.get?_congr _ hs, hfound]
  | some stamp =>
    -- the file is new, or its stamp is another one, or nothing has happened to it
    obtain ⟨p, hp, hs⟩ := PathTable.exists_mem_of_get? hfound
    have hne : get? found p ≠ none := by
      rw [PathTable.get?_congr _ hs, hfound]; simp
    cases hold : get? previous q with
    | none =>
      refine .inr ⟨p, .inl (Snapshot.mem_added.2 ⟨List.mem_map_of_mem hp, ?_⟩), hs, hne⟩
      rw [PathTable.get?_congr _ hs, hold]
    | some old =>
      by_cases hsame : old = stamp
      · subst hsame
        left
        have hstays : ((Snapshot.diff previous found).removed.any (·.same q)) = false := by
          rw [List.any_eq_false]
          intro r hr hrq
          have hgone := (Snapshot.mem_removed.1 hr).2
          rw [PathTable.get?_congr _ hrq, hfound] at hgone
          cases hgone
        rw [Meets, PathTable.get?_foldl_erase, hstays, if_neg Bool.false_ne_true, hq, hold, hfound]
      · refine .inr ⟨p, .inr (Snapshot.mem_changed.2 ⟨stamp, old, hp, ?_, hsame⟩), hs, hne⟩
        rw [PathTable.get?_congr _ hs, hold]

/-! ## The stages of a refresh -/

section Stages

variable (files : Files) (c : Contents) (scan : Scan)

/-- After the files that are gone were dropped. -/
def dropped : Progress :=
  (Snapshot.diff c.snapshot scan.snapshot).removed.foldl drop ⟨c, .zero, []⟩

/-- After the files of the queue were read. -/
def reread : Progress :=
  ((c.dropped scan).contents.queue (Snapshot.diff c.snapshot scan.snapshot)).foldl
    (readFound files scan.snapshot) (c.dropped scan)

/-- After files that waited took the names that were given up on the way. -/
def promoted : Progress := (c.reread files scan).promote files scan.snapshot

theorem refresh_eq :
    c.refresh files scan = ((c.promoted files scan).noteErrors scan.errors).finish scan.snapshot := rfl

end Stages

/-! ## A whole refresh -/

/-- **What a refresh comes to.** `T` and `T'` are the last readings before and after it. -/
structure Refreshes (S : Path → Prop) (w : Survey) (c c' : Contents)
    (T T' : PathTable FileReading) : Prop where
  tracks : Tracks S c' T'
  snapshot : c'.snapshot = w.scan.snapshot
  meets : ∀ q, Meets w.scan.snapshot T' q
  /-- Each reading is an earlier one, or it was made now. -/
  made : ∀ q ρ, get? T' q = some ρ → get? T q = some ρ ∨ ρ = .of w.files ρ.path ρ.stamp
  awaited : Awaited c' []
  /-- The diagnostics, where no file is found whose path could not be scanned. -/
  labels : Labels c T → (∀ e ∈ w.scan.errors, get? w.scan.snapshot e.1 = none) →
    Labels c' T' ∧ ∀ q, Unscanned c' q ↔ ∃ e ∈ w.scan.errors, e.1.same q = true

/-- What is said after the errors of the scan is one of them, or was said before. -/
theorem noteErrors_said {s : Progress} {errors : List (Path × String)} {q : Path} {d : Diagnostic}
    (hs : s.contents.Coherent) (hd : get? (s.noteErrors errors).contents.diagnostics q = some d) :
    d.kind = .unscanned ∨ get? s.contents.diagnostics q = some d := by
  obtain ⟨-, hsaid⟩ := noteErrors_spec hs errors
  by_cases herror : ∃ e ∈ errors, e.1.same q = true
  · obtain ⟨d', hd', hkind⟩ := (hsaid q).1 herror
    obtain rfl := Option.some.inj (hd.symm.trans hd')
    exact .inl hkind
  · rw [(hsaid q).2 fun e he => Bool.eq_false_iff.2 fun hs => herror ⟨e, he, hs⟩,
      Option.filter_eq_some_iff] at hd
    exact .inr hd.1

/-- The diagnostics after the errors of the scan, where no file is found whose path has an error. -/
theorem labels_noteErrors {s : Progress} {errors : List (Path × String)} (h : Tracks S s.contents T)
    (hlabels : Labels s.contents T) (hT : ∀ q, Meets found T q)
    (herrors : ∀ e ∈ errors, get? found e.1 = none) :
    Labels (s.noteErrors errors).contents T ∧
      ∀ q, Unscanned (s.noteErrors errors).contents q ↔ ∃ e ∈ errors, e.1.same q = true := by
  obtain ⟨hrelabels, hsaid⟩ := noteErrors_spec h.coherent errors
  refine ⟨⟨fun q ρ hρ => ?_, fun q d hq hd => ?_⟩, unscanned_noteErrors h.coherent errors⟩
  · -- a path that was read is found, so it has no error
    have hnone : ∀ e ∈ errors, e.1.same q = false := fun e he => by
      rw [Bool.eq_false_iff]
      intro hs
      have hq := hT q
      rw [Meets, hρ, ← PathTable.get?_congr _ hs, herrors e he] at hq
      cases hq
    have hread := hlabels.read q ρ hρ
    rw [(hsaid q).2 hnone, hrelabels.waiting, ← hread]
    cases hd : get? s.contents.diagnostics q with
    | none => rfl
    | some d =>
      have hkind : d.kind ≠ .unscanned := fun hkind => by
        rw [hd, Option.map_some, hkind] at hread
        exact label_ne_unscanned _ _ hread.symm
      simp [hkind]
  · rcases noteErrors_said h.coherent hd with hkind | hbefore
    · exact hkind
    · exact hlabels.unread q d hq hbefore

theorem queue_spelled {s : Progress} (h : Tracks S s.contents T) (hnew : ∀ p ∈ paths found, S p) :
    ∀ p ∈ s.contents.queue (Snapshot.diff previous found), S p := by
  intro p hp
  rcases List.mem_append.1 ((mem_distinct _).1 p hp) with hp | hp
  · rcases List.mem_append.1 hp with hp | hp
    · exact h.waiting _ (freed_waiting hp)
    · exact hnew _ (Snapshot.mem_added.1 hp).1
  · obtain ⟨stamp, -, hmem, -⟩ := Snapshot.mem_changed.1 hp
    exact hnew _ (List.mem_map_of_mem hmem)

/-- **The stages of a refresh**, with the last readings before it and after each of them. -/
structure Stages (S : Path → Prop) (w : Survey) (c : Contents) (T T₁ T₂ T₃ : PathTable FileReading) :
    Prop where
  dropped : Tracks S (c.dropped w.scan).contents T₁
  droppedLabels : Labels c T → Labels (c.dropped w.scan).contents T₁
  gone : ∀ q, get? T₁ q =
    if (Snapshot.diff c.snapshot w.scan.snapshot).removed.any (·.same q) then none else get? T q
  reread : Rereads S w.files w.scan.snapshot (c.dropped w.scan).contents
    (c.reread w.files w.scan).contents T₁ T₂
  meets : ∀ q, Meets w.scan.snapshot T₂ q
  promoted : Rereads S w.files w.scan.snapshot (c.reread w.files w.scan).contents
    (c.promoted w.files w.scan).contents T₂ T₃
  awaited : Awaited (c.promoted w.files w.scan).contents []

/-- **A refresh goes through its stages.** -/
theorem refresh_stages {c : Contents} (w : Survey) (h : Tracks S c T)
    (hT : ∀ q, Meets c.snapshot T q) (hold : ∀ p ∈ paths c.snapshot, S p)
    (hnew : ∀ p ∈ paths w.scan.snapshot, S p) : ∃ T₁ T₂ T₃, Stages S w c T T₁ T₂ T₃ := by
  set changes := Snapshot.diff c.snapshot w.scan.snapshot with hchanges
  have hgone : ∀ p ∈ changes.removed, S p := fun p hp => hold p (Snapshot.mem_removed.1 hp).1
  obtain ⟨hdropped, hlabels⟩ := foldl_drop (s := ⟨c, .zero, []⟩) changes.removed hgone h
  obtain ⟨T₂, hread, hqueue⟩ := foldl_readFound w.files w.scan.snapshot
    ((c.dropped w.scan).contents.queue changes) (queue_spelled hdropped hnew) hdropped
  have hmeets : ∀ q, Meets w.scan.snapshot T₂ q := by
    intro q
    rcases meets_or_mem_diff hT q with hq | ⟨p, hp, hs, hne⟩
    · exact hread.meets q hq
    · -- what has changed is in the queue, perhaps under another spelling
      have hmem : p ∈ (c.dropped w.scan).contents.freed ++ changes.added ++ changes.changed := by
        rcases hp with hp | hp
        · exact List.mem_append_left _ (List.mem_append_right _ hp)
        · exact List.mem_append_right _ hp
      obtain ⟨r, hr, hrp⟩ := (mem_distinct _).2 p hmem
      have hrne : get? w.scan.snapshot r ≠ none := by rwa [PathTable.get?_congr _ hrp]
      exact (hqueue r hr hrne).congr (Path.same_trans hrp hs)
  obtain ⟨T₃, hpromoted, hawaited⟩ := promote_rereads w.files hread.tracks hmeets
  exact ⟨_, T₂, T₃, hdropped, hlabels, PathTable.get?_foldl_erase _ T, hread, hmeets, hpromoted, hawaited⟩

/-- **A refresh reads what has changed**, and leaves no file waiting for a free name. -/
theorem refresh_tracks {c : Contents} (w : Survey) (h : Tracks S c T)
    (hT : ∀ q, Meets c.snapshot T q) (hold : ∀ p ∈ paths c.snapshot, S p)
    (hnew : ∀ p ∈ paths w.scan.snapshot, S p) :
    ∃ T', Refreshes S w c (c.refresh w.files w.scan).contents T T' := by
  obtain ⟨T₁, T₂, T', hstages⟩ := refresh_stages w h hT hold hnew
  have hpromoted := hstages.promoted
  have hmeets := fun q => hpromoted.meets q (hstages.meets q)
  obtain ⟨hrelabels, -⟩ := noteErrors_spec hpromoted.tracks.coherent w.scan.errors
  have htracks := hrelabels.tracks hpromoted.tracks
  rw [refresh_eq]
  refine ⟨T', ⟨⟨?_, htracks.stands, htracks.spelled, htracks.waiting⟩, rfl, hmeets, ?_, ?_, ?_⟩⟩
  · exact ⟨htracks.coherent.keyed, htracks.coherent.holder, htracks.coherent.rising,
      htracks.coherent.waiting, htracks.coherent.diagnostics⟩
  · intro q ρ hρ
    rcases (hstages.reread.trans hpromoted).made q ρ hρ with hρ | hnow
    · -- an earlier reading, of a file that is still there
      rw [hstages.gone] at hρ
      split at hρ
      · cases hρ
      · exact .inl hρ
    · exact .inr hnow.1
  · exact hrelabels.awaited hstages.awaited
  · intro hlabels herrors
    have hlabels' := (hpromoted.labels ∘ hstages.reread.labels ∘ hstages.droppedLabels) hlabels
    obtain ⟨hlast, hunscanned⟩ := labels_noteErrors hpromoted.tracks hlabels' hmeets herrors
    exact ⟨⟨hlast.read, hlast.unread⟩, hunscanned⟩

/-! ## Between two refreshes -/

/-- What is known of the contents between two refreshes. -/
structure Steady (S : Path → Prop) (c : Contents) (T : PathTable FileReading) : Prop where
  tracks : Tracks S c T
  meets : ∀ q, Meets c.snapshot T q
  spelled : ∀ p ∈ paths c.snapshot, S p
  awaited : Awaited c []

theorem Steady.empty (S : Path → Prop) : Steady S .empty [] where
  tracks := .empty S
  meets _ := rfl
  spelled p hp := by cases hp
  awaited q k hk := by cases hk

theorem Refreshes.steady {w : Survey} {c' : Contents} {T' : PathTable FileReading}
    (h : Refreshes S w c c' T T') (hnew : ∀ p ∈ paths w.scan.snapshot, S p) : Steady S c' T' where
  tracks := h.tracks
  meets := h.snapshot ▸ h.meets
  spelled := h.snapshot ▸ hnew
  awaited := h.awaited

end Contents

end TraitWeave
