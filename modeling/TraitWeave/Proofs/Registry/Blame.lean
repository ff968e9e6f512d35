import TraitWeave.Proofs.Registry.Succession

/-!
# Whom a file that waits blames

A file that waits for a name is said to declare what is already defined in another file. This is written when
the file is read, and it is not read again when the name goes from one file to another while both are read.

* `Contents.Blames`: what is said of a file that waits, and which file is named.
* `Contents.Passes`: a name goes from one file to another in a refresh.
* `Contents.Stages.blame`: what is said after a refresh was true in it, or before it.
* `Registry.followAll_blame`: in every run the file that is named holds the name, or has passed it on.
* `Registry.not_truthful`: the file that is named need not hold the name.
-/

namespace TraitWeave

open PathTable (get? paths)

theorem Diagnostic.eq_text_of_ofDuplicate {r other : Record} {kind : Kind} {path : Path} {name text : String}
    (h : ofDuplicate r other =
      ⟨kind, path, some name, "Object \"" ++ name ++ "\" is already defined in " ++ text⟩) :
    other.path.text = text := by
  obtain ⟨-, -, hname, hmessage⟩ := Diagnostic.mk.inj h
  rwa [Option.some.inj hname, String.append_right_inj] at hmessage

theorem Diagnostic.ofDuplicate_inj {r other r' other' : Record}
    (h : ofDuplicate r other = ofDuplicate r' other') : other.path = other'.path :=
  congrArg Path.mk (eq_text_of_ofDuplicate h)

namespace Contents

/-- **What is said of a file that waits**: the name `k` for which it waits is defined in the file `m`. -/
structure Blames (c : Contents) (q : Path) (d : Diagnostic) (k : String) (m : Path) : Prop where
  said : get? c.diagnostics q = some d
  waits : get? c.waiting q = some k
  worded : ∃ r other, d = .ofDuplicate r other ∧ r.path.same q = true ∧ r.key = k ∧ other.path = m

/-- Of every file that is called a duplicate it is said for which name it waits and who holds it. -/
def Worded (c : Contents) : Prop :=
  ∀ q d, get? c.diagnostics q = some d → d.kind = .duplicate → ∃ k m, c.Blames q d k m

/-- **A name goes from one file to another in a refresh.** Both files are there before and after it, both have
changed, and the second comes later by its path. -/
structure Passes (c c' : Contents) (w : Survey) (k : String) (h p : Path) : Prop where
  held : c.holder? k = some h
  holds : c'.holder? k = some p
  found : get? w.scan.snapshot h ≠ none
  changed : ¬ c.Untouched w.scan.snapshot h
  known : get? c.snapshot p ≠ none
  altered : ¬ c.Untouched w.scan.snapshot p
  later : h.compareTo p = .lt

/-- The file `p` holds the name after a refresh: the file `h` again, or one to which it was passed on. -/
def Goes (c c' : Contents) (w : Survey) (k : String) (h p : Path) : Prop :=
  c'.holder? k = some p ∧ (h.same p = true ∨ Passes c c' w k h p)

end Contents

open Contents Progress

variable {S : Path → Prop} {w : Survey} {c c' : Contents} {T T₁ T₂ T₃ : PathTable FileReading}
  {files : Files} {found : Snapshot} {k : String} {m p q : Path} {d : Diagnostic} {r : Record}

theorem Contents.Blames.unique {k' : String} {m' : Path} (h : c.Blames q d k m) (h' : c.Blames q d k' m') :
    k = k' ∧ m = m' := by
  obtain ⟨r, other, hd, -, -, rfl⟩ := h.worded
  obtain ⟨r', other', hd', -, -, rfl⟩ := h'.worded
  exact ⟨Option.some.inj (h.waits.symm.trans h'.waits), Diagnostic.ofDuplicate_inj (hd.symm.trans hd')⟩

theorem Contents.Blames.congr (h : c.Blames q d k m) (hsaid : get? c'.diagnostics q = get? c.diagnostics q)
    (hwaits : get? c'.waiting q = get? c.waiting q) : c'.Blames q d k m :=
  ⟨hsaid.trans h.said, hwaits.trans h.waits, h.worded⟩

/-! ## Reading some files -/

namespace Progress

variable {s : Progress}

/-- Nothing new is said of a file that is not read. -/
theorem readFound_other (files : Files) (hc : s.contents.Coherent) (hq : p.same q = true → get? found p = none) :
    get? (readFound files found s p).contents.diagnostics q = get? s.contents.diagnostics q ∧
      get? (readFound files found s p).contents.waiting q = get? s.contents.waiting q := by
  unfold readFound
  split
  · rename_i stamp hstamp
    have hne : p.same q = false := Bool.eq_false_iff.2 fun hs => by
      rw [hq hs] at hstamp
      cases hstamp
    obtain ⟨held, awaited, d, -, hm⟩ := read_moves files hc p stamp
    rw [hm.said, hm.awaits, hne]
    exact ⟨rfl, rfl⟩
  · exact ⟨rfl, rfl⟩

theorem foldl_readFound_other (files : Files) (ps : List Path) (hc : s.contents.Coherent)
    (hq : ∀ p ∈ ps, p.same q = true → get? found p = none) :
    get? (ps.foldl (readFound files found) s).contents.diagnostics q = get? s.contents.diagnostics q ∧
      get? (ps.foldl (readFound files found) s).contents.waiting q = get? s.contents.waiting q := by
  induction ps generalizing s with
  | nil => exact ⟨rfl, rfl⟩
  | cons p ps ih =>
    obtain ⟨hsaid, hwaits⟩ := readFound_other files hc (hq p List.mem_cons_self)
    have hrest := ih (readFound_confined files found hc p).coherent
      fun p' hp' => hq p' (List.mem_cons_of_mem _ hp')
    exact ⟨hrest.1.trans hsaid, hrest.2.trans hwaits⟩

/-- What is said of a file that is called a duplicate when it was read. -/
theorem readFound_blames (files : Files) (hc : s.contents.Coherent) (hs : p.same q = true)
    (hfound : get? found p ≠ none)
    (hd : get? (readFound files found s p).contents.diagnostics q = some d) (hdup : d.kind = .duplicate) :
    ∃ k other, (readFound files found s p).contents.Blames q d k other.path ∧
      s.contents.index.records.get? k = some other := by
  obtain ⟨stamp, hstamp⟩ := Option.ne_none_iff_exists'.1 hfound
  rw [readFound_of_found s hstamp] at hd ⊢
  obtain ⟨held, awaited, d', hcomes, hm⟩ := read_moves files hc p stamp
  have hsaid := hd
  rw [hm.said, if_pos hs] at hsaid
  cases hcomes with
  | rejected message hnone =>
    cases hsaid
    cases hdup
  | held r hr hown => cases hsaid
  | deferred r other hr hother hne =>
    obtain rfl := Option.some.inj hsaid
    have hpath : r.path = p := FileReading.record?_path hr
    refine ⟨r.key, other, ⟨hd, ?_, r, other, rfl, hpath ▸ hs, rfl, rfl⟩, hother⟩
    rw [hm.awaits, if_pos hs]

/-- **What is said after some files were read** was said before, or it was said when one of them was read. The
file that is named held the name at that time. -/
theorem foldl_readFound_blames (files : Files) (ps : List Path) (hps : ps.Pairwise fun p q => p.same q = false)
    (hc : s.contents.Coherent)
    (hd : get? (ps.foldl (readFound files found) s).contents.diagnostics q = some d)
    (hdup : d.kind = .duplicate) :
    (∀ p ∈ ps, p.same q = true → get? found p = none) ∨
      ∃ before after k other, ps = before ++ after ∧
        (ps.foldl (readFound files found) s).contents.Blames q d k other.path ∧
        (before.foldl (readFound files found) s).contents.index.records.get? k = some other := by
  induction ps generalizing s with
  | nil => exact .inl fun p hp => by cases hp
  | cons p ps ih =>
    obtain ⟨hne, hps⟩ := List.pairwise_cons.1 hps
    have hc' := (readFound_confined files found hc p).coherent
    by_cases hread : p.same q = true ∧ get? found p ≠ none
    · -- the file is not read again
      have hother : ∀ p' ∈ ps, p'.same q = true → get? found p' = none := by
        intro p' hp' hs
        have hsame := Path.same_trans hread.1 (Path.same_symm hs)
        rw [hne p' hp'] at hsame
        cases hsame
      have hrest := foldl_readFound_other files ps hc' hother
      rw [List.foldl_cons, hrest.1] at hd
      obtain ⟨k, other, hblames, hother⟩ := readFound_blames files hc hread.1 hread.2 hd hdup
      exact .inr ⟨[], p :: ps, k, other, rfl, hblames.congr hrest.1 hrest.2, hother⟩
    · rcases ih hps hc' hd with hnone | ⟨before, after, k, other, rfl, hblames, hother⟩
      · refine .inl fun p' hp' hs => ?_
        rcases List.mem_cons.1 hp' with rfl | hp'
        · exact not_not.1 fun hne => hread ⟨hs, hne⟩
        · exact hnone p' hp' hs
      · exact .inr ⟨p :: before, after, k, other, rfl, hblames, hother⟩

/-- What a file came to hold while some files were read, it holds until all of them are. -/
theorem foldl_readFound_kept (before after : List Path)
    (hps : (before ++ after).Pairwise fun p q => p.same q = false)
    (hc : s.contents.Coherent)
    (hr : (before.foldl (readFound files found) s).contents.index.records.get? k = some r)
    (hold : s.contents.index.records.get? k = some r → ∀ p ∈ after, r.path.same p = false) :
    ((before ++ after).foldl (readFound files found) s).contents.index.records.get? k = some r := by
  have hbefore := foldl_readFound_confined files found before hc
  rw [List.foldl_append]
  refine (foldl_readFound_confined files found after hbefore.coherent).stays k r hr fun p hp => ?_
  rcases hbefore.came k r hr with hr | ⟨p', hp', stamp, -, hrec⟩
  · exact hold hr p hp
  · rw [FileReading.record?_path hrec]
    exact (List.pairwise_append.1 hps).2.2 p' hp' p hp

end Progress

/-! ## The stages of a refresh -/

namespace Contents

theorem distinct_pairwise (ps : List Path) : (distinct ps).Pairwise fun p q => p.same q = false := by
  induction ps using List.reverseRecOn with
  | nil => exact .nil
  | append_singleton ps p ih =>
    rw [distinct_concat]
    split
    · exact ih
    · rename_i hnew
      refine List.pairwise_append.2 ⟨ih, List.pairwise_singleton _ _, fun q hq p' hp' => ?_⟩
      rw [List.mem_singleton.1 hp']
      exact Bool.eq_false_iff.2 fun hs => hnew (List.any_eq_true.2 ⟨q, hq, hs⟩)

/-- What is said of a file after those that are gone were dropped was said before. -/
theorem dropped_said (hc : c.Coherent) (hd : get? (c.dropped w.scan).contents.diagnostics q = some d) :
    get? c.diagnostics q = some d ∧ get? (c.dropped w.scan).contents.waiting q = get? c.waiting q := by
  suffices h : ∀ (ps : List Path) (s : Progress), s.contents.Coherent →
      get? (ps.foldl drop s).contents.diagnostics q = some d →
      get? s.contents.diagnostics q = some d ∧
        get? (ps.foldl drop s).contents.waiting q = get? s.contents.waiting q from
    h _ ⟨c, .zero, []⟩ hc hd
  intro ps
  induction ps with
  | nil => exact fun s _ hd => ⟨hd, rfl⟩
  | cons p ps ih =>
    intro s hc hd
    have hm := drop_moves hc p
    obtain ⟨hsaid, hwaits⟩ := ih (s.drop p) (drop_confined hc p).coherent hd
    rw [List.foldl_cons, hwaits, hm.awaits]
    rw [hm.said] at hsaid
    by_cases hs : p.same q = true
    · rw [if_pos hs] at hsaid
      cases hsaid
    · rw [if_neg hs] at hsaid ⊢
      exact ⟨hsaid, rfl⟩

namespace Stages

/-- The errors of the scan call no file a duplicate. -/
theorem refresh_said (h : Stages S w c T T₁ T₂ T₃)
    (hd : get? (c.refresh w.files w.scan).contents.diagnostics q = some d) (hdup : d.kind = .duplicate) :
    get? (c.promoted w.files w.scan).contents.diagnostics q = some d ∧
      (c.refresh w.files w.scan).contents.waiting = (c.promoted w.files w.scan).contents.waiting := by
  have hpromoted := h.promoted.tracks.coherent
  obtain ⟨hrelabels, -⟩ := noteErrors_spec hpromoted w.scan.errors
  have hunscanned : d.kind ≠ .unscanned := by
    rw [hdup]
    decide
  exact ⟨(noteErrors_said hpromoted hd).resolve_left hunscanned, hrelabels.waiting⟩

/-- **A name that goes to another file while the queue is read** is passed on. -/
theorem passes (h : Stages S w c T T₁ T₂ T₃) (hT : Steady S c T)
    (hordered : PathTable.Ordered w.scan.snapshot)
    {r' : Record} (hr : c.index.records.get? k = some r) (hfound : get? w.scan.snapshot r.path ≠ none)
    (hr' : (c.reread w.files w.scan).contents.index.records.get? k = some r')
    (hne : r.path.same r'.path = false) :
    Passes c (c.refresh w.files w.scan).contents w k r.path r'.path := by
  obtain ⟨hknown, haltered, hlater⟩ := h.overtaken hT hordered hr hfound hr' hne
  have hnormal := hT.tracks.coherent.normalize hr
  have hholds := h.reread_record hr'
  refine ⟨?_, ?_, hfound, fun huntouched => ?_, hknown, haltered, hlater⟩
  · rw [holder?, Index.get?_eq _ hnormal, hr, Option.map_some]
  · rw [holder?, Index.get?_eq _ hnormal, hholds, Option.map_some]
  · -- a file that has not changed keeps its record
    obtain rfl := Option.some.inj ((h.stays hT.tracks hordered hr huntouched).symm.trans hholds)
    rw [Path.same_refl] at hne
    cases hne

/-- A name that a file held before a refresh and another one, or the same, after the queue was read. -/
theorem goes (h : Stages S w c T T₁ T₂ T₃) (hT : Steady S c T) (hordered : PathTable.Ordered w.scan.snapshot)
    {r' : Record} (hr : c.index.records.get? k = some r) (hfound : get? w.scan.snapshot r.path ≠ none)
    (hr' : (c.reread w.files w.scan).contents.index.records.get? k = some r') :
    Goes c (c.refresh w.files w.scan).contents w k r.path r'.path := by
  refine ⟨?_, ?_⟩
  · rw [holder?, Index.get?_eq _ (hT.tracks.coherent.normalize hr), h.reread_record hr', Option.map_some]
  · cases hs : r.path.same r'.path with
    | true => exact .inl rfl
    | false => exact .inr (h.passes hT hordered hr hfound hr' hs)

/-- A name for which a file waits that is not read in the last round is held by then. -/
theorem reread_named (h : Stages S w c T T₁ T₂ T₃)
    (hlast : ∀ p ∈ (c.reread w.files w.scan).contents.freed, p.same q = true → get? w.scan.snapshot p = none)
    (hk : get? (c.reread w.files w.scan).contents.waiting q = some k) :
    ∃ r, (c.reread w.files w.scan).contents.index.records.get? k = some r := by
  rcases awaited_freed h.reread.tracks q k hk with hnamed | ⟨p, hp, hs⟩
  · exact hnamed
  · exact absurd (hlast p hp hs) (Progress.found_of_freed h.reread.tracks h.meets p hp)

/-- A file that waits and is not read waits for a name of a file that was found. -/
theorem found_of_unread (h : Stages S w c T T₁ T₂ T₃) (hT : Steady S c T)
    (hunread : ∀ p ∈ (c.dropped w.scan).contents.queue (Snapshot.diff c.snapshot w.scan.snapshot),
      p.same q = true → get? w.scan.snapshot p = none)
    (hk : get? (c.dropped w.scan).contents.waiting q = some k) (hr : c.index.records.get? k = some r) :
    get? w.scan.snapshot r.path ≠ none := by
  intro hgone
  rcases awaited_freed h.dropped q k hk with ⟨r', hr'⟩ | ⟨p, hp, hs⟩
  · obtain ⟨hr', hfound⟩ := (h.dropped_record hT).1 hr'
    obtain rfl := Option.some.inj (hr.symm.trans hr')
    exact hfound hgone
  · -- the name is free, so the file is in the queue, perhaps under another spelling
    obtain ⟨p', hp', hs'⟩ := (mem_distinct _).2 p (List.mem_append_left _ (List.mem_append_left _ hp))
    have hnone := hunread p' hp' (Path.same_trans hs' hs)
    rw [PathTable.get?_congr _ hs'] at hnone
    exact h.found_of_freed hT hp hnone

/-- What is said of a file that was read in the last round. -/
theorem promoted_blame (h : Stages S w c T T₁ T₂ T₃) {before after : List Path} {other : Record}
    (hfreed : (c.reread w.files w.scan).contents.freed = before ++ after)
    (hother : (before.foldl (readFound w.files w.scan.snapshot)
      (c.reread w.files w.scan)).contents.index.records.get? k = some other) :
    (c.refresh w.files w.scan).contents.holder? k = some other.path := by
  have hcoherent := h.reread.tracks.coherent
  have hkept := foldl_readFound_kept before after (hfreed ▸ freed_pairwise hcoherent) hcoherent hother
    fun hr p hp => h.reread.tracks.not_freed hr (hfreed ▸ List.mem_append_right _ hp)
  have hbefore := (foldl_readFound_confined w.files w.scan.snapshot before hcoherent).coherent
  rw [holder?, Index.get?_eq _ (hbefore.normalize hother), h.refresh_record, hfreed, hkept, Option.map_some]

/-- What is said of a file that was last read in the queue, or not at all. -/
theorem reread_blame (h : Stages S w c T T₁ T₂ T₃) (hT : Steady S c T)
    (hordered : PathTable.Ordered w.scan.snapshot) (hworded : c.Worded)
    (hlast : ∀ p ∈ (c.reread w.files w.scan).contents.freed, p.same q = true → get? w.scan.snapshot p = none)
    (hd : get? (c.reread w.files w.scan).contents.diagnostics q = some d) (hdup : d.kind = .duplicate) :
    ∃ k m h p, (c.reread w.files w.scan).contents.Blames q d k m ∧
      (m.same h = true ∨ c.Blames q d k m ∧ c.holder? k = some h) ∧
      Goes c (c.refresh w.files w.scan).contents w k h p := by
  have hdistinct := distinct_pairwise ((c.dropped w.scan).contents.freed ++
    (Snapshot.diff c.snapshot w.scan.snapshot).added ++ (Snapshot.diff c.snapshot w.scan.snapshot).changed)
  rcases foldl_readFound_blames w.files _ hdistinct h.dropped.coherent hd hdup with
    hunread | ⟨before, after, k, other, hqueue, hblames, hother⟩
  · -- what was said before is said still
    obtain ⟨hsaid, hwaits⟩ := foldl_readFound_other w.files _ h.dropped.coherent hunread
    obtain ⟨hold, hwaited⟩ := dropped_said hT.tracks.coherent (hsaid.symm.trans hd)
    obtain ⟨k, m, hblames⟩ := hworded q d hold hdup
    have hk : get? (c.dropped w.scan).contents.waiting q = some k := hwaited.trans hblames.waits
    obtain ⟨r, hr⟩ : ∃ r, c.index.records.get? k = some r := by
      rcases hT.awaited q k hblames.waits with hnamed | ⟨_, hmem, -⟩
      · exact hnamed
      · cases hmem
    have hfound := h.found_of_unread hT hunread hk hr
    obtain ⟨r', hr'⟩ := h.reread_named hlast (hwaits.trans hk)
    refine ⟨k, m, r.path, r'.path, ⟨hd, hwaits.trans hk, hblames.worded⟩, .inr ⟨hblames, ?_⟩,
      h.goes hT hordered hr hfound hr'⟩
    rw [holder?, Index.get?_eq _ (hT.tracks.coherent.normalize hr), hr, Option.map_some]
  · obtain ⟨r', hr'⟩ := h.reread_named hlast hblames.waits
    by_cases hs : other.path.same r'.path = true
    · refine ⟨k, other.path, other.path, r'.path, hblames, .inl (Path.same_refl _), ?_, .inl hs⟩
      rw [holder?, Index.get?_eq _ (h.reread.tracks.coherent.normalize hr'), h.reread_record hr', Option.map_some]
    · -- a file that has lost the name has held it before the refresh
      have hdropped : (c.dropped w.scan).contents.index.records.get? k = some other := by
        by_contra hnew
        have hkept := foldl_readFound_kept before after (hqueue ▸ hdistinct) h.dropped.coherent hother
          fun hr => absurd hr hnew
        rw [← hqueue] at hkept
        obtain rfl := Option.some.inj (hr'.symm.trans hkept)
        exact hs (Path.same_refl _)
      obtain ⟨hr, hfound⟩ := (h.dropped_record hT).1 hdropped
      exact ⟨k, other.path, other.path, r'.path, hblames, .inl (Path.same_refl _),
        h.goes hT hordered hr hfound hr'⟩

/-- **What is said after a refresh**: the file that is named held the name in it, or it was named before; and
who held the name then holds it still, or has passed it on. -/
theorem blame (h : Stages S w c T T₁ T₂ T₃) (hT : Steady S c T)
    (hordered : PathTable.Ordered w.scan.snapshot) (hworded : c.Worded)
    (hd : get? (c.refresh w.files w.scan).contents.diagnostics q = some d) (hdup : d.kind = .duplicate) :
    ∃ k m h p, (c.refresh w.files w.scan).contents.Blames q d k m ∧
      (m.same h = true ∨ c.Blames q d k m ∧ c.holder? k = some h) ∧
      Goes c (c.refresh w.files w.scan).contents w k h p := by
  obtain ⟨hpromoted, hwaiting⟩ := h.refresh_said hd hdup
  rw [Contents.promoted, promote_eq w.files h.reread.tracks h.meets] at hpromoted hwaiting
  rcases foldl_readFound_blames w.files _ (freed_pairwise h.reread.tracks.coherent)
      h.reread.tracks.coherent hpromoted hdup with
    hlast | ⟨before, after, k, other, hfreed, hblames, hother⟩
  · obtain ⟨hsaid, hwaits⟩ := foldl_readFound_other w.files _ h.reread.tracks.coherent hlast
    obtain ⟨k, m, h', p, hblames, horigin, hgoes⟩ :=
      h.reread_blame hT hordered hworded hlast (hsaid.symm.trans hpromoted) hdup
    refine ⟨k, m, h', p, ⟨hd, ?_, hblames.worded⟩, horigin, hgoes⟩
    rw [hwaiting, hwaits, hblames.waits]
  · refine ⟨k, other.path, other.path, other.path, ⟨hd, ?_, hblames.worded⟩, .inl (Path.same_refl _),
      h.promoted_blame hfreed hother, .inl (Path.same_refl _)⟩
    rw [hwaiting, hblames.waits]

end Stages

end Contents

/-! ## Runs -/

namespace Registry

variable (options : RegistryOptions) (resolver : Resolver) (traitRoots : List Path)
  (foundation : Table Field)

/-- The file that is named has passed the name on in some refresh of a run, and the same is said ever since. -/
def Outdated (rg : Registry) (ws : List Survey) (q : Path) (d : Diagnostic) (k : String) (m : Path) : Prop :=
  ∃ before w after h p, ws = before ++ w :: after ∧ m.same h = true ∧
    Passes (rg.followAll before).contents ((rg.followAll before).follow w).registry.contents w k h p ∧
    ∀ mid, mid <+: after → get? (rg.followAll (before ++ w :: mid)).contents.diagnostics q = some d

variable {rg : Registry} {ws : List Survey} {h : Path}

theorem Outdated.now
    (hpasses : Passes (rg.followAll ws).contents ((rg.followAll ws).follow w).registry.contents w k h p)
    (hm : m.same h = true) (hd : get? ((rg.followAll ws).follow w).registry.contents.diagnostics q = some d) :
    rg.Outdated (ws ++ [w]) q d k m := by
  refine ⟨ws, w, [], h, p, rfl, hm, hpasses, fun mid hmid => ?_⟩
  rw [List.prefix_nil.1 hmid, followAll_concat]
  exact hd

theorem Outdated.concat (hout : rg.Outdated ws q d k m)
    (hd : get? ((rg.followAll ws).follow w).registry.contents.diagnostics q = some d) :
    rg.Outdated (ws ++ [w]) q d k m := by
  obtain ⟨before, v, after, h, p, rfl, hm, hpasses, hsaid⟩ := hout
  refine ⟨before, v, after ++ [w], h, p, by simp, hm, hpasses, fun mid hmid => ?_⟩
  rcases List.prefix_concat_iff.1 hmid with rfl | hmid
  · rw [← List.cons_append, ← List.append_assoc, followAll_concat]
    exact hd
  · exact hsaid mid hmid

/-- **In every run** it is said of a file that waits which file holds the name; or which file has held it, if it
was passed on since, and then to one that comes later. -/
theorem followAll_blame (ws : List Survey) (hordered : ∀ v ∈ ws, PathTable.Ordered v.scan.snapshot) :
    let rg := start options resolver traitRoots foundation
    let c := (rg.followAll ws).contents
    ∀ q d, get? c.diagnostics q = some d → d.kind = .duplicate →
      ∃ k m p, c.Blames q d k m ∧ c.holder? k = some p ∧
        (m.same p = true ∨ m.compareTo p = .lt ∧ rg.Outdated ws q d k m) := by
  intro rg
  induction ws using List.reverseRecOn with
  | nil => exact fun q d hd => by cases hd
  | append_singleton ws w ih =>
    intro c q d hd hdup
    have ih := ih fun v hv => hordered v (List.mem_append_left _ hv)
    have hworded : (rg.followAll ws).contents.Worded := fun q d hd hdup =>
      let ⟨k, m, _, hblames, _⟩ := ih q d hd hdup
      ⟨k, m, hblames⟩
    obtain ⟨T, hT, -⟩ := followAll_steady options resolver traitRoots foundation (fun _ => True) ws
      fun _ _ _ _ => trivial
    obtain ⟨T₁, T₂, T₃, hstages⟩ := refresh_stages w hT.tracks hT.meets hT.spelled fun _ _ => trivial
    have hc : c = ((rg.followAll ws).contents.refresh w.files w.scan).contents := by
      rw [← follow_contents, ← followAll_concat]
    have hnow : get? ((rg.followAll ws).follow w).registry.contents.diagnostics q = some d := by
      rw [← followAll_concat]
      exact hd
    obtain ⟨k, m, h, p, hblames, horigin, hholds, hgoes⟩ :=
      hstages.blame hT (hordered w (by simp)) hworded (hc ▸ hd) hdup
    rw [← hc] at hblames hholds hgoes
    have hfollowed : c = ((rg.followAll ws).follow w).registry.contents := by rw [hc, follow_contents]
    refine ⟨k, m, p, hblames, hholds, ?_⟩
    -- who held the name before, or in, this refresh, and whether this file is named
    have hbefore : m.same h = true ∨ m.compareTo h = .lt ∧ rg.Outdated ws q d k m := by
      rcases horigin with hm | ⟨hold, hheld⟩
      · exact .inl hm
      · obtain ⟨k', m', p', hold', hheld', hcase⟩ := ih q d hold.said hdup
        obtain ⟨rfl, rfl⟩ := hold.unique hold'
        obtain rfl := Option.some.inj (hheld.symm.trans hheld')
        exact hcase
    rcases hbefore with hm | ⟨hlt, hout⟩
    · rcases hgoes with hsame | hpasses
      · exact .inl (Path.same_trans hm hsame)
      · refine .inr ⟨(Path.compareTo_congr hm p).trans hpasses.later, ?_⟩
        exact .now (hfollowed ▸ hpasses) hm hnow
    · refine .inr ⟨?_, hout.concat hnow⟩
      rcases hgoes with hsame | hpasses
      · exact (Path.compareTo_congr_right hsame m).symm.trans hlt
      · exact Path.compareTo_trans hlt hpasses.later

/-! ## What is said may become untrue -/

/-- Every file that is called a duplicate is said to be one of the file that holds the name. -/
def Truthful (rg : Registry) : Prop :=
  ∀ q d, get? rg.contents.diagnostics q = some d → d.kind = .duplicate →
    ∃ k m p, rg.contents.Blames q d k m ∧ rg.contents.holder? k = some p ∧ m.same p = true

theorem snapshot_naming (t : PathTable (String × Nat)) (p : Path) :
    get? (naming t).scan.snapshot p = (get? t p).map fun v => ⟨v.2, 24 + v.1.utf8ByteSize⟩ := by
  induction t with
  | nil => rfl
  | cons e t ih =>
    refine (PathTable.get?_cons _ _ p).trans ?_
    rw [PathTable.get?_cons, apply_ite (Option.map _)]
    exact if_congr .rfl rfl ih

/-- Files that declare names keep their texts where they have the same stamps, if this can be seen at each. -/
theorem keepsText_naming {t u : PathTable (String × Nat)}
    (h : ∀ e ∈ t, ∀ v ∈ get? u e.1, v.2 = e.2.2 → v.1.utf8ByteSize = e.2.1.utf8ByteSize → v.1 = e.2.1) :
    (naming t).KeepsText (naming u) := by
  intro p stamp ht hu
  rw [snapshot_naming] at ht hu
  obtain ⟨v, hv, rfl⟩ := Option.map_eq_some_iff.1 ht
  obtain ⟨v', hv', heq⟩ := Option.map_eq_some_iff.1 hu
  obtain ⟨htime, hsize⟩ := Stamp.mk.inj heq
  obtain ⟨q, hq, hs⟩ := PathTable.exists_mem_of_get? hv
  have hname : v'.1 = v.1 :=
    h (q, v) hq v' ((PathTable.get?_congr u hs).trans hv') htime (Nat.add_left_cancel hsize)
  simp only [naming, hv, hv', hname]

theorem stamped_trio : Stamped [trio, trioLater] where
  changes := by
    simp only [List.isChain_cons_cons, List.isChain_singleton, and_true]
    exact keepsText_naming (by decide +kernel)
  spelled := by decide +kernel
  ordered := by
    simp only [PathTable.Ordered]
    decide +kernel

/-- What is said of the second file, for which name it waits, and where that name is then. -/
theorem trio_run :
    get? ((start (.ofRoots [⟨"."⟩]) ⟨none⟩ [] []).followAll [trio, trioLater]).contents.diagnostics
        ⟨"./b.object.json"⟩ =
      some ⟨.duplicate, ⟨"./b.object.json"⟩, some "User",
        "Object \"" ++ "User" ++ "\" is already defined in " ++ "./a.object.json"⟩ ∧
    get? ((start (.ofRoots [⟨"."⟩]) ⟨none⟩ [] []).followAll [trio, trioLater]).contents.waiting
        ⟨"./b.object.json"⟩ = some "user" ∧
    ((start (.ofRoots [⟨"."⟩]) ⟨none⟩ [] []).followAll [trio, trioLater]).contents.holder? "user" =
      some ⟨"./c.object.json"⟩ := by
  decide +kernel

/-- The file that is named is the first of the three, and the name is held by the last. -/
theorem trio_blames {d : Diagnostic} {k : String} {m p : Path}
    (hblames : ((start (.ofRoots [⟨"."⟩]) ⟨none⟩ [] []).followAll [trio, trioLater]).contents.Blames
      ⟨"./b.object.json"⟩ d k m)
    (hheld : ((start (.ofRoots [⟨"."⟩]) ⟨none⟩ [] []).followAll [trio, trioLater]).contents.holder? k = some p) :
    m = ⟨"./a.object.json"⟩ ∧ p = ⟨"./c.object.json"⟩ := by
  obtain ⟨hsaid, hwaits, hc⟩ := trio_run
  obtain rfl := Option.some.inj (hblames.waits.symm.trans hwaits)
  obtain ⟨r, other, rfl, -, -, rfl⟩ := hblames.worded
  have hworded := Option.some.inj (hblames.said.symm.trans hsaid)
  exact ⟨congrArg Path.mk (Diagnostic.eq_text_of_ofDuplicate hworded), Option.some.inj (hheld.symm.trans hc)⟩

theorem followAll_blame_trio :
    (∀ v ∈ [trio, trioLater], PathTable.Ordered v.scan.snapshot) ∧
      ∃ d k m, ((start (.ofRoots [⟨"."⟩]) ⟨none⟩ [] []).followAll [trio, trioLater]).contents.Blames
          ⟨"./b.object.json"⟩ d k m ∧
        (start (.ofRoots [⟨"."⟩]) ⟨none⟩ [] []).Outdated [trio, trioLater] ⟨"./b.object.json"⟩ d k m := by
  refine ⟨stamped_trio.ordered, ?_⟩
  obtain ⟨k, m, p, hblames, hheld, hcase⟩ :=
    followAll_blame (.ofRoots [⟨"."⟩]) ⟨none⟩ [] [] [trio, trioLater] stamped_trio.ordered _ _ trio_run.1 rfl
  obtain ⟨rfl, rfl⟩ := trio_blames hblames hheld
  rcases hcase with hsame | ⟨-, hout⟩
  · exact absurd hsame (by decide)
  · exact ⟨_, k, _, hblames, hout⟩

/-- **What is said may become untrue**, also where each change of a file changes its stamp. -/
theorem not_truthful :
    ¬ ∀ ws, Stamped ws → ((start (.ofRoots [⟨"."⟩]) ⟨none⟩ [] []).followAll ws).Truthful := by
  intro h
  obtain ⟨k, m, p, hblames, hheld, hsame⟩ := h _ stamped_trio _ _ trio_run.1 rfl
  obtain ⟨rfl, rfl⟩ := trio_blames hblames hheld
  exact absurd hsame (by decide)

end Registry

end TraitWeave
