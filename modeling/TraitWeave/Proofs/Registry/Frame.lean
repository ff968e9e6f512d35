import TraitWeave.Proofs.Registry.Classes
import TraitWeave.Proofs.Registry.Footprint

/-!
# A refresh touches only what has changed

A record whose file has not changed stays, whatever happens to other files. Where a scan finds the same as the
one before it, nothing happens at all.

* `Contents.Notes`: what was said of the errors of a scan.
* `Contents.refresh_same`: the same scan again.
* `Registry.followAll_frame`: a refresh at any time in any run.
-/

namespace TraitWeave

open PathTable (get? put erase paths)

/-- A scan has one message at most for each path. -/
def Scan.Consistent (scan : Scan) : Prop :=
  ∀ e ∈ scan.errors, ∀ f ∈ scan.errors, e.1.same f.1 = true → e.2 = f.2

instance (scan : Scan) : Decidable scan.Consistent :=
  inferInstanceAs (Decidable (∀ e ∈ scan.errors, ∀ f ∈ scan.errors, e.1.same f.1 = true → e.2 = f.2))

/-! ## The same scan again -/

namespace Contents

/-- **What was said of the errors of a scan**: all of them were told, and no error on any other path. -/
structure Notes (c : Contents) (errors : List (Path × String)) : Prop where
  reported : ∀ e ∈ errors, c.Reports e.1 e.2
  only : ∀ q, c.Unscanned q → ∃ e ∈ errors, e.1.same q = true

end Contents

namespace Progress

open Contents

variable {s : Progress} {p : Path} {message : String} {errors : List (Path × String)}

/-- An error that was told before is counted and nothing else. -/
theorem noteError_of_reports (h : s.contents.Reports p message) :
    s.noteError p message = { s with tally := { s.tally with errors := s.tally.errors + 1 } } := by
  obtain ⟨d, hd, hkind, hmessage⟩ := h
  simp [noteError, hd, hkind, hmessage, Diagnostic.ofScan]

theorem foldl_noteError_of_reports (h : ∀ e ∈ errors, s.contents.Reports e.1 e.2) :
    (errors.foldl (fun s e => s.noteError e.1 e.2) s).contents = s.contents ∧
      (errors.foldl (fun s e => s.noteError e.1 e.2) s).events = s.events := by
  induction errors generalizing s with
  | nil => exact ⟨rfl, rfl⟩
  | cons e errors ih =>
    rw [List.foldl_cons, noteError_of_reports (h e List.mem_cons_self)]
    exact ih fun f hf => h f (List.mem_cons_of_mem _ hf)

/-- The last message for a path is the one that stands, and there is only one. -/
theorem foldl_noteError_reports (s : Progress) {f : Path × String} (hf : f ∈ errors)
    (hone : ∀ e ∈ errors, e.1.same f.1 = true → e.2 = f.2) :
    (errors.foldl (fun s e => s.noteError e.1 e.2) s).contents.Reports f.1 f.2 := by
  -- from the last error on: those before it on the same path are overwritten with the same message
  induction errors using List.reverseRecOn with
  | nil => cases hf
  | append_singleton errors e ih =>
    rw [List.foldl_append, List.foldl_cons, List.foldl_nil]
    by_cases he : e.1.same f.1 = true
    · rw [← hone e (List.mem_append_right _ List.mem_cons_self) he]
      exact noteError_self _ e.2 he
    · rcases List.mem_append.1 hf with hf | hf
      · unfold Reports
        rw [noteError_other _ e.2 (Bool.eq_false_iff.2 he)]
        exact ih hf fun e he => hone e (List.mem_append_left _ he)
      · obtain rfl := List.mem_singleton.1 hf
        exact absurd (Path.same_refl _) he

theorem noteErrors_notes (hs : s.contents.Coherent) (scan : Scan) (h : scan.Consistent) :
    (s.noteErrors scan.errors).contents.Notes scan.errors where
  reported f hf := foldl_noteError_reports _ hf fun e he => h e he f hf
  only q := (unscanned_noteErrors hs scan.errors q).1

/-- Errors that were told before are not told again. -/
theorem noteErrors_of_notes (hs : s.contents.Coherent) (h : s.contents.Notes errors) :
    (s.noteErrors errors).contents = s.contents ∧ (s.noteErrors errors).events = s.events := by
  -- every error that was told is in the list again, so none is forgotten
  have hforget : s.forgetErrors errors = s := by
    have hall : s.contents.diagnostics.filter
        (fun e => e.2.kind != .unscanned || errors.any fun f => f.1.same e.1) =
        s.contents.diagnostics := by
      refine List.filter_eq_self.2 fun e he => ?_
      by_cases hkind : e.2.kind = .unscanned
      · obtain ⟨f, hf, hsame⟩ := h.only e.1 ⟨e.2, hs.diagnostics.get?_of_mem he, hkind⟩
        simp only [hkind, bne_self_eq_false, Bool.false_or, List.any_eq_true]
        exact ⟨f, hf, hsame⟩
      · simp [hkind]
    rw [forgetErrors, hall]
  rw [noteErrors, hforget]
  exact foldl_noteError_of_reports h.reported

end Progress

namespace Contents

open Progress

variable {c : Contents} {S : Path → Prop} {T : PathTable FileReading} {scan : Scan}

/-- **The same scan again changes nothing** and tells nothing, whatever the files say by now. -/
theorem refresh_same (files : Files) (hT : Tracks S c T) (ha : Awaited c [])
    (hsnapshot : c.snapshot = scan.snapshot) (hordered : PathTable.Ordered scan.snapshot)
    (hnotes : c.Notes scan.errors) :
    (c.refresh files scan).contents = c ∧ (c.refresh files scan).events = [] := by
  have hdiff : Snapshot.diff c.snapshot scan.snapshot = ⟨[], [], []⟩ := by
    rw [hsnapshot]; exact Snapshot.diff_self hordered
  -- no file waits for a free name, so none is read for that either
  have hfreed := freed_eq_nil hT ha
  have hdropped : c.dropped scan = ⟨c, .zero, []⟩ := by
    rw [dropped, hdiff]; rfl
  have hreread : c.reread files scan = ⟨c, .zero, []⟩ := by
    rw [reread, hdropped, hdiff, queue, hfreed]; rfl
  have hpromoted : c.promoted files scan = ⟨c, .zero, []⟩ := by
    rw [promoted, hreread]
    exact promote_of_freed files scan.snapshot hfreed
  rw [refresh_eq, hpromoted]
  obtain ⟨hcontents, hevents⟩ := noteErrors_of_notes (s := ⟨c, .zero, []⟩) hT.coherent hnotes
  refine ⟨?_, hevents⟩
  rw [finish, hcontents, ← hsnapshot]

/-! ## Any time in a run -/

theorem Steady.refresh_notes {c : Contents} {T : PathTable FileReading} (h : Steady S c T) (w : Survey)
    (hnew : ∀ p ∈ paths w.scan.snapshot, S p) (hw : w.scan.Consistent) :
    (c.refresh w.files w.scan).contents.Notes w.scan.errors := by
  obtain ⟨T₁, T₂, T₃, hstages⟩ := refresh_stages w h.tracks h.meets h.spelled hnew
  have hnotes := noteErrors_notes hstages.promoted.tracks.coherent w.scan hw
  exact ⟨hnotes.reported, hnotes.only⟩

end Contents

namespace Registry

open Contents

variable (options : RegistryOptions) (resolver : Resolver) (traitRoots : List Path)
  (foundation : Table Field)

/-- Where a refresh leaves the contents and tells nothing, a registry that is ready stays as it is. -/
theorem follow_eq_self {rg : Registry} {w : Survey} (hready : rg.ready = true)
    (hcontents : (rg.contents.refresh w.files w.scan).contents = rg.contents)
    (hevents : (rg.contents.refresh w.files w.scan).events = []) :
    (rg.follow w).registry = rg ∧ (rg.follow w).events = [] := by
  have htold : (rg.follow w).events = [] := by
    rw [follow_events, hevents, hready]; rfl
  refine ⟨?_, htold⟩
  change ({ rg with contents := _, ready := true } : Registry).tell (rg.follow w).events = rg
  rw [htold, hcontents, ← hready, tell]
  split <;> simp

/-- **A refresh touches only what has changed.** A record whose file has the stamp that it had in the last
scan stays as it is, with its file. If the scan is the same as the last one, the registry stays as it is and
nothing is told. -/
theorem followAll_frame (ws : List Survey) (w : Survey) (h : PathTable.Ordered w.scan.snapshot) :
    let rg := (start options resolver traitRoots foundation).followAll ws
    let f := rg.follow w
    (∀ name r, rg.contents.index.get? name = some r →
      get? w.scan.snapshot r.path = get? rg.contents.snapshot r.path →
        f.registry.contents.index.get? name = some r ∧
        get? f.registry.contents.holders r.path = some r.key) ∧
    (∀ v ∈ ws.getLast?, w.scan = v.scan → w.scan.Consistent → f.registry = rg ∧ f.events = []) := by
  intro rg f
  obtain ⟨T, hT, -⟩ := followAll_steady options resolver traitRoots foundation (fun _ => True) ws
    fun _ _ _ _ => trivial
  constructor
  · intro name r hr huntouched
    obtain ⟨T₁, T₂, T₃, hstages⟩ := refresh_stages w hT.tracks hT.meets hT.spelled fun _ _ => trivial
    have hstays := hstages.stays hT.tracks h hr huntouched
    rw [follow_contents]
    exact ⟨hstays, (refresh_coherent hT.tracks.coherent w.files w.scan).holds hstays⟩
  · intro v hv hscan hconsistent
    obtain ⟨vs, rfl⟩ := List.getLast?_eq_some_iff.1 hv
    have hrg : rg.contents = (((start options resolver traitRoots foundation).followAll vs).contents.refresh
        v.files v.scan).contents := by
      rw [show rg = _ from followAll_concat _ v vs, follow_contents]
    -- the refresh before this one told of the same errors
    obtain ⟨U, hU, -⟩ := followAll_steady options resolver traitRoots foundation (fun _ => True) vs
      fun _ _ _ _ => trivial
    have hnotes := hU.refresh_notes v (fun _ _ => trivial) (hscan ▸ hconsistent)
    rw [← hrg, ← hscan] at hnotes
    have hsnapshot : rg.contents.snapshot = w.scan.snapshot := by rw [hrg, hscan]; rfl
    obtain ⟨hcontents, hevents⟩ := refresh_same w.files hT.tracks hT.awaited hsnapshot h hnotes
    refine follow_eq_self ?_ hcontents hevents
    simp [rg]

/-- A file that comes later does not take the name, though its path is smaller; after that nothing changes. -/
theorem followAll_frame_twins :
    let start := start (.ofRoots [⟨"objects"⟩]) ⟨none⟩ [] []
    PathTable.Ordered twins.scan.snapshot ∧
      (((start.followAll [survivor]).follow twins).registry.contents.index.get? "User").map Record.path =
        some ⟨"objects/b.object.json"⟩ ∧
      ((start.followAll [survivor, twins]).follow twins).registry = start.followAll [survivor, twins] ∧
      ((start.followAll [survivor, twins]).follow twins).events = [] := by
  intro start
  have hordered : PathTable.Ordered twins.scan.snapshot := by
    unfold PathTable.Ordered; decide +kernel
  have hheld : ((start.followAll [survivor]).contents.index.get? "User").map Record.path =
      some ⟨"objects/b.object.json"⟩ := by decide +kernel
  obtain ⟨r, hr, hpath⟩ := Option.map_eq_some_iff.1 hheld
  have hsame : get? twins.scan.snapshot r.path = get? (start.followAll [survivor]).contents.snapshot r.path := by
    rw [hpath]; decide +kernel
  obtain ⟨hstays, -⟩ := (followAll_frame _ _ _ _ [survivor] twins hordered).1 "User" r hr hsame
  refine ⟨hordered, by rw [hstays, Option.map_some, hpath], ?_⟩
  exact (followAll_frame _ _ _ _ [survivor, twins] twins hordered).2 twins rfl rfl (by decide)

end Registry

end TraitWeave
