import TraitWeave.Proofs.Object.Document
import TraitWeave.Proofs.Registry.Classes
import TraitWeave.Proofs.Registry.Footprint
import Mathlib.Data.List.Chain

/-!
# Following changes comes to the same as starting anew

A registry that follows the changes of its files knows the names that a new registry would find. Which of
several files holds a name may differ: the earliest one keeps it, where a new registry takes the one with the
smallest path.

* `Survey.Declares`: a file declares a name.
* `Stamped`: whenever the content of a file changes, so does its stamp.
* `Registry.followAll_refines`: the names and the records after every run.
* `Scan.of_ordered`: scans list the files in the order of their paths.
-/

namespace TraitWeave

open PathTable (get? paths)

/-- A file that was found declares a name. -/
def Survey.Declares (w : Survey) (p : Path) (k : String) : Prop :=
  p ∈ paths w.scan.snapshot ∧ ∃ o, Object.ofFile p (w.files.text p) = .ok o ∧ Name.normalize o.name = k

/-- The paths under which files were found, as they were written. -/
def spellings (ws : List Survey) : List Path := ws.flatMap fun w => paths w.scan.snapshot

/-- A file whose stamp is the same in two surveys has the same text. -/
def Survey.KeepsText (v w : Survey) : Prop :=
  ∀ p stamp, get? v.scan.snapshot p = some stamp → get? w.scan.snapshot p = some stamp →
    v.files.text p = w.files.text p

/-- **Whenever the content of a file changes, so does its stamp.** Files are told apart by the components of
their paths, so each is the same file under all spellings; a snapshot lists them in order. -/
structure Stamped (ws : List Survey) : Prop where
  changes : ws.IsChain Survey.KeepsText
  spelled : ∀ w ∈ ws, ∀ p ∈ spellings ws, ∀ q ∈ spellings ws, p.same q = true →
    w.files.text p = w.files.text q
  ordered : ∀ w ∈ ws, PathTable.Ordered w.scan.snapshot

namespace Contents

open Progress

variable {c : Contents} {T : PathTable FileReading} {S : Path → Prop} {w : Survey}

/-- The last readings are what the files say now. -/
structure Current (S : Path → Prop) (w : Survey) (c : Contents) (T : PathTable FileReading) : Prop where
  tracks : Tracks S c T
  meets : ∀ q, Meets w.scan.snapshot T q
  made : ∀ q ρ, get? T q = some ρ → ρ = .of w.files ρ.path ρ.stamp
  awaited : Awaited c []

namespace Current

/-- A record is what its file says now. -/
theorem record (h : Current S w c T) {k : String} {r : Record}
    (hr : c.index.records.get? k = some r) :
    S r.path ∧ k = r.key ∧ ∃ o stamp, Object.ofFile r.path (w.files.text r.path) = .ok o ∧
      get? w.scan.snapshot r.path = some stamp ∧ r = Record.of o r.path stamp := by
  obtain ⟨ρ, hρ, hrec⟩ := h.tracks.of_record hr
  have hmeet := h.meets r.path
  rw [Meets, hρ] at hmeet
  have hpath := FileReading.record?_path hrec
  refine ⟨hpath ▸ (h.tracks.spelled _ _ hρ).2, (h.tracks.coherent.keyed k r hr).symm, ?_⟩
  rcases ho : Object.ofFile ρ.path (w.files.text ρ.path) with ps | o
  · rw [h.made _ _ hρ, FileReading.record?_of_error _ ho] at hrec
    cases hrec
  · rw [h.made _ _ hρ, FileReading.record?_of_ok _ ho] at hrec
    obtain rfl := Option.some.inj hrec
    exact ⟨o, ρ.stamp, ho, hmeet.symm, rfl⟩

/-- **The names of the records** are those that the files declare. -/
theorem names (h : Current S w c T) (hS : ∀ p, S p → ∀ q, S q → p.same q = true →
      w.files.text p = w.files.text q) (hfound : ∀ p ∈ paths w.scan.snapshot, S p) (k : String) :
    k ∈ c.index.records.keys ↔ ∃ p, w.Declares p k := by
  rw [Table.mem_keys]
  constructor
  · rintro ⟨r, hr⟩
    obtain ⟨hSr, rfl, o, stamp, ho, hstamp, heq⟩ := h.record hr
    obtain ⟨p, hp, hs⟩ := PathTable.exists_mem_of_get? hstamp
    have hp := List.mem_map_of_mem (f := Prod.fst) hp
    refine ⟨p, hp, o, ?_, ?_⟩
    · rw [hS p (hfound p hp) _ hSr hs]
      exact Object.ofFile_congr (Path.same_symm hs) ho
    · rw [heq, Record.of_key]
  · rintro ⟨p, hp, o, ho, rfl⟩
    obtain ⟨stamp, hstamp⟩ := PathTable.has_iff.1 (PathTable.has_of_mem_paths hp)
    have hmeet := h.meets p
    rw [Meets, hstamp] at hmeet
    obtain ⟨ρ, hρ, -⟩ := Option.map_eq_some_iff.1 hmeet
    obtain ⟨hs, hSρ⟩ := h.tracks.spelled p ρ hρ
    have ho' : Object.ofFile ρ.path (w.files.text ρ.path) = .ok o := by
      rw [hS _ hSρ p (hfound p hp) hs]
      exact Object.ofFile_congr (Path.same_symm hs) ho
    have hstands := h.tracks.stands p
    rw [hρ, Option.bind_some, h.made p ρ hρ, FileReading.record?_of_ok _ ho'] at hstands
    rw [← Record.of_key o ρ.path ρ.stamp]
    rcases hstands with ⟨-, hr, -⟩ | ⟨-, hw⟩
    · exact ⟨_, hr⟩
    · -- the file waits, so another one holds its name
      rcases h.awaited p _ hw with hnamed | ⟨q, hq, -⟩
      · exact hnamed
      · cases hq

end Current

/-! ## The first refresh -/

/-- **In the first refresh** each name that a file declares is held by a file that is not after it. -/
theorem refresh_empty_least (w : Survey) (hordered : PathTable.Ordered w.scan.snapshot) {p : Path}
    {o : Object} (hp : p ∈ paths w.scan.snapshot) (ho : Object.ofFile p (w.files.text p) = .ok o) :
    ∃ r, (empty.refresh w.files w.scan).contents.index.records.get? (Name.normalize o.name) = some r ∧
      r.path.compareTo p ≠ .gt := by
  have hpaths : (paths w.scan.snapshot).Pairwise fun p q => p.compareTo q = .lt :=
    List.pairwise_map.2 hordered
  have hqueue : empty.queue (Snapshot.diff empty.snapshot w.scan.snapshot) = paths w.scan.snapshot := by
    have hall : (Snapshot.diff empty.snapshot w.scan.snapshot).added = paths w.scan.snapshot := by
      simp [Snapshot.diff, empty, PathTable.has, paths]
    have hnone : (Snapshot.diff empty.snapshot w.scan.snapshot).changed = [] := by
      simp [Snapshot.diff, Snapshot.isChanged, empty]
    unfold queue
    rw [hall, hnone, List.append_nil]
    exact distinct_eq (hpaths.imp Path.not_same_of_lt)
  -- nothing is dropped, and every file is new
  have hreread : empty.reread w.files w.scan =
      (paths w.scan.snapshot).foldl (readFound w.files w.scan.snapshot) ⟨empty, .zero, []⟩ := by
    rw [← hqueue]; rfl
  obtain ⟨stamp, hstamp⟩ := PathTable.has_iff.1 (PathTable.has_of_mem_paths hp)
  have hnow : ReadNow w.files w.scan.snapshot p (.of o p stamp) :=
    ⟨stamp, hstamp, FileReading.record?_of_ok stamp ho⟩
  obtain ⟨r, hr, -, hle⟩ := foldl_readFound_first (s := ⟨empty, .zero, []⟩) _ hpaths .empty rfl hp hnow
    (Record.of_key o p stamp)
  obtain ⟨T₁, T₂, T₃, hstages⟩ := refresh_stages w (.empty fun _ => True) (fun _ => rfl)
    (fun p hp => by cases hp) fun _ _ => trivial
  exact ⟨r, hstages.reread_record (hreread ▸ hr), hle⟩

end Contents

namespace Registry

open Contents

variable (options : RegistryOptions) (resolver : Resolver) (traitRoots : List Path)
  (foundation : Table Field)

/-- After every run the last readings are what the files say now. -/
theorem followAll_current (S : Path → Prop) (ws : List Survey)
    (hS : ∀ w ∈ ws, ∀ p ∈ paths w.scan.snapshot, S p)
    (h : ws.IsChain Survey.KeepsText) :
    let c := ((start options resolver traitRoots foundation).followAll ws).contents
    ∃ T, Tracks S c T ∧ (∀ q, Meets c.snapshot T q) ∧ (∀ p ∈ paths c.snapshot, S p) ∧
      (ws = [] → T = []) ∧
      ∀ w ∈ ws.getLast?, c.snapshot = w.scan.snapshot ∧ Current S w c T := by
  induction ws using List.reverseRecOn with
  | nil =>
    exact ⟨[], .empty S, fun _ => rfl, fun p hp => (by cases hp), fun _ => rfl,
      fun w hw => (by cases hw)⟩
  | append_singleton ws w ih =>
    obtain ⟨hchain, -, hlast⟩ := List.isChain_append.1 h
    obtain ⟨T, hT, hmeets, hold, hnil, hcurrent⟩ :=
      ih (fun v hv => hS v (List.mem_append_left _ hv)) hchain
    have hnew := hS w (List.mem_append_right _ (List.mem_singleton_self w))
    obtain ⟨T', hT'⟩ := refresh_tracks w hT hmeets hold hnew
    rw [followAll_concat, follow_contents]
    refine ⟨T', hT'.tracks, hT'.snapshot ▸ hT'.meets, hT'.snapshot ▸ hnew, by simp, fun v hv => ?_⟩
    obtain rfl : w = v := by simpa using hv
    refine ⟨hT'.snapshot, hT'.tracks, hT'.meets, fun q ρ hρ => ?_, hT'.awaited⟩
    rcases hT'.made q ρ hρ with hρ' | hnow
    · -- a reading of the last survey: the stamp is the same, so the text is too
      cases hlastv : ws.getLast? with
      | none =>
        rw [hnil (List.getLast?_eq_none_iff.1 hlastv)] at hρ'
        cases hρ'
      | some v =>
        obtain ⟨hsnapshot, hv⟩ := hcurrent v hlastv
        have hs := (hT.spelled q ρ hρ').1
        have hbefore := hv.meets q
        have hafter := hT'.meets q
        rw [Meets, hρ', ← PathTable.get?_congr _ hs] at hbefore
        rw [Meets, hρ, ← PathTable.get?_congr _ hs] at hafter
        have htext := hlast v hlastv w (by simp) _ _ hbefore.symm hafter.symm
        have hmade := hv.made q ρ hρ'
        rw [FileReading.of, htext] at hmade
        exact hmade
    · exact hnow

/-- **What following comes to.** `c` are the contents after a run that ends with the survey `w`, `fresh`
those of a new registry that follows `w` alone. -/
structure Refines (ws : List Survey) (w : Survey) (c fresh : Contents) : Prop where
  /-- The names are those that the files declare. -/
  names : ∀ k, k ∈ c.index.records.keys ↔ ∃ p, w.Declares p k
  alike : c.index.records.keys = fresh.index.records.keys
  /-- Each record is what its file says now. -/
  records : ∀ k r, c.index.records.get? k = some r →
    r.path ∈ spellings (ws ++ [w]) ∧ ∃ o stamp, Object.ofFile r.path (w.files.text r.path) = .ok o ∧
      get? w.scan.snapshot r.path = some stamp ∧ r = Record.of o r.path stamp
  /-- A new registry takes the file with the smallest path. -/
  least : ∀ k r, fresh.index.records.get? k = some r →
    w.Declares r.path k ∧ ∀ p, w.Declares p k → r.path.compareTo p ≠ .gt

theorem spellings_mem {ws : List Survey} {w : Survey} (hw : w ∈ ws) :
    ∀ p ∈ paths w.scan.snapshot, p ∈ spellings ws :=
  fun _ hp => List.mem_flatMap.2 ⟨w, hw, hp⟩

/-- **Following the changes refines starting anew**, as long as a change of a file changes its stamp. -/
theorem followAll_refines (ws : List Survey) (w : Survey) (h : Stamped (ws ++ [w])) :
    let start := start options resolver traitRoots foundation
    Refines ws w (start.followAll (ws ++ [w])).contents (start.follow w).registry.contents := by
  intro start
  have hw : w ∈ ws ++ [w] := List.mem_append_right _ (List.mem_singleton_self w)
  -- the same of both registries: the one that followed all changes, and the one that saw the last survey only
  have hcurrent : ∀ (S : Path → Prop) (vs : List Survey),
      (∀ v ∈ vs ++ [w], ∀ p ∈ paths v.scan.snapshot, S p) → (vs ++ [w]).IsChain Survey.KeepsText →
      ∃ T, Current S w (start.followAll (vs ++ [w])).contents T := by
    intro S vs hS hchain
    obtain ⟨T, -, -, -, -, hlast⟩ :=
      followAll_current options resolver traitRoots foundation S (vs ++ [w]) hS hchain
    exact ⟨T, (hlast w (by simp)).2⟩
  obtain ⟨T, hT⟩ := hcurrent (· ∈ spellings (ws ++ [w])) ws (fun v hv => spellings_mem hv) h.changes
  obtain ⟨U, hU⟩ := hcurrent (· ∈ paths w.scan.snapshot) [] (by simp) (by simp)
  have hnames := hT.names (h.spelled w hw) (spellings_mem hw)
  have hfresh := hU.names
    (fun p hp q hq => h.spelled w hw p (spellings_mem hw p hp) q (spellings_mem hw q hq)) fun p hp => hp
  refine ⟨hnames, ?_, fun k r hr => ?_, fun k r hr => ?_⟩
  · exact hT.tracks.coherent.rising.keys_eq hU.tracks.coherent.rising
      fun k => (hnames k).trans (hfresh k).symm
  · obtain ⟨hS, -, hrecord⟩ := hT.record hr
    exact ⟨hS, hrecord⟩
  · obtain ⟨hS, rfl, o, stamp, ho, -, heq⟩ := hU.record hr
    refine ⟨⟨hS, o, ho, by rw [heq, Record.of_key]⟩, ?_⟩
    rintro p ⟨hp, o', ho', hkey⟩
    obtain ⟨r', hr', hleast⟩ := refresh_empty_least w (h.ordered w hw) hp ho'
    rw [hkey] at hr'
    obtain rfl := Option.some.inj (hr.symm.trans hr')
    exact hleast

theorem stamped_survivor : Stamped ([twins] ++ [survivor]) where
  changes := by simp [Survey.KeepsText, survivor]
  spelled := by simp [twins, survivor]
  ordered := by
    simp only [PathTable.Ordered, twins, survivor]
    decide +kernel

theorem followAll_refines_survivor :
    Stamped ([twins] ++ [survivor]) ∧
      Refines [twins] survivor
        ((start (.ofRoots [⟨"objects"⟩]) ⟨none⟩ [] []).followAll ([twins] ++ [survivor])).contents
        ((start (.ofRoots [⟨"objects"⟩]) ⟨none⟩ [] []).follow survivor).registry.contents :=
  ⟨stamped_survivor, followAll_refines _ _ _ _ [twins] survivor stamped_survivor⟩

end Registry

namespace Scan

/-- A scan lists the files in the order of their paths. -/
theorem of_ordered (t : Tree) (rules : ScanRules) (roots : List Path) :
    PathTable.Ordered (Scan.of t rules roots).snapshot := by
  unfold Scan.of
  suffices h : ∀ (vs : List Visit) (s : Scan), PathTable.Ordered s.snapshot →
      PathTable.Ordered (vs.foldl (see rules) s).snapshot from
    h _ _ List.Pairwise.nil
  intro vs
  induction vs with
  | nil => intro s hs; exact hs
  | cons v vs ih =>
    intro s hs
    refine ih _ ?_
    unfold see
    split
    · exact hs
    · split
      · exact hs.put _ _
      · exact hs
    · exact hs

end Scan

end TraitWeave
