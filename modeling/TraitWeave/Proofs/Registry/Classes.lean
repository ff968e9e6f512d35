import TraitWeave.Proofs.Registry.Refresh
import TraitWeave.Proofs.Registry.Runs

/-!
# What every file of a registry is

After a refresh each file that was found holds a record, waits for the name of one, or holds no object,
and the diagnostics say which.

* `FileClass`, `Contents.IsIn`: the three classes of files.
* `Contents.Settled`: what the contents are after a refresh.
* `Registry.followAll_settled`: they are so after every run.
-/

namespace TraitWeave

open PathTable (get? paths)

/-- What a file is that was found. -/
inductive FileClass where
  /-- It holds a record. -/
  | holding
  /-- Another file holds a record of its name. -/
  | waiting
  /-- It holds no object. -/
  | broken
  deriving DecidableEq, Repr

namespace Contents

/-- A file is in a class, and nothing speaks for another one. -/
def IsIn (c : Contents) (p : Path) : FileClass → Prop
  | .holding => (∃ k, get? c.holders p = some k) ∧ get? c.waiting p = none ∧ get? c.diagnostics p = none
  | .waiting => get? c.holders p = none ∧ (∃ k, get? c.waiting p = some k) ∧
      ∃ d, get? c.diagnostics p = some d ∧ d.kind = .duplicate
  | .broken => get? c.holders p = none ∧ get? c.waiting p = none ∧
      ∃ d, get? c.diagnostics p = some d ∧ d.kind = .unparsed

/-- **What the contents are after a refresh** that found what `scan` says. -/
structure Settled (c : Contents) (scan : Scan) : Prop where
  snapshot : c.snapshot = scan.snapshot
  holders : ∀ p k, get? c.holders p = some k ↔
    ∃ r, c.index.records.get? k = some r ∧ r.path.same p = true
  classes : ∀ p, get? scan.snapshot p ≠ none → ∃! x, c.IsIn p x
  outside : ∀ p, get? scan.snapshot p = none → get? c.holders p = none ∧ get? c.waiting p = none ∧
    ∀ d, get? c.diagnostics p = some d → d.kind ≠ .unparsed ∧ d.kind ≠ .duplicate
  unscanned : ∀ p, (∃ d, get? c.diagnostics p = some d ∧ d.kind = .unscanned) ↔
    ∃ e ∈ scan.errors, e.1.same p = true
  keyed : ∀ k r, c.index.records.get? k = some r → k = Name.normalize r.name
  stamped : ∀ k r, c.index.records.get? k = some r → get? scan.snapshot r.path = some r.stamp
  awaited : ∀ p k, get? c.waiting p = some k →
    ∃ r, c.index.records.get? k = some r ∧ r.path.same p = false

variable {c c' : Contents} {p : Path} {S : Path → Prop} {T T' : PathTable FileReading}

theorem IsIn.unique {x y : FileClass} (hx : c.IsIn p x) (hy : c.IsIn p y) : x = y := by
  cases x <;> cases y <;> simp_all [IsIn]

/-- The class of a file follows from its last reading. -/
theorem Tracks.exists_isIn (h : Tracks S c T) (hlabels : Labels c T) {ρ : FileReading}
    (hρ : get? T p = some ρ) : ∃ x, c.IsIn p x := by
  have hstands := h.stands p
  have hlabel := hlabels.read p ρ hρ
  rw [hρ, Option.bind_some] at hstands
  unfold label at hlabel
  cases hr : ρ.record? with
  | none =>
    rw [hr] at hstands hlabel
    obtain ⟨d, hd, hkind⟩ := Option.map_eq_some_iff.1 hlabel
    exact ⟨.broken, hstands.1, hstands.2, d, hd, hkind⟩
  | some r =>
    rw [hr] at hstands hlabel
    rcases hstands with ⟨hholder, -, hw⟩ | ⟨hholder, hw⟩
    · rw [hw] at hlabel
      exact ⟨.holding, ⟨_, hholder⟩, hw, Option.map_eq_none_iff.1 hlabel⟩
    · rw [hw] at hlabel
      obtain ⟨d, hd, hkind⟩ := Option.map_eq_some_iff.1 hlabel
      exact ⟨.waiting, hholder, ⟨_, hw⟩, d, hd, hkind⟩

/-- A record comes from the last reading of its file. -/
theorem Tracks.of_record (h : Tracks S c T) {k : String} {r : Record}
    (hr : c.index.records.get? k = some r) :
    ∃ ρ, get? T r.path = some ρ ∧ ρ.record? = some r := by
  have hholder := h.coherent.holds hr
  have hstands := h.stands r.path
  obtain rfl := h.coherent.keyed k r hr
  cases hρ : get? T r.path with
  | none =>
    rw [hρ] at hstands
    rw [hstands.1] at hholder
    cases hholder
  | some ρ =>
    refine ⟨ρ, rfl, ?_⟩
    rw [hρ, Option.bind_some] at hstands
    cases hrec : ρ.record? with
    | none =>
      rw [hrec] at hstands
      rw [hstands.1] at hholder
      cases hholder
    | some r' =>
      rw [hrec] at hstands
      rcases hstands with ⟨hholder', hr', -⟩ | ⟨hholder', -⟩
      · rw [hholder, Option.some.injEq] at hholder'
        rw [← hholder', hr] at hr'
        exact hr'.symm
      -- a file that waits holds no record
      · rw [hholder'] at hholder
        cases hholder

theorem Refreshes.settled {w : Survey} (h : Refreshes S w c c' T T') (hlabels : Labels c T)
    (herrors : ∀ e ∈ w.scan.errors, get? w.scan.snapshot e.1 = none) : c'.Settled w.scan where
  snapshot := h.snapshot
  holders := h.tracks.coherent.holder
  classes p hp := by
    have hmeet := h.meets p
    cases hρ : get? T' p with
    | none =>
      rw [Meets, hρ] at hmeet
      exact absurd hmeet.symm hp
    | some ρ =>
      obtain ⟨x, hx⟩ := h.tracks.exists_isIn (h.labels hlabels herrors).1 hρ
      exact ⟨x, hx, fun y hy => hy.unique hx⟩
  outside p hp := by
    have hρ : get? T' p = none := by
      have hmeet := h.meets p
      rw [Meets, hp] at hmeet
      exact Option.map_eq_none_iff.1 hmeet
    -- no file is here, so a diagnostic can only be an error of the scan
    have hstands := h.tracks.stands p
    rw [hρ] at hstands
    refine ⟨hstands.1, hstands.2, fun d hd => ?_⟩
    rw [(h.labels hlabels herrors).1.unread p d hρ hd]
    exact ⟨by decide, by decide⟩
  unscanned := (h.labels hlabels herrors).2
  keyed k r hr := (h.tracks.coherent.keyed k r hr).symm
  stamped k r hr := by
    obtain ⟨ρ, hρ, hrec⟩ := h.tracks.of_record hr
    rw [← h.meets r.path, hρ, FileReading.record?_stamp hrec]
    rfl
  awaited p k hk := by
    -- a file that waits holds nothing, so the record of the name is of another one
    obtain ⟨hholder, -, -⟩ := waits_of_tracks h.tracks hk
    rcases h.awaited p k hk with ⟨r, hr⟩ | ⟨q, hq, -⟩
    · refine ⟨r, hr, Bool.eq_false_iff.2 fun hs => ?_⟩
      rw [(h.tracks.coherent.holder p k).2 ⟨r, hr, hs⟩] at hholder
      cases hholder
    · cases hq

end Contents

namespace Registry

open Contents

variable (options : RegistryOptions) (resolver : Resolver) (traitRoots : List Path)
  (foundation : Table Field)

/-- In every run the last readings account for the contents, and for the diagnostics where no scan finds a file
that it could not read. -/
theorem followAll_steady (S : Path → Prop) (ws : List Survey)
    (hS : ∀ v ∈ ws, ∀ p ∈ paths v.scan.snapshot, S p) :
    let c := ((start options resolver traitRoots foundation).followAll ws).contents
    ∃ T, Steady S c T ∧
      ((∀ v ∈ ws, ∀ e ∈ v.scan.errors, get? v.scan.snapshot e.1 = none) → Labels c T) := by
  induction ws using List.reverseRecOn with
  | nil => exact ⟨[], .empty S, fun _ => .empty⟩
  | append_singleton ws w ih =>
    obtain ⟨T, hT, hlabels⟩ := ih fun v hv => hS v (List.mem_append_left _ hv)
    have hw : w ∈ ws ++ [w] := List.mem_append_right _ (List.mem_singleton_self w)
    obtain ⟨T', hT'⟩ := refresh_tracks w hT.tracks hT.meets hT.spelled (hS w hw)
    rw [followAll_concat, follow_contents]
    refine ⟨T', hT'.steady (hS w hw), fun h => ?_⟩
    exact (hT'.labels (hlabels fun v hv => h v (List.mem_append_left _ hv)) (h w hw)).1

theorem followAll_tracks (ws : List Survey)
    (h : ∀ v ∈ ws, ∀ e ∈ v.scan.errors, get? v.scan.snapshot e.1 = none) :
    let c := ((start options resolver traitRoots foundation).followAll ws).contents
    ∃ T, Tracks (fun _ => True) c T ∧ (∀ q, Meets c.snapshot T q) ∧ Labels c T := by
  obtain ⟨T, hT, hlabels⟩ := followAll_steady options resolver traitRoots foundation (fun _ => True) ws
    fun _ _ _ _ => trivial
  exact ⟨T, hT.tracks, hT.meets, hlabels h⟩

/-- **After every run** each file that was found holds a record, waits for a name that another file
holds, or is broken. All that is asked is that no scan finds a file that it could not read. -/
theorem followAll_settled (ws : List Survey) (w : Survey)
    (h : ∀ v ∈ ws ++ [w], ∀ e ∈ v.scan.errors, get? v.scan.snapshot e.1 = none) :
    ((start options resolver traitRoots foundation).followAll (ws ++ [w])).contents.Settled w.scan := by
  obtain ⟨T, hT, hmeets, hlabels⟩ := followAll_tracks options resolver traitRoots foundation ws
    fun v hv => h v (List.mem_append_left _ hv)
  obtain ⟨T', hT'⟩ := refresh_tracks w hT hmeets (fun _ _ => trivial) fun _ _ => trivial
  have herrors := h w (List.mem_append_right _ (List.mem_singleton_self w))
  rw [followAll_concat, follow_contents]
  exact hT'.settled hlabels herrors

/-! ## Two files of one name -/

/-- Two files that declare the same name, beside a directory that cannot be read. -/
def twins : Survey where
  files := ⟨fun _ => true, fun _ => .ok "\x7b\"object\": \x7b\"name\": \"User\"\x7d\x7d"⟩
  scan := ⟨[(⟨"objects/a.object.json"⟩, ⟨1, 28⟩), (⟨"objects/b.object.json"⟩, ⟨1, 28⟩)],
    [(⟨"objects/locked"⟩, "Permission denied")]⟩

/-- The first of the two files is gone. -/
def survivor : Survey where
  files := twins.files
  scan := ⟨[(⟨"objects/b.object.json"⟩, ⟨1, 28⟩)], [(⟨"objects/locked"⟩, "Permission denied")]⟩

theorem followAll_settled_survivor :
    (∀ v ∈ [twins] ++ [survivor], ∀ e ∈ v.scan.errors, get? v.scan.snapshot e.1 = none) ∧
      ((start (.ofRoots [⟨"objects"⟩]) ⟨none⟩ [] []).followAll ([twins] ++ [survivor])).contents.Settled
        survivor.scan :=
  ⟨by decide +kernel, followAll_settled _ _ _ _ [twins] survivor (by decide +kernel)⟩

/-- The second file waits, and takes the name when the first is gone. -/
example :
    ((start (.ofRoots [⟨"objects"⟩]) ⟨none⟩ [] []).followAll [twins]).contents.waiting =
        [(⟨"objects/b.object.json"⟩, "user")] ∧
      ((start (.ofRoots [⟨"objects"⟩]) ⟨none⟩ [] []).followAll [twins, survivor]).contents.holders =
        [(⟨"objects/b.object.json"⟩, "user")] := by
  decide +kernel

end Registry

end TraitWeave
