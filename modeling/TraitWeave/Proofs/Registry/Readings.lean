import TraitWeave.Proofs.Registry.Moves

/-!
# What was read last

The contents do not keep what each file said when it was last read, but all that they hold follows from it.
A table of the last readings is carried beside them.

* `FileReading`: what a file said, and the stamp that it had.
* `Contents.Tracks`: each path stands as its last reading says.
* `Contents.Labels`: the diagnostics say the same.
* `Progress.read_tracks`, `Progress.drop_tracks`: the steps of a refresh keep both.
-/

namespace TraitWeave

open PathTable (get? put erase paths)

/-- What a file said when it was read. -/
structure FileReading where
  path : Path
  stamp : Stamp
  outcome : Except (List Document.Problem) Object

namespace FileReading

/-- A file read now. -/
def of (files : Files) (p : Path) (stamp : Stamp) : FileReading :=
  ⟨p, stamp, Object.ofFile p (files.text p)⟩

/-- The record that the file declares. -/
def record? (ρ : FileReading) : Option Record :=
  match ρ.outcome with
  | .error _ => none
  | .ok o => some (Record.of o ρ.path ρ.stamp)

theorem record?_path {ρ : FileReading} {r : Record} (h : ρ.record? = some r) : r.path = ρ.path := by
  unfold record? at h
  split at h
  · cases h
  · cases h; rfl

theorem record?_stamp {ρ : FileReading} {r : Record} (h : ρ.record? = some r) : r.stamp = ρ.stamp := by
  unfold record? at h
  split at h
  · cases h
  · cases h; rfl

variable {files : Files} {p : Path}

theorem record?_of_error {ps : List Document.Problem} (stamp : Stamp)
    (h : Object.ofFile p (files.text p) = .error ps) : (of files p stamp).record? = none := by
  simp only [of, record?, h]

theorem record?_of_ok {o : Object} (stamp : Stamp) (h : Object.ofFile p (files.text p) = .ok o) :
    (of files p stamp).record? = some (.of o p stamp) := by
  simp only [of, record?, h]

end FileReading

namespace Contents

/-- Where a path stands that declares a record, or none. -/
def Stands (c : Contents) (p : Path) : Option Record → Prop
  | none => get? c.holders p = none ∧ get? c.waiting p = none
  | some r =>
    (get? c.holders p = some r.key ∧ c.index.records.get? r.key = some r ∧ get? c.waiting p = none) ∨
    (get? c.holders p = none ∧ get? c.waiting p = some r.key)

/-- **Each path stands as its last reading says.** `S` holds of the spellings that were met. -/
structure Tracks (S : Path → Prop) (c : Contents) (T : PathTable FileReading) : Prop where
  coherent : c.Coherent
  stands : ∀ p, c.Stands p ((get? T p).bind FileReading.record?)
  spelled : ∀ p ρ, get? T p = some ρ → ρ.path.same p = true ∧ S ρ.path
  waiting : ∀ p ∈ paths c.waiting, S p

/-- The kind of diagnostic for a path that was read, where `awaited` tells what it waits for. -/
def label (ρ : FileReading) (awaited : Option String) : Option Diagnostic.Kind :=
  match ρ.record?, awaited with
  | none, _ => some .unparsed
  | some _, none => none
  | some _, some _ => some .duplicate

theorem label_ne_unscanned (ρ : FileReading) (awaited : Option String) :
    label ρ awaited ≠ some .unscanned := by
  unfold label; split <;> decide

/-- **The diagnostics say what the readings say.** -/
structure Labels (c : Contents) (T : PathTable FileReading) : Prop where
  read : ∀ p ρ, get? T p = some ρ →
    (get? c.diagnostics p).map Diagnostic.kind = label ρ (get? c.waiting p)
  unread : ∀ p d, get? T p = none → get? c.diagnostics p = some d → d.kind = .unscanned

theorem Tracks.empty (S : Path → Prop) : Tracks S .empty [] where
  coherent := .empty
  stands _ := ⟨rfl, rfl⟩
  spelled p ρ h := by simp at h
  waiting p h := by simp [Contents.empty, paths] at h

theorem Labels.empty : Labels .empty [] where
  read p ρ h := by simp at h
  unread p d _ h := by simp [Contents.empty] at h

variable {c c' : Contents} {p q : Path} {S : Path → Prop} {T T' : PathTable FileReading}

theorem Stands.congr (h : p.same q = true) {x : Option Record} (hs : c.Stands p x) : c.Stands q x := by
  unfold Stands at *
  rwa [← PathTable.get?_congr _ h, ← PathTable.get?_congr _ h]

/-! ## One step -/

/-- What a reading comes to: what the path holds and waits for afterwards, and what is said of it. -/
inductive Comes (c : Contents) (ρ : FileReading) :
    Option Record → Option String → Option Diagnostic → Prop where
  | rejected (message : String) : ρ.record? = none →
      Comes c ρ none none (some (.ofProblems ρ.path message))
  | held (r : Record) : ρ.record? = some r →
      (∀ other, c.index.records.get? r.key = some other → other.path.same r.path = true) →
      Comes c ρ (some r) none none
  | deferred (r other : Record) : ρ.record? = some r →
      c.index.records.get? r.key = some other → other.path.same r.path = false →
      Comes c ρ none (some r.key) (some (.ofDuplicate r other))

namespace Moves

variable {held : Option Record} {awaited : Option String} {d : Option Diagnostic}

/-- Another path stands as before. -/
theorem stands_other (h : c.Moves c' p held awaited d) (hc : c.Coherent) (hheld : c.MayHold p held)
    (hq : p.same q = false) {x : Option Record} (hs : c.Stands q x) : c'.Stands q x := by
  have hholder : get? c'.holders q = get? c.holders q := by rw [h.holder, hq]; rfl
  have hwaiting : get? c'.waiting q = get? c.waiting q := by rw [h.awaits, hq]; rfl
  cases x with
  | none => exact ⟨hholder.trans hs.1, hwaiting.trans hs.2⟩
  | some r =>
    rcases hs with ⟨hqr, hr, hw⟩ | ⟨hqr, hw⟩
    · refine .inl ⟨hholder.trans hqr, ?_, hwaiting.trans hw⟩
      -- the record that `q` holds is not one of `p`
      obtain ⟨r', hr', hsame⟩ := (hc.holder q _).1 hqr
      obtain rfl := Option.some.inj (hr.symm.trans hr')
      refine h.stays hc hheld hr (Bool.eq_false_iff.2 fun hp => ?_)
      rw [Path.same_trans (Path.same_symm hp) hsame] at hq
      cases hq
    · exact .inr ⟨hholder.trans hqr, hwaiting.trans hw⟩

/-- A step about a path of which the new table says where it stands. -/
theorem tracks (h : c.Moves c' p held awaited d) (hT : Tracks S c T) (hheld : c.MayHold p held)
    (hp : S p) (hother : ∀ q, p.same q = false → get? T' q = get? T q)
    (hstands : c'.Stands p ((get? T' p).bind FileReading.record?))
    (hspelled : ∀ ρ, get? T' p = some ρ → ρ.path.same p = true ∧ S ρ.path) : Tracks S c' T' where
  coherent := h.coherent hT.coherent hheld
  stands q := by
    by_cases hq : p.same q = true
    · rw [← PathTable.get?_congr _ hq]
      exact hstands.congr hq
    · have hq : p.same q = false := by simpa using hq
      rw [hother q hq]
      exact h.stands_other hT.coherent hheld hq (hT.stands q)
  spelled q ρ hρ := by
    by_cases hq : p.same q = true
    · rw [← PathTable.get?_congr _ hq] at hρ
      obtain ⟨hs, hS⟩ := hspelled ρ hρ
      exact ⟨Path.same_trans hs hq, hS⟩
    · rw [hother q (by simpa using hq)] at hρ
      exact hT.spelled q ρ hρ
  waiting q hq := by
    rcases h.spelled q hq with rfl | hq
    · exact hp
    · exact hT.waiting q hq

/-- The same of what the diagnostics say. -/
theorem labels (h : c.Moves c' p held awaited d) (hT : Labels c T)
    (hother : ∀ q, p.same q = false → get? T' q = get? T q)
    (hread : ∀ ρ, get? T' p = some ρ → d.map Diagnostic.kind = label ρ awaited)
    (hunread : get? T' p = none → d = none) : Labels c' T' where
  read q ρ hρ := by
    rw [h.said, h.awaits]
    by_cases hq : p.same q = true
    · rw [if_pos hq, if_pos hq]
      rw [← PathTable.get?_congr _ hq] at hρ
      exact hread ρ hρ
    · rw [if_neg hq, if_neg hq]
      rw [hother q (by simpa using hq)] at hρ
      exact hT.read q ρ hρ
  unread q e hq he := by
    rw [h.said] at he
    by_cases hpq : p.same q = true
    · rw [← PathTable.get?_congr _ hpq] at hq
      rw [if_pos hpq, hunread hq] at he
      cases he
    · rw [if_neg hpq] at he
      rw [hother q (by simpa using hpq)] at hq
      exact hT.unread q e hq he

end Moves

namespace Comes

variable {ρ : FileReading} {held : Option Record} {awaited : Option String} {d : Option Diagnostic}

theorem mayHold (h : c.Comes ρ held awaited d) : c.MayHold ρ.path held := by
  cases h with
  | rejected message hρ => exact mayHold_none _ _
  | held r hρ hs =>
    rintro r' ⟨⟩
    rw [← FileReading.record?_path hρ]
    exact ⟨Path.same_refl _, hs⟩
  | deferred r other hρ hother hs => exact mayHold_none _ _

theorem label (h : c.Comes ρ held awaited d) : d.map Diagnostic.kind = Contents.label ρ awaited := by
  unfold Contents.label
  cases h with
  | rejected message hρ => rw [hρ]; rfl
  | held r hρ hs => rw [hρ]; rfl
  | deferred r other hρ hother hs => rw [hρ]; rfl

/-- The path stands as it was read. -/
theorem stands (h : c.Comes ρ held awaited d) (hm : c.Moves c' ρ.path held awaited d) :
    c'.Stands ρ.path ρ.record? := by
  have hholder := hm.holder ρ.path
  have hwaiting := hm.awaits ρ.path
  rw [Path.same_refl, if_pos rfl] at hholder hwaiting
  cases h with
  | rejected message hρ => rw [hρ]; exact ⟨hholder, hwaiting⟩
  | held r hρ hs =>
    rw [hρ]
    exact .inl ⟨hholder, by rw [hm.record]; simp, hwaiting⟩
  | deferred r other hρ hother hs => rw [hρ]; exact .inr ⟨hholder, hwaiting⟩

/-- The name for which the path comes to wait is held by another path. -/
theorem awaited_named (h : c.Comes ρ held awaited d) (hm : c.Moves c' ρ.path held awaited d)
    (hc : c.Coherent) {k : String} (hk : awaited = some k) : ∃ r, c'.index.records.get? k = some r := by
  cases h with
  | rejected message hρ => cases hk
  | held r hρ hs => cases hk
  | deferred r other hρ hother hs =>
    obtain rfl := Option.some.inj hk
    refine ⟨other, ?_⟩
    rw [hm.record_other (by simp) fun hp => ?_, hother]
    obtain ⟨r', hr', hsame⟩ := (hc.holder _ _).1 hp
    obtain rfl := Option.some.inj (hother.symm.trans hr')
    rw [FileReading.record?_path hρ, hsame] at hs
    cases hs

end Comes

end Contents

namespace Progress

open Contents

variable {s : Progress} {p : Path} {S : Path → Prop} {T : PathTable FileReading}

/-- **Reading a file** comes to what the reading says. -/
theorem read_moves (files : Files) (h : s.contents.Coherent) (p : Path) (stamp : Stamp) :
    ∃ held awaited d, s.contents.Comes (.of files p stamp) held awaited d ∧
      s.contents.Moves (s.read files p stamp).contents p held awaited d := by
  rcases ho : Object.ofFile p (files.text p) with ps | o
  · have hm := reject_moves h p (Document.Problem.rendered ps)
    rw [← read_of_error stamp ho] at hm
    exact ⟨_, _, _, .rejected _ (FileReading.record?_of_error stamp ho), hm⟩
  · have hρ := FileReading.record?_of_ok stamp ho
    have hm := take_moves h (.of o p stamp)
    rw [← read_of_ok stamp ho] at hm
    rcases hm with ⟨hm, hs⟩ | ⟨other, hother, hs, hm⟩
    · exact ⟨_, _, _, .held _ hρ hs, hm⟩
    · exact ⟨_, _, _, .deferred _ other hρ hother hs, hm⟩

theorem read_tracks (files : Files) (h : Tracks S s.contents T) (hp : S p) (stamp : Stamp) :
    Tracks S (s.read files p stamp).contents (put T p (.of files p stamp)) ∧
      (Labels s.contents T →
        Labels (s.read files p stamp).contents (put T p (.of files p stamp))) := by
  obtain ⟨held, awaited, d, hcomes, hm⟩ := read_moves files h.coherent p stamp
  have hself : get? (put T p (.of files p stamp)) p = some (.of files p stamp) := by
    rw [PathTable.get?_put, Path.same_refl, if_pos rfl]
  have hother : ∀ q, p.same q = false → get? (put T p (.of files p stamp)) q = get? T q := by
    intro q hq
    rw [PathTable.get?_put, hq, if_neg Bool.false_ne_true]
  refine ⟨hm.tracks h hcomes.mayHold hp hother ?_ ?_, fun hT => hm.labels hT hother ?_ ?_⟩
  · rw [hself]; exact hcomes.stands hm
  · intro ρ hρ
    obtain rfl := Option.some.inj (hself.symm.trans hρ)
    exact ⟨Path.same_refl _, hp⟩
  · intro ρ hρ
    obtain rfl := Option.some.inj (hself.symm.trans hρ)
    exact hcomes.label
  · intro hnone
    rw [hself] at hnone
    cases hnone

theorem drop_tracks (h : Tracks S s.contents T) (hp : S p) :
    Tracks S (s.drop p).contents (erase T p) ∧
      (Labels s.contents T → Labels (s.drop p).contents (erase T p)) := by
  have hm := drop_moves h.coherent p
  have hself : get? (erase T p) p = none := by
    rw [PathTable.get?_erase, Path.same_refl, if_pos rfl]
  have hother : ∀ q, p.same q = false → get? (erase T p) q = get? T q := by
    intro q hq
    rw [PathTable.get?_erase, hq, if_neg Bool.false_ne_true]
  refine ⟨hm.tracks h (mayHold_none _ _) hp hother ?_ ?_, fun hT => hm.labels hT hother ?_ fun _ => rfl⟩
  · have hholder := hm.holder p
    have hwaiting := hm.awaits p
    rw [Path.same_refl, if_pos rfl] at hholder hwaiting
    rw [hself]
    exact ⟨hholder, hwaiting⟩
  · intro ρ hρ; rw [hself] at hρ; cases hρ
  · intro ρ hρ; rw [hself] at hρ; cases hρ

end Progress

end TraitWeave
