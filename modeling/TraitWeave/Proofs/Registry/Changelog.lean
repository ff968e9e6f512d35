import TraitWeave.Proofs.Registry.Moves
import TraitWeave.Proofs.Registry.Runs

/-!
# The events of a refresh are its changelog

Whoever applies the events of a refresh to the records before it, one after the other, has the records
after it.

* `Event.apply`, `Event.mirror`: what an event does to a copy of the records.
* `Event.Fits`, `Event.AllFit`: what an event expects of the copy.
* `Progress.Tells`: what is told between two moments of a refresh.
* `Registry.follow_changelog`: a refresh at any time in any run.
-/

namespace TraitWeave

namespace Event

/-! ## Copies of the records -/

/-- What an event does to a copy of the records. -/
def apply (t : Table Record) : Event → Table Record
  | added r => t.place r.key r
  | updated r => t.place r.key r
  | removed r => t.erase r.key
  | failed _ => t
  | ready _ => t

/-- A copy of the records after several events. -/
def mirror (t : Table Record) (es : List Event) : Table Record := es.foldl apply t

/-- What an event expects of the copy. -/
def Fits (t : Table Record) : Event → Prop
  | added r => t.get? r.key = none
  | updated r => ∃ old, t.get? r.key = some old ∧ old.path.same r.path = true
  | removed r => t.get? r.key = some r
  | failed _ => True
  | ready _ => True

/-- Every event finds what it expects when its turn comes. -/
def AllFit (t : Table Record) : List Event → Prop
  | [] => True
  | e :: es => e.Fits t ∧ AllFit (e.apply t) es

/-- A record came. -/
def isAdded : Event → Bool
  | added _ => true
  | _ => false

/-- A record took the place of an earlier one. -/
def isUpdated : Event → Bool
  | updated _ => true
  | _ => false

/-- A record went. -/
def isRemoved : Event → Bool
  | removed _ => true
  | _ => false

/-- The registry is ready. -/
def isReady : Event → Bool
  | ready _ => true
  | _ => false

variable {t : Table Record} {e : Event} {es fs : List Event}

theorem mirror_append (t : Table Record) (es fs : List Event) :
    mirror t (es ++ fs) = mirror (mirror t es) fs :=
  List.foldl_append

theorem AllFit.append (hes : AllFit t es) (hfs : AllFit (mirror t es) fs) : AllFit t (es ++ fs) := by
  induction es generalizing t with
  | nil => exact hfs
  | cons e es ih => exact ⟨hes.1, ih hes.2 hfs⟩

theorem apply_rising (ht : t.Rising) (e : Event) : (e.apply t).Rising := by
  cases e with
  | added r => exact ht.place _ _
  | updated r => exact ht.place _ _
  | removed r => exact ht.erase _
  | failed d => exact ht
  | ready n => exact ht

/-- How the number of records changes. -/
theorem length_apply (ht : t.Rising) (he : e.Fits t) :
    (e.apply t).length + [e].countP isRemoved = t.length + [e].countP isAdded := by
  cases e with
  | added r => simp [apply, isAdded, isRemoved, Table.length_place he]
  | updated r =>
    obtain ⟨old, hold, -⟩ := he
    simp [apply, isAdded, isRemoved, ht.length_place hold]
  | removed r => simpa [apply, isAdded, isRemoved] using ht.length_erase he
  | failed d => rfl
  | ready n => rfl

/-- **The number of records** is kept by counting the events. -/
theorem length_mirror (ht : t.Rising) (hes : AllFit t es) :
    (mirror t es).length + es.countP isRemoved = t.length + es.countP isAdded := by
  induction es generalizing t with
  | nil => rfl
  | cons e es ih =>
    have hone := length_apply ht hes.1
    have hrest := ih (apply_rising ht e) hes.2
    rw [← List.singleton_append, List.countP_append, List.countP_append]
    change (mirror (e.apply t) es).length + _ = _
    omega

end Event

namespace Progress

open Event (mirror AllFit isAdded isUpdated isRemoved isReady)

/-! ## What the steps tell -/

/-- What is told between two moments of a refresh. -/
structure Tells (s s' : Progress) (es : List Event) : Prop where
  events : s'.events = s.events ++ es
  fits : AllFit s.contents.index.records es
  records : mirror s.contents.index.records es = s'.contents.index.records
  added : s'.tally.added = s.tally.added + es.countP isAdded
  updated : s'.tally.updated = s.tally.updated + es.countP isUpdated
  removed : s'.tally.removed = s.tally.removed + es.countP isRemoved
  unready : es.countP isReady = 0

theorem Tells.refl (s : Progress) : Tells s s [] :=
  ⟨(List.append_nil _).symm, trivial, rfl, rfl, rfl, rfl, rfl⟩

theorem Tells.trans {s s' s'' : Progress} {es fs : List Event} (h : Tells s s' es)
    (h' : Tells s' s'' fs) : Tells s s'' (es ++ fs) where
  events := by rw [h'.events, h.events, List.append_assoc]
  fits := h.fits.append (h.records ▸ h'.fits)
  records := by rw [Event.mirror_append, h.records, h'.records]
  added := by rw [h'.added, h.added, List.countP_append, Nat.add_assoc]
  updated := by rw [h'.updated, h.updated, List.countP_append, Nat.add_assoc]
  removed := by rw [h'.removed, h.removed, List.countP_append, Nat.add_assoc]
  unready := by rw [List.countP_append, h.unready, h'.unready]

/-- Between two moments the contents stay coherent, and what happens to the records is told. -/
def Advances (s s' : Progress) : Prop :=
  s.contents.Coherent → s'.contents.Coherent ∧ ∃ es, Tells s s' es

theorem Advances.refl (s : Progress) : Advances s s := fun h => ⟨h, [], .refl s⟩

theorem Advances.trans {s s' s'' : Progress} (h : Advances s s') (h' : Advances s' s'') :
    Advances s s'' := by
  intro hc
  obtain ⟨hc', es, hes⟩ := h hc
  obtain ⟨hc'', fs, hfs⟩ := h' hc'
  exact ⟨hc'', es ++ fs, hes.trans hfs⟩

theorem Advances.foldl {α : Type} {f : Progress → α → Progress} (h : ∀ s a, Advances s (f s a))
    (s : Progress) (as : List α) : Advances s (as.foldl f s) := by
  induction as generalizing s with
  | nil => exact .refl s
  | cons a as ih => exact (h s a).trans (ih (f s a))

variable {s : Progress} {p : Path} {r : Record}

/-- A failure is told and leaves the records. -/
theorem fail_tells (s : Progress) (d : Diagnostic) : Tells s (s.fail d) [.failed d] :=
  ⟨rfl, ⟨trivial, trivial⟩, rfl, rfl, rfl, rfl, rfl⟩

theorem release_tells (h : s.contents.Coherent) (p : Path) : ∃ es, Tells s (s.release p) es := by
  rcases release_cases h p with ⟨-, heq⟩ | ⟨r, hr, -, heq⟩
  · exact ⟨[], by rw [heq]; exact .refl s⟩
  · have hrecords := (Index.remove_records s.contents.index r.normalize_key).1
    rw [heq]
    exact ⟨[.removed r], rfl, ⟨hr, trivial⟩, hrecords.symm, rfl, rfl, rfl, rfl⟩

theorem rename_tells (h : s.contents.Coherent) (r : Record) : ∃ es, Tells s (s.rename r) es := by
  unfold rename
  dsimp only
  split
  · exact release_tells h _
  · exact ⟨[], .refl s⟩

theorem drop_tells (h : s.contents.Coherent) (p : Path) : ∃ es, Tells s (s.drop p) es := by
  obtain ⟨es, hes⟩ := release_tells (s := { s with contents := s.contents.settled p }) (h.settled p) p
  exact ⟨es, hes.events, hes.fits, hes.records, hes.added, hes.updated, hes.removed, hes.unready⟩

theorem reject_tells (h : s.contents.Coherent) (p : Path) (message : String) :
    ∃ es, Tells s (s.reject p message) es := by
  let c := { s.contents with waiting := PathTable.erase s.contents.waiting p }
  obtain ⟨es, hes⟩ := release_tells (s := { s with contents := c }) (h.forget p) p
  have hes := hes.trans (fail_tells _ (.ofProblems p message))
  exact ⟨_, hes.events, hes.fits, hes.records, hes.added, hes.updated, hes.removed, hes.unready⟩

theorem defer_tells (s : Progress) (r other : Record) :
    Tells s (s.defer r other) [.failed (.ofDuplicate r other)] :=
  ⟨rfl, ⟨trivial, trivial⟩, rfl, rfl, rfl, rfl, rfl⟩

/-- A record that comes is added, or takes the place of an earlier one of its file. -/
theorem hold_tells (h : s.contents.index.records.Rising)
    (hs : ∀ other, s.contents.index.records.get? r.key = some other → other.path.same r.path = true) :
    ∃ es, Tells s (s.hold r) es := by
  obtain ⟨hrecords, hprevious⟩ := Index.insert_records h r
  have hsettled : (s.contents.settled r.path).index = s.contents.index := rfl
  -- whether the record is new is told by what the index held before
  cases hr : s.contents.index.records.get? r.key with
  | some old =>
    refine ⟨[.updated r], ?_⟩
    simp only [hold, hsettled, hprevious, hr]
    exact ⟨rfl, ⟨⟨old, hr, hs old hr⟩, trivial⟩, hrecords.symm, rfl, rfl, rfl, rfl⟩
  | none =>
    refine ⟨[.added r], ?_⟩
    simp only [hold, hsettled, hprevious, hr]
    exact ⟨rfl, ⟨hr, trivial⟩, hrecords.symm, rfl, rfl, rfl, rfl⟩

theorem take_tells (h : s.contents.Coherent) (r : Record) : ∃ es, Tells s (s.take r) es := by
  obtain ⟨es, hes⟩ := rename_tells h r
  have hy := rename_yields h r
  unfold take
  dsimp only
  split
  · exact ⟨_, hes.trans (defer_tells _ _ _)⟩
  · rename_i hrival
    obtain ⟨fs, hfs⟩ := hold_tells (hy.rising h.rising) (rival?_eq_none.1 hrival)
    exact ⟨_, hes.trans hfs⟩

theorem read_tells (files : Files) (h : s.contents.Coherent) (p : Path) (stamp : Stamp) :
    ∃ es, Tells s (s.read files p stamp) es := by
  unfold read
  split
  · exact reject_tells h _ _
  · exact take_tells h _

/-! ## A whole refresh -/

/-- What leaves the records, and the files that hold them, tells nothing of them. -/
theorem advances_of_quiet {s s' : Progress} {es : List Event}
    (hindex : s'.contents.index = s.contents.index)
    (hholders : s'.contents.holders = s.contents.holders)
    (hwaiting : PathTable.Ordered s.contents.waiting → PathTable.Ordered s'.contents.waiting)
    (hdiagnostics : PathTable.Ordered s.contents.diagnostics →
      PathTable.Ordered s'.contents.diagnostics)
    (hes : Tells s s' es) : Advances s s' := fun h =>
  ⟨⟨hindex ▸ h.keyed, by rw [hindex, hholders]; exact h.holder, hindex ▸ h.rising,
    hwaiting h.waiting, hdiagnostics h.diagnostics⟩, es, hes⟩

theorem drop_advances (s : Progress) (p : Path) : Advances s (s.drop p) := fun h =>
  ⟨drop_coherent h p, drop_tells h p⟩

theorem read_advances (files : Files) (s : Progress) (p : Path) (stamp : Stamp) :
    Advances s (s.read files p stamp) := fun h =>
  ⟨read_coherent files h p stamp, read_tells files h p stamp⟩

theorem readFound_advances (files : Files) (found : Snapshot) (s : Progress) (p : Path) :
    Advances s (readFound files found s p) := by
  unfold readFound
  split
  · exact read_advances files s p _
  · exact .refl s

theorem readFreed_advances (files : Files) (found : Snapshot) (s : Progress) (p : Path) :
    Advances s (readFreed files found s p) := by
  unfold readFreed
  split
  · exact read_advances files s p _
  · exact advances_of_quiet rfl rfl (fun h => h.erase p) id
      ⟨(List.append_nil _).symm, trivial, rfl, rfl, rfl, rfl, rfl⟩

theorem promote_advances (files : Files) (found : Snapshot) (s : Progress) :
    Advances s (promote files found s) := by
  fun_induction promote files found s with
  | case1 s hfree => exact .refl s
  | case2 s _ next _ ih => exact (Advances.foldl (readFreed_advances files found) s _).trans ih
  | case3 s _ next _ => exact Advances.foldl (readFreed_advances files found) s _

theorem forgetErrors_advances (s : Progress) (failing : List (Path × String)) :
    Advances s (s.forgetErrors failing) :=
  advances_of_quiet rfl rfl id (fun h => h.filter _)
    ⟨(List.append_nil _).symm, trivial, rfl, rfl, rfl, rfl, rfl⟩

theorem noteError_advances (s : Progress) (p : Path) (message : String) :
    Advances s (s.noteError p message) := by
  unfold noteError
  dsimp only
  split
  · exact advances_of_quiet rfl rfl id id
      ⟨(List.append_nil _).symm, trivial, rfl, rfl, rfl, rfl, rfl⟩
  · exact advances_of_quiet rfl rfl id (fun h => h.put _ _) (fail_tells s _)

theorem noteErrors_advances (s : Progress) (errors : List (Path × String)) :
    Advances s (s.noteErrors errors) := by
  unfold noteErrors
  have hnoted := Advances.foldl (fun s (e : Path × String) => noteError_advances s e.1 e.2)
  exact (forgetErrors_advances s errors).trans (hnoted _ errors)

theorem finish_advances (s : Progress) (found : Snapshot) : Advances s (s.finish found) :=
  advances_of_quiet rfl rfl id id ⟨(List.append_nil _).symm, trivial, rfl, rfl, rfl, rfl, rfl⟩

end Progress

namespace Contents

open Progress Event

/-- A refresh keeps the contents coherent and tells what happens to the records. -/
theorem refresh_advances (files : Files) (c : Contents) (scan : Scan) :
    Advances ⟨c, .zero, []⟩ (c.refresh files scan) := by
  unfold refresh
  dsimp only
  refine Advances.trans ?_ (finish_advances _ _)
  refine Advances.trans ?_ (noteErrors_advances _ _)
  refine Advances.trans ?_ (promote_advances _ _ _)
  exact (Advances.foldl drop_advances _ _).trans (.foldl (readFound_advances files scan.snapshot) _ _)

variable {c : Contents}

theorem refresh_coherent (h : c.Coherent) (files : Files) (scan : Scan) :
    (c.refresh files scan).contents.Coherent :=
  (refresh_advances files c scan h).1

/-- **What a refresh tells of the records** leads from those before to those after. -/
theorem refresh_tells (h : c.Coherent) (files : Files) (scan : Scan) :
    Tells ⟨c, .zero, []⟩ (c.refresh files scan) (c.refresh files scan).events := by
  obtain ⟨-, es, hes⟩ := refresh_advances files c scan h
  have heq : (c.refresh files scan).events = es := hes.events
  rw [heq]; exact hes

end Contents

namespace Registry

open Event (mirror AllFit isAdded isUpdated isRemoved isReady mirror_append length_mirror)

variable (options : RegistryOptions) (resolver : Resolver) (traitRoots : List Path)
  (foundation : Table Field)

/-- In every run the contents are coherent. -/
theorem followAll_coherent (ws : List Survey) :
    ((start options resolver traitRoots foundation).followAll ws).contents.Coherent := by
  induction ws using List.reverseRecOn with
  | nil => exact Contents.Coherent.empty
  | append_singleton ws w ih =>
    rw [followAll_concat, follow_contents]
    exact Contents.refresh_coherent ih w.files w.scan

/-- What a refresh tells before it may tell that the registry is ready. -/
theorem follow_events (rg : Registry) (w : Survey) :
    (rg.follow w).events = (rg.contents.refresh w.files w.scan).events ++
      if rg.ready then [] else [.ready (rg.follow w).tally.total] := by
  unfold follow
  dsimp only
  split <;> simp

theorem follow_total (rg : Registry) (w : Survey) :
    (rg.follow w).tally.total = (rg.follow w).registry.contents.index.size := by
  rw [follow_contents]; rfl

/-- **The events of a refresh are its changelog.** -/
structure Chronicles (rg : Registry) (f : Followed) : Prop where
  fits : AllFit rg.contents.index.records f.events
  records : mirror rg.contents.index.records f.events = f.registry.contents.index.records
  added : f.tally.added = f.events.countP isAdded
  updated : f.tally.updated = f.events.countP isUpdated
  removed : f.tally.removed = f.events.countP isRemoved
  total : f.tally.total = f.registry.contents.index.size
  balance : f.tally.total + f.tally.removed = rg.contents.index.size + f.tally.added

theorem follow_chronicles {rg : Registry} (h : rg.contents.Coherent) (w : Survey) :
    Chronicles rg (rg.follow w) := by
  have htells := Contents.refresh_tells h w.files w.scan
  -- the word that the registry is ready expects nothing and changes nothing
  have hlast : ∀ t : Table Record, AllFit t (if rg.ready then [] else [.ready (rg.follow w).tally.total]) ∧
      mirror t (if rg.ready then [] else [.ready (rg.follow w).tally.total]) = t := by
    intro t; split
    · exact ⟨trivial, rfl⟩
    · exact ⟨⟨trivial, trivial⟩, rfl⟩
  have hcount : ∀ f : Event → Bool, f (.ready (rg.follow w).tally.total) = false →
      (rg.follow w).events.countP f = (rg.contents.refresh w.files w.scan).events.countP f := by
    intro f hf
    rw [follow_events, List.countP_append]
    split <;> simp [hf]
  have hfits : AllFit rg.contents.index.records (rg.follow w).events :=
    follow_events rg w ▸ htells.fits.append (hlast _).1
  have hrecords : mirror rg.contents.index.records (rg.follow w).events =
      (rg.follow w).registry.contents.index.records := by
    rw [follow_events, mirror_append, (hlast _).2, follow_contents]
    exact htells.records
  have hadded : (rg.follow w).tally.added = (rg.follow w).events.countP isAdded := by
    rw [hcount _ rfl]; exact htells.added.trans (Nat.zero_add _)
  have hremoved : (rg.follow w).tally.removed = (rg.follow w).events.countP isRemoved := by
    rw [hcount _ rfl]; exact htells.removed.trans (Nat.zero_add _)
  refine ⟨hfits, hrecords, hadded, ?_, hremoved, follow_total rg w, ?_⟩
  · rw [hcount _ rfl]; exact htells.updated.trans (Nat.zero_add _)
  · have hlength := length_mirror h.rising hfits
    rw [hrecords] at hlength
    rw [follow_total, hadded, hremoved]
    exact hlength

/-- A registry says once that it is ready, after its first survey. -/
theorem follow_countP_isReady {rg : Registry} (h : rg.contents.Coherent) (w : Survey) :
    (rg.follow w).events.countP isReady = if rg.ready then 0 else 1 := by
  have hunready := (Contents.refresh_tells h w.files w.scan).unready
  rw [follow_events, List.countP_append, hunready]
  split <;> rfl

/-- The story of a run leads from no records to those that are there. -/
theorem story_chronicles (ws : List Survey) :
    let start := start options resolver traitRoots foundation
    AllFit [] (start.story ws) ∧
      mirror [] (start.story ws) = (start.followAll ws).contents.index.records ∧
      (start.story ws).countP isReady = if ws.isEmpty then 0 else 1 := by
  intro start
  induction ws using List.reverseRecOn with
  | nil => exact ⟨trivial, rfl, rfl⟩
  | append_singleton ws w ih =>
    obtain ⟨hfits, hrecords, hready⟩ := ih
    have hc := followAll_coherent options resolver traitRoots foundation ws
    have hf := follow_chronicles hc w
    rw [story_concat, mirror_append, hrecords, List.countP_append, hready,
      follow_countP_isReady hc, followAll_ready, followAll_concat]
    refine ⟨hfits.append (hrecords ▸ hf.fits), hf.records, ?_⟩
    cases ws <;> rfl

/-- **Every run is told as a changelog.** Each refresh chronicles what it does to the records. Once, as the
last thing of the first refresh, the registry is said to be ready. -/
theorem followAll_changelog (ws : List Survey) (w : Survey) :
    let start := start options resolver traitRoots foundation
    let f := (start.followAll ws).follow w
    Chronicles (start.followAll ws) f ∧
      (ws = [] → ∃ es, f.events = es ++ [.ready f.tally.total]) ∧
      f.events.countP isReady = (if ws.isEmpty then 1 else 0) ∧
      (start.story (ws ++ [w])).countP isReady = 1 ∧
      AllFit [] (start.story (ws ++ [w])) ∧
      mirror [] (start.story (ws ++ [w])) = f.registry.contents.index.records := by
  intro start f
  have hc := followAll_coherent options resolver traitRoots foundation ws
  have hready : (start.followAll ws).ready = !ws.isEmpty := by
    rw [followAll_ready]; rfl
  obtain ⟨hfits, hrecords, hstory⟩ :=
    story_chronicles options resolver traitRoots foundation (ws ++ [w])
  rw [followAll_concat] at hrecords
  refine ⟨follow_chronicles hc w, ?_, ?_, ?_, hfits, hrecords⟩
  · rintro rfl
    exact ⟨_, follow_events start w⟩
  · rw [follow_countP_isReady hc, hready]
    cases ws <;> rfl
  · rw [hstory]; simp

end Registry

end TraitWeave
