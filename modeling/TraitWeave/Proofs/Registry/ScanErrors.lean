import TraitWeave.Proofs.Registry.Classes
import TraitWeave.Proofs.Registry.Footprint

/-!
# When the errors of scans are told

Each path has one place for what is wrong with it. An error of the scan is told where that place has another message
or none, and then takes it; reading the file of the path may empty the place, or put something else there. So the
messages that a path has in a scan are told as they take turns, the first of them after the last one of the scan before.

* `Scan.messagesOn`, `Scan.turns`: the messages of a path, and those that differ from the one before.
* `Progress.noteErrors_announces`: the errors of a scan, from what stands before it.
* `Contents.promoted_silent`: all stages before that tell of no errors of scans.
* `Registry.followAll_announces`: **what any refresh in any run tells of the errors of its scan.**
* `Registry.not_announced_once`: two messages on one path are told again each time.
-/

namespace TraitWeave

open PathTable (get?)

namespace Diagnostic

theorem kind_ofProblems (p : Path) (message : String) : (ofProblems p message).kind ≠ .unscanned := nofun

theorem kind_ofDuplicate (r other : Record) : (ofDuplicate r other).kind ≠ .unscanned := nofun

end Diagnostic

namespace Event

/-- The error of a scan that an event tells. -/
def scanError? : Event → Option (Path × String)
  | failed d => if d.kind = .unscanned then some (d.path, d.message) else none
  | _ => none

/-- The errors of scans that some events tell, in their order. -/
def scanErrors (es : List Event) : List (Path × String) := es.filterMap scanError?

@[simp] theorem scanErrors_append (es fs : List Event) : scanErrors (es ++ fs) = scanErrors es ++ scanErrors fs :=
  List.filterMap_append

end Event

/-! ## Messages in turn -/

namespace Scan

/-- The messages on a path, in the order of the errors. -/
def messagesOn (q : Path) (errors : List (Path × String)) : List String :=
  (errors.filter fun e => e.1.same q).map Prod.snd

variable {q : Path} {m : String} {o : Option String} {ms : List String} {errors : List (Path × String)}

@[simp] theorem messagesOn_append (q : Path) (es fs : List (Path × String)) :
    messagesOn q (es ++ fs) = messagesOn q es ++ messagesOn q fs := by
  simp [messagesOn]

theorem messagesOn_eq_nil : messagesOn q errors = [] ↔ errors.any (fun e => e.1.same q) = false := by
  simp [messagesOn]

theorem messagesOn_sublist {es fs : List (Path × String)} (h : es.Sublist fs) (q : Path) :
    (messagesOn q es).Sublist (messagesOn q fs) :=
  (h.filter _).map _

/-- The messages that differ from the one before; `o` is the one before the first. -/
def turns : Option String → List String → List String
  | _, [] => []
  | o, m :: ms => if o = some m then turns o ms else m :: turns (some m) ms

theorem getLast?_cons_eq_or (m : String) (ms : List String) : (m :: ms).getLast? = ms.getLast?.or (some m) := by
  rw [List.getLast?_cons]
  cases ms.getLast? <;> rfl

/-- Turns go on from the last message. -/
theorem turns_append (o : Option String) (ms ns : List String) :
    turns o (ms ++ ns) = turns o ms ++ turns (ms.getLast?.or o) ns := by
  induction ms generalizing o with
  | nil => rfl
  | cons m ms ih =>
    rw [List.cons_append, turns, turns, getLast?_cons_eq_or]
    by_cases ho : o = some m
    · rw [if_pos ho, if_pos ho, ih, ho, Option.or_assoc]
      rfl
    · rw [if_neg ho, if_neg ho, ih, List.cons_append, Option.or_assoc]
      rfl

/-- A message that is not the one before the first has its turn. -/
theorem mem_turns (hm : m ∈ ms) (ho : o ≠ some m) : m ∈ turns o ms := by
  induction ms generalizing o with
  | nil => cases hm
  | cons n ms ih =>
    rw [turns]
    by_cases hn : m = n
    · subst hn
      rw [if_neg ho]
      exact List.mem_cons_self
    · have hrest : m ∈ ms := (List.mem_cons.1 hm).resolve_left hn
      split
      · exact ih hrest ho
      · exact List.mem_cons_of_mem _ (ih hrest fun he => hn (Option.some.inj he).symm)

/-- A message that stands has no turn. -/
theorem turns_standing (h : ∀ n ∈ ms, n = m) : turns (some m) ms = [] := by
  induction ms with
  | nil => rfl
  | cons n ms ih =>
    rw [turns, h n List.mem_cons_self, if_pos rfl]
    exact ih fun n hn => h n (List.mem_cons_of_mem _ hn)

/-- Where there is but one message, it has its turn once, unless it stands before. -/
theorem turns_of_one (h : ∀ n ∈ ms, n = m) (hne : ms ≠ []) :
    turns o ms = if o = some m then [] else [m] := by
  cases ms with
  | nil => exact absurd rfl hne
  | cons n ns =>
    have hrest := turns_standing fun n hn => h n (List.mem_cons_of_mem _ hn)
    rw [turns, h n List.mem_cons_self, hrest]
    split
    · rename_i ho
      rw [ho, hrest]
    · rfl

end Scan

open Scan (messagesOn turns)

namespace Contents

/-- The error of a scan that is said of a path. -/
def reported? (c : Contents) (q : Path) : Option String :=
  (get? c.diagnostics q).bind fun d => if d.kind = .unscanned then some d.message else none

variable {c c' : Contents} {p q : Path}

theorem reported?_congr (c : Contents) (h : p.same q = true) : c.reported? p = c.reported? q := by
  unfold reported?
  rw [PathTable.get?_congr _ h]

/-- A step about a path empties its place, or puts something else there than an error of a scan. -/
theorem Moves.reported? {held : Option Record} {awaited : Option String} {d : Option Diagnostic}
    (h : c.Moves c' p held awaited d) (hd : ∀ x ∈ d, x.kind ≠ .unscanned) (q : Path) :
    c'.reported? q = if p.same q then none else c.reported? q := by
  unfold Contents.reported?
  rw [h.said]
  split
  · cases d with
    | none => rfl
    | some x => rw [Option.bind_some, if_neg (hd x rfl)]
  · rfl

end Contents

namespace Progress

open Contents Event

variable {s s' s'' : Progress} {p q : Path} {files : Files} {found : Snapshot}

/-! ## Noting errors -/

/-- **What is told of some errors**: those that take turns with what stands, and the last one stands in the end. -/
structure Announces (s s' : Progress) (errors told : List (Path × String)) : Prop where
  events : scanErrors s'.events = scanErrors s.events ++ told
  sublist : told.Sublist errors
  turns : ∀ q, messagesOn q told = turns (s.contents.reported? q) (messagesOn q errors)
  stands : ∀ q, s'.contents.reported? q = (messagesOn q errors).getLast?.or (s.contents.reported? q)

theorem Announces.refl (s : Progress) : Announces s s [] [] :=
  ⟨(List.append_nil _).symm, .slnil, fun _ => rfl, fun _ => rfl⟩

theorem Announces.trans {es fs told told' : List (Path × String)} (h : Announces s s' es told)
    (h' : Announces s' s'' fs told') : Announces s s'' (es ++ fs) (told ++ told') where
  events := by rw [h'.events, h.events, List.append_assoc]
  sublist := h.sublist.append h'.sublist
  turns q := by
    rw [Scan.messagesOn_append, Scan.messagesOn_append, Scan.turns_append, h.turns, h'.turns, h.stands]
  stands q := by
    rw [Scan.messagesOn_append, List.getLast?_append, h'.stands, h.stands, Option.or_assoc]

theorem noteError_eq (s : Progress) (p : Path) (message : String) :
    s.noteError p message =
      if s.contents.reported? p = some message then
        { s with tally := { s.tally with errors := s.tally.errors + 1 } }
      else s.fail (.ofScan p message) := by
  unfold noteError reported?
  cases get? s.contents.diagnostics p with
  | none => simp
  | some old => by_cases hkind : old.kind = .unscanned <;> simp [hkind, Diagnostic.ofScan]

/-- One error is told where another message stands or none. -/
theorem noteError_announces (s : Progress) (p : Path) (message : String) :
    Announces s (s.noteError p message) [(p, message)]
      (if s.contents.reported? p = some message then [] else [(p, message)]) := by
  have hother {q : Path} (hq : p.same q = false) : messagesOn q [(p, message)] = [] := by simp [messagesOn, hq]
  have hself {q : Path} (hq : p.same q = true) : messagesOn q [(p, message)] = [message] := by
    simp [messagesOn, hq]
  rw [noteError_eq]
  by_cases hknown : s.contents.reported? p = some message
  -- the message stands, so nothing is told and nothing changes
  · rw [if_pos hknown, if_pos hknown]
    refine ⟨(List.append_nil _).symm, List.nil_sublist _, fun q => ?_, fun q => ?_⟩
    · cases hq : p.same q with
      | false => rw [hother hq]; rfl
      | true => rw [hself hq, ← reported?_congr _ hq, hknown, turns, if_pos rfl]; rfl
    · cases hq : p.same q with
      | false => rw [hother hq]; rfl
      | true => rw [hself hq, ← reported?_congr _ hq]; exact hknown
  -- the message is told, and takes the place of the one that stood
  · rw [if_neg hknown, if_neg hknown]
    refine ⟨scanErrors_append _ _, .refl _, fun q => ?_, fun q => ?_⟩
    · cases hq : p.same q with
      | false => rw [hother hq]; rfl
      | true => rw [hself hq, ← reported?_congr _ hq, turns, if_neg hknown]; rfl
    · have hput : get? (s.fail (.ofScan p message)).contents.diagnostics q =
          if p.same q then some (.ofScan p message) else get? s.contents.diagnostics q := PathTable.get?_put _ _ _ _
      unfold reported?
      rw [hput]
      cases hq : p.same q with
      | false => rw [hother hq]; rfl
      | true => rw [hself hq]; rfl

theorem foldl_noteError_announces (s : Progress) (errors : List (Path × String)) :
    ∃ told, Announces s (errors.foldl (fun s e => s.noteError e.1 e.2) s) errors told := by
  induction errors generalizing s with
  | nil => exact ⟨[], .refl s⟩
  | cons e errors ih =>
    obtain ⟨told, htold⟩ := ih (s.noteError e.1 e.2)
    exact ⟨_, (noteError_announces s e.1 e.2).trans htold⟩

/-- What was said of paths that can be scanned again is forgotten. -/
theorem reported?_forgetErrors (hs : s.contents.Coherent) (errors : List (Path × String)) (q : Path) :
    (s.forgetErrors errors).contents.reported? q =
      if messagesOn q errors = [] then none else s.contents.reported? q := by
  have hfilter : get? (s.forgetErrors errors).contents.diagnostics q =
      (get? s.contents.diagnostics q).filter fun d =>
        d.kind != .unscanned || errors.any fun f => f.1.same q := by
    refine hs.diagnostics.get?_filter _ fun e _ he => ?_
    simp only [Path.same_congr_right he]
  unfold reported?
  rw [hfilter]
  split
  · rename_i hnone
    rw [Scan.messagesOn_eq_nil.1 hnone]
    cases get? s.contents.diagnostics q with
    | none => rfl
    | some d => by_cases hkind : d.kind = .unscanned <;> simp [hkind, Option.filter]
  · rename_i hsome
    have hany : errors.any (fun e => e.1.same q) = true := by simpa using mt Scan.messagesOn_eq_nil.2 hsome
    rw [hany]
    cases get? s.contents.diagnostics q with
    | none => rfl
    | some d => simp [Option.filter]

/-- **The errors of a scan** take turns with what stands before it; afterwards the last message of each path stands, and
nothing on the other paths. -/
theorem noteErrors_announces (hs : s.contents.Coherent) (errors : List (Path × String)) :
    ∃ told, scanErrors (s.noteErrors errors).events = scanErrors s.events ++ told ∧ told.Sublist errors ∧ ∀ q,
      messagesOn q told = turns (s.contents.reported? q) (messagesOn q errors) ∧
      (s.noteErrors errors).contents.reported? q = (messagesOn q errors).getLast? := by
  obtain ⟨told, htold⟩ := foldl_noteError_announces (s.forgetErrors errors) errors
  refine ⟨told, htold.events, htold.sublist, fun q => ?_⟩
  have hturns := htold.turns q
  have hstands := htold.stands q
  rw [reported?_forgetErrors hs] at hturns hstands
  by_cases hq : messagesOn q errors = []
  · rw [hq, if_pos rfl] at hturns hstands
    rw [hq]
    exact ⟨hturns, hstands⟩
  · rw [if_neg hq] at hturns hstands
    obtain ⟨m, hm⟩ := Option.ne_none_iff_exists'.1 (mt List.getLast?_eq_none_iff.1 hq)
    refine ⟨hturns, hstands.trans ?_⟩
    rw [hm, Option.some_or]

/-! ## Before the errors are noted -/

/-- Between two moments nothing is told of errors of scans. What is said of them may get lost, but not for the paths
of which `P` holds. -/
structure Silent (P : Path → Prop) (s s' : Progress) : Prop where
  coherent : s'.contents.Coherent
  events : scanErrors s'.events = scanErrors s.events
  said : ∀ q, s'.contents.reported? q = none ∨ s'.contents.reported? q = s.contents.reported? q
  kept : ∀ q, P q → s'.contents.reported? q = s.contents.reported? q

variable {P Q : Path → Prop}

theorem Silent.refl (h : s.contents.Coherent) : Silent P s s := ⟨h, rfl, fun _ => .inr rfl, fun _ _ => rfl⟩

theorem Silent.trans (h : Silent P s s') (h' : Silent P s' s'') : Silent P s s'' where
  coherent := h'.coherent
  events := h'.events.trans h.events
  said q := by
    rcases h'.said q with hnone | hsame
    · exact .inl hnone
    · rw [hsame]
      exact h.said q
  kept q hq := (h'.kept q hq).trans (h.kept q hq)

theorem Silent.mono (h : Silent P s s') (hQ : ∀ q, Q q → P q) : Silent Q s s' :=
  ⟨h.coherent, h.events, h.said, fun q hq => h.kept q (hQ q hq)⟩

theorem Silent.foldl {f : Progress → Path → Progress} (ps : List Path)
    (hf : ∀ s p, p ∈ ps → s.contents.Coherent → Silent P s (f s p)) (h : s.contents.Coherent) :
    Silent P s (ps.foldl f s) := by
  induction ps generalizing s with
  | nil => exact .refl h
  | cons p ps ih =>
    have hone := hf s p List.mem_cons_self h
    exact hone.trans (ih (fun s q hq => hf s q (List.mem_cons_of_mem _ hq)) hone.coherent)

/-- A step about one path. -/
theorem Silent.of_moves {held : Option Record} {awaited : Option String} {d : Option Diagnostic}
    (hm : s.contents.Moves s'.contents p held awaited d) (hd : ∀ x ∈ d, x.kind ≠ .unscanned)
    (hcoherent : s'.contents.Coherent) (hevents : scanErrors s'.events = scanErrors s.events)
    (hP : ∀ q, P q → p.same q = false) : Silent P s s' where
  coherent := hcoherent
  events := hevents
  said q := by
    rw [hm.reported? hd]
    split
    · exact .inl rfl
    · exact .inr rfl
  kept q hq := by rw [hm.reported? hd, hP q hq, if_neg Bool.false_ne_true]

theorem release_events (s : Progress) (p : Path) : scanErrors (s.release p).events = scanErrors s.events := by
  unfold release
  split
  · rfl
  · exact (scanErrors_append _ _).trans (List.append_nil _)

theorem rename_events (s : Progress) (r : Record) : scanErrors (s.rename r).events = scanErrors s.events := by
  unfold rename
  dsimp only
  split
  · exact release_events s r.path
  · rfl

theorem hold_events (s : Progress) (r : Record) : scanErrors (s.hold r).events = scanErrors s.events := by
  unfold hold
  dsimp only
  split <;> exact (scanErrors_append _ _).trans (List.append_nil _)

theorem fail_events (s : Progress) {d : Diagnostic} (hd : d.kind ≠ .unscanned) :
    scanErrors (s.fail d).events = scanErrors s.events := by
  refine (scanErrors_append _ _).trans ?_
  simp [scanErrors, scanError?, hd]

theorem take_events (s : Progress) (r : Record) : scanErrors (s.take r).events = scanErrors s.events := by
  unfold take
  dsimp only
  split
  · exact (fail_events _ (Diagnostic.kind_ofDuplicate _ _)).trans (rename_events s r)
  · exact (hold_events _ r).trans (rename_events s r)

/-- Reading a file tells of the file, not of the scan. -/
theorem read_events (files : Files) (s : Progress) (p : Path) (stamp : Stamp) :
    scanErrors (s.read files p stamp).events = scanErrors s.events := by
  unfold read
  split
  · exact (fail_events _ (Diagnostic.kind_ofProblems _ _)).trans (release_events _ _)
  · exact take_events s _

theorem drop_silent (h : s.contents.Coherent) (p : Path) : Silent (fun q => p.same q = false) s (s.drop p) :=
  .of_moves (drop_moves h p) (fun _ hx => nomatch hx) (drop_coherent h p) (release_events _ p) fun _ => id

theorem read_silent (files : Files) (h : s.contents.Coherent) (p : Path) (stamp : Stamp) :
    Silent (fun q => p.same q = false) s (s.read files p stamp) := by
  obtain ⟨held, awaited, d, hcomes, hm⟩ := read_moves files h p stamp
  refine .of_moves hm ?_ (read_coherent files h p stamp) (read_events files s p stamp) fun _ => id
  rintro x hx hkind
  cases hcomes with
  | rejected message hnone => exact absurd hkind (Option.some.inj hx ▸ Diagnostic.kind_ofProblems _ _)
  | held r hr hown => cases hx
  | deferred r other hr hother hne => exact absurd hkind (Option.some.inj hx ▸ Diagnostic.kind_ofDuplicate _ _)

/-- A file that was not found is not read. -/
theorem not_same_of_unfound {stamp : Stamp} (hp : get? found p = some stamp) (hq : get? found q = none) :
    p.same q = false := by
  refine Bool.eq_false_iff.2 fun hs => ?_
  rw [PathTable.get?_congr _ hs, hq] at hp
  cases hp

theorem readFound_silent (files : Files) (found : Snapshot) (h : s.contents.Coherent) (p : Path) :
    Silent (fun q => get? found q = none) s (readFound files found s p) := by
  unfold readFound
  split
  · rename_i stamp hstamp
    exact (read_silent files h p stamp).mono fun q hq => not_same_of_unfound hstamp hq
  · exact .refl h

theorem readFreed_silent (files : Files) (found : Snapshot) (h : s.contents.Coherent) (p : Path) :
    Silent (fun q => get? found q = none) s (readFreed files found s p) := by
  cases hfound : get? found p with
  | some stamp =>
    rw [readFreed_of_found s hfound, ← readFound_of_found s hfound]
    exact readFound_silent files found h p
  | none =>
    unfold readFreed
    rw [hfound]
    exact ⟨h.forget p, rfl, fun _ => .inr rfl, fun _ _ => rfl⟩

theorem promote_silent (files : Files) (found : Snapshot) (h : s.contents.Coherent) :
    Silent (fun q => get? found q = none) s (s.promote files found) := by
  fun_induction promote files found s with
  | case1 s hfree => exact .refl h
  | case2 s _ next _ ih =>
    have hnext : Silent _ s next := .foldl _ (fun _ p _ hs => readFreed_silent files found hs p) h
    exact hnext.trans (ih hnext.coherent)
  | case3 s _ next _ => exact .foldl _ (fun _ p _ hs => readFreed_silent files found hs p) h

end Progress

/-! ## A whole refresh -/

namespace Contents

open Progress Event

variable {c : Contents} {last : Scan}

/-- **Up to the errors of the scan a refresh tells of none.** What is said of a path that neither scan found as a file
is not touched. -/
theorem promoted_silent (hc : c.Coherent) (files : Files) (scan : Scan) :
    Silent (fun q => get? c.snapshot q = none ∧ get? scan.snapshot q = none) ⟨c, .zero, []⟩
      (c.promoted files scan) := by
  have hdropped : Silent (fun q => get? c.snapshot q = none) ⟨c, .zero, []⟩ (c.dropped scan) := by
    refine .foldl _ (fun s p hp hs => (drop_silent hs p).mono fun q hq => ?_) hc
    -- a file that is gone was found by the last scan
    obtain ⟨stamp, hstamp⟩ := PathTable.has_iff.1 (PathTable.has_of_mem_paths (Snapshot.mem_removed.1 hp).1)
    exact not_same_of_unfound hstamp hq
  have hreread : Silent (fun q => get? scan.snapshot q = none) (c.dropped scan) (c.reread files scan) :=
    .foldl _ (fun _ p _ hs => readFound_silent files scan.snapshot hs p) hdropped.coherent
  have hpromoted := promote_silent files scan.snapshot hreread.coherent
  exact (hdropped.mono fun q hq => hq.1).trans ((hreread.trans hpromoted).mono fun q hq => hq.2)

end Contents

/-- **What is told of the errors of a scan** that comes after another one. -/
structure Scan.Announced (last now : Scan) (told : List (Path × String)) : Prop where
  /-- Nothing but what the scan reports, in its order. -/
  reported : told.Sublist now.errors
  /-- The messages of a path are told as they take turns, the first after what is said of the path by then. -/
  turns : ∀ q, ∃ o, (o = none ∨ o = (messagesOn q last.errors).getLast?) ∧
    messagesOn q told = turns o (messagesOn q now.errors)
  /-- A path that neither scan found as a file still has the last message of the scan before. -/
  unfound : ∀ q, get? last.snapshot q = none → get? now.snapshot q = none →
    messagesOn q told = Scan.turns (messagesOn q last.errors).getLast? (messagesOn q now.errors)

namespace Scan.Announced

variable {last now : Scan} {told : List (Path × String)} {q : Path} {m : String}

theorem mem_errors (h : last.Announced now told) (hm : m ∈ messagesOn q told) : m ∈ messagesOn q now.errors :=
  (messagesOn_sublist h.reported q).subset hm

/-- **What the scan before did not report is told.** -/
theorem of_new (h : last.Announced now told) (hm : m ∈ messagesOn q now.errors)
    (hnew : m ∉ messagesOn q last.errors) : m ∈ messagesOn q told := by
  obtain ⟨o, ho, hturns⟩ := h.turns q
  rw [hturns]
  refine mem_turns hm ?_
  rcases ho with rfl | rfl
  · exact nofun
  · exact fun hlast => hnew (List.mem_of_getLast? hlast)

/-- **Where a path has one message at most in each of the scans** and is found as a file by neither, it is told if it
is new, and once. -/
theorem of_one (h : last.Announced now told) (hlast : get? last.snapshot q = none)
    (hnow : get? now.snapshot q = none)
    (hone : ∀ m ∈ messagesOn q last.errors, ∀ n ∈ messagesOn q last.errors, m = n)
    (hone' : ∀ m ∈ messagesOn q now.errors, ∀ n ∈ messagesOn q now.errors, m = n) :
    (messagesOn q told).Nodup ∧
      ∀ m, m ∈ messagesOn q told ↔ m ∈ messagesOn q now.errors ∧ m ∉ messagesOn q last.errors := by
  have hturns := h.unfound q hlast hnow
  cases hms : messagesOn q now.errors with
  | nil =>
    rw [hturns, hms, Scan.turns]
    exact ⟨List.nodup_nil, fun m => by simp⟩
  | cons n ns =>
    have hall : ∀ m ∈ n :: ns, m = n := fun m hm => hone' m (hms ▸ hm) n (hms ▸ List.mem_cons_self)
    have hmem (m : String) : m ∈ n :: ns ↔ m = n := ⟨hall m, fun he => he ▸ List.mem_cons_self⟩
    -- of one message at most, that it stands and that it was reported is the same
    have hstands : (messagesOn q last.errors).getLast? = some n ↔ n ∈ messagesOn q last.errors := by
      refine ⟨List.mem_of_getLast?, fun hn => ?_⟩
      obtain ⟨m, hm⟩ := Option.ne_none_iff_exists'.1 (mt List.getLast?_eq_none_iff.1 (List.ne_nil_of_mem hn))
      rw [hm, hone m (List.mem_of_getLast? hm) n hn]
    rw [hturns, hms, turns_of_one hall (List.cons_ne_nil n ns)]
    split
    · rename_i hknown
      refine ⟨List.nodup_nil, fun m => ⟨nofun, fun ⟨hm, hnew⟩ => ?_⟩⟩
      exact absurd (hstands.1 hknown) ((hmem m).1 hm ▸ hnew)
    · rename_i hknown
      refine ⟨List.nodup_singleton n, fun m => ?_⟩
      rw [List.mem_singleton, hmem]
      exact ⟨fun he => ⟨he, he ▸ mt hstands.2 hknown⟩, And.left⟩

end Scan.Announced

namespace Contents

open Event

variable {c : Contents} {last : Scan}

/-- **What a refresh tells of the errors of its scan**, where the contents are those that the scan before left. -/
theorem refresh_announces (hc : c.Coherent) (hsnapshot : c.snapshot = last.snapshot)
    (hlast : ∀ q, c.reported? q = (messagesOn q last.errors).getLast?) (files : Files) (scan : Scan) :
    last.Announced scan (scanErrors (c.refresh files scan).events) ∧
      ∀ q, (c.refresh files scan).contents.reported? q = (messagesOn q scan.errors).getLast? := by
  have hsilent := promoted_silent hc files scan
  obtain ⟨told, hevents, hsublist, htold⟩ := Progress.noteErrors_announces hsilent.coherent scan.errors
  have hrefresh : scanErrors (c.refresh files scan).events = told := by
    rw [refresh_eq]
    exact hevents.trans (by rw [hsilent.events]; rfl)
  rw [hrefresh]
  refine ⟨⟨hsublist, fun q => ⟨_, ?_, (htold q).1⟩, fun q hold hnew => ?_⟩, fun q => (htold q).2⟩
  · exact (hsilent.said q).imp_right fun hsame => hsame.trans (hlast q)
  · rw [(htold q).1, hsilent.kept q ⟨hsnapshot ▸ hold, hnew⟩]
    exact congrArg (turns · _) (hlast q)

end Contents

namespace Registry

open Contents Event

/-- The scan of the last survey of a run. -/
def lastScan (ws : List Survey) : Scan := (ws.getLast?.map Survey.scan).getD .empty

@[simp] theorem lastScan_concat (ws : List Survey) (w : Survey) : lastScan (ws ++ [w]) = w.scan := by
  simp [lastScan]

variable (options : RegistryOptions) (resolver : Resolver) (traitRoots : List Path) (foundation : Table Field)

/-- After every run there stands on each path the last message that it has in the last scan. -/
theorem followAll_reported (ws : List Survey) :
    let c := ((start options resolver traitRoots foundation).followAll ws).contents
    c.snapshot = (lastScan ws).snapshot ∧ ∀ q, c.reported? q = (messagesOn q (lastScan ws).errors).getLast? := by
  induction ws using List.reverseRecOn with
  | nil => exact ⟨rfl, fun _ => rfl⟩
  | append_singleton ws w ih =>
    have hc := followAll_coherent options resolver traitRoots foundation ws
    rw [followAll_concat, follow_contents, lastScan_concat]
    exact ⟨rfl, (refresh_announces hc ih.1 ih.2 w.files w.scan).2⟩

/-- **What any refresh in any run tells of the errors of its scan.** Nothing is told that the scan does not report, and
all that the scan before did not report. On a path with several messages each of them is told that differs from the one
before it, the first after the last one of the scan before; so a path that has one message at most in each of the two
scans, and is found as a file by neither, is told of once, just if its message is new. Afterwards there stands on each
path the last message that it has in the scan, and none where it has none. -/
theorem followAll_announces (ws : List Survey) (w : Survey) :
    let rg := (start options resolver traitRoots foundation).followAll ws
    let told := scanErrors (rg.follow w).events
    let last := lastScan ws
    last.Announced w.scan told ∧
      (∀ q m, m ∈ messagesOn q told → m ∈ messagesOn q w.scan.errors) ∧
      (∀ q m, m ∈ messagesOn q w.scan.errors → m ∉ messagesOn q last.errors → m ∈ messagesOn q told) ∧
      (∀ q, get? last.snapshot q = none → get? w.scan.snapshot q = none →
        (∀ m ∈ messagesOn q last.errors, ∀ n ∈ messagesOn q last.errors, m = n) →
        (∀ m ∈ messagesOn q w.scan.errors, ∀ n ∈ messagesOn q w.scan.errors, m = n) →
        (messagesOn q told).Nodup ∧
          ∀ m, m ∈ messagesOn q told ↔ m ∈ messagesOn q w.scan.errors ∧ m ∉ messagesOn q last.errors) ∧
      ∀ q, (rg.follow w).registry.contents.reported? q = (messagesOn q w.scan.errors).getLast? := by
  intro rg told last
  have hc := followAll_coherent options resolver traitRoots foundation ws
  obtain ⟨hsnapshot, hlast⟩ := followAll_reported options resolver traitRoots foundation ws
  obtain ⟨hannounced, hstands⟩ := refresh_announces hc hsnapshot hlast w.files w.scan
  -- the word that the registry is ready is no error of the scan
  have htold : told = scanErrors (rg.contents.refresh w.files w.scan).events := by
    change scanErrors (rg.follow w).events = _
    rw [follow_events, scanErrors_append]
    split <;> exact List.append_nil _
  rw [htold]
  refine ⟨hannounced, fun q m => hannounced.mem_errors, fun q m => hannounced.of_new,
    fun q hold hnew hone hone' => hannounced.of_one hold hnew hone hone', fun q => ?_⟩
  rw [follow_contents]
  exact hstands q

/-- Beside what could not be read before, a link leads back to its directory. There are two roots, which are spellings
of one path, so the path of the link has two messages. -/
def looped : Survey where
  files := survivor.files
  scan :=
    { survivor.scan with
      errors := survivor.scan.errors ++
        [(⟨"objects/loop"⟩, "File system loop found: objects/loop points to an ancestor objects"),
          (⟨"objects//loop"⟩, "File system loop found: objects//loop points to an ancestor objects//")] }

/-- What could not be read before is not told again; both messages of the link are, and the second one stands. -/
theorem followAll_announces_looped :
    let rg := (start (.ofRoots [⟨"objects"⟩, ⟨"objects//"⟩]) ⟨none⟩ [] []).followAll [survivor]
    let told := scanErrors (rg.follow looped).events
    "Permission denied" ∉ messagesOn ⟨"objects/locked"⟩ told ∧
      "File system loop found: objects/loop points to an ancestor objects" ∈ messagesOn ⟨"objects/loop"⟩ told ∧
      "File system loop found: objects//loop points to an ancestor objects//" ∈ messagesOn ⟨"objects/loop"⟩ told ∧
      (rg.follow looped).registry.contents.reported? ⟨"objects/loop"⟩ =
        some "File system loop found: objects//loop points to an ancestor objects//" := by
  intro rg told
  obtain ⟨-, -, hnew, hone, hstands⟩ :=
    followAll_announces (.ofRoots [⟨"objects"⟩, ⟨"objects//"⟩]) ⟨none⟩ [] [] [survivor] looped
  obtain ⟨-, hlocked⟩ := hone ⟨"objects/locked"⟩ (by decide) (by decide) (by decide) (by decide)
  refine ⟨fun h => ((hlocked _).1 h).2 (by decide), hnew _ _ (by decide) (by decide),
    hnew _ _ (by decide) (by decide), (hstands _).trans (by decide)⟩

/-- **Each error of a scan is told once**: where the scan reports it and the one before did not. What is said of a path is
gone with the first scan that has no error on it. -/
def AnnouncedOnce (rg : Registry) (ws : List Survey) (w : Survey) : Prop :=
  let f := (rg.followAll ws).follow w
  (∀ q m, m ∈ messagesOn q (scanErrors f.events) ↔
      m ∈ messagesOn q w.scan.errors ∧ m ∉ messagesOn q (lastScan ws).errors) ∧
    ∀ q, messagesOn q w.scan.errors = [] → f.registry.contents.reported? q = none

/-- **Not each error is told once**: with two messages on one path, each takes the place of the other, and both are told
by every refresh. -/
theorem not_announced_once :
    ¬∀ ws w, AnnouncedOnce (start (.ofRoots [⟨"objects"⟩, ⟨"objects//"⟩]) ⟨none⟩ [] []) ws w := by
  intro h
  have htold : "File system loop found: objects/loop points to an ancestor objects" ∈
      messagesOn ⟨"objects/loop"⟩ (scanErrors
        (((start (.ofRoots [⟨"objects"⟩, ⟨"objects//"⟩]) ⟨none⟩ [] []).followAll [looped]).follow looped).events) := by
    decide +kernel
  exact (((h [looped] looped).1 _ _).1 htold).2 (by decide)

end Registry

end TraitWeave
