import TraitWeave.Tree.Edit
import TraitWeave.Proofs.Name
import TraitWeave.Proofs.Table

/-!
# What is read after files were written

A file is written through the links that stand in its place, so writing one name may change what is read
under another. Under a name that is no link a file is written where the name stands, and nowhere else.

* `Entry.Keeps`: what a tree keeps when files are written into it, directories and links.
* `Tree.Leads.keeps`, `Tree.Names.keeps`: paths through directories lead where they led before.
* `Tree.Holds`: a name in a directory stands for a file with some text, which reading gives back.
* `Tree.holds_write`, `Tree.Holds.write_other`: what a name stands for after a file was written.
* `Tree.Takes.write`: where a file can be written, and what can be written after it.
-/

namespace TraitWeave

namespace Entry

variable {e e' e'' : Entry} {loc : Location} {n : String} {es : List (String × Entry)}

/-! ## Entries at locations -/

theorem at?_cons (es : List (String × Entry)) (n : String) (rest : Location) :
    (directory es).at? (n :: rest) = (Table.get? es n).bind (·.at? rest) := by
  rw [at?]
  split <;> simp_all

/-- Where something is found below a name, the name is one of a directory. -/
theorem exists_of_at?_cons {k : String} {rest : Location} {x : Entry} (h : e.at? (k :: rest) = some x) :
    ∃ ds d, e = directory ds ∧ Table.get? ds k = some d ∧ d.at? rest = some x := by
  cases e with
  | directory ds =>
    rw [at?_cons] at h
    obtain ⟨d, hd, hx⟩ := Option.bind_eq_some_iff.1 h
    exact ⟨ds, d, rfl, hd, hx⟩
  | file f => cases h
  | link target => cases h

/-- An entry of a directory. -/
theorem at?_concat (h : e.at? loc = some (directory es)) (n : String) :
    e.at? (loc ++ [n]) = Table.get? es n := by
  induction loc generalizing e with
  | nil =>
    cases h
    rw [List.nil_append, at?_cons]
    cases Table.get? es n <;> rfl
  | cons k rest ih =>
    obtain ⟨ds, d, rfl, hd, h⟩ := exists_of_at?_cons h
    rw [List.cons_append, at?_cons, hd]
    exact ih h

/-! ## A file set -/

/-- What a tree keeps while files are written into it: directories stay directories, and links stay as they
are. -/
structure Keeps (e e' : Entry) : Prop where
  directory : ∀ {loc es}, e.at? loc = some (.directory es) → ∃ es', e'.at? loc = some (.directory es')
  link : ∀ {loc target}, e.at? loc = some (.link target) → e'.at? loc = some (.link target)

theorem Keeps.refl (e : Entry) : e.Keeps e := ⟨fun h => ⟨_, h⟩, fun h => h⟩

theorem Keeps.trans (h : e.Keeps e') (h' : e'.Keeps e'') : e.Keeps e'' :=
  ⟨fun he => (h.directory he).elim fun _ he => h'.directory he, fun he => h'.link (h.link he)⟩

/-- Nothing, or a file. -/
def IsPlain : Option Entry → Prop
  | none => True
  | some (.file _) => True
  | _ => False

theorem IsPlain.cases {o : Option Entry} (h : IsPlain o) : o = none ∨ ∃ f, o = some (.file f) := by
  match o, h with
  | none, _ => exact .inl rfl
  | some (.file f), _ => exact .inr ⟨f, rfl⟩

theorem set_cons_concat (ds : List (String × Entry)) (k : String) (rest : Location) (n : String)
    (new : Option Entry) {d : Entry} (hd : Table.get? ds k = some d) :
    (directory ds).set new (k :: rest ++ [n]) = directory (Table.put ds k (d.set new (rest ++ [n]))) := by
  have hne : rest ++ [n] ≠ [] := by simp
  rw [List.cons_append]
  cases hr : rest ++ [n] with
  | nil => exact absurd hr hne
  | cons m ms =>
    rw [set, hd]
    exact List.cons_ne_nil m ms

theorem at?_set_self (h : e.at? loc = some (directory es)) (n : String) (d : Entry) :
    (e.set (some d) (loc ++ [n])).at? (loc ++ [n]) = some d := by
  induction loc generalizing e with
  | nil =>
    cases h
    rw [List.nil_append, set, at?_cons, Table.get?_put, if_pos rfl]
    rfl
  | cons k rest ih =>
    obtain ⟨ds, x, rfl, hx, h⟩ := exists_of_at?_cons h
    rw [set_cons_concat ds k rest n _ hx, List.cons_append, at?_cons, Table.get?_put, if_pos rfl]
    exact ih h

/-- What stands elsewhere stays, though the contents of directories may change. -/
theorem at?_set_other (h : e.at? loc = some (directory es)) (hplain : IsPlain (e.at? (loc ++ [n])))
    (f : StoredFile) {other : Location} (hother : other ≠ loc ++ [n]) :
    (∃ ds ds', e.at? other = some (directory ds) ∧
      (e.set (some (file f)) (loc ++ [n])).at? other = some (directory ds')) ∨
      (e.set (some (file f)) (loc ++ [n])).at? other = e.at? other := by
  induction loc generalizing e other with
  | nil =>
    cases h
    rw [List.nil_append, set]
    cases other with
    | nil => exact .inl ⟨es, _, rfl, rfl⟩
    | cons m ms =>
      rw [at?_cons, at?_cons, Table.get?_put]
      by_cases hm : n = m
      · subst hm
        -- below the place of the file there is nothing, before and after
        cases ms with
        | nil => exact absurd rfl hother
        | cons j js =>
          have hself : (directory es).at? ([] ++ [n]) = Table.get? es n := at?_concat rfl n
          rw [hself] at hplain
          rcases hplain.cases with hd | ⟨g, hd⟩ <;> simp [hd, at?]
      · rw [if_neg hm]
        exact .inr rfl
  | cons k rest ih =>
    obtain ⟨ds, d, rfl, hd, h⟩ := exists_of_at?_cons h
    rw [List.cons_append, at?_cons, hd] at hplain
    rw [set_cons_concat ds k rest n _ hd]
    cases other with
    | nil => exact .inl ⟨ds, _, rfl, rfl⟩
    | cons m ms =>
      rw [at?_cons, at?_cons, Table.get?_put]
      by_cases hm : k = m
      · subst hm
        rw [hd, if_pos rfl]
        exact ih h hplain fun hms => hother (by rw [hms, List.cons_append])
      · rw [if_neg hm]
        exact .inr rfl

/-- A file in the place of a file or of nothing. -/
theorem keeps_set (h : e.at? loc = some (directory es)) (hplain : IsPlain (e.at? (loc ++ [n])))
    (f : StoredFile) : e.Keeps (e.set (some (file f)) (loc ++ [n])) where
  directory {other ds} hx := by
    have hother : other ≠ loc ++ [n] := by
      rintro rfl
      rw [hx] at hplain
      exact hplain.elim
    rcases at?_set_other h hplain f hother with ⟨_, ds', _, h'⟩ | h'
    · exact ⟨ds', h'⟩
    · exact ⟨ds, h'.trans hx⟩
  link {other target} hx := by
    have hother : other ≠ loc ++ [n] := by
      rintro rfl
      rw [hx] at hplain
      exact hplain.elim
    rcases at?_set_other h hplain f hother with ⟨ds, _, hd, _⟩ | h'
    · rw [hx] at hd
      cases hd
    · exact h'.trans hx

end Entry

namespace Tree

open Entry (IsPlain)

/-- Steps lead from one location to another, all links followed. -/
inductive Leads (root : Entry) : Nat → Location → List Step → Location → Entry → Prop
  | here {links : Nat} {loc : Location} {e : Entry} (h : root.at? loc = some e) : Leads root links loc [] loc e
  | stay {links : Nat} {loc loc' : Location} {es : List (String × Entry)} {rest : List Step} {e : Entry}
      (h : root.at? loc = some (.directory es)) (more : Leads root links loc rest loc' e) :
      Leads root links loc (.stay :: rest) loc' e
  | up {links : Nat} {loc loc' : Location} {es : List (String × Entry)} {rest : List Step} {e : Entry}
      (h : root.at? loc = some (.directory es)) (more : Leads root links loc.dropLast rest loc' e) :
      Leads root links loc (.up :: rest) loc' e
  | down {links : Nat} {loc loc' : Location} {es : List (String × Entry)} {n : String} {d e : Entry}
      {rest : List Step} (h : root.at? loc = some (.directory es))
      (hn : ¬n.utf8ByteSize > 255) (hd : Table.get? es n = some d) (hlink : ∀ target, d ≠ .link target)
      (more : Leads root links (loc ++ [n]) rest loc' e) : Leads root links loc (.down n :: rest) loc' e
  | link {links : Nat} {loc loc' : Location} {es : List (String × Entry)} {n target : String}
      {rest : List Step} {e : Entry} (h : root.at? loc = some (.directory es))
      (hn : ¬n.utf8ByteSize > 255) (hd : Table.get? es n = some (.link target))
      (htarget : ¬target.isEmpty = true)
      (more : Leads root links (if target.toList.head? = some '/' then [] else loc) (stepsOf target ++ rest)
        loc' e) :
      Leads root (links + 1) loc (.down n :: rest) loc' e

variable {root root' : Entry} {last : Bool} {links : Nat} {loc loc' : Location} {xs : List Step}
  {es : List (String × Entry)} {n : String} {e : Entry}

/-! ## Following steps -/

theorem follow_nil (h : root.at? loc = some e) : follow root last links loc [] = .ok (loc, e) := by
  rw [follow.eq_def]
  simp only [h]

theorem follow_stay (h : root.at? loc = some (.directory es)) (rest : List Step) :
    follow root last links loc (.stay :: rest) = follow root last links loc rest := by
  rw [follow.eq_def]
  simp only [h]

theorem follow_up (h : root.at? loc = some (.directory es)) (rest : List Step) :
    follow root last links loc (.up :: rest) = follow root last links loc.dropLast rest := by
  rw [follow.eq_def]
  simp only [h]

theorem follow_down (h : root.at? loc = some (.directory es)) (hn : ¬n.utf8ByteSize > 255)
    (he : Table.get? es n = some e) (hlink : ∀ target, e ≠ .link target) (rest : List Step) :
    follow root last links loc (.down n :: rest) = follow root last links (loc ++ [n]) rest := by
  rw [follow.eq_def]
  simp only [h, hn, if_false, he]

theorem follow_link (h : root.at? loc = some (.directory es)) (hn : ¬n.utf8ByteSize > 255)
    {target : String} (he : Table.get? es n = some (.link target)) {rest : List Step}
    (hrest : ¬(rest.isEmpty && !last) = true) (htarget : ¬target.isEmpty = true) :
    follow root last (links + 1) loc (.down n :: rest) =
      follow root last links (if target.toList.head? = some '/' then [] else loc) (stepsOf target ++ rest) := by
  rw [follow.eq_def]
  simp only [h, hn, if_false, he, hrest, htarget, Bool.false_eq_true]

/-- What is found by following steps is where they lead. -/
theorem leads_of_follow (h : follow root true links loc xs = .ok (loc', e)) :
    Leads root links loc xs loc' e := by
  fun_induction follow root true links loc xs with
  | case2 links loc d hd => cases h; exact .here hd
  | case3 links loc es rest hd ih => exact .stay hd (ih h)
  | case4 links loc es rest hd ih => exact .up hd (ih h)
  | case7 links loc es n rest hd hn target hlink hlast => simp at hlast
  | case10 loc es n rest hd hn target hlink hlast left base hempty ih => exact .link hd hn hlink hempty (ih h)
  | case11 links loc es n rest hd hn d hlink he ih => exact .down hd hn he (fun t ht => hlink t ht) (ih h)
  | _ => cases h

theorem Leads.at?_eq (h : Leads root links loc xs loc' e) : root.at? loc' = some e := by
  induction h with
  | here h => exact h
  | stay _ _ ih | up _ _ ih | down _ _ _ _ _ ih | link _ _ _ _ _ ih => exact ih

/-- After some steps the others are followed from where those lead, with the links that are left. -/
theorem Leads.follow_append (h : Leads root links loc xs loc' e) (last : Bool) (y : Step) (ys : List Step) :
    ∃ left, follow root last links loc (xs ++ y :: ys) = follow root last left loc' (y :: ys) := by
  induction h with
  | here => exact ⟨_, rfl⟩
  | stay h _ ih => rw [List.cons_append, follow_stay h]; exact ih
  | up h _ ih => rw [List.cons_append, follow_up h]; exact ih
  | down h hn hd hlink _ ih => rw [List.cons_append, follow_down h hn hd hlink]; exact ih
  | link h hn hd htarget _ ih =>
    rw [List.cons_append, follow_link h hn hd (by simp) htarget, ← List.append_assoc]
    exact ih

/-- Steps to a directory lead to it also when files were written since. -/
theorem Leads.keeps (hk : root.Keeps root') (h : Leads root links loc xs loc' (.directory es)) :
    ∃ es', follow root' true links loc xs = .ok (loc', .directory es') := by
  generalize he : Entry.directory es = e at h
  induction h with
  | here h =>
    subst he
    obtain ⟨es', h'⟩ := hk.directory h
    exact ⟨es', follow_nil h'⟩
  | stay h _ ih =>
    obtain ⟨_, h'⟩ := hk.directory h
    rw [follow_stay h']
    exact ih he
  | up h _ ih =>
    obtain ⟨_, h'⟩ := hk.directory h
    rw [follow_up h']
    exact ih he
  | @down links loc loc' ds n d e rest h hn hd hlink more ih =>
    obtain ⟨ds', h'⟩ := hk.directory h
    rw [← Entry.at?_concat h] at hd
    -- more steps follow, or the way ends in a directory
    have hdir : ∃ xs, d = .directory xs := by
      cases more with
      | here h => rw [h] at hd; exact ⟨_, (Option.some.inj hd).symm.trans he.symm⟩
      | stay h | up h | down h | link h => rw [h] at hd; exact ⟨_, (Option.some.inj hd).symm⟩
    obtain ⟨xs, rfl⟩ := hdir
    obtain ⟨xs', hd'⟩ := hk.directory hd
    rw [Entry.at?_concat h'] at hd'
    rw [follow_down h' hn hd' (fun _ => Entry.noConfusion)]
    exact ih he
  | link h hn hd htarget _ ih =>
    obtain ⟨_, h'⟩ := hk.directory h
    have hd' := hk.link ((Entry.at?_concat h _).trans hd)
    rw [Entry.at?_concat h'] at hd'
    rw [follow_link h' hn hd' (by simp) htarget]
    exact ih he

/-! ## Names in directories -/

/-- What a tree keeps of an earlier one while files are written. -/
structure Keeps (t t' : Tree) : Prop where
  entries : t.root.Keeps t'.root
  here : t'.here = t.here

theorem Keeps.refl (t : Tree) : t.Keeps t := ⟨.refl _, rfl⟩

theorem Keeps.trans {t t' t'' : Tree} (h : t.Keeps t') (h' : t'.Keeps t'') : t.Keeps t'' :=
  ⟨h.entries.trans h'.entries, h'.here.trans h.here⟩

/-- A path whose last step is a name: the name in a directory, at some place of the tree. -/
structure Names (t : Tree) (p : Path) (before : List Step) (loc : Location) (n : String) : Prop where
  steps : stepsOf p.text = before ++ [.down n]
  written : ¬p.text.isEmpty = true ∧ ¬p.text.toList.contains '\x00' = true
  short : ¬n.utf8ByteSize > 255
  leads : ∃ es, follow t.root true linkLimit (t.startOf p.text) before = .ok (loc, .directory es)

variable {t t' : Tree} {p : Path} {before : List Step} {f : StoredFile}

theorem Names.directory (h : t.Names p before loc n) : ∃ es, t.root.at? loc = some (.directory es) := by
  obtain ⟨es, hes⟩ := h.leads
  exact ⟨es, (leads_of_follow hes).at?_eq⟩

theorem Names.parentOf (h : t.Names p before loc n) : t.parentOf p = .ok (loc, n, false) := by
  obtain ⟨es, hes⟩ := h.leads
  have hdrop : (before ++ [Step.down n]).reverse.dropWhile (· == .stay) = .down n :: before.reverse := by
    simp
  unfold Tree.parentOf
  simp only [h.written.1, h.written.2, if_false, Bool.false_eq_true, h.steps, hdrop, List.reverse_reverse, hes,
    h.short]
  simp

/-- What the directory of a path is, where it has one. -/
theorem names_of_parentOf (hp : stepsOf p.text = before ++ [.down n]) {r : Location × String × Bool}
    (h : t.parentOf p = .ok r) : r.2 = (n, false) ∧ t.Names p before r.1 n := by
  have hdrop : (before ++ [Step.down n]).reverse.dropWhile (· == .stay) = .down n :: before.reverse := by
    simp
  unfold Tree.parentOf at h
  simp only [hp, hdrop, List.reverse_reverse] at h
  split at h
  · cases h
  rename_i hempty
  split at h
  · cases h
  rename_i hnul
  split at h
  · cases h
  · rename_i loc es hes
    split at h
    · cases h
    · rename_i hn
      cases h
      exact ⟨by simp, hp, ⟨hempty, hnul⟩, hn, es, hes⟩
  · cases h

theorem directory_of_parentOf {r : Location × String × Bool} (h : t.parentOf p = .ok r) :
    ∃ es, t.root.at? r.1 = some (.directory es) := by
  unfold Tree.parentOf at h
  split at h
  · cases h
  split at h
  · cases h
  simp only at h
  split at h
  · split at h
    · cases h
    · rename_i loc es hes
      split at h
      · cases h
      · cases h
        exact ⟨es, (leads_of_follow hes).at?_eq⟩
    · cases h
  · cases h

/-- A name is where it was when files were written since. -/
theorem Names.keeps (h : t.Names p before loc n) (hk : t.Keeps t') : t'.Names p before loc n := by
  obtain ⟨es, hes⟩ := h.leads
  have hstart : t'.startOf p.text = t.startOf p.text := by unfold startOf; rw [hk.here]
  exact ⟨h.steps, h.written, h.short, hstart ▸ (leads_of_follow hes).keeps hk.entries⟩

/-- The way to a name ends with the step from its directory. -/
theorem Names.resolveWith (h : t.Names p before loc n) (last : Bool) :
    ∃ links, t.resolveWith last p = follow t.root last links loc [.down n] := by
  obtain ⟨es, hes⟩ := h.leads
  unfold Tree.resolveWith
  simp only [h.written.1, h.written.2, if_false, Bool.false_eq_true, h.steps]
  exact (leads_of_follow hes).follow_append last _ _

/-- A path that leads to a link, which is not followed. -/
def isLink (t : Tree) (p : Path) : Bool :=
  match t.resolveWith false p with
  | .ok (_, .link _) => true
  | _ => false

theorem Names.isLink (h : t.Names p before loc n) {target : String}
    (hl : t.root.at? (loc ++ [n]) = some (.link target)) : t.isLink p = true := by
  obtain ⟨es, hes⟩ := h.directory
  obtain ⟨links, hr⟩ := h.resolveWith false
  rw [Entry.at?_concat hes] at hl
  unfold Tree.isLink
  rw [hr, follow.eq_def]
  simp [hes, h.short, hl]

/-- A file is read under its name. -/
theorem Names.readText (h : t.Names p before loc n) (hf : t.root.at? (loc ++ [n]) = some (.file f))
    {text : String} (htext : f.text = some text) : t.readText p = .ok text := by
  obtain ⟨es, hes⟩ := h.directory
  obtain ⟨links, hr⟩ := h.resolveWith true
  have he := hf
  rw [Entry.at?_concat hes] at he
  unfold Tree.readText resolve
  rw [hr, follow_down hes h.short he (fun _ => Entry.noConfusion), follow_nil hf]
  simp only [htext]

/-! ## A file written -/

/-- Where a file is written, there is a directory, and in it a file or nothing under the name. -/
theorem targetOf_plain {links : Nat} (h : targetOf links t p = .ok loc) :
    ∃ dir n es, loc = dir ++ [n] ∧ t.root.at? dir = some (.directory es) ∧ IsPlain (t.root.at? loc) := by
  induction links generalizing t p with
  | zero => cases h
  | succ links ih =>
    unfold targetOf at h
    split at h
    · cases h
    · cases h
    · rename_i dir n slash hparent
      obtain ⟨es, hdir⟩ := directory_of_parentOf hparent
      split at h
      · cases h
      -- a link is followed, with one less to follow
      · have hfurther := ih h
        exact hfurther
      · rename_i g hg
        split at h
        · cases h
        · cases h
          exact ⟨dir, n, es, rfl, hdir, by rw [hg]; trivial⟩
      · rename_i hnone
        split at h
        · cases h
        · cases h
          exact ⟨dir, n, es, rfl, hdir, by rw [hnone]; trivial⟩

/-- Writing a file changes no directory and no link. -/
theorem write_keeps (h : t.write p f = .ok t') : t.Keeps t' := by
  unfold write at h
  split at h
  · cases h
  · rename_i loc hloc
    cases h
    obtain ⟨dir, n, es, rfl, hdir, hplain⟩ := targetOf_plain hloc
    exact ⟨Entry.keeps_set hdir hplain f, rfl⟩

/-- Under a name that is no link, a file is written where the name stands. -/
theorem Names.write (hn : t.Names p before loc n) (hl : ∀ target, t.root.at? (loc ++ [n]) ≠ some (.link target))
    (h : t.write p f = .ok t') :
    IsPlain (t.root.at? (loc ++ [n])) ∧ t' = t.setEntry (loc ++ [n]) (some (.file f)) := by
  unfold Tree.write targetOf at h
  rw [hn.parentOf] at h
  simp only at h
  cases he : t.root.at? (loc ++ [n]) with
  | none => rw [he] at h; cases h; exact ⟨trivial, rfl⟩
  | some e =>
    rw [he] at h
    cases e with
    | file g => cases h; exact ⟨trivial, rfl⟩
    | link target => exact absurd he (hl target)
    | directory es => cases h

/-- A name that is one step of a path. -/
structure IsName (name : List Char) : Prop where
  nonempty : name ≠ []
  noSlash : '/' ∉ name
  notHere : name ≠ ['.']
  notUp : name ≠ ['.', '.']

theorem stepsOf_name {text name : String} (pre : List Char) (ht : text.toList = pre ++ name.toList)
    (hpre : pre = [] ∨ ∃ front, pre = front ++ ['/']) (hname : IsName name.toList) :
    ∃ before, stepsOf text = before ++ [.down name] := by
  have hsingle : Text.pieces (· == '/') name.toList = [name.toList] := by
    rw [Text.pieces_eq]
    refine List.splitOnP_eq_singleton fun c hc => ?_
    rw [beq_eq_false_iff_ne]
    rintro rfl
    exact hname.noSlash hc
  -- the name has no slash, so it is the last piece
  have hpieces : ∃ ps, Text.pieces (· == '/') text.toList = ps ++ [name.toList] := by
    rcases hpre with rfl | ⟨front, rfl⟩
    · exact ⟨[], by rw [ht, List.nil_append, hsingle, List.nil_append]⟩
    · refine ⟨Text.pieces (· == '/') front, ?_⟩
      rw [ht, List.append_assoc, List.singleton_append, Text.pieces_eq, List.splitOnP_append_cons _ _ (by simp),
        ← Text.pieces_eq, ← Text.pieces_eq, hsingle]
  obtain ⟨ps, hps⟩ := hpieces
  have hlast : (name.toList.isEmpty) = false := by simpa using hname.nonempty
  unfold stepsOf
  simp only [hps, List.filter_append, List.map_append, List.getLast?_append, List.getLast?_singleton,
    Option.some_or, Option.getD_some, hlast, Bool.and_false, Bool.false_eq_true, if_false,
    List.filter_cons, Bool.not_false, if_true, List.filter_nil, List.map_cons, List.map_nil,
    hname.notHere, hname.notUp, String.ofList_toList]
  exact ⟨_, rfl⟩

/-- A file below a directory is the last step of its path. -/
theorem stepsOf_child (dir : Path) {name : String} (hname : IsName name.toList) :
    ∃ before, stepsOf (dir.child name).text = before ++ [.down name] := by
  have habsolute : (⟨name⟩ : Path).isAbsolute = false := by
    unfold Path.isAbsolute
    cases hn : name.toList with
    | nil => rfl
    | cons c cs =>
      simp only [List.head?_cons, beq_eq_false_iff_ne, ne_eq, Option.some.injEq]
      rintro rfl
      exact hname.noSlash (hn ▸ List.mem_cons_self)
  unfold Path.child Path.join
  rw [habsolute, Bool.false_or]
  split
  · exact stepsOf_name [] (List.nil_append _).symm (.inl rfl) hname
  split
  · rename_i hlast
    obtain ⟨front, hfront⟩ := List.getLast?_eq_some_iff.1 (beq_iff_eq.1 hlast)
    exact stepsOf_name dir.text.toList (by simp) (.inr ⟨front, hfront⟩) hname
  · exact stepsOf_name (dir.text.toList ++ ['/']) (by simp) (.inr ⟨_, rfl⟩) hname

/-- Under a name that stands for a file or for nothing, a file is written where the name stands. -/
theorem Names.targetOf (hn : t.Names p before loc n) (hplain : IsPlain (t.root.at? (loc ++ [n]))) :
    Tree.targetOf (links + 1) t p = .ok (loc ++ [n]) := by
  unfold Tree.targetOf
  rw [hn.parentOf]
  dsimp only
  rcases hplain.cases with he | ⟨g, he⟩ <;> rw [he] <;> rfl

theorem Names.write_ok (hn : t.Names p before loc n) (hplain : IsPlain (t.root.at? (loc ++ [n]))) (f : StoredFile) :
    t.write p f = .ok (t.setEntry (loc ++ [n]) (some (.file f))) := by
  unfold Tree.write
  rw [hn.targetOf hplain]

/-- Under a link a file is written where the link leads. -/
theorem Names.write_link {before' : List Step} {target m : String} (hn : t.Names p before loc n)
    (hl : t.root.at? (loc ++ [n]) = some (.link target))
    (hm : ({ t with here := loc } : Tree).Names ⟨target⟩ before' loc' m)
    (hplain : IsPlain (t.root.at? (loc' ++ [m]))) (f : StoredFile) :
    t.write p f = .ok (t.setEntry (loc' ++ [m]) (some (.file f))) := by
  have htarget : Tree.targetOf linkLimit { t with here := loc } ⟨target⟩ = .ok (loc' ++ [m]) := by
    unfold linkLimit
    exact hm.targetOf hplain
  unfold Tree.write Tree.targetOf
  rw [hn.parentOf]
  dsimp only
  rw [hl]
  dsimp only
  rw [htarget]

/-- A place that holds a file or nothing does so after a file was written elsewhere or there. -/
theorem isPlain_set (h : t.root.at? loc = some (.directory es)) (hplain : IsPlain (t.root.at? (loc ++ [n])))
    (f : StoredFile) {other : Location} (ho : IsPlain (t.root.at? other)) :
    IsPlain ((t.setEntry (loc ++ [n]) (some (.file f))).root.at? other) := by
  by_cases hother : other = loc ++ [n]
  · subst hother
    unfold setEntry
    rw [Entry.at?_set_self h]
    trivial
  · rcases Entry.at?_set_other h hplain f hother with ⟨ds, _, hd, _⟩ | hsame
    · rw [hd] at ho
      exact ho.elim
    · unfold setEntry
      rwa [hsame]

/-- A name that stands for a file or for nothing is no link. -/
theorem Names.isLink_eq_false (h : t.Names p before loc n) (hplain : IsPlain (t.root.at? (loc ++ [n]))) :
    t.isLink p = false := by
  obtain ⟨es, hes⟩ := h.directory
  obtain ⟨links, hr⟩ := h.resolveWith false
  unfold Tree.isLink
  rw [hr]
  rcases hplain.cases with he | ⟨f, he⟩
  · rw [Entry.at?_concat hes] at he
    rw [follow.eq_def]
    simp [hes, h.short, he]
  · have hf := he
    rw [Entry.at?_concat hes] at hf
    rw [follow_down hes h.short hf (fun _ => Entry.noConfusion), follow_nil he]

/-! ## What names stand for -/

/-- A path is the name of a file. -/
def Holds (t : Tree) (p : Path) (before : List Step) (n : String) (f : StoredFile) : Prop :=
  ∃ loc, t.Names p before loc n ∧ t.root.at? (loc ++ [n]) = some (.file f)

theorem Holds.readText (h : t.Holds p before n f) {text : String} (htext : f.text = some text) :
    t.readText p = .ok text := by
  obtain ⟨loc, hn, hf⟩ := h
  exact hn.readText hf htext

variable {u : Tree} {q : Path} {before' : List Step} {m : String} {g : StoredFile}

/-- Writing under a name that is no link later on: the directory of the name, and the tree with the file. -/
theorem names_of_write (hp : stepsOf p.text = before ++ [.down n]) (h : t.write p f = .ok t')
    (hk : t'.Keeps u) (hl : u.isLink p = false) :
    ∃ loc, t.Names p before loc n ∧ IsPlain (t.root.at? (loc ++ [n])) ∧
      t' = t.setEntry (loc ++ [n]) (some (.file f)) := by
  cases hparent : t.parentOf p with
  | error e =>
    unfold Tree.write targetOf at h
    rw [hparent] at h
    cases e <;> cases h
  | ok r =>
    obtain ⟨-, hn⟩ := names_of_parentOf hp hparent
    have hku := (write_keeps h).trans hk
    have hlink : ∀ target, t.root.at? (r.1 ++ [n]) ≠ some (.link target) := fun target he => by
      rw [(hn.keeps hku).isLink (hku.entries.link he)] at hl
      cases hl
    exact ⟨r.1, hn, hn.write hlink h⟩

/-- A file that is written is what its name stands for, unless that is a link. -/
theorem holds_write (hp : stepsOf p.text = before ++ [.down n]) (h : t.write p f = .ok t')
    (hk : t'.Keeps u) (hl : u.isLink p = false) : t'.Holds p before n f := by
  obtain ⟨loc, hn, -, ht'⟩ := names_of_write hp h hk hl
  obtain ⟨es, hes⟩ := hn.directory
  refine ⟨loc, hn.keeps (write_keeps h), ?_⟩
  rw [ht']
  exact Entry.at?_set_self hes n _

/-- Another name still stands for what it stood for. -/
theorem Holds.write_other (hh : t.Holds p before n f) (hq : stepsOf q.text = before' ++ [.down m]) (hne : m ≠ n)
    (h : t.write q g = .ok t') (hk : t'.Keeps u) (hl : u.isLink q = false) : t'.Holds p before n f := by
  obtain ⟨loc, hn, hf⟩ := hh
  obtain ⟨loc', hm, hplain, ht'⟩ := names_of_write hq h hk hl
  obtain ⟨es, hes⟩ := hm.directory
  refine ⟨loc, hn.keeps (write_keeps h), ?_⟩
  rw [ht']
  have hother : loc ++ [n] ≠ loc' ++ [m] := fun hsame =>
    absurd (List.append_inj' hsame rfl).2 (by simpa using Ne.symm hne)
  rcases Entry.at?_set_other hes hplain g hother with ⟨ds, _, hd, _⟩ | hother
  · rw [hf] at hd
    cases hd
  · exact hother.trans hf

/-! ## Where files can be written -/

/-- A path is a name under which a file or nothing stands, so that a file can be written there. -/
def Takes (t : Tree) (p : Path) : Prop :=
  ∃ before loc n, t.Names p before loc n ∧ IsPlain (t.root.at? (loc ++ [n]))

theorem Takes.isLink (h : t.Takes p) : t.isLink p = false := by
  obtain ⟨_, _, _, hn, hplain⟩ := h
  exact hn.isLink_eq_false hplain

/-- Writing there succeeds, and afterwards files can be written wherever they could before. -/
theorem Takes.write (h : t.Takes p) (f : StoredFile) :
    ∃ t', t.write p f = .ok t' ∧ ∀ q, t.Takes q → t'.Takes q := by
  obtain ⟨before, loc, n, hn, hplain⟩ := h
  obtain ⟨es, hes⟩ := hn.directory
  have hw := hn.write_ok hplain f
  exact ⟨_, hw, fun q ⟨before', loc', m, hm, hplain'⟩ =>
    ⟨before', loc', m, hm.keeps (write_keeps hw), isPlain_set hes hplain f hplain'⟩⟩

/-- A directory that is there need not be made. -/
theorem Names.makeDirectories (h : t.Names p before loc n)
    (hd : t.root.at? (loc ++ [n]) = some (.directory es)) : t.makeDirectories p = .ok t := by
  have hmake : t.makeDirectory p = .error .exists := by
    unfold makeDirectory
    rw [h.parentOf]
    simp [hd]
  have hdirectory : t.isDirectory p = true := by
    obtain ⟨ds, hds⟩ := h.directory
    obtain ⟨links, hr⟩ := h.resolveWith true
    have he := hd
    rw [Entry.at?_concat hds] at he
    unfold isDirectory resolve
    rw [hr, follow_down hds h.short he (fun _ => Entry.noConfusion), follow_nil hd]
  unfold Tree.makeDirectories makeDirectoriesWith
  simp only [h.written.1, if_false, Bool.false_eq_true, hmake, hdirectory, if_true]

end Tree

end TraitWeave
