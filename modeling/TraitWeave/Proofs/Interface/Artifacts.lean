import TraitWeave.Interface.Artifacts
import TraitWeave.Proofs.Interface.Barrel
import TraitWeave.Proofs.Interface.Identifier
import Mathlib.Data.List.Perm.Subperm

/-!
# What is found after interfaces were written

Files are written one after the other, and nothing is said when a name comes again: the later text takes the
place of the earlier one. So what is found depends on which objects share an identifier, and on links.

* `Tree.writeEach_holds`: a file is found as it was written, unless another text was written under its name.
* `Tree.writeArtifacts_kept`: the interfaces of composed objects and the file that exports them.
* `Tree.writeArtifacts_lost`: objects whose interfaces are not found.
-/

namespace TraitWeave

namespace Tree

variable {t t' u : Tree} {dir : Path} {name text : String} {files : List (String × String)} {paths : List Path}

/-! ## Files written one after the other -/

/-- A name in a directory stands for a file with a text. -/
def HoldsText (t : Tree) (dir : Path) (name text : String) : Prop :=
  ∃ before, t.Holds (dir.child name) before name (newFile text)

theorem HoldsText.readText (h : t.HoldsText dir name text) : t.readText (dir.child name) = .ok text :=
  h.elim fun _ h => h.readText rfl

/-- One more file leaves a file's text alone, unless it has the name and another text. -/
theorem HoldsText.write (h : t.HoldsText dir name text) {file : String × String} (hname : IsName file.1.toList)
    (hsame : file.1 = name → file.2 = text) (hw : t.write (dir.child file.1) (newFile file.2) = .ok t')
    (hk : t'.Keeps u) (hl : u.isLink (dir.child file.1) = false) : t'.HoldsText dir name text := by
  obtain ⟨before, h⟩ := h
  obtain ⟨before', hq⟩ := stepsOf_child dir hname
  by_cases hn : file.1 = name
  · subst hn
    rw [hsame rfl] at hw
    exact ⟨before', holds_write hq hw hk hl⟩
  · exact ⟨before, h.write_other hq hn hw hk hl⟩

theorem writeEach_cons {file : String × String} (h : writeEach dir t (file :: files) = (t', .ok paths)) :
    ∃ t₁ more, t.write (dir.child file.1) (newFile file.2) = .ok t₁ ∧
      writeEach dir t₁ files = (t', .ok more) ∧ paths = dir.child file.1 :: more := by
  obtain ⟨name, text⟩ := file
  unfold Tree.writeEach at h
  dsimp only at h
  split at h
  · cases h
  · rename_i t₁ hw
    cases hrest : writeEach dir t₁ files with
    | mk t₂ result =>
      rw [hrest] at h
      cases result with
      | error e => cases h
      | ok more =>
        cases h
        exact ⟨t₁, more, hw, hrest, rfl⟩

theorem writeEach_cons_ok {t₁ : Tree} (hw : t.write (dir.child name) (newFile text) = .ok t₁)
    (hrest : writeEach dir t₁ files = (t', .ok paths)) :
    writeEach dir t ((name, text) :: files) = (t', .ok (dir.child name :: paths)) := by
  unfold Tree.writeEach
  dsimp only
  rw [hw]
  dsimp only
  rw [hrest]
  rfl

theorem writeEach_keeps (h : writeEach dir t files = (t', .ok paths)) : t.Keeps t' := by
  induction files generalizing t paths with
  | nil => cases h; exact .refl _
  | cons file files ih =>
    obtain ⟨t₁, more, hw, hrest, -⟩ := writeEach_cons h
    exact (write_keeps hw).trans (ih hrest)

/-- More files leave a file's text alone, unless one of them has the name and another text. -/
theorem HoldsText.writeEach (h : t.HoldsText dir name text) (hnames : ∀ f ∈ files, IsName f.1.toList)
    (hsame : ∀ f ∈ files, f.1 = name → f.2 = text) (hw : Tree.writeEach dir t files = (t', .ok paths))
    (hl : ∀ f ∈ files, t'.isLink (dir.child f.1) = false) : t'.HoldsText dir name text := by
  induction files generalizing t paths with
  | nil => cases hw; exact h
  | cons file files ih =>
    obtain ⟨t₁, more, hw, hrest, -⟩ := writeEach_cons hw
    rw [List.forall_mem_cons] at hnames hsame hl
    exact ih (h.write hnames.1 hsame.1 hw (writeEach_keeps hrest) hl.1) hnames.2 hsame.2 hrest hl.2

/-- **What is written is there afterwards**, under each name to which no other text was written. -/
theorem writeEach_holds (hnames : ∀ f ∈ files, IsName f.1.toList)
    (hw : writeEach dir t files = (t', .ok paths)) (hl : ∀ f ∈ files, t'.isLink (dir.child f.1) = false)
    {file : String × String} (hfile : file ∈ files) (hsame : ∀ f ∈ files, f.1 = file.1 → f.2 = file.2) :
    t'.HoldsText dir file.1 file.2 := by
  induction files generalizing t paths with
  | nil => cases hfile
  | cons f files ih =>
    obtain ⟨t₁, more, hw, hrest, -⟩ := writeEach_cons hw
    rw [List.forall_mem_cons] at hnames hsame hl
    rcases List.mem_cons.1 hfile with rfl | hfile
    · obtain ⟨before, hq⟩ := stepsOf_child dir hnames.1
      have hheld : t₁.HoldsText dir file.1 file.2 :=
        ⟨before, holds_write hq hw (writeEach_keeps hrest) hl.1⟩
      exact hheld.writeEach hnames.2 hsame.2 hrest hl.2
    · exact ih hnames.2 hrest hl.2 hfile hsame.2

/-- The paths that are told are those of the files. -/
theorem writeEach_paths (h : writeEach dir t files = (t', .ok paths)) :
    paths = files.map fun f => dir.child f.1 := by
  induction files generalizing t paths with
  | nil => cases h; rfl
  | cons file files ih =>
    obtain ⟨t₁, more, hw, hrest, rfl⟩ := writeEach_cons h
    rw [List.map_cons, ih hrest]

/-- Where every file can be written, all are. -/
theorem writeEach_ok (h : ∀ f ∈ files, t.Takes (dir.child f.1)) :
    ∃ t' paths, writeEach dir t files = (t', .ok paths) ∧ ∀ p, t.Takes p → t'.Takes p := by
  induction files generalizing t with
  | nil => exact ⟨t, [], rfl, fun _ h => h⟩
  | cons file files ih =>
    rw [List.forall_mem_cons] at h
    obtain ⟨t₁, hw, hkept⟩ := h.1.write (newFile file.2)
    obtain ⟨t', paths, hrest, hmore⟩ := ih fun f hf => hkept _ (h.2 f hf)
    exact ⟨t', _, writeEach_cons_ok hw hrest, fun p hp => hmore p (hkept p hp)⟩

/-! ## The files of composed objects -/

variable {cs : List Composed}

theorem isName_barrelName : IsName Interface.barrelName.toList := ⟨by decide, by decide, by decide, by decide⟩

theorem isName_artifacts (cs : List Composed) :
    ∀ f ∈ Interface.artifacts (cs.map Composed.interface), IsName f.1.toList := by
  intro f hf
  unfold Interface.artifacts at hf
  rcases List.mem_append.1 hf with hf | hf
  · rw [List.map_map] at hf
    obtain ⟨c, -, rfl⟩ := List.mem_map.1 hf
    exact Interface.isName_fileName c
  · rw [List.mem_singleton.1 hf]
    exact isName_barrelName

theorem writeArtifacts_writeEach {is : List Interface} (h : t.writeArtifacts dir is = (t', .ok paths)) :
    ∃ t₁, writeEach dir t₁ (Interface.artifacts is) = (t', .ok paths) := by
  unfold writeArtifacts at h
  split at h
  · cases h
  · rename_i t₁ _
    exact ⟨t₁, h⟩

/-- The modules are those of the identifiers. -/
theorem map_moduleOf (cs : List Composed) :
    ((cs.map Composed.interface).map Interface.fileName).map Interface.moduleOf =
      cs.map fun c => c.interface.name := by
  rw [List.map_map, List.map_map]
  simp only [Function.comp_def, Interface.moduleOf_fileName]

theorem noBreak_modules (cs : List Composed) :
    ∀ m ∈ ((cs.map Composed.interface).map Interface.fileName).map Interface.moduleOf, '\n' ∉ m.toList := by
  rw [map_moduleOf]
  intro m hm hbreak
  obtain ⟨c, -, rfl⟩ := List.mem_map.1 hm
  exact (Interface.mem_typeName hbreak).elim (by decide) (by decide)

/-- A file of the interfaces is found as it was written, unless another text was written under its name. -/
theorem readText_artifact (hw : t.writeArtifacts dir (cs.map Composed.interface) = (t', .ok paths))
    (hlinks : ∀ p ∈ paths, t'.isLink p = false)
    (hfile : (name, text) ∈ Interface.artifacts (cs.map Composed.interface))
    (hsame : ∀ other, (name, other) ∈ Interface.artifacts (cs.map Composed.interface) → other = text) :
    t'.readText (dir.child name) = .ok text := by
  obtain ⟨t₁, hw⟩ := writeArtifacts_writeEach hw
  have hl : ∀ f ∈ Interface.artifacts (cs.map Composed.interface), t'.isLink (dir.child f.1) = false :=
    fun f hf => hlinks _ (by rw [writeEach_paths hw]; exact List.mem_map.2 ⟨f, hf, rfl⟩)
  refine (writeEach_holds (isName_artifacts cs) hw hl hfile ?_).readText
  rintro ⟨same, other⟩ hf rfl
  exact hsame other hf

theorem mem_artifacts :
    (name, text) ∈ Interface.artifacts (cs.map Composed.interface) ↔
      (∃ c ∈ cs, c.interface.fileName = name ∧ c.interface.content = text) ∨
        (name = Interface.barrelName ∧
          text = Interface.barrel ((cs.map Composed.interface).map Interface.fileName)) := by
  unfold Interface.artifacts
  rw [List.mem_append, List.mem_singleton, List.map_map, List.mem_map]
  simp only [Function.comp_apply, Prod.mk.injEq]

theorem readText_interface (hw : t.writeArtifacts dir (cs.map Composed.interface) = (t', .ok paths))
    (hlinks : ∀ p ∈ paths, t'.isLink p = false) {c : Composed} (hc : c ∈ cs)
    (hsame : ∀ d ∈ cs, d.interface.fileName = c.interface.fileName → d.interface.content = c.interface.content) :
    t'.readText (dir.child c.interface.fileName) = .ok c.interface.content := by
  refine readText_artifact hw hlinks (mem_artifacts.2 (.inl ⟨c, hc, rfl, rfl⟩)) fun other hother => ?_
  rcases mem_artifacts.1 hother with ⟨d, hd, hname, rfl⟩ | ⟨hname, -⟩
  · exact hsame d hd hname
  · exact absurd hname (Interface.fileName_ne_barrelName c)

theorem readText_barrel (hw : t.writeArtifacts dir (cs.map Composed.interface) = (t', .ok paths))
    (hlinks : ∀ p ∈ paths, t'.isLink p = false) :
    t'.readText (dir.child Interface.barrelName) =
      .ok (Interface.barrel ((cs.map Composed.interface).map Interface.fileName)) := by
  refine readText_artifact hw hlinks (mem_artifacts.2 (.inr ⟨rfl, rfl⟩)) fun other hother => ?_
  rcases mem_artifacts.1 hother with ⟨d, hd, hname, -⟩ | ⟨-, htext⟩
  · exact absurd hname (Interface.fileName_ne_barrelName d)
  · exact htext

/-- **What is found after the interfaces of composed objects were written**, where no file is written through
a link: each interface under its name, unless one with another text has the name too, and a file with one
line for each name. -/
theorem writeArtifacts_kept (hw : t.writeArtifacts dir (cs.map Composed.interface) = (t', .ok paths))
    (hlinks : ∀ p ∈ paths, t'.isLink p = false) :
    (∀ c ∈ cs, (∀ d ∈ cs, d.interface.fileName = c.interface.fileName →
        d.interface.content = c.interface.content) →
      t'.readText (dir.child c.interface.fileName) = .ok c.interface.content) ∧
    ∃ text, t'.readText (dir.child Interface.barrelName) = .ok text ∧ (Text.lines text).Nodup ∧
      (∀ l, l ∈ Text.lines text ↔ ∃ c ∈ cs, l = Interface.exportLine c.interface.name) ∧
      ((cs.map fun c => c.interface.fileName).Nodup →
        (∀ c ∈ cs, t'.readText (dir.child c.interface.fileName) = .ok c.interface.content) ∧
        (Text.lines text).Perm (cs.map fun c => Interface.exportLine c.interface.name)) := by
  refine ⟨fun c hc => readText_interface hw hlinks hc, _, readText_barrel hw hlinks,
    Interface.nodup_lines_barrel (noBreak_modules cs), fun l => ?_, fun hnodup => ⟨fun c hc => ?_, ?_⟩⟩
  · rw [Interface.mem_lines_barrel (noBreak_modules cs), List.map_map]
    simp only [List.mem_map, Function.comp_apply, exists_exists_and_eq_and, Interface.moduleOf_fileName]
  · -- objects of one file name are one object
    exact readText_interface hw hlinks hc fun d hd hname => by
      rw [List.inj_on_of_nodup_map hnodup hd hc hname]
  · have hmodules : (((cs.map Composed.interface).map Interface.fileName).map Interface.moduleOf).Nodup := by
      rw [map_moduleOf]
      refine List.Nodup.of_map (· ++ ".ts") ?_
      rw [List.map_map]
      exact hnodup
    refine (Interface.lines_barrel_perm (noBreak_modules cs) hmodules).trans (.of_eq ?_)
    rw [List.map_map, List.map_map]
    simp only [Function.comp_def, Interface.moduleOf_fileName]

/-! ## A directory in the working directory -/

/-- Where every file can be written, the interfaces are. -/
theorem writeArtifacts_ok {is : List Interface} (hd : t.makeDirectories dir = .ok t)
    (h : ∀ f ∈ Interface.artifacts is, t.Takes (dir.child f.1)) :
    ∃ t' paths, t.writeArtifacts dir is = (t', .ok paths) ∧ ∀ p ∈ paths, t'.isLink p = false := by
  obtain ⟨t', paths, hw, hkept⟩ := writeEach_ok h
  refine ⟨t', paths, ?_, fun p hp => ?_⟩
  · unfold writeArtifacts
    rw [hd]
    exact hw
  · rw [writeEach_paths hw] at hp
    obtain ⟨f, hf, rfl⟩ := List.mem_map.1 hp
    exact (hkept _ (h f hf)).isLink

/-- The directory for interfaces, with what is in it. -/
def outTree (es : List (String × Entry)) : Tree := ⟨.directory [("out", .directory es)], []⟩

def outPath : Path := ⟨"out"⟩

/-- A name is short, and with the directory in front it is a path with two steps. -/
def isOutName (n : String) : Bool :=
  stepsOf (outPath.child n).text = [.down "out", .down n] && (outPath.child n).text.toList.head? == some 'o' &&
    !(outPath.child n).text.toList.contains '\x00' && n.utf8ByteSize ≤ 255

theorem makeDirectories_outTree (es : List (String × Entry)) :
    (outTree es).makeDirectories outPath = .ok (outTree es) := by
  have hn : (outTree es).Names outPath [] [] "out" :=
    ⟨rfl, by decide, by decide, _, follow_nil rfl⟩
  exact hn.makeDirectories rfl

theorem names_outTree (es : List (String × Entry)) (h : isOutName name = true) :
    (outTree es).Names (outPath.child name) [.down "out"] ["out"] name := by
  simp only [isOutName, Bool.and_eq_true, decide_eq_true_eq, beq_iff_eq, Bool.not_eq_true'] at h
  obtain ⟨⟨⟨hsteps, hhead⟩, hnul⟩, hshort⟩ := h
  refine ⟨hsteps, ⟨fun hempty => ?_, by rw [hnul]; exact Bool.false_ne_true⟩, by omega, ?_⟩
  · rw [String.isEmpty_iff.1 hempty] at hhead
    cases hhead
  · unfold startOf
    rw [hhead, if_neg (by decide)]
    exact ⟨es, (follow_down rfl (by decide) rfl (fun _ => Entry.noConfusion) _).trans (follow_nil rfl)⟩

/-- In an empty directory interfaces can be written. -/
theorem writeArtifacts_outTree
    (h : ∀ n ∈ Interface.barrelName :: cs.map fun c => c.interface.fileName, isOutName n = true) :
    ∃ t' paths, (outTree []).writeArtifacts outPath (cs.map Composed.interface) = (t', .ok paths) ∧
      ∀ p ∈ paths, t'.isLink p = false := by
  refine writeArtifacts_ok (makeDirectories_outTree []) ?_
  rintro ⟨n, text⟩ hf
  rw [List.forall_mem_cons] at h
  have hn : isOutName n = true := by
    rcases mem_artifacts.1 hf with ⟨c, hc, rfl, -⟩ | ⟨rfl, -⟩
    · exact h.2 _ (List.mem_map.2 ⟨c, hc, rfl⟩)
    · exact h.1
  exact ⟨_, _, _, names_outTree [] hn, trivial⟩

/-- Two objects, each found in its file. -/
theorem writeArtifacts_kept_two : ∃ (t' : Tree) (text : String),
    t'.readText (outPath.child "BlogPost.ts") = .ok (Composed.empty "Blog Post").interface.content ∧
      t'.readText (outPath.child "Order.ts") = .ok (Composed.empty "Order").interface.content ∧
      t'.readText (outPath.child Interface.barrelName) = .ok text ∧
      (Text.lines text).Perm ["export * from './BlogPost';", "export * from './Order';"] := by
  have hnames : ∀ n ∈ Interface.barrelName ::
      [Composed.empty "Blog Post", Composed.empty "Order"].map fun c => c.interface.fileName,
      isOutName n = true :=
    List.all_eq_true.1 rfl
  obtain ⟨t', paths, hw, hlinks⟩ := writeArtifacts_outTree hnames
  obtain ⟨-, text, hbarrel, -, -, hdistinct⟩ := writeArtifacts_kept hw hlinks
  obtain ⟨hread, hlines⟩ := hdistinct (by decide)
  rw [List.forall_mem_cons, List.forall_mem_singleton] at hread
  have hfirst : (Composed.empty "Blog Post").interface.fileName = "BlogPost.ts" := rfl
  have hsecond : (Composed.empty "Order").interface.fileName = "Order.ts" := rfl
  have hexports : ([Composed.empty "Blog Post", Composed.empty "Order"].map fun c =>
      Interface.exportLine c.interface.name) = ["export * from './BlogPost';", "export * from './Order';"] := rfl
  exact ⟨t', text, hfirst ▸ hread.1, hsecond ▸ hread.2, hbarrel, hexports ▸ hlines⟩

/-- Objects of different names may share a file name: one of them is lost, and there is one line. -/
theorem lost_of_fileName {a b : Composed} (hname : a.interface.fileName = b.interface.fileName)
    (hcontent : a.interface.content ≠ b.interface.content)
    (hw : t.writeArtifacts dir ([a, b].map Composed.interface) = (t', .ok paths))
    (hlinks : ∀ p ∈ paths, t'.isLink p = false) :
    (¬∀ c ∈ [a, b], t'.readText (dir.child c.interface.fileName) = .ok c.interface.content) ∧
      ∃ text, t'.readText (dir.child Interface.barrelName) = .ok text ∧ (Text.lines text).length < 2 := by
  refine ⟨fun hread => ?_, _, readText_barrel hw hlinks, ?_⟩
  · rw [List.forall_mem_cons, List.forall_mem_singleton, hname] at hread
    exact hcontent (Except.ok.inj (hread.1.symm.trans hread.2))
  · have hlines : Text.lines (Interface.barrel (([a, b].map Composed.interface).map Interface.fileName)) ⊆
        [Interface.exportLine a.interface.name] := fun l hl => by
      obtain ⟨f, hf, rfl⟩ := (Interface.mem_lines_barrel (noBreak_modules [a, b])).1 hl
      simp only [List.map_cons, List.map_nil, ← hname, List.mem_cons, List.not_mem_nil, or_false, or_self] at hf
      rw [hf, Interface.moduleOf_fileName]
      exact List.mem_singleton_self _
    have hnodup := Interface.nodup_lines_barrel (noBreak_modules [a, b])
    exact Nat.lt_succ_of_le (List.subperm_of_subset hnodup hlines).length_le

/-- What is written to a link is written where the link leads. -/
theorem readText_linked (x y z : String) : ∃ t' paths,
    writeEach outPath (outTree [("B.ts", .link "A.ts")]) [("A.ts", x), ("B.ts", y), ("index.ts", z)] =
        (t', .ok paths) ∧
      t'.readText (outPath.child "A.ts") = .ok y := by
  have hnames : isOutName "A.ts" = true ∧ isOutName "B.ts" = true ∧ isOutName "index.ts" = true :=
    ⟨rfl, rfl, rfl⟩
  have hfirst : (outTree [("B.ts", .link "A.ts")]).write (outPath.child "A.ts") (newFile x) =
      .ok (outTree [("B.ts", .link "A.ts"), ("A.ts", .file (newFile x))]) :=
    (names_outTree [("B.ts", .link "A.ts")] hnames.1).write_ok trivial _
  -- from where the link stands, it leads to the file that was written first
  have hlink : ({ outTree [("B.ts", .link "A.ts"), ("A.ts", .file (newFile x))] with here := ["out"] } : Tree).Names
      ⟨"A.ts"⟩ [] ["out"] "A.ts" :=
    ⟨rfl, by decide, by decide, _, follow_nil rfl⟩
  have hsecond : (outTree [("B.ts", .link "A.ts"), ("A.ts", .file (newFile x))]).write (outPath.child "B.ts")
      (newFile y) = .ok (outTree [("B.ts", .link "A.ts"), ("A.ts", .file (newFile y))]) :=
    (names_outTree _ hnames.2.1).write_link rfl hlink trivial _
  have hthird : (outTree [("B.ts", .link "A.ts"), ("A.ts", .file (newFile y))]).write (outPath.child "index.ts")
      (newFile z) =
      .ok (outTree [("B.ts", .link "A.ts"), ("A.ts", .file (newFile y)), ("index.ts", .file (newFile z))]) :=
    (names_outTree [("B.ts", .link "A.ts"), ("A.ts", .file (newFile y))] hnames.2.2).write_ok trivial _
  have hread : (outTree [("B.ts", .link "A.ts"), ("A.ts", .file (newFile y)), ("index.ts", .file (newFile z))]).readText
      (outPath.child "A.ts") = .ok y :=
    (names_outTree _ hnames.1).readText rfl rfl
  exact ⟨_, _, writeEach_cons_ok hfirst (writeEach_cons_ok hsecond (writeEach_cons_ok hthird rfl)), hread⟩

/-- **Objects that are lost.** Names that differ may be made into one identifier; and a link may stand in
the place of a file. -/
theorem writeArtifacts_lost :
    (Name.normalize "Blog Post" ≠ Name.normalize "blog-post" ∧
      ∃ t' paths,
        (outTree []).writeArtifacts outPath
          ([Composed.empty "Blog Post", Composed.empty "blog-post"].map Composed.interface) = (t', .ok paths) ∧
        (¬∀ c ∈ [Composed.empty "Blog Post", Composed.empty "blog-post"],
          t'.readText (outPath.child c.interface.fileName) = .ok c.interface.content) ∧
        ∃ text, t'.readText (outPath.child Interface.barrelName) = .ok text ∧ (Text.lines text).length < 2) ∧
    (Composed.empty "A").interface.fileName ≠ (Composed.empty "B").interface.fileName ∧
    ∃ t' paths,
      (outTree [("B.ts", .link "A.ts")]).writeArtifacts outPath
        ([Composed.empty "A", Composed.empty "B"].map Composed.interface) = (t', .ok paths) ∧
      ¬∀ c ∈ [Composed.empty "A", Composed.empty "B"],
        t'.readText (outPath.child c.interface.fileName) = .ok c.interface.content := by
  refine ⟨⟨by decide +kernel, ?_⟩, by decide +kernel, ?_⟩
  · have hnames : ∀ n ∈ Interface.barrelName ::
        [Composed.empty "Blog Post", Composed.empty "blog-post"].map fun c => c.interface.fileName,
        isOutName n = true :=
    List.all_eq_true.1 rfl
    obtain ⟨t', paths, hw, hlinks⟩ := writeArtifacts_outTree hnames
    exact ⟨t', paths, hw, lost_of_fileName (by decide +kernel) (by decide +kernel) hw hlinks⟩
  · have ha : (Composed.empty "A").interface.fileName = "A.ts" := rfl
    have hb : (Composed.empty "B").interface.fileName = "B.ts" := rfl
    have hcontent : (Composed.empty "A").interface.content ≠ (Composed.empty "B").interface.content := by
      decide +kernel
    -- the second interface is written through the link, over the first
    obtain ⟨t', paths, hw, hread⟩ := readText_linked (Composed.empty "A").interface.content
      (Composed.empty "B").interface.content (Interface.barrel ["A.ts", "B.ts"])
    refine ⟨t', paths, ?_, fun h => ?_⟩
    · unfold writeArtifacts Interface.artifacts
      rw [makeDirectories_outTree]
      simp only [List.map_cons, List.map_nil, List.cons_append, List.nil_append, ha, hb]
      exact hw
    · have hown := h _ List.mem_cons_self
      rw [ha, hread] at hown
      exact hcontent (Except.ok.inj hown).symm

end Tree

end TraitWeave
