import TraitWeave.Proofs.Object.Document
import TraitWeave.Proofs.Text.Endings
import TraitWeave.Registry.Scan

/-!
# Which of the files found can be read

A scan compares the names of files without regard to case, and the format of a document goes by the ending of its
path as it is written. So a file that is found has a format just if its ending is written in small letters.

* `Path.extension?_of_fileName?`: the ending of a path is what stands behind the last dot of its name.
* `Object.supported_parse`: no problem of a text is that its file has no format.
* `ScanRules.exists_ending_of_accepts`: what the names that are sought by default look like.
* `Scan.found_unsupported_iff`: which of the files found are rejected for their endings.
-/

namespace TraitWeave

open Document

/-! ## Endings of paths -/

namespace Path

/-- A name is cut at its last dot. -/
theorem cutExtension_append {before ending : List Char} (hbefore : before ≠ []) (hending : '.' ∉ ending) :
    cutExtension (before ++ '.' :: ending) = some (before, ending) := by
  have hafter : (before ++ '.' :: ending).reverse.takeWhile (· ≠ '.') = ending.reverse := by
    rw [List.reverse_append, List.reverse_cons, List.append_assoc]
    refine (List.takeWhile_append_of_pos fun c hc => ?_).trans (by simp)
    exact decide_eq_true fun hdot => hending (List.mem_reverse.1 (hdot ▸ hc))
  have hlength : (before ++ '.' :: ending).length - ending.length - 1 = before.length := by
    rw [List.length_append, List.length_cons]
    omega
  have hshort : ¬ending.length = (before ++ '.' :: ending).length := by
    rw [List.length_append, List.length_cons]
    omega
  unfold cutExtension
  simp only [hafter, List.length_reverse, hshort, hlength, if_false, List.take_left, List.reverse_reverse,
    List.isEmpty_iff, hbefore]

/-- The ending of a path whose name has a dot in it, and something before that. -/
theorem extension?_of_fileName? {p : Path} {name : String} {before ending : List Char} (hp : p.fileName? = some name)
    (hname : name.toList = before ++ '.' :: ending) (hbefore : before ≠ []) (hending : '.' ∉ ending) :
    p.extension? = some (String.ofList ending) := by
  unfold extension?
  rw [hp, Option.bind_some, hname, cutExtension_append hbefore hending]
  rfl

end Path

/-! ## Problems of texts -/

namespace Document

/-- None of the problems is that a file has no format. -/
def Supported (ps : List Problem) : Prop := ∀ p ∈ ps, ∀ kind, p.cause ≠ .unsupported kind

variable {file : Option Path} {ps qs : List Problem}

@[simp] theorem supported_nil : Supported [] := fun _ h => by cases h

@[simp] theorem supported_append : Supported (ps ++ qs) ↔ Supported ps ∧ Supported qs :=
  List.forall_mem_append

@[simp] theorem supported_cons {p : Problem} :
    Supported (p :: ps) ↔ (∀ kind, p.cause ≠ .unsupported kind) ∧ Supported ps :=
  List.forall_mem_cons

theorem supported_flatMap {α : Type} {f : α → List Problem} {xs : List α} (h : ∀ x ∈ xs, Supported (f x)) :
    Supported (xs.flatMap f) := fun p hp => by
  obtain ⟨x, hx, hp⟩ := List.mem_flatMap.1 hp
  exact h x hx p hp

theorem supported_andThen (h : Supported ps) (h' : Supported qs) : Supported (andThen ps qs) := by
  unfold andThen
  split
  · exact h'
  · exact h

variable (file) (ms : Table Json) (key field : String) (shape : Shape)

@[simp] theorem supported_expect (v : Json) : Supported (expect file v field shape) := by
  unfold expect
  split <;> simp [Problem.ofField]

@[simp] theorem supported_require : Supported (require file ms key field shape) := by
  unfold require
  split <;> simp [Problem.ofField]

@[simp] theorem supported_allow : Supported (allow file ms key field shape) := by
  unfold allow
  split <;> simp

theorem supported_read {text : String} {format : Format} {p : Problem} (h : read text format file = .error p) :
    Supported [p] := by
  unfold read at h
  split at h
  · rename_i c hc
    have hcause : ∀ kind, c ≠ .unsupported kind := by
      unfold decodeText at hc
      split at hc <;> split at hc <;> cases hc <;> exact fun _ => nofun
    cases h
    exact supported_cons.2 ⟨hcause, supported_nil⟩
  · split at h
    · rename_i c hc
      have hcause : ∀ kind, c ≠ .unsupported kind := by
        unfold members at hc
        split at hc <;> cases hc <;> exact fun _ => nofun
      cases h
      exact supported_cons.2 ⟨hcause, supported_nil⟩
    · cases h

theorem supported_unknownSections (known : List String) : Supported (unknownSections file known ms) := by
  unfold unknownSections
  intro p hp
  obtain ⟨k, -, rfl⟩ := List.mem_map.1 hp
  exact fun _ => nofun

theorem supported_schemaDeclarations : Supported (schemaDeclarations file ms) := by
  unfold schemaDeclarations
  split
  · exact supported_flatMap fun _ _ => supported_expect _ _ _ _
  · exact supported_nil

end Document

namespace Object

variable (file : Option Path) (root : Table Json)

theorem supported_infoProblems : Supported (infoProblems file root) := by
  have hname (info : Table Json) : Supported (nameProblems file info) := by
    refine supported_andThen (supported_require _ _ _ _ _) ?_
    split
    · split <;> simp [Problem.ofField]
    · exact supported_nil
  refine supported_andThen (supported_require _ _ _ _ _) ?_
  split
  · simp [hname]
  · exact supported_nil

theorem supported_referenceProblems (index : Nat) (vs : List Json) :
    Supported (referenceProblems file index vs) := by
  induction vs generalizing index with
  | nil => exact supported_nil
  | cons v vs ih => cases v <;> simp [referenceProblems, ih, Problem.ofField]

theorem supported_traitsProblems : Supported (traitsProblems file root) := by
  refine supported_andThen (supported_allow _ _ _ _ _) ?_
  split
  · exact supported_referenceProblems _ _ _
  · exact supported_nil

theorem supported_resolutionProblems : Supported (resolutionProblems file root) := by
  have hone (key : String) (resolution : Json) : Supported (overrideProblems file key resolution) := by
    unfold overrideProblems
    split
    · exact supported_nil
    · refine supported_andThen (supported_expect _ _ _ _) ?_
      split <;> simp [Problem.ofField]
  unfold resolutionProblems
  split
  · exact supported_flatMap fun _ _ => hone _ _
  · exact supported_nil

theorem supported_structureProblems (format : Format) : Supported (structureProblems format file root) := by
  have hstrict : Supported (if format.isStrict then strictProblems file root else []) := by
    split
    · exact supported_append.2 ⟨supported_unknownSections _ _ _, supported_schemaDeclarations _ _⟩
    · exact supported_nil
  unfold structureProblems
  simp [supported_infoProblems, supported_traitsProblems, supported_resolutionProblems, hstrict]

/-- **A text is not rejected for the ending of its file.** -/
theorem supported_parse {text : String} {format : Format} {file : Option Path} {ps : List Problem}
    (h : parse text format file = .error ps) : Supported ps := by
  unfold parse at h
  split at h
  · rename_i p hp
    cases h
    exact supported_read file hp
  · rename_i root _
    by_cases hnone : structureProblems format file root = []
    · rw [(judges format file).passed root hnone] at h
      cases hd : decode (.obj (if format.isStrict then root else expandShorthand root)) with
      | ok o =>
        rw [hd] at h
        cases h
      | error e =>
        rw [hd] at h
        cases h
        exact supported_cons.2 ⟨fun _ => nofun, supported_nil⟩
    · rw [(judges format file).found root hnone] at h
      cases h
      exact supported_structureProblems file root format

/-- A file of a known format is not rejected for its ending. -/
theorem supported_ofFile {p : Path} {content : Except String String} {format : Format} {ps : List Problem}
    (hp : Format.ofPath? p = some format) (h : ofFile p content = .error ps) : Supported ps := by
  unfold ofFile at h
  rw [hp] at h
  cases content with
  | error reason =>
    cases h
    exact supported_cons.2 ⟨fun _ => nofun, supported_nil⟩
  | ok text => exact supported_parse h

/-- A file of no known format is rejected for that. -/
theorem ofFile_of_ofPath?_eq_none {p : Path} (hp : Format.ofPath? p = none) (content : Except String String) :
    ofFile p content = .error [.ofCause (some p) (.unsupported .object)] := by
  unfold ofFile
  rw [hp]

end Object

/-! ## Names that are sought -/

namespace ScanRules

/-- The endings of documents. -/
def endings : List String := ["yaml", "yml", "json"]

theorem eq_dot_of_toLower {c : Char} (h : c.toLower = '.') : c = '.' := by
  have halpha : c.isAlpha = false := by
    rw [← Char.isLower_toLower_eq_isAlpha, h]
    rfl
  have hupper : ¬c.isUpper = true := fun hupper => by
    simp [Char.isAlpha, hupper] at halpha
  rwa [Char.toLower_eq_of_not_isUpper hupper] at h

/-- What a name that is sought by default looks like: a dot, an ending of documents in any letter case, and something
before the dot. -/
theorem exists_ending_of_accepts {name : String} (h : standard.accepts name = true) :
    ∃ before ending, name.toList = before ++ '.' :: ending ∧ before ≠ [] ∧
      ∃ w ∈ endings, ending.map Char.toLower = w.toList := by
  have hall : ∀ e ∈ standard.extensions, (Text.lower e).toList.all Text.isOwnForm = true ∧
      ∃ w ∈ endings, (Text.lower e).toList = ".object".toList ++ '.' :: w.toList := by decide +kernel
  obtain ⟨e, he, hends⟩ := List.any_eq_true.1 h
  obtain ⟨hown, w, hw, hword⟩ := hall e he
  obtain ⟨v, ⟨front, hfront⟩, hv⟩ := Text.exists_of_endsWith_lower hown hends
  rw [hword, List.map_eq_append_iff] at hv
  obtain ⟨object, rest, rfl, hobject, hrest⟩ := hv
  obtain ⟨dot, ending, rfl, hdot, hending⟩ := List.map_eq_cons_iff.1 hrest
  obtain rfl := eq_dot_of_toLower hdot
  have hne : front ++ object ≠ [] := fun hnil => by
    rw [(List.append_eq_nil_iff.1 hnil).2] at hobject
    cases hobject
  exact ⟨front ++ object, ending, by rw [← hfront, List.append_assoc], hne, w, hw, hending⟩

/-- A path of such a name has a format just if its ending is written in small letters. -/
theorem ofPath?_isSome_iff {p : Path} {ending : List Char} {w : String} (hp : p.extension? = some (String.ofList ending))
    (hw : w ∈ endings) (hending : ending.map Char.toLower = w.toList) :
    (Format.ofPath? p).isSome = true ↔ ∀ c ∈ ending, c.isUpper = false := by
  rw [← Text.map_toLower_eq_iff, hending]
  constructor
  · intro h
    have hsmall : ∀ v ∈ endings, v.toList.map Char.toLower = v.toList := by decide
    have hmem : String.ofList ending ∈ endings := by
      unfold Format.ofPath? at h
      rw [hp] at h
      split at h <;> simp_all [endings]
    have hself := hsmall _ hmem
    rwa [String.toList_ofList, hending] at hself
  · rintro h
    have hword : p.extension? = some w := by rw [hp, ← h, String.ofList_toList]
    unfold Format.ofPath?
    rw [hword]
    simp only [endings, List.mem_cons, List.not_mem_nil, or_false] at hw
    rcases hw with rfl | rfl | rfl <;> rfl

end ScanRules

namespace Scan

/-- All files that are found have names that are sought. -/
theorem accepts_of_mem (t : Tree) (rules : ScanRules) (roots : List Path) :
    ∀ p ∈ PathTable.paths (Scan.of t rules roots).snapshot, (p.fileName?.map rules.accepts).getD false = true := by
  unfold Scan.of
  suffices h : ∀ (vs : List Visit) (s : Scan),
      (∀ p ∈ PathTable.paths s.snapshot, (p.fileName?.map rules.accepts).getD false = true) →
      ∀ p ∈ PathTable.paths (vs.foldl (see rules) s).snapshot, (p.fileName?.map rules.accepts).getD false = true from
    h _ _ nofun
  intro vs
  induction vs with
  | nil => exact fun s hs => hs
  | cons v vs ih =>
    intro s hs
    refine ih _ fun p hp => ?_
    unfold see at hp
    split at hp
    · exact hs p hp
    · split at hp
      · rename_i haccepts
        rcases PathTable.mem_paths_put hp with rfl | hp
        · exact haccepts
        · exact hs p hp
      · exact hs p hp
    · exact hs p hp

/-- **Which of the files found can be read**: by default those whose ending is written in small letters. The others
are rejected for it, whatever they hold. -/
theorem found_unsupported_iff (t : Tree) (roots : List Path) :
    ∀ e ∈ (Scan.of t .standard roots).snapshot, ∃ ending, e.1.extension? = some ending ∧
      ((Format.ofPath? e.1).isSome = true ↔ ∀ c ∈ ending.toList, c.isUpper = false) ∧
      ∀ content, (∃ ps, Object.ofFile e.1 content = .error ps ∧ ¬Supported ps) ↔
        ∃ c ∈ ending.toList, c.isUpper = true := by
  rintro ⟨p, stamp⟩ he
  have haccepts := accepts_of_mem t .standard roots p (List.mem_map_of_mem he)
  cases hname : p.fileName? with
  | none =>
    rw [hname] at haccepts
    cases haccepts
  | some name =>
    rw [hname] at haccepts
    obtain ⟨before, ending, hlist, hbefore, w, hw, hending⟩ := ScanRules.exists_ending_of_accepts haccepts
    -- the ending that was sought has no dot, so it is all of the extension
    have hdot : '.' ∉ ending := fun hdot => by
      have hnone : ∀ v ∈ ScanRules.endings, '.' ∉ v.toList := by decide
      exact hnone w hw (hending ▸ List.mem_map.2 ⟨'.', hdot, rfl⟩)
    have hextension := Path.extension?_of_fileName? hname hlist hbefore hdot
    have hformat := ScanRules.ofPath?_isSome_iff hextension hw hending
    refine ⟨String.ofList ending, hextension, by rwa [String.toList_ofList], fun content => ?_⟩
    have hcapital : (∃ c ∈ ending, c.isUpper = true) ↔ Format.ofPath? p = none := by
      rw [← Option.not_isSome_iff_eq_none, hformat]
      simp
    rw [String.toList_ofList, hcapital]
    constructor
    · rintro ⟨ps, hps, hunsupported⟩
      by_contra hsome
      obtain ⟨format, hp⟩ := Option.ne_none_iff_exists'.1 hsome
      exact hunsupported (Object.supported_ofFile hp hps)
    · intro hp
      exact ⟨_, Object.ofFile_of_ofPath?_eq_none hp content, fun h => (supported_cons.1 h).1 .object rfl⟩

/-- A file with an object. -/
def ledger : StoredFile where
  text := some "\x7b\"object\":\x7b\"name\":\"Ledger\"\x7d\x7d"
  size := 28
  time := 0

/-- A directory with two files that are sought, one of them with capitals in its ending. -/
def cabinet : Tree where
  root := .directory [("objects", .directory [("A.object.json", .file ledger), ("B.Object.JSON", .file ledger)])]
  here := []

theorem resolveWith_cabinet (last : Bool) : cabinet.resolveWith last ⟨"objects"⟩ =
    .ok (["objects"], .directory [("A.object.json", .file ledger), ("B.Object.JSON", .file ledger)]) := by
  have hsteps : Tree.stepsOf "objects" = [.down "objects"] := by decide +kernel
  have hshort : ¬"objects".utf8ByteSize > 255 := by decide +kernel
  simp [Tree.resolveWith, hsteps, Tree.startOf, cabinet, Tree.follow, Entry.at?, Table.get?, hshort]

theorem snapshot_cabinet : (Scan.of cabinet .standard [⟨"objects"⟩]).snapshot =
    [(⟨"objects/A.object.json"⟩, ⟨0, 28⟩), (⟨"objects/B.Object.JSON"⟩, ⟨0, 28⟩)] := by
  have hroots : [Path.mk "objects"].filter cabinet.has = [⟨"objects"⟩] := by
    simp [Tree.has, Tree.resolve, resolveWith_cabinet, Except.toOption]
  unfold Scan.of
  rw [hroots, List.flatMap_singleton]
  unfold Walk.below
  rw [resolveWith_cabinet]
  decide +kernel

theorem large_mem_cabinet :
    (⟨"objects/B.Object.JSON"⟩, ⟨0, 28⟩) ∈ (Scan.of cabinet .standard [⟨"objects"⟩]).snapshot := by
  rw [snapshot_cabinet]
  exact List.mem_cons_of_mem _ List.mem_cons_self

/-- The file whose ending has capitals is rejected, the other is not. -/
theorem found_unsupported_iff_cabinet :
    (⟨"objects/A.object.json"⟩, ⟨0, 28⟩) ∈ (Scan.of cabinet .standard [⟨"objects"⟩]).snapshot ∧
    (∀ content, ¬∃ ps, Object.ofFile ⟨"objects/A.object.json"⟩ content = .error ps ∧ ¬Supported ps) ∧
    (⟨"objects/B.Object.JSON"⟩, ⟨0, 28⟩) ∈ (Scan.of cabinet .standard [⟨"objects"⟩]).snapshot ∧
    ∀ content, ∃ ps, Object.ofFile ⟨"objects/B.Object.JSON"⟩ content = .error ps ∧ ¬Supported ps := by
  have ha : (⟨"objects/A.object.json"⟩, ⟨0, 28⟩) ∈ (Scan.of cabinet .standard [⟨"objects"⟩]).snapshot := by
    rw [snapshot_cabinet]
    exact List.mem_cons_self
  obtain ⟨small, hsmall, -, hread⟩ := found_unsupported_iff cabinet [⟨"objects"⟩] _ ha
  obtain ⟨large, hlarge, -, hrejected⟩ := found_unsupported_iff cabinet [⟨"objects"⟩] _ large_mem_cabinet
  have hendings : Path.extension? ⟨"objects/A.object.json"⟩ = some (String.ofList ['j', 's', 'o', 'n']) ∧
      Path.extension? ⟨"objects/B.Object.JSON"⟩ = some (String.ofList ['J', 'S', 'O', 'N']) := by decide +kernel
  obtain rfl := Option.some.inj (hendings.1.symm.trans hsmall)
  obtain rfl := Option.some.inj (hendings.2.symm.trans hlarge)
  rw [String.toList_ofList] at hread hrejected
  exact ⟨ha, fun content h => absurd ((hread content).1 h) (by simp), large_mem_cabinet,
    fun content => (hrejected content).2 (by simp)⟩

/-- **Not every file that is found has a format**: `B.Object.JSON` is found and then rejected for its ending. -/
theorem not_found_supported :
    ¬∀ (t : Tree) (roots : List Path), ∀ e ∈ (Scan.of t .standard roots).snapshot,
      (Format.ofPath? e.1).isSome = true ∧
        ∀ content ps, Object.ofFile e.1 content = .error ps → Supported ps := by
  intro h
  have hnone : Format.ofPath? ⟨"objects/B.Object.JSON"⟩ = none := by decide +kernel
  have hsome := (h cabinet [⟨"objects"⟩] _ large_mem_cabinet).1
  rw [hnone] at hsome
  cases hsome

end Scan

end TraitWeave
