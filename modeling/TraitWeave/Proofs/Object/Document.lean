import TraitWeave.Object.Document
import TraitWeave.Proofs.PathTable

/-!
# Objects do not depend on the name of their file

The file of a document stands in the problems that are told of it, and nowhere else.

* `Document.Judges`: the outcome of a document, from its checks and its decoder.
* `Object.structureProblems_relocate`: the problems of a document of another file.
* `Object.ofFile_congr`: two spellings of a path give the same object.
-/

namespace TraitWeave

open Document

namespace Document

/-- The same problem in another file. -/
def Problem.relocate (file : Option Path) (p : Problem) : Problem := { p with file := file }

variable (file file' : Option Path) (ms : Table Json) (key field : String) (shape : Shape)

@[simp] theorem relocate_ofField (cause : Cause) :
    (Problem.ofField file field cause).relocate file' = .ofField file' field cause := rfl

@[simp] theorem relocate_andThen (found more : List Problem) :
    (andThen found more).map (Problem.relocate file') =
      andThen (found.map (Problem.relocate file')) (more.map (Problem.relocate file')) := by
  cases found <;> rfl

@[simp] theorem relocate_expect (v : Json) :
    (expect file v field shape).map (Problem.relocate file') = expect file' v field shape := by
  unfold expect; split <;> rfl

@[simp] theorem relocate_require :
    (require file ms key field shape).map (Problem.relocate file') =
      require file' ms key field shape := by
  unfold require; split <;> simp

@[simp] theorem relocate_allow :
    (allow file ms key field shape).map (Problem.relocate file') = allow file' ms key field shape := by
  unfold allow; split <;> simp

@[simp] theorem relocate_unknownSections (known : List String) :
    (unknownSections file known ms).map (Problem.relocate file') = unknownSections file' known ms := by
  simp [unknownSections, Function.comp_def]

@[simp] theorem relocate_schemaDeclarations :
    (schemaDeclarations file ms).map (Problem.relocate file') = schemaDeclarations file' ms := by
  unfold schemaDeclarations; split <;> simp [List.map_flatMap]

variable {ms}

/-- The outcome of a document is what its checks find, or else what its decoder makes of it. -/
structure Judges {α : Type} (format : Format) (file : Option Path) (decode : Decoder α)
    (checks : Table Json → List Problem) (outcome : Table Json → Except (List Problem) α) : Prop where
  found : ∀ root, checks root ≠ [] → outcome root = .error (checks root)
  passed : ∀ root, checks root = [] → outcome root =
    (decode (.obj (if format.isStrict then root else expandShorthand root))).mapError
      fun e => [.ofCause file (.mismatch e)]

/-- A document is accepted if the checks find nothing and the decoder takes it. -/
theorem Judges.accepted {α : Type} {format : Format} {decode : Decoder α} {checks : Table Json → List Problem}
    {outcome : Table Json → Except (List Problem) α} {file : Option Path}
    (h : Judges format file decode checks outcome) {root : Table Json} {a : α} :
    outcome root = .ok a ↔ checks root = [] ∧
      decode (.obj (if format.isStrict then root else expandShorthand root)) = .ok a := by
  by_cases hnone : checks root = []
  · rw [h.passed root hnone]
    cases decode (.obj (if format.isStrict then root else expandShorthand root)) <;>
      simp [Except.mapError, hnone]
  · rw [h.found root hnone]
    simp [hnone]

theorem read_eq_ok {text : String} {format : Format} :
    Document.read text format file = .ok ms ↔
      ∃ v, decodeText text format = .ok v ∧ members v = .ok ms := by
  unfold Document.read
  cases decodeText text format with
  | error c => simp
  | ok v => cases h : members v <;> simp [h]

end Document

namespace Object

variable (file file' : Option Path) (root : Table Json)

@[simp] theorem relocate_nameProblems (info : Table Json) :
    (nameProblems file info).map (Problem.relocate file') = nameProblems file' info := by
  unfold nameProblems
  rw [relocate_andThen, relocate_require]
  split <;> [split <;> simp; simp]

@[simp] theorem relocate_infoProblems :
    (infoProblems file root).map (Problem.relocate file') = infoProblems file' root := by
  unfold infoProblems
  rw [relocate_andThen, relocate_require]
  split <;> simp

@[simp] theorem relocate_referenceProblems (index : Nat) (vs : List Json) :
    (referenceProblems file index vs).map (Problem.relocate file') =
      referenceProblems file' index vs := by
  induction vs generalizing index with
  | nil => rfl
  | cons v vs ih => cases v <;> simp [referenceProblems, ih]

@[simp] theorem relocate_traitsProblems :
    (traitsProblems file root).map (Problem.relocate file') = traitsProblems file' root := by
  unfold traitsProblems
  rw [relocate_andThen, relocate_allow]
  split <;> simp

@[simp] theorem relocate_overrideProblems (key : String) (resolution : Json) :
    (overrideProblems file key resolution).map (Problem.relocate file') =
      overrideProblems file' key resolution := by
  unfold overrideProblems
  split
  · rfl
  · dsimp only
    rw [relocate_andThen, relocate_expect]
    split <;> rfl

@[simp] theorem relocate_resolutionProblems :
    (resolutionProblems file root).map (Problem.relocate file') = resolutionProblems file' root := by
  unfold resolutionProblems; split <;> simp [List.map_flatMap]

/-- **The problems of a document** are the same in every file, but for the file that they name. -/
theorem structureProblems_relocate (format : Format) :
    (structureProblems format file root).map (Problem.relocate file') =
      structureProblems format file' root := by
  unfold structureProblems strictProblems
  cases format.isStrict <;> simp

variable {file} {text : String} {format : Format} {o : Object}

theorem judges (format : Format) (file : Option Path) :
    Judges format file decode (structureProblems format file) (ofMembers format file) where
  found root h := by
    unfold ofMembers
    split
    · exact absurd ‹_› h
    · rfl
  passed root h := by
    unfold ofMembers conform
    rw [h]
    dsimp only
    cases decode (.obj (if format.isStrict then root else expandShorthand root)) <;> rfl

theorem ofMembers_eq_ok {root : Table Json} :
    ofMembers format file root = .ok o ↔ structureProblems format file root = [] ∧
      decode (.obj (if format.isStrict then root else expandShorthand root)) = .ok o :=
  (judges format file).accepted

theorem parse_eq_ok : parse text format file = .ok o ↔
    ∃ v ms, decodeText text format = .ok v ∧ members v = .ok ms ∧ ofMembers format file ms = .ok o := by
  unfold parse
  cases hread : Document.read text format file with
  | error p =>
    simp only [reduceCtorEq, false_iff, not_exists]
    rintro v ms ⟨hv, hms, -⟩
    rw [(read_eq_ok file).2 ⟨v, hv, hms⟩] at hread
    cases hread
  | ok root =>
    obtain ⟨v, hv, hms⟩ := (read_eq_ok file).1 hread
    constructor
    · intro h; exact ⟨v, root, hv, hms, h⟩
    · rintro ⟨v', root', hv', hms', h⟩
      obtain rfl := Except.ok.inj (hv.symm.trans hv')
      obtain rfl := Except.ok.inj (hms.symm.trans hms')
      exact h

/-- The object of a text does not depend on the file that is named for it. -/
theorem parse_relocate (h : parse text format file = .ok o) : parse text format file' = .ok o := by
  obtain ⟨v, ms, hv, hms, hmembers⟩ := parse_eq_ok.1 h
  obtain ⟨hnone, hdecode⟩ := ofMembers_eq_ok.1 hmembers
  have hnone' : structureProblems format file' ms = [] := by
    rw [← structureProblems_relocate file, hnone]; rfl
  exact parse_eq_ok.2 ⟨v, ms, hv, hms, ofMembers_eq_ok.2 ⟨hnone', hdecode⟩⟩

/-- **Two spellings of a path give the same object.** -/
theorem ofFile_congr {p q : Path} (hpq : p.same q = true) {content : Except String String}
    (h : ofFile p content = .ok o) : ofFile q content = .ok o := by
  have hformat : Format.ofPath? p = Format.ofPath? q := by
    unfold Format.ofPath? Path.extension? Path.fileName?
    rw [Path.same_iff.1 hpq]
  unfold ofFile at h ⊢
  rw [← hformat]
  cases hf : Format.ofPath? p with
  | none => rw [hf] at h; cases h
  | some format =>
    rw [hf] at h
    cases content with
    | error reason => cases h
    | ok text => exact parse_relocate (some q) h

end Object

end TraitWeave
