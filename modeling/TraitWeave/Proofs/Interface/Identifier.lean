import TraitWeave.Interface.Artifacts
import TraitWeave.Proofs.Tree.Writing

/-!
# Identifiers made from names

* `Interface.typeName_shape`: what an identifier that is made from a name looks like.
* `Interface.moduleOf_fileName`: the module of an interface's file is called as the interface.
* `Interface.isName_fileName`, `Interface.fileName_ne_barrelName`: the file is one of its own.
-/

namespace TraitWeave

theorem isUpper_eq (c : Char) : c.isUpper = decide (c.val ≥ 'A'.val ∧ c.val ≤ 'Z'.val) := rfl

theorem isLower_eq (c : Char) : c.isLower = (decide (c.val ≥ 'a'.val) && decide (c.val ≤ 'z'.val)) := rfl

theorem isAlpha_eq (c : Char) : c.isAlpha = (c.isUpper || c.isLower) := rfl

/-- A small letter becomes a capital, and every other character stays. -/
theorem toUpper_cases (c : Char) :
    (c.isLower = true ∧ c.toUpper.isUpper = true) ∨ (c.isLower = false ∧ c.toUpper = c) := by
  unfold Char.toUpper
  split
  · rename_i h
    refine .inl ⟨by simpa [isLower_eq] using h, ?_⟩
    obtain ⟨hlow, hhigh⟩ := h
    rw [UInt32.le_iff_toNat_le] at hlow hhigh
    have ha : 'a'.val.toNat = 97 := rfl
    have hz : 'z'.val.toNat = 122 := rfl
    have hA : 'A'.val.toNat = 65 := rfl
    have hZ : 'Z'.val.toNat = 90 := rfl
    have hshift : (c.val + ('A'.val - 'a'.val)).toNat = c.val.toNat - 32 := by
      have hdistance : ('A'.val - 'a'.val).toNat = 4294967264 := rfl
      rw [UInt32.toNat_add, hdistance]
      omega
    simp only [isUpper_eq, decide_eq_true_eq, ge_iff_le, UInt32.le_iff_toNat_le, hshift]
    omega
  · rename_i h
    exact .inr ⟨by simpa [isLower_eq] using h, rfl⟩

theorem isAlphanum_toUpper {c : Char} (h : c.isAlphanum = true) : c.toUpper.isAlphanum = true := by
  rcases toUpper_cases c with ⟨-, hc⟩ | ⟨-, hc⟩
  · simp [Char.isAlphanum, isAlpha_eq, hc]
  · rwa [hc]

theorem isLower_toUpper (c : Char) : c.toUpper.isLower = false := by
  rcases toUpper_cases c with ⟨-, hc⟩ | ⟨hlow, hc⟩
  · simp only [isUpper_eq, isLower_eq, Bool.and_eq_false_iff, decide_eq_true_eq,
      decide_eq_false_iff_not, ge_iff_le, UInt32.le_iff_toNat_le] at hc ⊢
    have ha : 'a'.val.toNat = 97 := rfl
    have hZ : 'Z'.val.toNat = 90 := rfl
    omega
  · rwa [hc]

namespace Interface

variable {name : String}

/-- Every word starts without a small letter. -/
theorem head_capitalized {ws : List (List Char)} {c : Char} {cs : List Char}
    (h : ws.flatMap capitalize = c :: cs) : c.isLower = false := by
  induction ws with
  | nil => cases h
  | cons w ws ih =>
    rw [List.flatMap_cons] at h
    cases w with
    | nil => exact ih h
    | cons d ds =>
      cases h
      exact isLower_toUpper d

theorem isAlphanum_capitalized {c : Char} {cs : List Char}
    (h : c ∈ (Text.pieces (fun c => !c.isAlphanum) cs).flatMap capitalize) : c.isAlphanum = true := by
  obtain ⟨w, hw, hc⟩ := List.mem_flatMap.1 h
  have hword : ∀ d ∈ w, d.isAlphanum = true := fun d hd => by
    simpa using (Text.of_mem_pieces hw hd).2
  cases w with
  | nil => cases hc
  | cons d ds =>
    rcases List.mem_cons.1 hc with rfl | hc
    · exact isAlphanum_toUpper (hword d List.mem_cons_self)
    · exact hword c (List.mem_cons_of_mem _ hc)

/-- **What an identifier looks like**: a capital letter or an underscore, and letters and digits after it. -/
theorem typeName_shape (name : String) :
    ∃ c cs, (typeName name).toList = c :: cs ∧ (c.isUpper = true ∨ c = '_') ∧ ∀ d ∈ cs, d.isAlphanum = true := by
  unfold typeName
  simp only
  split
  · exact ⟨'_', [], rfl, .inr rfl, by simp⟩
  · rename_i c cs hcs
    have halnum : ∀ d ∈ c :: cs, d.isAlphanum = true := fun d hd => isAlphanum_capitalized (hcs ▸ hd)
    rw [hcs, String.toList_ofList]
    split
    · exact ⟨'_', c :: cs, rfl, .inr rfl, halnum⟩
    · rename_i hdigit
      refine ⟨c, cs, rfl, .inl ?_, fun d hd => halnum d (List.mem_cons_of_mem _ hd)⟩
      have hc := halnum c List.mem_cons_self
      simpa [Char.isAlphanum, isAlpha_eq, hdigit, head_capitalized hcs] using hc

/-- The characters of an identifier. -/
theorem mem_typeName {c : Char} (h : c ∈ (typeName name).toList) : c.isAlphanum = true ∨ c = '_' := by
  obtain ⟨d, ds, hname, hd, hds⟩ := typeName_shape name
  rw [hname] at h
  rcases List.mem_cons.1 h with rfl | h
  · exact hd.imp_left fun hd => by simp [Char.isAlphanum, isAlpha_eq, hd]
  · exact .inl (hds c h)

/-! ## Files named by identifiers -/

/-- The module of an interface's file is called as the interface. -/
theorem moduleOf_fileName (i : Interface) : moduleOf i.fileName = i.name := by
  have hending : ".ts".toList = ['.', 't', 's'] := rfl
  have hlength : (i.name.toList ++ ['.', 't', 's']).length - 3 = i.name.toList.length := by simp
  unfold moduleOf fileName
  rw [String.toList_append, hending]
  simp only [hlength, List.drop_left, List.take_left, if_true, String.ofList_toList]

variable (c : Composed)

theorem toList_fileName : c.interface.fileName.toList = (typeName c.name).toList ++ ['.', 't', 's'] := by
  unfold fileName Composed.interface
  rw [String.toList_append]
  rfl

/-- The file of a composed object is named by one step of a path. -/
theorem isName_fileName : Tree.IsName c.interface.fileName.toList := by
  rw [toList_fileName]
  refine ⟨by simp, fun h => ?_, fun h => ?_, fun h => ?_⟩
  · rcases List.mem_append.1 h with h | h
    · exact (mem_typeName h).elim (by decide) (by decide)
    · exact absurd h (by decide)
  · exact absurd (congrArg List.length h) (by simp)
  · exact absurd (congrArg List.length h) (by simp)

/-- It is not the file that exports all interfaces, which starts with a small letter. -/
theorem fileName_ne_barrelName : c.interface.fileName ≠ barrelName := by
  obtain ⟨d, ds, hname, hd, -⟩ := typeName_shape c.name
  intro h
  have h := congrArg String.toList h
  rw [toList_fileName, hname] at h
  have hhead : d = 'i' := (List.cons.inj h).1
  subst hhead
  exact hd.elim (by decide) (by decide)

end Interface

end TraitWeave
