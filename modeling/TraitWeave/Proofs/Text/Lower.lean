import TraitWeave.Text.Blank
import TraitWeave.Text.Lower

/-!
# Lower case is reached in one step

* `lower_lower`: lower-casing a text in lower case changes nothing.
* `isBlank_of_mem_lowerFrom`: no blank arises from characters that are none.

Both rest on one check of the table `caseRuns` against itself (`forms_disjoint`): no lower-case form has a
lower-case form, and none is a blank or the capital I with a dot. Sets of characters are the bits of a
number there, so that the check is a single conjunction of bits.
-/

namespace TraitWeave.Text

/-! ## The table of lower-case forms -/

/-- The blanks, written as runs. -/
def blankRuns : List CaseRun := [
  ⟨0x9, 0xd, 1, 0⟩, ⟨0x20, 0x20, 1, 0⟩, ⟨0x85, 0x85, 1, 0⟩, ⟨0xa0, 0xa0, 1, 0⟩,
  ⟨0x1680, 0x1680, 1, 0⟩, ⟨0x2000, 0x200a, 1, 0⟩, ⟨0x2028, 0x2029, 1, 0⟩, ⟨0x202f, 0x202f, 1, 0⟩,
  ⟨0x205f, 0x205f, 1, 0⟩, ⟨0x3000, 0x3000, 1, 0⟩]

/-- The capital I with a dot, written as a run. -/
def dottedRun : CaseRun := ⟨0x130, 0x130, 1, 0⟩

/-- The numbers `start`, `start + step`, …, of which there are `n`, as the bits of one number. -/
def bits (start step : Nat) : Nat → Nat
  | 0 => 0
  | n + 1 => bits start step n ||| 1 <<< (start + n * step)

/-- The bits of all numbers of a list. -/
def union : List Nat → Nat
  | [] => 0
  | n :: ns => n ||| union ns

theorem testBit_bits {start step n i : Nat} (h : i < n) :
    (bits start step n).testBit (start + i * step) = true := by
  induction n with
  | zero => omega
  | succ n ih =>
    unfold bits
    rw [Nat.testBit_or, Bool.or_eq_true]
    rcases Nat.lt_succ_iff_lt_or_eq.1 h with h | rfl
    · exact .inl (ih h)
    · exact .inr (by rw [Nat.testBit_shiftLeft]; simp)

theorem testBit_union {ns : List Nat} {n m : Nat} (hn : n ∈ ns) (h : n.testBit m = true) :
    (union ns).testBit m = true := by
  induction ns with
  | nil => simp at hn
  | cons k ks ih =>
    unfold union
    rw [Nat.testBit_or, Bool.or_eq_true]
    rcases List.mem_cons.1 hn with rfl | hn
    · exact .inl h
    · exact .inr (ih hn)

namespace CaseRun

/-- The number of characters of a run. -/
def count (r : CaseRun) : Nat := (r.last - r.first) / r.step + 1

/-- The characters of a run, as bits. -/
def chars (r : CaseRun) : Nat := bits r.first r.step r.count

/-- The lower-case forms of a run, as bits. -/
def forms (r : CaseRun) : Nat := bits (r.first + r.shift).toNat r.step r.count

/-- The steps are not zero, and the forms are characters. -/
def inside (r : CaseRun) : Bool :=
  r.step != 0 && ((decide (0 ≤ r.first + r.shift) && decide (r.last + r.shift < 0xd800)) ||
    (decide (0xdfff < r.first + r.shift) && decide (r.last + r.shift < 0x110000)))

variable {r : CaseRun} {n : Nat}

theorem holds_iff : r.holds n = true ↔ r.first ≤ n ∧ n ≤ r.last ∧ (n - r.first) % r.step = 0 := by
  simp [holds, and_assoc]

theorem inside_iff : r.inside = true ↔ r.step ≠ 0 ∧
    (0 ≤ r.first + r.shift ∧ r.last + r.shift < 0xd800 ∨
      0xdfff < r.first + r.shift ∧ r.last + r.shift < 0x110000) := by
  simp [inside]

/-- What a run holds is one of its steps from its start. -/
theorem exists_step (hn : r.holds n = true) : ∃ i, i < r.count ∧ n = r.first + i * r.step := by
  obtain ⟨h1, h2, h3⟩ := holds_iff.1 hn
  refine ⟨(n - r.first) / r.step, ?_, ?_⟩
  · unfold count
    exact Nat.lt_succ_of_le (Nat.div_le_div_right (by omega))
  · rw [Nat.div_mul_cancel (Nat.dvd_of_mod_eq_zero h3)]; omega

theorem testBit_chars (hn : r.holds n = true) : r.chars.testBit n = true := by
  obtain ⟨i, hi, rfl⟩ := exists_step hn
  exact testBit_bits hi

theorem testBit_forms (h : r.inside = true) (hn : r.holds n = true) :
    r.forms.testBit (n + r.shift).toNat = true := by
  obtain ⟨i, hi, rfl⟩ := exists_step hn
  obtain ⟨-, h⟩ := inside_iff.1 h
  have : ((r.first + i * r.step : Nat) + r.shift).toNat = (r.first + r.shift).toNat + i * r.step := by
    omega
  rw [this]; exact testBit_bits hi

/-- The form of a character is the character that the shift leads to. -/
theorem toNat_ofNat (h : r.inside = true) (hn : r.holds n = true) :
    (Char.ofNat (n + r.shift).toNat).toNat = (n + r.shift).toNat := by
  obtain ⟨h1, h2, -⟩ := holds_iff.1 hn
  obtain ⟨-, h⟩ := inside_iff.1 h
  have hv : (n + r.shift).toNat.isValidChar := by
    unfold Nat.isValidChar; omega
  rw [Char.ofNat, dif_pos hv]; rfl

end CaseRun

/-- The runs in which no lower-case form may lie. -/
def closedRuns : List CaseRun := dottedRun :: blankRuns ++ caseRuns

theorem caseRuns_inside : ∀ r ∈ caseRuns, r.inside = true := by
  have h : caseRuns.all CaseRun.inside = true := by decide +kernel
  exact List.all_eq_true.1 h

/-- **The table is consistent**: no lower-case form is held by a run of the table, is a blank or is the
capital I with a dot. -/
theorem forms_disjoint :
    union (caseRuns.map CaseRun.forms) &&& union (closedRuns.map CaseRun.chars) = 0 := by
  decide +kernel

theorem holds_form {r s : CaseRun} {n : Nat} (hr : r ∈ caseRuns) (hs : s ∈ closedRuns)
    (hn : r.holds n = true) : s.holds (n + r.shift).toNat = false := by
  rw [Bool.eq_false_iff]
  intro hm
  have h1 := testBit_union (List.mem_map_of_mem hr) (CaseRun.testBit_forms (caseRuns_inside r hr) hn)
  have h2 := testBit_union (List.mem_map_of_mem hs) (CaseRun.testBit_chars hm)
  have h := congrArg (·.testBit (n + r.shift).toNat) forms_disjoint
  simp only [Nat.testBit_and, h1, h2, Nat.zero_testBit] at h
  exact absurd h (by decide)

/-! ## Single characters -/

theorem isBlank_eq (c : Char) : isBlank c = blankRuns.any (·.holds c.toNat) := by
  rw [Bool.eq_iff_iff]
  simp only [isBlank, blankRuns, List.any_cons, List.any_nil, Bool.or_eq_true, Bool.and_eq_true,
    decide_eq_true_eq, beq_iff_eq, CaseRun.holds_iff, UInt32.le_iff_toNat_le, ← UInt32.toNat_inj,
    Char.toNat_val, UInt32.reduceToNat, Bool.false_eq_true, or_false, Nat.mod_one, and_true]
  omega

/-- A character without a lower-case form of its own stays; any other goes where its run says. -/
theorem lowerChar_cases (c : Char) :
    (lowerChar c = c ∧ ∀ r ∈ caseRuns, r.holds c.toNat = false) ∨
      ∃ r ∈ caseRuns, r.holds c.toNat = true ∧ (lowerChar c).toNat = (c.toNat + r.shift).toNat := by
  unfold lowerChar
  cases hf : caseRuns.find? (·.holds c.toNat) with
  | none =>
    refine .inl ⟨rfl, fun r hr => ?_⟩
    simpa using List.find?_eq_none.1 hf r hr
  | some r =>
    have hr := List.mem_of_find?_eq_some hf
    have hh : r.holds c.toNat = true := List.find?_some (p := fun r : CaseRun => r.holds c.toNat) hf
    exact .inr ⟨r, hr, hh, CaseRun.toNat_ofNat (caseRuns_inside r hr) hh⟩

theorem lowerChar_of_not_held {c : Char} (h : ∀ r ∈ caseRuns, r.holds c.toNat = false) :
    lowerChar c = c := by
  unfold lowerChar
  have : caseRuns.find? (·.holds c.toNat) = none :=
    List.find?_eq_none.2 fun r hr => by simp [h r hr]
  rw [this]

/-- A character that lower-casing leaves alone wherever it stands. -/
structure IsLow (c : Char) : Prop where
  sigma : c ≠ 'Σ'
  dotted : c ≠ 'İ'
  fixed : lowerChar c = c

theorem isLow_lowerChar {c : Char} (hs : c ≠ 'Σ') (hd : c ≠ 'İ') : IsLow (lowerChar c) := by
  rcases lowerChar_cases c with ⟨h, -⟩ | ⟨r, hr, hh, hn⟩
  · rw [h]; exact ⟨hs, hd, h⟩
  have hout : ∀ s ∈ closedRuns, s.holds (lowerChar c).toNat = false := by
    intro s hs'; rw [hn]; exact holds_form hr hs' hh
  have hfix : lowerChar (lowerChar c) = lowerChar c :=
    lowerChar_of_not_held fun s hs' => hout s (List.mem_append_right _ hs')
  -- a capital sigma would have a form of its own, and the dotted I lies in no run of forms
  refine ⟨fun he => ?_, fun he => ?_, hfix⟩
  · rw [he] at hfix; revert hfix; decide
  · have := hout dottedRun List.mem_cons_self
    rw [he] at this; revert this; decide

theorem isBlank_lowerChar {c : Char} (h : isBlank c = false) : isBlank (lowerChar c) = false := by
  rcases lowerChar_cases c with ⟨hc, -⟩ | ⟨r, hr, hh, hn⟩
  · rw [hc]; exact h
  rw [isBlank_eq, List.any_eq_false]
  intro s hs
  have hs' : s ∈ closedRuns := List.mem_append_left _ (List.mem_cons_of_mem _ hs)
  rw [hn, holds_form hr hs' hh]; decide

/-! ## Texts -/

/-- What lower-casing writes for one character, with what stands before and after it. -/
def lowerAt (before : List Char) (c : Char) (after : List Char) : List Char :=
  if c = 'Σ' then (if isWordFinal before after then ['ς'] else ['σ'])
  else if c = 'İ' then ['i', '\u0307']
  else [lowerChar c]

theorem lowerFrom_cons (before : List Char) (c : Char) (cs : List Char) :
    lowerFrom before (c :: cs) = lowerAt before c cs ++ lowerFrom (c :: before) cs := rfl

/-- All that is written for a character is in lower case. -/
theorem isLow_of_mem_lowerAt {before after : List Char} {c d : Char} (h : d ∈ lowerAt before c after) :
    IsLow d := by
  have hlow : ∀ d ∈ ['ς', 'σ', 'i', '\u0307'], IsLow d := by
    intro d hd
    simp only [List.mem_cons, List.not_mem_nil, or_false] at hd
    rcases hd with rfl | rfl | rfl | rfl <;> exact ⟨by decide, by decide, by decide⟩
  unfold lowerAt at h
  split at h
  · apply hlow; split at h <;> simp_all
  · split at h
    · exact hlow d (List.mem_cons_of_mem _ (List.mem_cons_of_mem _ h))
    · rename_i hs hd
      rw [List.mem_singleton.1 h]; exact isLow_lowerChar hs hd

theorem isLow_of_mem_lowerFrom {cs : List Char} :
    ∀ {before : List Char} {d : Char}, d ∈ lowerFrom before cs → IsLow d := by
  induction cs with
  | nil => intro _ _ h; simp [lowerFrom] at h
  | cons c cs ih =>
    intro before d h
    rw [lowerFrom_cons, List.mem_append] at h
    exact h.elim isLow_of_mem_lowerAt ih

theorem lowerFrom_of_isLow {cs : List Char} :
    ∀ {before : List Char}, (∀ c ∈ cs, IsLow c) → lowerFrom before cs = cs := by
  induction cs with
  | nil => intro _ _; rfl
  | cons c cs ih =>
    intro before h
    have hc := h c List.mem_cons_self
    rw [lowerFrom_cons, ih fun d hd => h d (List.mem_cons_of_mem _ hd)]
    unfold lowerAt
    rw [if_neg hc.sigma, if_neg hc.dotted, hc.fixed]; rfl

theorem toList_lower (s : String) : (lower s).toList = lowerFrom [] s.toList := by
  unfold lower; exact String.toList_ofList

/-- **Lower-casing twice is lower-casing once.** -/
theorem lower_lower (s : String) : lower (lower s) = lower s := by
  apply String.toList_injective
  rw [toList_lower, toList_lower]
  exact lowerFrom_of_isLow fun c hc => isLow_of_mem_lowerFrom hc

theorem lowerAt_ne_nil (before after : List Char) (c : Char) : lowerAt before c after ≠ [] := by
  unfold lowerAt; split
  · split <;> simp
  · split <;> simp

/-- What a character gives is its lower-case form, or one of a sigma's or of the dotted I. -/
theorem mem_lowerAt {before after : List Char} {c d : Char} (h : d ∈ lowerAt before c after) :
    d ∈ ['ς', 'σ', 'i', '\u0307'] ∨ d = lowerChar c := by
  unfold lowerAt at h
  split at h
  · left; split at h <;> simp_all
  · split at h
    · exact .inl (List.mem_cons_of_mem _ (List.mem_cons_of_mem _ h))
    · exact .inr (List.mem_singleton.1 h)

/-- A character that is no blank gives none. -/
theorem isBlank_of_mem_lowerAt {before after : List Char} {c d : Char} (hc : isBlank c = false)
    (h : d ∈ lowerAt before c after) : isBlank d = false := by
  have hall : ['ς', 'σ', 'i', '\u0307'].all (fun d => !isBlank d) = true := by decide
  rcases mem_lowerAt h with hd | rfl
  · simpa using List.all_eq_true.1 hall d hd
  · exact isBlank_lowerChar hc

theorem lowerAt_space (before after : List Char) : lowerAt before ' ' after = [' '] := by
  unfold lowerAt
  rw [if_neg (by decide), if_neg (by decide)]
  have : lowerChar ' ' = ' ' := by decide
  rw [this]

/-- Nothing but the character itself has it as its lower-case form. -/
def isNoForm (d : Char) : Bool :=
  !(['ς', 'σ', 'i', '\u0307'].contains d) && caseRuns.all fun r => !r.forms.testBit d.toNat

theorem eq_of_mem_lowerAt {before after : List Char} {c d : Char} (hd : isNoForm d = true)
    (h : d ∈ lowerAt before c after) : d = c := by
  simp only [isNoForm, Bool.and_eq_true, Bool.not_eq_true', List.all_eq_true] at hd
  obtain ⟨hmarks, hforms⟩ := hd
  have hmark : d ∉ ['ς', 'σ', 'i', '\u0307'] := by simpa using hmarks
  have hself : d = lowerChar c := (mem_lowerAt h).resolve_left hmark
  rcases lowerChar_cases c with ⟨hc, -⟩ | ⟨r, hr, hh, hn⟩
  · rw [hself, hc]
  · have hform := CaseRun.testBit_forms (caseRuns_inside r hr) hh
    rw [← hn, ← hself, hforms r hr] at hform
    cases hform

/-- Such a character is in a lower-cased text only if it was in the text. -/
theorem mem_of_mem_lowerFrom {d : Char} (hd : isNoForm d = true) {before cs : List Char}
    (h : d ∈ lowerFrom before cs) : d ∈ cs := by
  induction cs generalizing before with
  | nil => cases h
  | cons c cs ih =>
    rw [lowerFrom_cons, List.mem_append] at h
    rcases h with h | h
    · exact eq_of_mem_lowerAt hd h ▸ List.mem_cons_self
    · exact List.mem_cons_of_mem _ (ih h)

end TraitWeave.Text
