import TraitWeave.Name
import TraitWeave.Proofs.Text.Lower
import TraitWeave.Proofs.Text.Pieces
import Mathlib.Data.List.Forall2

/-!
# Normal names

* `Name.normalize_normalize`: a normal name is its own normal form, so a record is found by its key.
* `Name.normalize_trim`: blanks at the ends of a name make no difference.
* `Name.normalize_eq_of_respaced`: nor do they between its words, however many they are.
* `Name.normalize_eq_of_eqIgnoringAsciiCase`: nor does the case of ASCII letters.

A text is tidy when its words stand one space apart. Joined words are tidy, a tidy text is its words joined,
and lower-casing keeps it tidy.
-/

namespace TraitWeave

namespace Text

variable {cs xs ys : List Char} {ws : List (List Char)}

/-! ## Tidy texts -/

/-- Words with one space between them. -/
def spaced (ws : List (List Char)) : List Char := [' '].intercalate ws

/-- The words of the text stand one space apart, and it begins and ends with a word. -/
structure Tidy (cs : List Char) : Prop where
  spaces : ∀ c ∈ cs, isBlank c = true → c = ' '
  apart : cs = [] ∨ [] ∉ cs.splitOnP isBlank

theorem splitOnP_isBlank (h : ∀ c ∈ cs, isBlank c = true → c = ' ') :
    cs.splitOnP isBlank = cs.splitOn ' ' := by
  rw [List.splitOn_eq_splitOnP]
  induction cs with
  | nil => rfl
  | cons c cs ih =>
    have hc : isBlank c = (c == ' ') := by
      rw [Bool.eq_iff_iff, beq_iff_eq]
      exact ⟨h c List.mem_cons_self, fun hc => by rw [hc]; decide⟩
    rw [List.splitOnP_cons_eq_if_modifyHead, List.splitOnP_cons_eq_if_modifyHead, hc,
      ih fun d hd => h d (List.mem_cons_of_mem _ hd)]

theorem mem_spaced {c : Char} (h : c ∈ spaced ws) : c = ' ' ∨ ∃ w ∈ ws, c ∈ w := by
  unfold spaced at h
  induction ws with
  | nil => simp at h
  | cons w ws ih =>
    cases ws with
    | nil => exact .inr ⟨w, List.mem_cons_self, by simpa using h⟩
    | cons v vs =>
      rw [List.intercalate_cons_cons, List.append_assoc, List.mem_append, List.mem_append] at h
      rcases h with h | h | h
      · exact .inr ⟨w, List.mem_cons_self, h⟩
      · exact .inl (List.mem_singleton.1 h)
      · rcases ih h with h | ⟨u, hu, hc⟩
        · exact .inl h
        · exact .inr ⟨u, List.mem_cons_of_mem _ hu, hc⟩

/-- Joined words are tidy. -/
theorem tidy_spaced (h : ∀ w ∈ ws, w ≠ [] ∧ ∀ c ∈ w, isBlank c = false) : Tidy (spaced ws) := by
  have hsp : ∀ c ∈ spaced ws, isBlank c = true → c = ' ' := by
    intro c hc hb
    rcases mem_spaced hc with hc | ⟨w, hw, hc⟩
    · exact hc
    · rw [(h w hw).2 c hc] at hb; cases hb
  refine ⟨hsp, ?_⟩
  rw [splitOnP_isBlank hsp]
  by_cases hws : ws = []
  · subst hws; exact .inl rfl
  · have hx : ∀ w ∈ ws, ' ' ∉ w := fun w hw hm => by
      have := (h w hw).2 _ hm
      revert this; decide
    refine .inr ?_
    unfold spaced
    rw [List.splitOn_intercalate ' ' hx hws]
    exact fun hm => (h _ hm).1 rfl

/-- A tidy text is its words joined. -/
theorem Tidy.spaced_wordsOf (h : Tidy cs) : spaced (wordsOf cs) = cs := by
  rcases h.apart with rfl | hne
  · rfl
  · unfold spaced wordsOf
    have hall : (cs.splitOnP isBlank).filter (fun w => !w.isEmpty) = cs.splitOnP isBlank := by
      rw [List.filter_eq_self]
      intro w hw
      cases w with
      | nil => exact absurd hw hne
      | cons => rfl
    rw [hall, splitOnP_isBlank h.spaces, List.intercalate_splitOn]

theorem splitOnP_append_of_marks (h : ∀ c ∈ xs, isBlank c = false) (ys : List Char) :
    (xs ++ ys).splitOnP isBlank = (ys.splitOnP isBlank).modifyHead (xs ++ ·) := by
  induction xs with
  | nil =>
    rw [List.nil_append]
    cases ys.splitOnP isBlank <;> rfl
  | cons c cs ih =>
    rw [List.cons_append, List.splitOnP_cons_eq_if_modifyHead, h c List.mem_cons_self,
      ih fun d hd => h d (List.mem_cons_of_mem _ hd)]
    cases ys.splitOnP isBlank <;> rfl

/-- Lower-casing keeps the pieces of a text apart: empty ones stay empty and the others do not become so. -/
theorem forall₂_splitOnP_lowerFrom (h : ∀ c ∈ cs, isBlank c = true → c = ' ') (before : List Char) :
    List.Forall₂ (fun v w => v = [] ↔ w = []) (cs.splitOnP isBlank)
      ((lowerFrom before cs).splitOnP isBlank) := by
  induction cs generalizing before with
  | nil => exact .cons Iff.rfl .nil
  | cons c cs ih =>
    have ih := ih (fun d hd => h d (List.mem_cons_of_mem _ hd)) (c :: before)
    rw [lowerFrom_cons, List.splitOnP_cons_eq_if_modifyHead]
    split
    · rename_i hc
      rw [h c List.mem_cons_self hc] at ih ⊢
      rw [lowerAt_space, List.singleton_append, List.splitOnP_cons_eq_if_modifyHead, if_pos (by decide)]
      exact .cons Iff.rfl ih
    · -- a mark is written as one mark or more, so the piece that it begins is not empty
      rename_i hc
      have hc : isBlank c = false := by simpa using hc
      rw [splitOnP_append_of_marks fun d hd => isBlank_of_mem_lowerAt hc hd]
      generalize cs.splitOnP isBlank = ps at ih ⊢
      generalize (lowerFrom (c :: before) cs).splitOnP isBlank = qs at ih ⊢
      cases ih with
      | nil => exact .nil
      | cons _ ih => exact .cons (by simp [lowerAt_ne_nil]) ih

theorem space_of_mem_lowerFrom (h : ∀ c ∈ cs, isBlank c = true → c = ' ') {before : List Char} {d : Char}
    (hd : d ∈ lowerFrom before cs) (hb : isBlank d = true) : d = ' ' := by
  induction cs generalizing before with
  | nil => simp [lowerFrom] at hd
  | cons c cs ih =>
    rw [lowerFrom_cons, List.mem_append] at hd
    rcases hd with hd | hd
    · by_cases hc : isBlank c = true
      · rw [h c List.mem_cons_self hc, lowerAt_space] at hd
        exact List.mem_singleton.1 hd
      · rw [isBlank_of_mem_lowerAt (by simpa using hc) hd] at hb; cases hb
    · exact ih (fun e he => h e (List.mem_cons_of_mem _ he)) hd

/-- **Lower-casing keeps a text tidy.** -/
theorem Tidy.lowerFrom (h : Tidy cs) : Tidy (Text.lowerFrom [] cs) := by
  refine ⟨fun d hd hb => space_of_mem_lowerFrom h.spaces hd hb, ?_⟩
  rcases h.apart with rfl | hne
  · exact .inl rfl
  refine .inr ?_
  have hf := forall₂_splitOnP_lowerFrom h.spaces []
  revert hf hne
  generalize cs.splitOnP isBlank = ps
  generalize (Text.lowerFrom [] cs).splitOnP isBlank = qs
  intro hne hf
  induction hf with
  | nil => simp
  | cons hpq _ ih =>
    rw [List.mem_cons, not_or] at hne ⊢
    exact ⟨fun hq => hne.1 (hpq.2 hq.symm).symm, ih hne.2⟩

/-! ## The case of ASCII letters -/

/-- What lower-casing and the cutting of words ask of a character is the same for two characters. -/
structure Alike (c d : Char) : Prop where
  sigma : c = 'Σ' ↔ d = 'Σ'
  dotted : c = 'İ' ↔ d = 'İ'
  lower : lowerChar c = lowerChar d
  cased : isCased c = isCased d
  ignorable : isCaseIgnorable c = isCaseIgnorable d
  blank : isBlank c = isBlank d

/-- The capital letters of ASCII. -/
def capitals : List Char := (List.range 26).map fun n => Char.ofNat (65 + n)

theorem toLower_of_not_mem_capitals (h : c ∉ capitals) : c.toLower = c := by
  unfold Char.toLower
  split
  · rename_i hc
    have hle : 65 ≤ c.toNat ∧ c.toNat ≤ 90 := by
      simpa [UInt32.le_iff_toNat_le] using hc
    refine absurd (List.mem_map.2 ⟨c.toNat - 65, List.mem_range.2 (by omega), ?_⟩) h
    rw [Nat.add_sub_cancel' hle.1, Char.ofNat_toNat]
  · rfl

theorem alike_toLower (c : Char) : Alike c.toLower c := by
  by_cases h : c ∈ capitals
  · -- the tables of Unicode are asked for each of the letters
    have hall : capitals.all fun c => decide (c.toLower ≠ 'Σ' ∧ c ≠ 'Σ' ∧ c.toLower ≠ 'İ' ∧ c ≠ 'İ' ∧
        lowerChar c.toLower = lowerChar c ∧ isCased c.toLower = isCased c ∧
        isCaseIgnorable c.toLower = isCaseIgnorable c ∧ isBlank c.toLower = isBlank c) := by decide +kernel
    obtain ⟨h1, h2, h3, h4, h5, h6, h7, h8⟩ := of_decide_eq_true (List.all_eq_true.1 hall c h)
    exact ⟨iff_of_false h1 h2, iff_of_false h3 h4, h5, h6, h7, h8⟩
  · rw [toLower_of_not_mem_capitals h]
    exact ⟨.rfl, .rfl, rfl, rfl, rfl, rfl⟩

theorem meetsCased_map_toLower (cs : List Char) : meetsCased (cs.map Char.toLower) = meetsCased cs := by
  induction cs with
  | nil => rfl
  | cons c cs ih =>
    have hc := alike_toLower c
    unfold meetsCased at ih ⊢
    rw [List.map_cons, List.dropWhile_cons, List.dropWhile_cons, hc.ignorable]
    cases isCaseIgnorable c with
    | true => exact ih
    | false => exact hc.cased

theorem lowerAt_map_toLower (before after : List Char) (c : Char) :
    lowerAt (before.map Char.toLower) c.toLower (after.map Char.toLower) = lowerAt before c after := by
  have hc := alike_toLower c
  unfold lowerAt isWordFinal
  rw [meetsCased_map_toLower, meetsCased_map_toLower, hc.lower]
  exact if_congr hc.sigma rfl (if_congr hc.dotted rfl rfl)

theorem lowerFrom_map_toLower (before cs : List Char) :
    lowerFrom (before.map Char.toLower) (cs.map Char.toLower) = lowerFrom before cs := by
  induction cs generalizing before with
  | nil => rfl
  | cons c cs ih =>
    rw [List.map_cons, lowerFrom_cons, lowerFrom_cons, ← List.map_cons, ih, lowerAt_map_toLower]

theorem splitOnP_map_toLower (cs : List Char) :
    (cs.map Char.toLower).splitOnP isBlank = (cs.splitOnP isBlank).map (List.map Char.toLower) := by
  induction cs with
  | nil => rfl
  | cons c cs ih =>
    rw [List.map_cons, List.splitOnP_cons_eq_if_modifyHead, List.splitOnP_cons_eq_if_modifyHead, ih,
      (alike_toLower c).blank]
    split
    · rfl
    · cases cs.splitOnP isBlank <;> rfl

theorem wordsOf_map_toLower (cs : List Char) :
    wordsOf (cs.map Char.toLower) = (wordsOf cs).map (List.map Char.toLower) := by
  unfold wordsOf
  rw [splitOnP_map_toLower, List.filter_map]
  simp [Function.comp_def]

theorem spaced_map_toLower (ws : List (List Char)) :
    spaced (ws.map (List.map Char.toLower)) = (spaced ws).map Char.toLower := by
  unfold spaced
  induction ws with
  | nil => rfl
  | cons w ws ih =>
    cases ws with
    | nil => simp
    | cons v vs =>
      rw [List.map_cons, List.map_cons, List.intercalate_cons_cons, ← List.map_cons, ih,
        List.intercalate_cons_cons, List.map_append, List.map_append]
      rfl

end Text

namespace Name

open Text

theorem toList_normalize (s : String) :
    (normalize s).toList = lowerFrom [] (spaced (wordsOf s.toList)) := by
  unfold normalize spaced
  rw [toList_lower, String.toList_intercalate, words_eq, List.map_map]
  have : String.toList ∘ String.ofList = id := funext fun _ => String.toList_ofList
  rw [this, List.map_id]; rfl

theorem tidy_normalize (s : String) : Tidy (normalize s).toList := by
  rw [toList_normalize]
  exact (tidy_spaced fun w hw => not_isBlank_of_mem_wordsOf hw).lowerFrom

/-- A mark other than a space is in a normal name only if it was in the name. -/
theorem mem_of_mem_normalize {s : String} {d : Char} (hd : isNoForm d = true) (hspace : d ≠ ' ')
    (h : d ∈ (normalize s).toList) : d ∈ s.toList := by
  rw [toList_normalize] at h
  rcases mem_spaced (mem_of_mem_lowerFrom hd h) with h | ⟨w, hw, h⟩
  · exact absurd h hspace
  · exact (of_mem_wordsOf hw h).1

/-- **A normal name is its own normal form.** -/
@[simp] theorem normalize_normalize (s : String) : normalize (normalize s) = normalize s := by
  apply String.toList_injective
  rw [toList_normalize, (tidy_normalize s).spaced_wordsOf, toList_normalize]
  exact lowerFrom_of_isLow fun c hc => isLow_of_mem_lowerFrom hc

theorem normalize_trim (s : String) : normalize (trim s) = normalize s := by
  apply String.toList_injective
  rw [toList_normalize, toList_normalize]
  unfold trim
  rw [String.toList_ofList, wordsOf_trimChars]

/-- **Blanks around and between the words of a name make no difference.** -/
theorem normalize_eq_of_respaced {s t : String} (h : Respaced s t) : normalize s = normalize t := by
  apply String.toList_injective
  rw [toList_normalize, toList_normalize, h.wordsOf_eq]

/-- The case of ASCII letters makes no difference to a name. -/
theorem normalize_eq_of_eqIgnoringAsciiCase {s t : String} (h : eqIgnoringAsciiCase s t = true) :
    normalize s = normalize t := by
  have hfold (s : String) :
      (normalize s).toList = lowerFrom [] (spaced (wordsOf (s.toList.map Char.toLower))) := by
    rw [toList_normalize, wordsOf_map_toLower, spaced_map_toLower]
    exact (lowerFrom_map_toLower [] _).symm
  apply String.toList_injective
  rw [hfold, hfold, show s.toList.map Char.toLower = t.toList.map Char.toLower from beq_iff_eq.1 h]

end Name

end TraitWeave
