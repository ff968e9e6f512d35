import TraitWeave.Proofs.Name
import Mathlib.Data.List.Infix

/-!
# Marks in texts

Some characters stand for themselves: lower-casing writes them as they are and writes nothing else like them, and they
are no blanks. A text of such marks is in a name just if it is in the normal form of the name.

* `Text.IsMark`: a character that stands for itself.
* `Text.infix_splitOnP`: what has no separators stands in one of the parts between them.
* `Name.infix_normalize`: what a name and its normal form have in common.
* `Text.cutAtPair_eq_singleton`, `Text.not_infix_of_mem_cutAtPair`: cutting at a separator of two characters.
* `Text.exists_pieces_concat`: the last part between separators.
-/

namespace TraitWeave

namespace Text

variable {sep : Char → Bool} {cs w : List Char} {c : Char}

/-! ## Parts between separators -/

/-- What has no separators in it begins a text just if it begins the part before the first separator. -/
theorem prefix_head_splitOnP (hw : ∀ c ∈ w, sep c = false) {p : List Char} {ps : List (List Char)}
    (hp : cs.splitOnP sep = p :: ps) : w <+: cs ↔ w <+: p := by
  induction cs generalizing w p ps with
  | nil =>
    obtain ⟨rfl, -⟩ := List.cons.inj hp
    exact Iff.rfl
  | cons c cs ih =>
    rw [List.splitOnP_cons_eq_if_modifyHead] at hp
    cases w with
    | nil => exact iff_of_true List.nil_prefix List.nil_prefix
    | cons d w =>
      split at hp
      · rename_i hc
        obtain ⟨rfl, -⟩ := List.cons.inj hp
        -- the text begins with a separator, and its first part is empty
        refine iff_of_false (fun h => ?_) (fun h => ?_)
        · obtain ⟨rfl, -⟩ := List.cons_prefix_cons.1 h
          rw [hw d List.mem_cons_self] at hc
          cases hc
        · cases List.prefix_nil.1 h
      · obtain ⟨q, qs, hq⟩ := List.exists_cons_of_ne_nil (List.splitOnP_ne_nil sep cs)
        rw [hq] at hp
        obtain ⟨rfl, -⟩ := List.cons.inj hp
        rw [List.cons_prefix_cons, List.cons_prefix_cons, ih (fun e he => hw e (List.mem_cons_of_mem _ he)) hq]

/-- **What has no separators in it** is in a text just if it is in one of the parts between separators. -/
theorem infix_splitOnP (hne : w ≠ []) (hw : ∀ c ∈ w, sep c = false) :
    w <:+: cs ↔ ∃ p ∈ cs.splitOnP sep, w <:+: p := by
  induction cs with
  | nil => simp [List.splitOnP_nil]
  | cons c cs ih =>
    obtain ⟨q, qs, hq⟩ := List.exists_cons_of_ne_nil (List.splitOnP_ne_nil sep cs)
    rw [List.infix_cons_iff, ih, List.splitOnP_cons_eq_if_modifyHead]
    split
    · rename_i hc
      -- it does not begin at a separator
      have hstart : ¬w <+: c :: cs := by
        intro h
        obtain ⟨d, w, rfl⟩ := List.exists_cons_of_ne_nil hne
        obtain ⟨rfl, -⟩ := List.cons_prefix_cons.1 h
        rw [hw d List.mem_cons_self] at hc
        cases hc
      simp [hstart, hne]
    · rename_i hc
      have hcons : (c :: cs).splitOnP sep = (c :: q) :: qs := by
        rw [List.splitOnP_cons_eq_if_modifyHead, if_neg hc, hq]
        rfl
      rw [prefix_head_splitOnP hw hcons, hq, List.modifyHead_cons, List.exists_mem_cons_iff,
        List.exists_mem_cons_iff, List.infix_cons_iff, or_assoc]

/-- The last part is the whole text, or what stands behind the last separator. -/
theorem exists_pieces_concat (sep : Char → Bool) (cs : List Char) :
    ∃ before last, pieces sep cs = before ++ [last] ∧
      (before = [] ∧ last = cs ∨ before ≠ [] ∧ ∃ xs b, sep b = true ∧ cs = xs ++ b :: last) := by
  induction cs with
  | nil => exact ⟨[], [], rfl, .inl ⟨rfl, rfl⟩⟩
  | cons c cs ih =>
    obtain ⟨before, last, hpieces, hlast⟩ := ih
    rw [pieces, hpieces]
    split
    · rename_i hc
      refine ⟨[] :: before, last, rfl, .inr ⟨List.cons_ne_nil _ _, ?_⟩⟩
      obtain ⟨-, rfl⟩ | ⟨-, xs, b, hb, rfl⟩ := hlast
      -- the separator just met is the last one
      · exact ⟨[], c, hc, rfl⟩
      · exact ⟨c :: xs, b, hb, rfl⟩
    · cases before with
      | nil =>
        obtain ⟨-, rfl⟩ | ⟨hne, -⟩ := hlast
        · exact ⟨[], c :: last, rfl, .inl ⟨rfl, rfl⟩⟩
        · exact absurd rfl hne
      | cons p before =>
        obtain ⟨hnil, -⟩ | ⟨-, xs, b, hb, rfl⟩ := hlast
        · cases hnil
        · exact ⟨(c :: p) :: before, last, rfl, .inr ⟨List.cons_ne_nil _ _, c :: xs, b, hb, rfl⟩⟩

/-! ## Separators of two characters -/

variable {a b : Char}

theorem exists_cutAtPair_cons (a b : Char) (cs : List Char) :
    ∃ p ps, cutAtPair a b cs = p :: ps ∧ p <+: cs := by
  fun_induction cutAtPair a b cs with
  | case1 => exact ⟨[], [], rfl, List.prefix_rfl⟩
  | case2 c => exact ⟨[c], [], rfl, List.prefix_rfl⟩
  | case3 c d cs _ _ => exact ⟨[], _, rfl, List.nil_prefix⟩
  | case4 c d cs _ ih =>
    obtain ⟨p, ps, hcut, hp⟩ := ih
    refine ⟨c :: p, ps, ?_, List.cons_prefix_cons.2 ⟨rfl, hp⟩⟩
    rw [hcut]
    rfl

/-- No part has the separator in it. -/
theorem not_infix_of_mem_cutAtPair {p : List Char} (hp : p ∈ cutAtPair a b cs) : ¬[a, b] <:+: p := by
  fun_induction cutAtPair a b cs generalizing p with
  | case1 =>
    obtain rfl := List.mem_singleton.1 hp
    simp
  | case2 c =>
    obtain rfl := List.mem_singleton.1 hp
    intro h
    have hlength : 2 ≤ 1 := h.length_le
    omega
  | case3 c d cs _ ih =>
    obtain rfl | hp := List.mem_cons.1 hp
    · simp
    · exact ih hp
  | case4 c d cs hne ih =>
    obtain ⟨q, qs, hcut, hq⟩ := exists_cutAtPair_cons a b (d :: cs)
    rw [hcut] at hp ih
    obtain rfl | hp := List.mem_cons.1 hp
    · rw [List.infix_cons_iff, not_or]
      refine ⟨fun h => hne ?_, ih List.mem_cons_self⟩
      -- the part goes on as the text does, where the separator does not stand
      obtain ⟨rfl, hb⟩ := List.cons_prefix_cons.1 h
      exact ⟨rfl, (List.cons_prefix_cons.1 (hb.trans hq)).1.symm⟩
    · exact ih (List.mem_cons_of_mem _ hp)

theorem mem_of_mem_cutAtPair {p : List Char} (hp : p ∈ cutAtPair a b cs) (hc : c ∈ p) : c ∈ cs := by
  fun_induction cutAtPair a b cs generalizing p with
  | case1 | case2 => exact List.mem_singleton.1 hp ▸ hc
  | case3 d e cs _ ih =>
    obtain rfl | hp := List.mem_cons.1 hp
    · cases hc
    · exact List.mem_cons_of_mem _ (List.mem_cons_of_mem _ (ih hp hc))
  | case4 d e cs _ ih =>
    obtain ⟨q, qs, hcut, -⟩ := exists_cutAtPair_cons a b (e :: cs)
    rw [hcut] at hp ih
    obtain rfl | hp := List.mem_cons.1 hp
    · obtain rfl | hc := List.mem_cons.1 hc
      · exact List.mem_cons_self
      · exact List.mem_cons_of_mem _ (ih List.mem_cons_self hc)
    · exact List.mem_cons_of_mem _ (ih (List.mem_cons_of_mem _ hp) hc)

theorem cutAtPair_eq_singleton (h : ¬[a, b] <:+: cs) : cutAtPair a b cs = [cs] := by
  fun_induction cutAtPair a b cs with
  | case1 | case2 => rfl
  | case3 c d cs hpair _ =>
    obtain ⟨rfl, rfl⟩ := hpair
    exact absurd ⟨[], cs, rfl⟩ h
  | case4 c d cs _ ih =>
    rw [ih fun hcs => h (List.infix_cons hcs)]
    rfl

/-! ## Marks -/

/-- A character that lower-casing leaves alone and makes from no other, and that is no blank. -/
structure IsMark (c : Char) : Prop where
  noForm : isNoForm c = true
  low : IsLow c
  visible : isBlank c = false

theorem lowerAt_of_isMark (hc : IsMark c) (before after : List Char) : lowerAt before c after = [c] := by
  unfold lowerAt
  rw [if_neg hc.low.sigma, if_neg hc.low.dotted, hc.low.fixed]

theorem prefix_lowerFrom (hw : ∀ c ∈ w, IsMark c) (before cs : List Char) :
    w <+: lowerFrom before cs ↔ w <+: cs := by
  induction w generalizing before cs with
  | nil => exact iff_of_true List.nil_prefix List.nil_prefix
  | cons d w ih =>
    have hd := hw d List.mem_cons_self
    cases cs with
    | nil => exact Iff.rfl
    | cons c cs =>
      rw [lowerFrom_cons]
      by_cases hc : d = c
      · subst hc
        rw [lowerAt_of_isMark hd, List.singleton_append, List.cons_prefix_cons, List.cons_prefix_cons,
          ih fun e he => hw e (List.mem_cons_of_mem _ he)]
      · refine iff_of_false (fun h => hc ?_) fun h => hc (List.cons_prefix_cons.1 h).1
        obtain ⟨x, xs, hx⟩ := List.exists_cons_of_ne_nil (lowerAt_ne_nil before cs c)
        rw [hx, List.cons_append] at h
        obtain ⟨rfl, -⟩ := List.cons_prefix_cons.1 h
        exact eq_of_mem_lowerAt hd.noForm (hx ▸ List.mem_cons_self)

theorem lowerAt_eq (before after : List Char) (c : Char) :
    (∃ d, lowerAt before c after = [d]) ∨ lowerAt before c after = ['i', '\u0307'] := by
  unfold lowerAt
  split
  · split
    · exact .inl ⟨_, rfl⟩
    · exact .inl ⟨_, rfl⟩
  · split
    · exact .inr rfl
    · exact .inl ⟨_, rfl⟩

/-- **Marks stay through lower-casing**, and no others come. -/
theorem infix_lowerFrom (hne : w ≠ []) (hw : ∀ c ∈ w, IsMark c) (before cs : List Char) :
    w <:+: lowerFrom before cs ↔ w <:+: cs := by
  induction cs generalizing before with
  | nil => exact Iff.rfl
  | cons c cs ih =>
    have hfirst := prefix_lowerFrom hw before (c :: cs)
    rw [List.infix_cons_iff, ← hfirst, ← ih (c :: before), lowerFrom_cons]
    obtain ⟨d, hd⟩ | hdotted := lowerAt_eq before cs c
    · rw [hd]
      exact List.infix_cons_iff
    · -- of the two characters that one becomes the second is a mark of nothing
      have hsecond : ¬w <+: '\u0307' :: lowerFrom (c :: before) cs := by
        intro h
        obtain ⟨d, w, rfl⟩ := List.exists_cons_of_ne_nil hne
        obtain ⟨rfl, -⟩ := List.cons_prefix_cons.1 h
        exact absurd (hw _ List.mem_cons_self).noForm (by decide)
      rw [hdotted, List.cons_append, List.infix_cons_iff, List.cons_append, List.nil_append, List.infix_cons_iff]
      simp only [hsecond, false_or]

theorem infix_wordsOf (hne : w ≠ []) (hw : ∀ c ∈ w, isBlank c = false) :
    w <:+: cs ↔ ∃ v ∈ wordsOf cs, w <:+: v := by
  rw [infix_splitOnP hne hw]
  refine exists_congr fun v => and_congr_left fun h => ?_
  have hv : v ≠ [] := fun hv => hne (List.infix_nil.1 (hv ▸ h))
  simp [wordsOf, hv]

/-- What has no blanks in it is in a text just if it is there without the blanks at both ends. -/
theorem infix_trimChars (hne : w ≠ []) (hw : ∀ c ∈ w, isBlank c = false) : w <:+: trimChars cs ↔ w <:+: cs := by
  rw [infix_wordsOf hne hw, wordsOf_trimChars, ← infix_wordsOf hne hw]

theorem infix_spaced {ws : List (List Char)} (hws : ∀ v ∈ ws, ' ' ∉ v) (hne : w ≠ []) (hw : ' ' ∉ w) :
    w <:+: spaced ws ↔ ∃ v ∈ ws, w <:+: v := by
  cases ws with
  | nil => simpa [spaced] using hne
  | cons v vs =>
    have hspace : ∀ c ∈ w, (c == ' ') = false := by
      rintro c hc
      rw [beq_eq_false_iff_ne]
      rintro rfl
      exact hw hc
    have hsplit : (spaced (v :: vs)).splitOnP (· == ' ') = v :: vs := by
      rw [← List.splitOn_eq_splitOnP]
      exact List.splitOn_intercalate ' ' hws (List.cons_ne_nil _ _)
    rw [infix_splitOnP hne hspace, hsplit]

theorem space_not_mem_word {v : List Char} (hv : v ∈ wordsOf cs) : ' ' ∉ v := by
  intro hspace
  have hblank := (not_isBlank_of_mem_wordsOf hv).2 ' ' hspace
  revert hblank
  decide

theorem wordsOf_eq_nil : wordsOf cs = [] ↔ ∀ c ∈ cs, isBlank c = true := by
  constructor
  · intro h c hc
    by_contra hvisible
    obtain ⟨v, hv, -⟩ := (infix_wordsOf (List.cons_ne_nil c []) (by simpa using hvisible)).1
      ((List.singleton_infix_iff c cs).2 hc)
    rw [h] at hv
    cases hv
  · exact fun h => wordsOf_append_blanks [] h

end Text

namespace Name

open Text

variable {s : String} {w : List Char}

/-- **What a name and its normal form have in common**: every text of marks. -/
theorem infix_normalize (hne : w ≠ []) (hw : ∀ c ∈ w, IsMark c) :
    w <:+: (normalize s).toList ↔ w <:+: s.toList := by
  have hvisible : ∀ c ∈ w, isBlank c = false := fun c hc => (hw c hc).visible
  have hspace : ' ' ∉ w := by
    intro hc
    have hblank := hvisible ' ' hc
    revert hblank
    decide
  rw [toList_normalize, infix_lowerFrom hne hw, infix_spaced (fun v hv => space_not_mem_word hv) hne hspace,
    ← infix_wordsOf hne hvisible]

/-- Names of one normal form have the same marks. -/
theorem infix_congr {t : String} (h : normalize s = normalize t) (hne : w ≠ []) (hw : ∀ c ∈ w, IsMark c) :
    w <:+: s.toList ↔ w <:+: t.toList := by
  rw [← infix_normalize hne hw, h, infix_normalize hne hw]

/-- Only blanks have an empty normal form. -/
theorem normalize_eq_empty : normalize s = "" ↔ isAllBlank s = true := by
  have hlower (cs : List Char) : lowerFrom [] cs = [] ↔ cs = [] := by
    cases cs with
    | nil => exact Iff.rfl
    | cons c cs => simp [lowerFrom_cons, lowerAt_ne_nil]
  have hspaced : spaced (wordsOf s.toList) = [] ↔ wordsOf s.toList = [] := by
    refine ⟨fun h => List.eq_nil_iff_forall_not_mem.2 fun v hv => ?_, fun h => by rw [h]; rfl⟩
    have hne := (not_isBlank_of_mem_wordsOf hv).1
    have hin := (infix_spaced (fun v hv => space_not_mem_word hv) hne (space_not_mem_word hv)).2 ⟨v, hv, List.infix_rfl⟩
    exact hne (List.infix_nil.1 (h ▸ hin))
  rw [← String.toList_inj, toList_normalize, String.toList_empty, hlower, hspaced, wordsOf_eq_nil, isAllBlank,
    List.all_eq_true]

end Name

end TraitWeave
