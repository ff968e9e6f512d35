import TraitWeave.Text.Blank
import Mathlib.Data.List.TakeWhile
import Mathlib.Tactic.Conv

/-!
# Parts and words of texts

* `Text.joined_singleton`, `Text.joined_cons_cons`, `Text.toList_joined`: parts that are glued together.
* `Text.pieces_marked`: parts with a separator in front of each are cut apart again.
* `Text.wordsOf_append_gap_append`: a gap between two parts of a text keeps their words apart, and adds none.
* `Text.Respaced.wordsOf_eq`: a text has the same words with other blanks around and between them.
-/

namespace TraitWeave.Text

variable {cs xs ys : List Char}

/-! ## Parts -/

theorem joined_singleton (sep s : String) : joined sep [s] = s := by
  apply String.toList_inj.1
  simp [joined]

theorem joined_cons_cons (sep s t : String) (rest : List String) :
    joined sep (s :: t :: rest) = s ++ sep ++ joined sep (t :: rest) := by
  apply String.toList_inj.1
  simp [joined, String.toList_intercalate, List.intercalate]

theorem joined_empty_cons (s : String) (rest : List String) : joined "" (s :: rest) = s ++ joined "" rest := by
  cases rest with
  | nil => rw [joined_singleton]; exact String.append_empty.symm
  | cons t rest => rw [joined_cons_cons, String.append_empty]

theorem toList_joined (ss : List String) : (joined "" ss).toList = ss.flatMap String.toList := by
  induction ss with
  | nil => rfl
  | cons s ss ih => rw [joined_empty_cons, String.toList_append, ih, List.flatMap_cons]

theorem pieces_eq (sep : Char → Bool) (cs : List Char) : pieces sep cs = cs.splitOnP sep := by
  induction cs with
  | nil => rfl
  | cons c cs ih =>
    rw [List.splitOnP_cons_eq_if_modifyHead, pieces, ih]
    by_cases hc : sep c = true
    · simp [hc]
    · simp only [hc, if_false, Bool.false_eq_true]
      cases hs : cs.splitOnP sep with
      | nil => exact absurd hs (List.splitOnP_ne_nil _ _)
      | cons p ps => rfl

/-- What stands in a part: characters of the text that the test does not accept. -/
theorem of_mem_pieces {sep : Char → Bool} {cs w : List Char} (h : w ∈ pieces sep cs) {c : Char} (hc : c ∈ w) :
    c ∈ cs ∧ sep c = false := by
  induction cs generalizing w with
  | nil =>
    rw [List.mem_singleton.1 h] at hc
    cases hc
  | cons d cs ih =>
    have hrest {w : List Char} (h : w ∈ pieces sep cs) (hc : c ∈ w) : c ∈ d :: cs ∧ sep c = false :=
      (ih h hc).imp_left (List.mem_cons_of_mem _)
    rw [pieces] at h
    split at h
    · rcases List.mem_cons.1 h with rfl | h
      · cases hc
      · exact hrest h hc
    · rename_i hd
      have hself : d ∈ d :: cs ∧ sep d = false := ⟨List.mem_cons_self, Bool.not_eq_true _ ▸ hd⟩
      cases hp : pieces sep cs with
      | nil =>
        rw [hp, List.mem_singleton] at h
        subst h
        rw [List.mem_singleton.1 hc]
        exact hself
      | cons p ps =>
        rw [hp] at h
        rcases List.mem_cons.1 h with rfl | h
        -- the first part is one character longer, the others are those of the rest
        · rcases List.mem_cons.1 hc with rfl | hc
          · exact hself
          · exact hrest (hp ▸ List.mem_cons_self) hc
        · exact hrest (hp ▸ List.mem_cons_of_mem _ h) hc

/-- **Parts with a separator in front of each**, behind a first part with none, are cut apart again. -/
theorem pieces_marked (sep : Char → Bool) {b : Char} (hb : sep b = true) {first : List Char}
    (hfirst : ∀ c ∈ first, sep c = false) {parts : List (List Char)} (hparts : ∀ p ∈ parts, ∀ c ∈ p, sep c = false) :
    pieces sep (first ++ parts.flatMap fun p => b :: p) = first :: parts := by
  rw [pieces_eq]
  induction parts generalizing first with
  | nil => rw [List.flatMap_nil, List.append_nil, List.splitOnP_eq_singleton hfirst]
  | cons p parts ih =>
    obtain ⟨hp, hparts⟩ := List.forall_mem_cons.1 hparts
    rw [List.flatMap_cons, List.cons_append, List.splitOnP_append_cons _ _ hb, List.splitOnP_eq_singleton hfirst,
      ih hp hparts]
    rfl

/-! ## Words -/

/-- The words of a text as lists of characters. -/
def wordsOf (cs : List Char) : List (List Char) := (cs.splitOnP isBlank).filter fun w => !w.isEmpty

theorem words_eq (s : String) : words s = (wordsOf s.toList).map String.ofList := by
  unfold words wordsOf; rw [pieces_eq]

/-- A blank ends a word, and stands for nothing else. -/
theorem wordsOf_append_cons (xs ys : List Char) {b : Char} (hb : isBlank b = true) :
    wordsOf (xs ++ b :: ys) = wordsOf xs ++ wordsOf ys := by
  unfold wordsOf
  rw [List.splitOnP_append_cons xs ys hb, List.filter_append]

theorem wordsOf_blank_cons (ys : List Char) {b : Char} (hb : isBlank b = true) :
    wordsOf (b :: ys) = wordsOf ys := wordsOf_append_cons [] ys hb

theorem wordsOf_dropWhile (cs : List Char) : wordsOf (cs.dropWhile isBlank) = wordsOf cs := by
  induction cs with
  | nil => rfl
  | cons c cs ih =>
    rw [List.dropWhile_cons]
    split
    · rename_i hc; rw [ih, wordsOf_blank_cons cs hc]
    · rfl

theorem wordsOf_blanks_append (hx : ∀ c ∈ xs, isBlank c = true) (ys : List Char) :
    wordsOf (xs ++ ys) = wordsOf ys := by
  induction xs with
  | nil => rfl
  | cons c cs ih =>
    rw [List.cons_append, wordsOf_blank_cons _ (hx c List.mem_cons_self)]
    exact ih fun d hd => hx d (List.mem_cons_of_mem _ hd)

theorem wordsOf_append_blanks (xs : List Char) (hy : ∀ c ∈ ys, isBlank c = true) :
    wordsOf (xs ++ ys) = wordsOf xs := by
  cases ys with
  | nil => rw [List.append_nil]
  | cons c cs =>
    have hnil : wordsOf cs = [] := by
      rw [← List.append_nil cs, wordsOf_blanks_append fun d hd => hy d (List.mem_cons_of_mem _ hd)]
      rfl
    rw [wordsOf_append_cons xs cs (hy c List.mem_cons_self), hnil, List.append_nil]

/-- A gap between two parts of a text counts as one blank. -/
theorem wordsOf_append_gap_append (xs ys : List Char) {bs : List Char} (hne : bs ≠ [])
    (hbs : ∀ b ∈ bs, isBlank b = true) : wordsOf (xs ++ bs ++ ys) = wordsOf xs ++ wordsOf ys := by
  obtain ⟨b, bs, rfl⟩ := List.exists_cons_of_ne_nil hne
  rw [List.append_assoc, List.cons_append, wordsOf_append_cons xs _ (hbs b List.mem_cons_self),
    wordsOf_blanks_append fun c hc => hbs c (List.mem_cons_of_mem _ hc)]

theorem trimChars_isInfix (cs : List Char) : trimChars cs <:+: cs := by
  unfold trimChars
  have hleft := List.dropWhile_suffix (l := cs) isBlank
  have hright := List.dropWhile_suffix (l := (cs.dropWhile isBlank).reverse) isBlank
  exact (List.reverse_suffix.1 (by rwa [List.reverse_reverse])).isInfix.trans hleft.isInfix

theorem wordsOf_trimChars (cs : List Char) : wordsOf (trimChars cs) = wordsOf cs := by
  unfold trimChars
  set ds := cs.dropWhile isBlank with hds
  have hsplit : ds = (ds.reverse.dropWhile isBlank).reverse ++ (ds.reverse.takeWhile isBlank).reverse := by
    rw [← List.reverse_append, List.takeWhile_append_dropWhile, List.reverse_reverse]
  rw [← wordsOf_dropWhile cs, ← hds]
  conv_rhs => rw [hsplit]
  refine (wordsOf_append_blanks _ fun c hc => ?_).symm
  exact List.mem_takeWhile_imp (List.mem_reverse.1 hc)

theorem of_mem_wordsOf {w : List Char} (h : w ∈ wordsOf cs) {c : Char} (hc : c ∈ w) :
    c ∈ cs ∧ isBlank c = false := by
  unfold wordsOf at h
  rw [← pieces_eq] at h
  exact of_mem_pieces (List.mem_filter.1 h).1 hc

theorem not_isBlank_of_mem_wordsOf {w : List Char} (h : w ∈ wordsOf cs) :
    w ≠ [] ∧ ∀ c ∈ w, isBlank c = false :=
  ⟨by simpa using (List.mem_filter.1 h).2, fun _ hc => (of_mem_wordsOf h hc).2⟩

/-! ## Other blanks around the same words -/

/-- A gap between words: blanks, and at least one. -/
def IsGap (b : String) : Prop := b ≠ "" ∧ isAllBlank b = true

/-- **One text is the other with other blanks around and between its words.** A gap between two parts may be longer,
shorter or of other blanks, and blanks may come or go at both ends. -/
inductive Respaced : String → String → Prop where
  | around (s : String) {b e : String} (hb : isAllBlank b = true) (he : isAllBlank e = true) : Respaced s (b ++ s ++ e)
  | between (s t : String) {b c : String} (hb : IsGap b) (hc : IsGap c) : Respaced (s ++ b ++ t) (s ++ c ++ t)
  | symm {s t : String} (h : Respaced s t) : Respaced t s
  | trans {s t u : String} (h : Respaced s t) (h' : Respaced t u) : Respaced s u

theorem blank_of_isAllBlank {b : String} (h : isAllBlank b = true) : ∀ c ∈ b.toList, isBlank c = true :=
  List.all_eq_true.1 h

theorem IsGap.wordsOf {b : String} (h : IsGap b) (s t : String) :
    wordsOf (s ++ b ++ t).toList = Text.wordsOf s.toList ++ Text.wordsOf t.toList := by
  have hne : b.toList ≠ [] := fun hnil => h.1 (String.toList_injective hnil)
  rw [String.toList_append, String.toList_append]
  exact wordsOf_append_gap_append _ _ hne (blank_of_isAllBlank h.2)

/-- Such texts have the same words. -/
theorem Respaced.wordsOf_eq {s t : String} (h : Respaced s t) : wordsOf s.toList = wordsOf t.toList := by
  induction h with
  | around s hb he =>
    rw [String.toList_append, String.toList_append, wordsOf_append_blanks _ (blank_of_isAllBlank he),
      wordsOf_blanks_append (blank_of_isAllBlank hb)]
  | between s t hb hc => rw [hb.wordsOf, hc.wordsOf]
  | symm _ ih => exact ih.symm
  | trans _ _ ih ih' => exact ih.trans ih'

end TraitWeave.Text
