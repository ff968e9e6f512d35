import TraitWeave.Proofs.Text.Marks
import TraitWeave.Trait.Request

/-!
# The segments of a name

A request is cut into segments at slashes, backslashes and double colons, and the last of them is the leaf. The text
after the last slash is another thing: it may hold separators of the other kinds, and it may be blank.

* `Text.IsSegment`: a text that is one segment.
* `Request.segmentsOf_append`, `Request.segmentsOf_of_isSegment`: the segments of a text by its separators.
* `Request.leaf_eq`: the leaf where the text after the last slash is a segment.
* `Request.normalize_leaf_iff`: when the two have one normal form.
-/

namespace TraitWeave

namespace Text

variable {cs : List Char} {s t : String}

theorem trimChars_eq_nil : trimChars cs = [] ↔ ∀ c ∈ cs, isBlank c = true := by
  constructor
  · intro h
    rw [← wordsOf_eq_nil, ← wordsOf_trimChars, h]
    rfl
  · intro h
    have hdrop : cs.dropWhile isBlank = [] := List.dropWhile_eq_nil_iff.2 h
    simp [trimChars, hdrop]

/-- **A text that is one segment**: not blank, and without separators. -/
structure IsSegment (cs : List Char) : Prop where
  visible : ∃ c ∈ cs, isBlank c = false
  noSlash : '/' ∉ cs
  noBackslash : '\\' ∉ cs
  noColons : ¬[':', ':'] <:+: cs

theorem isMark_slash : IsMark '/' := ⟨by decide +kernel, ⟨by decide, by decide, by decide⟩, by decide⟩

theorem isMark_backslash : IsMark '\\' := ⟨by decide +kernel, ⟨by decide, by decide, by decide⟩, by decide⟩

theorem isMark_colon : IsMark ':' := ⟨by decide +kernel, ⟨by decide, by decide, by decide⟩, by decide⟩

/-- Whether a text is one segment is told by its normal form. -/
theorem IsSegment.of_normalize_eq (hs : IsSegment s.toList) (h : Name.normalize s = Name.normalize t) :
    IsSegment t.toList := by
  have hmark {c : Char} (hc : IsMark c) : c ∈ s.toList ↔ c ∈ t.toList := by
    rw [← List.singleton_infix_iff, ← List.singleton_infix_iff]
    exact Name.infix_congr h (List.cons_ne_nil _ _) (by simpa using hc)
  have hcolons : [':', ':'] <:+: s.toList ↔ [':', ':'] <:+: t.toList :=
    Name.infix_congr h (List.cons_ne_nil _ _) (by simpa using isMark_colon)
  refine ⟨?_, (hmark isMark_slash).not.1 hs.noSlash, (hmark isMark_backslash).not.1 hs.noBackslash,
    hcolons.not.1 hs.noColons⟩
  by_contra hblank
  have hempty : Name.normalize t = "" := Name.normalize_eq_empty.2 (List.all_eq_true.2 (by simpa using hblank))
  rw [← h, Name.normalize_eq_empty] at hempty
  obtain ⟨c, hc, hvisible⟩ := hs.visible
  rw [List.all_eq_true.1 hempty c hc] at hvisible
  cases hvisible

end Text

namespace Request

open Text

variable {cs p : List Char} {r : Request}

/-- A separator of one character. -/
def isSeparator (c : Char) : Bool := c == '/' || c == '\\'

/-- The segments of a text, as lists of characters. -/
def segmentsOf (cs : List Char) : List (List Char) :=
  (((pieces isSeparator cs).flatMap (cutAtPair ':' ':')).map trimChars).filter fun p => !p.isEmpty

theorem splitSegments_eq (s : String) : splitSegments s = (segmentsOf s.toList).map String.ofList := by
  have htrim (ps : List (List Char)) : ((ps.map fun p => String.ofList (trimChars p)).filter fun p => !p.isEmpty) =
      ((ps.map trimChars).filter fun p => !p.isEmpty).map String.ofList := by
    rw [List.filter_map, List.filter_map, List.map_map]
    congr 1
    refine List.filter_congr fun p _ => ?_
    cases h : trimChars p <;> simp [h]
  exact htrim _

/-- At a separator the segments of what stands before it end. -/
theorem segmentsOf_append (xs ys : List Char) {b : Char} (hb : isSeparator b = true) :
    segmentsOf (xs ++ b :: ys) = segmentsOf xs ++ segmentsOf ys := by
  unfold segmentsOf
  rw [pieces_eq, pieces_eq, pieces_eq, List.splitOnP_append_cons xs ys hb, List.flatMap_append, List.map_append,
    List.filter_append]

theorem isSegment_of_mem_segmentsOf (h : p ∈ segmentsOf cs) : IsSegment p := by
  obtain ⟨hp, hne⟩ := List.mem_filter.1 h
  obtain ⟨q, hq, rfl⟩ := List.mem_map.1 hp
  obtain ⟨piece, hpiece, hcut⟩ := List.mem_flatMap.1 hq
  have hsep {c : Char} (hc : c ∈ trimChars q) : isSeparator c = false :=
    (of_mem_pieces hpiece (mem_of_mem_cutAtPair hcut ((trimChars_isInfix q).subset hc))).2
  refine ⟨?_, fun hc => absurd (hsep hc) (by decide), fun hc => absurd (hsep hc) (by decide),
    fun hcolons => not_infix_of_mem_cutAtPair hcut (hcolons.trans (trimChars_isInfix q))⟩
  by_contra hblank
  have hall : ∀ c ∈ trimChars q, isBlank c = true := by simpa using hblank
  -- a text that is blank without the blanks at its ends is blank
  rw [← wordsOf_eq_nil, wordsOf_trimChars, wordsOf_eq_nil] at hall
  rw [trimChars_eq_nil.2 hall] at hne
  cases hne

theorem segmentsOf_of_isSegment (h : IsSegment cs) : segmentsOf cs = [trimChars cs] := by
  have hsep : ∀ c ∈ cs, isSeparator c = false := by
    intro c hc
    have hslash : c ≠ '/' := fun he => h.noSlash (he ▸ hc)
    have hbackslash : c ≠ '\\' := fun he => h.noBackslash (he ▸ hc)
    simp [isSeparator, hslash, hbackslash]
  have hne : trimChars cs ≠ [] := by
    intro hnil
    obtain ⟨c, hc, hvisible⟩ := h.visible
    rw [trimChars_eq_nil.1 hnil c hc] at hvisible
    cases hvisible
  unfold segmentsOf
  rw [pieces_eq, List.splitOnP_eq_singleton hsep, List.flatMap_singleton, cutAtPair_eq_singleton h.noColons]
  simpa using hne

theorem isSegment_of_mem_splitSegments {s segment : String} (h : segment ∈ splitSegments s) :
    IsSegment segment.toList := by
  rw [splitSegments_eq] at h
  obtain ⟨p, hp, rfl⟩ := List.mem_map.1 h
  rw [String.toList_ofList]
  exact isSegment_of_mem_segmentsOf hp

/-! ## The text after the last slash -/

/-- The text after the last slash is the whole name, or the name has a slash and the segments after it are its last. -/
theorem lastSegment_cases (name : String) :
    Name.lastSegment name = name ∨
      '/' ∈ name.toList ∧ ∃ before, splitSegments name = before ++ splitSegments (Name.lastSegment name) := by
  obtain ⟨before, last, hpieces, hlast⟩ := exists_pieces_concat (· == '/') name.toList
  have hname : Name.lastSegment name = String.ofList last := by
    simp [Name.lastSegment, hpieces]
  rw [hname]
  obtain ⟨-, rfl⟩ | ⟨-, xs, b, hb, hcut⟩ := hlast
  · exact .inl String.ofList_toList
  · obtain rfl : b = '/' := beq_iff_eq.1 hb
    refine .inr ⟨by simp [hcut], (segmentsOf xs).map String.ofList, ?_⟩
    rw [splitSegments_eq, splitSegments_eq, hcut, segmentsOf_append xs last rfl, List.map_append, String.toList_ofList]

/-- **The leaf is the text after the last slash**, without the blanks at its ends, where that is one segment. -/
theorem leaf_eq (h : IsSegment (Name.lastSegment r.name).toList) : r.leaf = trim (Name.lastSegment r.name) := by
  have hlast : splitSegments (Name.lastSegment r.name) = [trim (Name.lastSegment r.name)] := by
    rw [splitSegments_eq, segmentsOf_of_isSegment h]
    rfl
  unfold leaf
  obtain hsame | ⟨-, before, hbefore⟩ := lastSegment_cases r.name
  · rw [hsame] at hlast ⊢
    rw [hlast]
    rfl
  · rw [hbefore, hlast, List.getLast?_concat]
    rfl

/-- The leaf of a name that has segments is one. -/
theorem isSegment_leaf (h : splitSegments r.name ≠ []) : IsSegment r.leaf.toList := by
  unfold leaf
  rw [List.getLast?_eq_some_getLast h]
  exact isSegment_of_mem_splitSegments (List.getLast_mem h)

/-- **The leaf and the text after the last slash** have one normal form just if the latter is one segment. -/
theorem normalize_leaf_iff (h : splitSegments r.name ≠ []) :
    Name.normalize r.leaf = Name.normalize (Name.lastSegment r.name) ↔
      IsSegment (Name.lastSegment r.name).toList := by
  refine ⟨fun heq => (isSegment_leaf h).of_normalize_eq heq, fun hsegment => ?_⟩
  rw [leaf_eq hsegment, Name.normalize_trim]

/-- A name that has the normal form of its leaf is its own text after the last slash. -/
theorem lastSegment_of_normalize_leaf (h : splitSegments r.name ≠ [])
    (heq : Name.normalize r.leaf = Name.normalize r.name) : Name.lastSegment r.name = r.name := by
  obtain hsame | ⟨hslash, -⟩ := lastSegment_cases r.name
  · exact hsame
  · exact absurd hslash ((isSegment_leaf h).of_normalize_eq heq).noSlash

end Request

end TraitWeave
