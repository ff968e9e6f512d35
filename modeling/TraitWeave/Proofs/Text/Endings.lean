import Mathlib
import TraitWeave.Proofs.Text.Marks

/-!
# What lower-cased texts end with

Most letters of ASCII are the lower-case form of themselves and of their capital only. A lower-cased text that ends with
a word of such letters comes from a text that ends with the same letters, capitals or not: no other letter becomes part
of the word.

* `Text.isOwnForm`: a character that is the lower-case form of nothing but itself and its capital.
* `Text.exists_suffix_of_lowerFrom`: where the end of a lower-cased text comes from.
* `Text.exists_of_endsWith_lower`: the same for texts.
-/

namespace TraitWeave.Text

variable {before after cs w : List Char} {c d : Char}

/-- The capitals of ASCII, as a run. -/
def capitalRun : CaseRun := ⟨0x41, 0x5a, 1, 32⟩

theorem caseRuns_eq : caseRuns = capitalRun :: caseRuns.tail := rfl

theorem holds_capitalRun : capitalRun.holds c.toNat = c.isUpper := by
  rw [Bool.eq_iff_iff, CaseRun.holds_iff]
  simp [capitalRun, Char.isUpper, UInt32.le_iff_toNat_le, Nat.mod_one]

/-- Nothing but the character itself and its capital has it as its lower-case form. -/
def isOwnForm (d : Char) : Bool :=
  !(['ς', 'σ', 'i', '\u0307'].contains d) && caseRuns.tail.all fun r => !r.holds (d.toNat - r.shift).toNat

theorem toLower_of_lowerChar (hd : isOwnForm (lowerChar c) = true) : c.toLower = lowerChar c := by
  obtain ⟨-, hforms⟩ := Bool.and_eq_true_iff.1 hd
  rcases lowerChar_cases c with ⟨hc, hnone⟩ | ⟨r, hr, hh, hn⟩
  · -- a capital of ASCII has a lower-case form
    have hupper : c.isUpper = false := by
      rw [← holds_capitalRun]
      exact hnone capitalRun List.mem_cons_self
    rw [hc, Char.toLower_eq_of_not_isUpper (by rw [hupper]; exact Bool.false_ne_true)]
  · rw [caseRuns_eq, List.mem_cons] at hr
    rcases hr with rfl | hr
    · rw [holds_capitalRun] at hh
      rw [Char.toLower_eq_of_isUpper hh, ← Char.ofNat_toNat (lowerChar c), hn]
      rfl
    · have hback : (((c.toNat + r.shift).toNat : Int) - r.shift).toNat = c.toNat := by
        obtain ⟨-, hinside⟩ := CaseRun.inside_iff.1 (caseRuns_inside r (List.mem_of_mem_tail hr))
        obtain ⟨hfirst, -, -⟩ := CaseRun.holds_iff.1 hh
        omega
      have hout := List.all_eq_true.1 hforms r hr
      rw [hn, hback, hh] at hout
      cases hout

theorem toLower_of_mem_lowerAt (hd : isOwnForm d = true) (h : d ∈ lowerAt before c after) : c.toLower = d := by
  have hmark : d ∉ ['ς', 'σ', 'i', '\u0307'] := by
    simpa using (Bool.and_eq_true_iff.1 hd).1
  obtain rfl := (mem_lowerAt h).resolve_left hmark
  exact toLower_of_lowerChar hd

theorem length_le_lowerFrom (before cs : List Char) : cs.length ≤ (lowerFrom before cs).length := by
  induction cs generalizing before with
  | nil => exact Nat.le_refl 0
  | cons c cs ih =>
    have hone : 0 < (lowerAt before c cs).length := List.length_pos_of_ne_nil (lowerAt_ne_nil before cs c)
    have hrest := ih (c :: before)
    rw [lowerFrom_cons, List.length_append, List.length_cons]
    omega

/-- **Where the end of a lower-cased text comes from**: from as many characters, each of them the same or its capital. -/
theorem exists_suffix_of_lowerFrom (hw : ∀ d ∈ w, isOwnForm d = true) (h : w <:+ lowerFrom before cs) :
    ∃ v, v <:+ cs ∧ v.map Char.toLower = w := by
  induction cs generalizing before w with
  | nil => exact ⟨[], List.suffix_rfl, (List.suffix_nil.1 h).symm⟩
  | cons c cs ih =>
    rw [lowerFrom_cons] at h
    obtain ⟨d, hd⟩ | hdotted := lowerAt_eq before cs c
    · rw [hd, List.singleton_append, List.suffix_cons_iff] at h
      rcases h with rfl | h
      · -- all that is left of the text is in the word
        have hlow : c.toLower = d :=
          toLower_of_mem_lowerAt (hw d List.mem_cons_self) (hd ▸ List.mem_cons_self)
        obtain ⟨v, hv, hmap⟩ := ih (fun e he => hw e (List.mem_cons_of_mem _ he)) List.suffix_rfl
        have hlength : cs.length ≤ v.length :=
          calc cs.length ≤ (lowerFrom (c :: before) cs).length := length_le_lowerFrom _ _
            _ = v.length := by rw [← hmap, List.length_map]
        obtain rfl := hv.eq_of_length_le hlength
        exact ⟨c :: v, List.suffix_rfl, by rw [List.map_cons, hlow, hmap]⟩
      · obtain ⟨v, hv, hmap⟩ := ih hw h
        exact ⟨v, hv.trans (List.suffix_cons c cs), hmap⟩
    · have hmarks : isOwnForm 'i' = false ∧ isOwnForm '\u0307' = false := ⟨rfl, rfl⟩
      rw [hdotted, List.cons_append, List.singleton_append, List.suffix_cons_iff, List.suffix_cons_iff] at h
      rcases h with rfl | rfl | h
      · rw [hw 'i' List.mem_cons_self] at hmarks
        cases hmarks.1
      · rw [hw '\u0307' List.mem_cons_self] at hmarks
        cases hmarks.2
      · obtain ⟨v, hv, hmap⟩ := ih hw h
        exact ⟨v, hv.trans (List.suffix_cons c cs), hmap⟩

/-- **A lower-cased text ends with a word** only if the text ends with it, whatever the case of its letters. -/
theorem exists_of_endsWith_lower {s ending : String} (hw : ending.toList.all isOwnForm = true)
    (h : endsWith (lower s) ending = true) : ∃ v, v <:+ s.toList ∧ v.map Char.toLower = ending.toList := by
  unfold endsWith at h
  rw [List.isSuffixOf_iff_suffix, toList_lower] at h
  exact exists_suffix_of_lowerFrom (List.all_eq_true.1 hw) h

/-- Only capitals change. -/
theorem map_toLower_eq_iff : cs.map Char.toLower = cs ↔ ∀ c ∈ cs, c.isUpper = false := by
  have hself : cs.map Char.toLower = cs ↔ ∀ c ∈ cs, c.toLower = c := by
    simpa using List.map_inj_left (l := cs) (f := Char.toLower) (g := id)
  rw [hself]
  refine forall₂_congr fun c _ => ⟨fun h => ?_, fun h => Char.toLower_eq_of_not_isUpper (by simp [h])⟩
  rw [← h]
  exact Char.isUpper_toLower_eq_false c

end TraitWeave.Text
