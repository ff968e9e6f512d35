import Mathlib.Data.List.Lex

/-!
# Characters and bytes have one order

The bytes of two characters differ before either of them ends, and where they first differ the smaller character has the
smaller byte. So texts are in the same order by characters as by bytes.

* `Text.Below`: words that differ, with the smaller item in the first of them.
* `Text.below_bytes`: the bytes of characters.
* `Text.lt_iff_bytes_lt`, `Text.compare_eq_lt_iff`: the order of texts.
-/

namespace TraitWeave.Text

/-- The bytes of a text in UTF-8. -/
def bytes (s : String) : List UInt8 := s.toByteArray.data.toList

theorem bytes_eq (s : String) : bytes s = s.toList.flatMap String.utf8EncodeChar := by
  unfold bytes
  rw [← String.utf8Encode_toList, List.utf8Encode, List.toList_data_toByteArray]

/-! ## Words that differ -/

section Below

variable {α β : Type} [LT α] [LT β]

/-- Where two words first differ, the first one has the smaller item; neither begins with the other. -/
inductive Below : List β → List β → Prop where
  | here {x y : β} {as bs : List β} (h : x < y) : Below (x :: as) (y :: bs)
  | later {x : β} {as bs : List β} (h : Below as bs) : Below (x :: as) (x :: bs)

theorem Below.append_lt {as bs cs ds : List β} (h : Below as bs) : as ++ cs < bs ++ ds := by
  induction h with
  | here h => exact List.Lex.rel h
  | later _ ih => exact List.Lex.cons ih

/-- Words that are coded item by item are in the order of their codes. -/
theorem flatMap_lt_flatMap {f : α → List β} (hne : ∀ a, f a ≠ []) (hf : ∀ a b, a < b → Below (f a) (f b))
    {as bs : List α} (h : as < bs) : as.flatMap f < bs.flatMap f := by
  induction h with
  | @nil b bs =>
    obtain ⟨x, xs, hx⟩ := List.exists_cons_of_ne_nil (hne b)
    rw [List.flatMap_nil, List.flatMap_cons, hx]
    exact List.Lex.nil
  | rel h =>
    rw [List.flatMap_cons, List.flatMap_cons]
    exact (hf _ _ h).append_lt
  | cons _ ih =>
    rw [List.flatMap_cons, List.flatMap_cons]
    exact List.append_left_lt ih

end Below

/-! ## Characters -/

theorem ofNat_lt_ofNat {m n : Nat} (h : m < n) (hn : n < 256) : UInt8.ofNat m < UInt8.ofNat n :=
  (UInt8.ofNat_lt_iff_lt (h.trans hn) hn).2 h

/-- Bytes are compared one after the other. -/
theorem below_cons {m n : Nat} {as bs : List UInt8} (hn : n < 256) (hle : m ≤ n) (h : m = n → Below as bs) :
    Below (UInt8.ofNat m :: as) (UInt8.ofNat n :: bs) := by
  rcases Nat.lt_or_eq_of_le hle with hlt | rfl
  · exact .here (ofNat_lt_ofNat hlt hn)
  · exact .later (h rfl)

/-- **The bytes of a smaller character are smaller**, and do not begin those of the other. -/
theorem below_bytes (c d : Char) (h : c < d) : Below (String.utf8EncodeChar c) (String.utf8EncodeChar d) := by
  have hlt : c.val.toNat < d.val.toNat := h
  have hbound : d.val.toNat < 0x110000 := by
    rcases d.valid with hd | hd <;> omega
  unfold String.utf8EncodeChar
  generalize c.val.toNat = v at hlt
  generalize d.val.toNat = w at hlt hbound
  dsimp only
  -- the first byte tells how many there are; characters of one length are told apart by their digits
  by_cases h1 : w ≤ 0x7f
  · rw [if_pos (by omega), if_pos h1]
    exact .here (ofNat_lt_ofNat hlt (by omega))
  rw [if_neg h1]
  by_cases h2 : w ≤ 0x7ff
  · rw [if_pos h2]
    split_ifs
    · exact .here (ofNat_lt_ofNat (by omega) (by omega))
    · exact below_cons (by omega) (by omega) fun _ => .here (ofNat_lt_ofNat (by omega) (by omega))
    · omega
    · omega
  rw [if_neg h2]
  by_cases h3 : w ≤ 0xffff
  · rw [if_pos h3]
    split_ifs
    · exact .here (ofNat_lt_ofNat (by omega) (by omega))
    · exact .here (ofNat_lt_ofNat (by omega) (by omega))
    · exact below_cons (by omega) (by omega) fun _ => below_cons (by omega) (by omega) fun _ =>
        .here (ofNat_lt_ofNat (by omega) (by omega))
    · omega
  rw [if_neg h3]
  split_ifs
  · exact .here (ofNat_lt_ofNat (by omega) (by omega))
  · exact .here (ofNat_lt_ofNat (by omega) (by omega))
  · exact .here (ofNat_lt_ofNat (by omega) (by omega))
  · exact below_cons (by omega) (by omega) fun _ => below_cons (by omega) (by omega) fun _ =>
      below_cons (by omega) (by omega) fun _ => .here (ofNat_lt_ofNat (by omega) (by omega))

/-! ## Texts -/

theorem bytes_lt_of_lt {s t : String} (h : s < t) : bytes s < bytes t := by
  rw [bytes_eq, bytes_eq]
  exact flatMap_lt_flatMap (fun _ => String.utf8EncodeChar_ne_nil) below_bytes h

/-- **Texts are in the order of their bytes.** -/
theorem lt_iff_bytes_lt {s t : String} : s < t ↔ bytes s < bytes t := by
  refine ⟨bytes_lt_of_lt, fun h => ?_⟩
  by_contra hle
  rcases eq_or_ne s t with rfl | hne
  · exact List.lt_irrefl _ h
  · have hts : t < s := by
      by_contra hst
      exact hne (String.le_antisymm hst hle)
    exact List.lt_asymm h (bytes_lt_of_lt hts)

theorem compare_eq_lt_iff {s t : String} : compare s t = .lt ↔ bytes s < bytes t :=
  compareOfLessAndEq_eq_lt.trans lt_iff_bytes_lt

end TraitWeave.Text
