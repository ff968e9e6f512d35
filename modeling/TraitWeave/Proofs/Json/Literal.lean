import TraitWeave.Json.Printer
import TraitWeave.Json.Reader
import Mathlib.Data.Nat.Digits.Defs

/-!
# Written scalars

How numbers and strings look when they are written, and that a written string reads back.

* `isNumberText`, `Number.isNumberText_text`: the grammar of numbers, to which every written number belongs.
* `Quotable`: what may stand between quotes, and `quotable_escaped`: what does when a string is written.
* `parse_quote`: a written string reads back.
-/

namespace TraitWeave

/-! ## Numbers -/

namespace Json

/-- Some digits and nothing else. -/
def isDigits (cs : List Char) : Bool := !cs.isEmpty && cs.all Char.isDigit

/-- The end of a number from its exponent on, which may be missing. -/
def isExponentText : List Char → Bool
  | [] => true
  | c :: cs =>
    (c == 'e' || c == 'E') &&
      match cs with
      | '+' :: ds => isDigits ds
      | '-' :: ds => isDigits ds
      | ds => isDigits ds

/-- The end of a number from its fraction on, which may be missing. -/
def isFractionText : List Char → Bool
  | '.' :: cs => !(cs.takeWhile Char.isDigit).isEmpty && isExponentText (cs.dropWhile Char.isDigit)
  | cs => isExponentText cs

/-- A number without a sign: its whole digits have no zero too many at the start. -/
def isUnsignedText (cs : List Char) : Bool :=
  let whole := cs.takeWhile Char.isDigit
  (whole == ['0'] || (!whole.isEmpty && whole.head? != some '0')) && isFractionText (cs.dropWhile Char.isDigit)

/-- The grammar of numbers. -/
def isNumberText : List Char → Bool
  | '-' :: cs => isUnsignedText cs
  | cs => isUnsignedText cs

/-! ### Digits -/

variable {n : Nat} {ds cs : List Char}

/-- A text of whole digits that is a number's: a single zero, or without one at the start. -/
structure Whole (ds : List Char) : Prop where
  digits : ∀ d ∈ ds, d.isDigit = true
  lead : ds = ['0'] ∨ ∃ d rest, ds = d :: rest ∧ d ≠ '0'

theorem digitChar_ne_zero (hn : n ≠ 0) (hlow : n < 10) : n.digitChar ≠ '0' := by
  have hall : ∀ m < 10, m ≠ 0 → m.digitChar ≠ '0' := by decide
  exact hall n hlow hn

theorem toDigits_lead (hn : n ≠ 0) : ∃ d rest, Nat.toDigits 10 n = d :: rest ∧ d ≠ '0' := by
  induction n using Nat.strong_induction_on with
  | _ n ih =>
    rw [Nat.toDigits_eq_if (by decide)]
    split
    · rename_i hlow
      exact ⟨_, _, rfl, digitChar_ne_zero hn hlow⟩
    · rename_i hhigh
      obtain ⟨d, rest, hd, hne⟩ := ih (n / 10) (by omega) (by omega)
      exact ⟨d, rest ++ [(n % 10).digitChar], by rw [hd]; rfl, hne⟩

theorem isDigit_toDigits : ∀ d ∈ Nat.toDigits 10 n, d.isDigit = true :=
  fun _ hd => Nat.isDigit_of_mem_toDigits (by decide) (by decide) hd

theorem whole_toDigits (n : Nat) : Whole (Nat.toDigits 10 n) := by
  refine ⟨isDigit_toDigits, ?_⟩
  rcases Nat.eq_zero_or_pos n with rfl | hn
  · exact .inl rfl
  · exact .inr (toDigits_lead hn.ne')

theorem takeWhile_digits (hds : ∀ d ∈ ds, d.isDigit = true) (hcs : ∀ c ∈ cs.head?, c.isDigit = false) :
    (ds ++ cs).takeWhile Char.isDigit = ds ∧ (ds ++ cs).dropWhile Char.isDigit = cs := by
  have hnone : cs.takeWhile Char.isDigit = [] ∧ cs.dropWhile Char.isDigit = cs := by
    cases cs with
    | nil => exact ⟨rfl, rfl⟩
    | cons c cs =>
      have hc := hcs c rfl
      simp [hc]
  rw [List.takeWhile_append_of_pos hds, List.dropWhile_append_of_pos hds, hnone.1, hnone.2, List.append_nil]
  exact ⟨rfl, rfl⟩

/-- A number is made of whole digits and what follows them. -/
theorem isUnsignedText_append (hds : Whole ds) (hcs : ∀ c ∈ cs.head?, c.isDigit = false)
    (hend : isFractionText cs = true) : isUnsignedText (ds ++ cs) = true := by
  obtain ⟨htake, hdrop⟩ := takeWhile_digits hds.digits hcs
  unfold isUnsignedText
  dsimp only
  rw [htake, hdrop, hend, Bool.and_true]
  rcases hds.lead with rfl | ⟨d, rest, rfl, hd⟩
  · rfl
  · simp [hd]

/-- A fraction with digits that ends the number. -/
theorem isFractionText_digits (hds : ∀ d ∈ ds, d.isDigit = true) (hne : ds ≠ [])
    (hcs : ∀ c ∈ cs.head?, c.isDigit = false) (hend : isExponentText cs = true) :
    isFractionText ('.' :: (ds ++ cs)) = true := by
  obtain ⟨htake, hdrop⟩ := takeWhile_digits hds hcs
  show (!((ds ++ cs).takeWhile Char.isDigit).isEmpty && isExponentText ((ds ++ cs).dropWhile Char.isDigit)) = true
  rw [htake, hdrop, hend]
  simpa using hne

end Json

namespace Decimal

open Json

variable {ds : List Char}

/-- Digits without a zero at the start, some at least. -/
structure Leading (ds : List Char) : Prop where
  digits : ∀ d ∈ ds, d.isDigit = true
  lead : ∃ d rest, ds = d :: rest ∧ d ≠ '0'

theorem Leading.whole {es : List Char} (h : Leading ds) (hes : ∀ d ∈ es, d.isDigit = true) : Whole (ds ++ es) := by
  obtain ⟨d, rest, rfl, hd⟩ := h.lead
  refine ⟨fun e he => ?_, .inr ⟨d, rest ++ es, rfl, hd⟩⟩
  exact (List.mem_append.1 he).elim (h.digits e) (hes e)

theorem Leading.take {n : Nat} (h : Leading ds) (hn : n ≠ 0) : Whole (ds.take n) := by
  obtain ⟨d, rest, rfl, hd⟩ := h.lead
  refine ⟨fun e he => h.digits e (List.mem_of_mem_take he), .inr ?_⟩
  obtain ⟨n, rfl⟩ := Nat.exists_eq_succ_of_ne_zero hn
  exact ⟨d, rest.take n, rfl, hd⟩

theorem isDigit_replicate {n : Nat} : ∀ d ∈ List.replicate n '0', d.isDigit = true := by
  intro d hd
  rw [(List.mem_replicate.1 hd).2]
  rfl

theorem isUnsignedText_positional (h : Leading ds) (point : Int) :
    isUnsignedText (positional ds point).toList = true := by
  have hne : ds ≠ [] := by
    obtain ⟨d, rest, rfl, -⟩ := h.lead
    exact List.cons_ne_nil _ _
  have hfraction {es : List Char} (hes : ∀ d ∈ es, d.isDigit = true) (hne : es ≠ []) :
      isFractionText ('.' :: es) = true := by
    have hnothing : ∀ c ∈ ([] : List Char).head?, c.isDigit = false := nofun
    have hend := isFractionText_digits hes hne hnothing rfl
    rwa [List.append_nil] at hend
  unfold positional
  split
  -- below one: a zero, the point, further zeros and the digits
  · have hdigits : ∀ d ∈ List.replicate (-point).toNat '0' ++ ds, d.isDigit = true := fun d hd =>
      (List.mem_append.1 hd).elim (isDigit_replicate d) (h.digits d)
    have hlist : ("0." ++ String.ofList (List.replicate (-point).toNat '0' ++ ds)).toList =
        ['0'] ++ '.' :: (List.replicate (-point).toNat '0' ++ ds) := by
      simp only [String.toList_append, String.toList_ofList]
      rfl
    rw [hlist]
    exact isUnsignedText_append ⟨List.forall_mem_singleton.2 rfl, .inl rfl⟩ (by simp)
      (hfraction hdigits (by simp [hne]))
  · split
    -- an integer: the digits, further zeros, and a fraction of zero
    · rw [String.toList_append, String.toList_ofList]
      have hzero : isFractionText ['.', '0'] = true := rfl
      exact isUnsignedText_append (h.whole isDigit_replicate) (by simp) hzero
    · rename_i hpoint hlong
      -- otherwise the point stands among the digits
      have hrest : ds.drop point.toNat ≠ [] := by
        rw [Ne, List.drop_eq_nil_iff]
        exact hlong
      have hlist : (String.ofList (ds.take point.toNat) ++ "." ++ String.ofList (ds.drop point.toNat)).toList =
          ds.take point.toNat ++ '.' :: ds.drop point.toNat := by
        simp only [String.toList_append, String.toList_ofList, List.append_assoc]
        rfl
      rw [hlist]
      exact isUnsignedText_append (h.take (by omega)) (by simp)
        (hfraction (fun d hd => h.digits d (List.mem_of_mem_drop hd)) hrest)

/-- The digits of an exponent, with a sign or without. -/
theorem isExponentText_digits (hds : isDigits ds = true) :
    isExponentText ('e' :: ds) = true ∧ isExponentText ('e' :: '+' :: ds) = true ∧
      isExponentText ('e' :: '-' :: ds) = true := by
  refine ⟨?_, hds, hds⟩
  cases ds with
  | nil => cases hds
  | cons d ds =>
    have hd : d.isDigit = true := by
      unfold isDigits at hds
      exact List.all_eq_true.1 (Bool.and_eq_true_iff.1 hds).2 d List.mem_cons_self
    have hplus : d ≠ '+' := by rintro rfl; cases hd
    have hminus : d ≠ '-' := by rintro rfl; cases hd
    simp [isExponentText, hplus, hminus, hds]

theorem isDigits_toString (n : Nat) : isDigits (toString n).toList = true := by
  show isDigits (String.ofList (Nat.toDigits 10 n)).toList = true
  rw [String.toList_ofList]
  simpa [isDigits, Nat.toDigits_ne_nil] using isDigit_toDigits (n := n)

theorem isUnsignedText_scientific (h : Leading ds) (plus : Bool) (power : Int) :
    isUnsignedText (scientific plus ds power).toList = true := by
  obtain ⟨d, rest, rfl, hd⟩ := h.lead
  obtain ⟨hplain, hplus, hminus⟩ := isExponentText_digits (isDigits_toString power.natAbs)
  have hlead : Whole [d] := ⟨fun e he => h.digits e (by simp_all), .inr ⟨d, [], rfl, hd⟩⟩
  -- the sign stands before the digits of the exponent, and there may be none
  obtain ⟨exponent, hexponent, htail⟩ : ∃ exponent, isExponentText ('e' :: exponent) = true ∧
      (if power < 0 then "-" else if plus then "+" else "").toList ++ (toString power.natAbs).toList = exponent := by
    split_ifs
    · exact ⟨_, hminus, rfl⟩
    · exact ⟨_, hplus, rfl⟩
    · exact ⟨_, hplain, rfl⟩
  have htext : (scientific plus (d :: rest) power).toList =
      [d] ++ ((if rest.isEmpty then [] else '.' :: rest) ++ 'e' :: exponent) := by
    subst htail
    unfold scientific
    cases rest <;> simp
  rw [htext]
  cases hrest : rest with
  | nil => exact isUnsignedText_append hlead (by simp) hexponent
  | cons e rest' =>
    refine isUnsignedText_append hlead (by simp) (isFractionText_digits (fun c hc => ?_) (by simp) (by simp) hexponent)
    exact h.digits c (List.mem_cons_of_mem _ (hrest ▸ hc))

/-- Digits without their zeros at the end are not zero. -/
theorem strip_digits_ne_zero {d : Decimal} (h : d.digits ≠ 0) (fuel : Nat) : (d.strip fuel).digits ≠ 0 := by
  induction fuel generalizing d with
  | zero => exact h
  | succ fuel ih =>
    unfold strip
    split
    · exact ih (by dsimp only; omega)
    · exact h

theorem isUnsignedText_text (style : DecimalStyle) (d : Decimal) : isUnsignedText (d.text style).toList = true := by
  unfold text
  split
  · rfl
  · rename_i hd
    have hleading : Leading (Nat.toDigits 10 (d.strip (Double.digitCount d.digits)).digits) :=
      ⟨isDigit_toDigits, toDigits_lead (strip_digits_ne_zero hd _)⟩
    dsimp only
    split
    · exact isUnsignedText_positional hleading _
    · exact isUnsignedText_scientific hleading _ _

end Decimal

namespace Json

theorem isNumberText_unsigned {cs : List Char} (h : isUnsignedText cs = true) :
    isNumberText cs = true ∧ isNumberText ('-' :: cs) = true := by
  refine ⟨?_, h⟩
  unfold isNumberText
  split
  · simp [isUnsignedText] at h
  · exact h

end Json

/-- **Every written number is in the grammar.** -/
theorem Number.isNumberText_text (n : Number) : Json.isNumberText n.text.toList = true := by
  cases n with
  | int n =>
    have hnatural (n : Nat) : Json.isUnsignedText (toString n).toList = true := by
      show Json.isUnsignedText (String.ofList (Nat.toDigits 10 n)).toList = true
      rw [String.toList_ofList, ← List.append_nil (Nat.toDigits 10 n)]
      exact Json.isUnsignedText_append (Json.whole_toDigits n) (by simp) rfl
    cases n with
    | ofNat n => exact (Json.isNumberText_unsigned (hnatural n)).1
    | negSucc n =>
      have htext : (toString (Int.negSucc n)).toList = '-' :: (toString (n + 1)).toList := by
        show ("-" ++ toString (n + 1)).toList = _
        rw [String.toList_append]
        rfl
      show Json.isNumberText (toString (Int.negSucc n)).toList = true
      rw [htext]
      exact (Json.isNumberText_unsigned (hnatural (n + 1))).2
  | real x =>
    have hunsigned := Decimal.isUnsignedText_text Number.style x.shortest
    show Json.isNumberText (x.text Number.style).toList = true
    unfold Double.text
    rw [String.toList_append]
    split
    · exact (Json.isNumberText_unsigned hunsigned).2
    · exact (Json.isNumberText_unsigned hunsigned).1

/-! ## Strings -/

namespace Json

/-- What may stand between quotes: no quote, and a backslash only before another character. -/
inductive Quotable : List Char → Prop
  | nil : Quotable []
  | plain {c : Char} {cs : List Char} (hquote : c ≠ '"') (hslash : c ≠ '\\') (h : Quotable cs) : Quotable (c :: cs)
  | escape {c : Char} {cs : List Char} (h : Quotable cs) : Quotable ('\\' :: c :: cs)

theorem Quotable.append {cs ds : List Char} (hcs : Quotable cs) (hds : Quotable ds) : Quotable (cs ++ ds) := by
  induction hcs with
  | nil => exact hds
  | plain hquote hslash _ ih => exact .plain hquote hslash ih
  | escape _ ih => exact .escape ih

/-- The text of a string between its quotes. -/
def escaped (s : String) : List Char := s.toList.flatMap fun c => (escapeChar c).toList

theorem toList_quote (s : String) : (quote s).toList = '"' :: (escaped s ++ ['"']) := by
  unfold quote escaped
  rw [String.toList_append, String.toList_append, String.toList_join, List.flatMap_map]
  rfl

/-- The hexadecimal digits of a control. -/
theorem toList_hexByte (n : Nat) : (hexByte n).toList = [(n / 16).digitChar, (n % 16).digitChar] := by
  unfold hexByte
  rw [String.toList_ofList]

/-- The characters that are escaped by one character behind the backslash, and that one. -/
def shortEscapes : List (Char × Char) :=
  [('"', '"'), ('\\', '\\'), ('\x08', 'b'), ('\x0c', 'f'), ('\n', 'n'), ('\r', 'r'), ('\t', 't')]

/-- **How a character is written**: with a short escape, with its number if it is another control, or as it is. -/
theorem escapeChar_cases (c : Char) :
    (∃ d, (c, d) ∈ shortEscapes ∧ (escapeChar c).toList = ['\\', d]) ∨
    (c.toNat < 0x20 ∧ (escapeChar c).toList = '\\' :: 'u' :: '0' :: '0' :: (hexByte c.toNat).toList) ∨
    (c ≠ '"' ∧ c ≠ '\\' ∧ ¬ c.toNat < 0x20 ∧ (escapeChar c).toList = [c]) := by
  obtain ⟨s, hs⟩ : ∃ s, escapeChar c = s := ⟨_, rfl⟩
  rw [hs]
  unfold escapeChar at hs
  split_ifs at hs with hquote hslash hback hform hfeed hreturn htab hlow <;> subst hs
  · exact .inl ⟨'"', by simp [shortEscapes, hquote], rfl⟩
  · exact .inl ⟨'\\', by simp [shortEscapes, hslash], rfl⟩
  · exact .inl ⟨'b', by simp [shortEscapes, hback], rfl⟩
  · exact .inl ⟨'f', by simp [shortEscapes, hform], rfl⟩
  · exact .inl ⟨'n', by simp [shortEscapes, hfeed], rfl⟩
  · exact .inl ⟨'r', by simp [shortEscapes, hreturn], rfl⟩
  · exact .inl ⟨'t', by simp [shortEscapes, htab], rfl⟩
  · exact .inr (.inl ⟨hlow, String.toList_append⟩)
  · exact .inr (.inr ⟨hquote, hslash, hlow, String.toList_singleton c⟩)

theorem quotable_escapeChar (c : Char) : Quotable (escapeChar c).toList := by
  have hdigit : ∀ m < 16, m.digitChar ≠ '"' ∧ m.digitChar ≠ '\\' := by decide
  rcases escapeChar_cases c with ⟨d, -, htext⟩ | ⟨hlow, htext⟩ | ⟨hquote, hslash, -, htext⟩
  · rw [htext]
    exact .escape .nil
  · obtain ⟨hhigh, hhigh'⟩ := hdigit (c.toNat / 16) (by omega)
    obtain ⟨hlast, hlast'⟩ := hdigit (c.toNat % 16) (Nat.mod_lt _ (by decide))
    rw [htext, toList_hexByte]
    exact .escape (.plain (by decide) (by decide) (.plain (by decide) (by decide)
      (.plain hhigh hhigh' (.plain hlast hlast' .nil))))
  · rw [htext]
    exact .plain hquote hslash .nil

theorem quotable_escaped (s : String) : Quotable (escaped s) := by
  unfold escaped
  induction s.toList with
  | nil => exact .nil
  | cons c cs ih => exact (quotable_escapeChar c).append ih

/-- No character is without bytes. -/
theorem length_le_byteCount (cs : List Char) : cs.length ≤ Text.byteCount cs := by
  suffices hfrom : ∀ n, n + cs.length ≤ cs.foldl (fun n c => n + c.utf8Size) n by
    simpa [Text.byteCount] using hfrom 0
  induction cs with
  | nil => simp
  | cons c cs ih =>
    intro n
    have hpos := c.utf8Size_pos
    have hrest := ih (n + c.utf8Size)
    rw [List.length_cons, List.foldl_cons]
    omega

/-- The digits of a control are read as the control. -/
theorem readHex_hexByte {n : Nat} (hn : n < 0x20) (cs : List Char) :
    readHex ('0' :: '0' :: ((hexByte n).toList ++ cs)) = .ok (n, cs) := by
  have hvalue : ∀ m < 16, hexValue? m.digitChar = some m := by decide
  have hzero : hexValue? '0' = some 0 := by decide
  have hsize := length_le_byteCount ('0' :: '0' :: ((hexByte n).toList ++ cs))
  rw [toList_hexByte] at hsize ⊢
  have hlong : ¬ Text.byteCount ('0' :: '0' :: ([(n / 16).digitChar, (n % 16).digitChar] ++ cs)) < 4 := by
    simp only [List.length_cons, List.length_append] at hsize
    omega
  unfold readHex
  dsimp only
  rw [if_neg hlong]
  simp only [List.cons_append, List.nil_append, hzero, hvalue (n / 16) (by omega),
    hvalue (n % 16) (Nat.mod_lt _ (by decide))]
  have hdigits : 0 * 4096 + 0 * 256 + n / 16 * 16 + n % 16 = n := by omega
  rw [hdigits]

/-- One step of reading a string reads the escape of one character. -/
theorem readString_escapeChar (acc : List Char) (c : Char) (cs : List Char) (fuel : Nat) :
    readString acc ((escapeChar c).toList ++ cs) (fuel + 1) = readString (c :: acc) cs fuel := by
  rcases escapeChar_cases c with ⟨d, hd, htext⟩ | ⟨hlow, htext⟩ | ⟨hquote, hslash, hlow, htext⟩
  · have hread : readEscape (d :: cs) = .ok (c, cs) := by
      simp only [shortEscapes, List.mem_cons, Prod.mk.injEq, List.not_mem_nil, or_false] at hd
      rcases hd with ⟨rfl, rfl⟩ | ⟨rfl, rfl⟩ | ⟨rfl, rfl⟩ | ⟨rfl, rfl⟩ | ⟨rfl, rfl⟩ | ⟨rfl, rfl⟩ | ⟨rfl, rfl⟩ <;> rfl
    rw [htext, List.cons_append, List.singleton_append, readString, hread]
  · have hescape : readUnicodeEscape ('0' :: '0' :: ((hexByte c.toNat).toList ++ cs)) = .ok (c, cs) := by
      unfold readUnicodeEscape
      rw [readHex_hexByte hlow]
      dsimp only
      rw [if_neg (by omega), if_pos (by omega), Char.ofNat_toNat]
    have hread : readEscape ('u' :: '0' :: '0' :: ((hexByte c.toNat).toList ++ cs)) = .ok (c, cs) := hescape
    simp only [htext, List.cons_append]
    rw [readString, hread]
  · rw [htext, List.singleton_append]
    simp [readString, hlow]

/-- A written string is read up to its end. -/
theorem readString_escaped (s acc rest : List Char) {fuel : Nat} (hfuel : s.length < fuel) :
    readString acc (s.flatMap (fun c => (escapeChar c).toList) ++ '"' :: rest) fuel =
      .ok (String.ofList (acc.reverse ++ s), rest) := by
  induction s generalizing acc fuel with
  | nil =>
    obtain ⟨fuel, rfl⟩ := Nat.exists_eq_succ_of_ne_zero (Nat.ne_of_gt hfuel)
    rw [List.append_nil]
    rfl
  | cons c s ih =>
    obtain ⟨fuel, rfl⟩ := Nat.exists_eq_succ_of_ne_zero (Nat.ne_zero_of_lt hfuel)
    rw [List.flatMap_cons, List.append_assoc, readString_escapeChar, ih _ (Nat.lt_of_succ_lt_succ hfuel)]
    simp

theorem length_le_escaped (cs : List Char) : cs.length ≤ (cs.flatMap fun c => (escapeChar c).toList).length := by
  have hone (c : Char) : 1 ≤ (escapeChar c).toList.length := by
    rcases escapeChar_cases c with ⟨d, -, htext⟩ | ⟨-, htext⟩ | ⟨-, -, -, htext⟩ <;> simp [htext]
  induction cs with
  | nil => exact Nat.le_refl 0
  | cons c cs ih =>
    rw [List.flatMap_cons, List.length_append, List.length_cons]
    have := hone c
    omega

theorem readValue_quote (s : String) (depth fuel : Nat) :
    readValue depth ('"' :: (escaped s ++ ['"'])) (fuel + 1) = .ok (.str s, []) := by
  have hlength : s.toList.length < (escaped s ++ ['"']).length.succ := by
    have hle := length_le_escaped s.toList
    rw [List.length_append]
    exact Nat.lt_succ_of_le (hle.trans (Nat.le_add_right _ _))
  have hread : readString [] (escaped s ++ ['"']) (escaped s ++ ['"']).length.succ = .ok (s, []) := by
    refine (readString_escaped s.toList [] [] hlength).trans ?_
    simp
  have hspace : skipSpace ('"' :: (escaped s ++ ['"'])) = '"' :: (escaped s ++ ['"']) := by
    unfold skipSpace
    rw [List.dropWhile_cons_of_neg (by decide)]
  unfold readValue
  simp only [hspace, hread]
  rfl

/-- **A written string reads back.** -/
theorem parse_quote (s : String) : parse (quote s) = .ok (.str s) := by
  unfold parse
  simp only [toList_quote, readValue_quote]
  rfl

end Json

end TraitWeave
