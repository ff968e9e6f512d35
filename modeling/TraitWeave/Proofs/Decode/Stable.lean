import TraitWeave.Decode.Record
import TraitWeave.Encode
import TraitWeave.Proofs.Table

/-!
# What was decoded can be written and decoded again

A decoder takes many spellings: the list form of a record, second names, null for nothing. What it gives is
written in one of them only, and is the same when that is decoded.

* `Decode.rel_of_eachMember`: a table that was decoded, name by name.
* `Decode.Stable`: a decoder gives again what is written of all that it gives.
* `Decode.FieldStable`: the same for a field of a record, which may be left out.
* `Decode.Record.sortMembers_cons`, `Decode.Record.sortMembers_slotOf`: what sorting the members of a record does.
* `Decode.Record.Written`: members, by position, from which a record is built.
* `Decode.Record.Keeps`: whatever a record is built from, it is written as members from which it is built.
* `Decode.Record.stable`, `Decode.Record.stableNamed`, `Decode.Record.stableOpen`: the three forms of records.
-/

namespace TraitWeave.Decode

variable {α β : Type}

theorem map_eq_ok {ε : Type} {x : Except ε α} {f : α → β} {b : β} :
    x.map f = .ok b ↔ ∃ a, x = .ok a ∧ f a = b := by
  cases x <;> simp [Except.map]

/-! ## What was read -/

theorem text_eq_ok {v : Json} {s : String} : text v = .ok s ↔ v = .str s := by
  cases v <;> simp [text, refuse]

section

variable {d : Decoder α}

theorem each_cons_eq_ok {v : Json} {vs : List Json} {as : List α} :
    each d (v :: vs) = .ok as ↔ ∃ b bs, d v = .ok b ∧ each d vs = .ok bs ∧ as = b :: bs := by
  rw [each]
  cases d v with
  | error e => simp
  | ok b => simp [map_eq_ok, @eq_comm _ as]

theorem eachMember_cons_eq_ok {k : String} {v : Json} {t : Table Json} {u : Table α} :
    eachMember d ((k, v) :: t) = .ok u ↔ ∃ b w, d v = .ok b ∧ eachMember d t = .ok w ∧ u = (k, b) :: w := by
  rw [eachMember]
  cases d v with
  | error e => simp
  | ok b => simp [map_eq_ok, @eq_comm _ u]

theorem each_value (vs : List Json) : each value vs = .ok vs := by
  induction vs with
  | nil => rfl
  | cons v vs ih => exact each_cons_eq_ok.2 ⟨v, vs, rfl, ih, rfl⟩

theorem list_value_eq_ok {v : Json} {vs : List Json} : list value v = .ok vs ↔ v = .arr vs := by
  cases v <;> simp [list, refuse, each_value]

/-- Every value of a table was decoded from the member of its name. -/
theorem mem_of_eachMember {t : Table Json} {u : Table α} (h : eachMember d t = .ok u) :
    ∀ p ∈ u, ∃ v, (p.1, v) ∈ t ∧ d v = .ok p.2 := by
  induction t generalizing u with
  | nil => cases h; simp
  | cons q t ih =>
    obtain ⟨b, w, hb, hw, rfl⟩ := eachMember_cons_eq_ok.1 h
    intro p hp
    rcases List.mem_cons.1 hp with rfl | hp
    · exact ⟨q.2, List.mem_cons_self, hb⟩
    · obtain ⟨v, hv, hd⟩ := ih hw p hp
      exact ⟨v, List.mem_cons_of_mem _ hv, hd⟩

theorem keys_of_eachMember {t : Table Json} {u : Table α} (h : eachMember d t = .ok u) : u.keys = t.keys := by
  induction t generalizing u with
  | nil => cases h; rfl
  | cons p t ih =>
    obtain ⟨a, w, -, hw, rfl⟩ := eachMember_cons_eq_ok.1 h
    exact congrArg (p.1 :: ·) (ih hw)

/-- Under each name there is what was decoded from the member of this name. -/
theorem rel_of_eachMember {t : Table Json} {u : Table α} (h : eachMember d t = .ok u) (k : String) :
    Option.Rel (fun v a => d v = .ok a) (t.get? k) (u.get? k) := by
  induction t generalizing u with
  | nil => cases h; exact .none
  | cons p t ih =>
    obtain ⟨a, w, ha, hw, rfl⟩ := eachMember_cons_eq_ok.1 h
    rw [Table.get?_cons, Table.get?_cons]
    split
    · exact .some ha
    · exact ih hw

end

/-! ## Stable decoders -/

/-- **What is decoded is decoded again** from what is written of it. Null is written for null only. -/
structure Stable (d : Decoder α) (encode : α → Json) : Prop where
  again : ∀ v a, d v = .ok a → d (encode a) = .ok a
  solid : ∀ v a, d v = .ok a → v ≠ .null → encode a ≠ .null

section

variable {d : Decoder α} {encode : α → Json}

theorem stable_value : Stable value id where
  again _ _ _ := rfl
  solid v a h hv := by cases h; exact hv

theorem stable_text : Stable text .str where
  again _ _ _ := rfl
  solid _ _ _ _ := by simp

theorem stable_flag : Stable flag .bool where
  again _ _ _ := rfl
  solid _ _ _ _ := by simp

theorem stable_real : Stable real Encode.real where
  again _ _ _ := rfl
  solid _ _ _ _ := by simp [Encode.real]

theorem stable_natural : Stable natural Encode.natural where
  again _ _ _ := by simp [natural, Encode.natural]
  solid _ _ _ _ := by simp [Encode.natural]

/-- A name stands for one value of an enumeration. -/
theorem stable_variant {cases : List (String × α)} {name : α → String}
    (h : ∀ a, Table.get? cases (name a) = some a) : Stable (variant cases) fun a => .str (name a) where
  again _ a _ := by simp [variant, variantNamed, h a]
  solid _ _ _ _ := by simp

theorem each_again (h : Stable d encode) {vs : List Json} {as : List α} (hd : each d vs = .ok as) :
    each d (as.map encode) = .ok as := by
  induction vs generalizing as with
  | nil => cases hd; rfl
  | cons v vs ih =>
    obtain ⟨b, bs, hb, hbs, rfl⟩ := each_cons_eq_ok.1 hd
    exact each_cons_eq_ok.2 ⟨b, bs, h.again v b hb, ih hbs, rfl⟩

theorem Stable.list (h : Stable d encode) : Stable (list d) fun as => .arr (as.map encode) where
  again v as hd := by
    cases v with
    | arr vs => exact each_again h hd
    | _ => cases hd
  solid _ _ _ _ := by simp

theorem eachMember_again (h : Stable d encode) {t : Table Json} {u : Table α}
    (hd : eachMember d t = .ok u) : eachMember d (u.mapValues encode) = .ok u := by
  induction t generalizing u with
  | nil => cases hd; rfl
  | cons p t ih =>
    obtain ⟨b, w, hb, hw, rfl⟩ := eachMember_cons_eq_ok.1 hd
    exact eachMember_cons_eq_ok.2 ⟨b, w, h.again p.2 b hb, ih hw, rfl⟩

theorem Stable.table (h : Stable d encode) : Stable (table d) fun t => .obj (t.mapValues encode) where
  again v t hd := by
    cases v with
    | obj ms => exact eachMember_again h hd
    | _ => cases hd
  solid _ _ _ _ := by simp

/-- Items and values that are kept as they are. -/
theorem stable_values : Stable (list value) .arr := by
  simpa using stable_value.list

theorem stable_members : Stable (table value) .obj := by
  simpa [Table.mapValues] using stable_value.table

end

/-- Of two decoders the second counts where the first one refuses. -/
theorem firstOf_eq_ok {enum : String} {short long : Decoder α} {v : Json} {a : α} :
    firstOf enum [short, long] v = .ok a ↔
      short v = .ok a ∨ (∃ e, short v = .error e) ∧ long v = .ok a := by
  unfold firstOf
  cases hs : short v with
  | ok b => simp [hs, Except.toOption]
  | error e => cases hl : long v <;> simp [hs, hl, Except.toOption]

/-- A choice is stable if its short form is written so that it is read again, and its long form is stable and
never taken for the short one. -/
theorem stable_firstOf {enum : String} {short long : Decoder α} {encode : α → Json}
    (hshort : ∀ v a, short v = .ok a → firstOf enum [short, long] (encode a) = .ok a)
    (hlong : Stable long encode) (hrefused : ∀ v a, long v = .ok a → ∃ e, short (encode a) = .error e)
    (hsolid : ∀ a, encode a ≠ .null) : Stable (firstOf enum [short, long]) encode where
  again v a hv := by
    rcases firstOf_eq_ok.1 hv with hv | ⟨-, hv⟩
    · exact hshort v a hv
    · exact firstOf_eq_ok.2 (.inr ⟨hrefused v a hv, hlong.again v a hv⟩)
  solid _ a _ _ := hsolid a

/-! ## Fields -/

/-- A field with this decoder and fallback has the value `b` where its slot holds this. -/
def Reads (d : Decoder β) (fallback : Option β) : Option Json → β → Prop
  | some v, b => d v = .ok b
  | none, b => fallback = some b

/-- Null is read as nothing, so something comes from another value. -/
theorem reads_some {d : Decoder β} {x : Option Json} {b : β} (h : Reads (option d) (some none) x (some b)) :
    ∃ v, x = some v ∧ v ≠ .null ∧ d v = .ok b := by
  cases x with
  | none => simp [Reads] at h
  | some v =>
    simp only [Reads, option] at h
    split at h
    · cases h
    · rename_i hnull
      obtain ⟨a, ha, hab⟩ := map_eq_ok.1 h
      exact ⟨v, rfl, hnull, Option.some.inj hab ▸ ha⟩

/-- What is kept as it is, unless it is null. -/
theorem eq_some_of_reads {x o : Option Json} (h : Reads (option value) (some none) x o) (w : Json) :
    o = some w ↔ x = some w ∧ w ≠ .null := by
  constructor
  · rintro rfl
    obtain ⟨v, rfl, hnull, hv⟩ := reads_some h
    cases hv
    exact ⟨rfl, hnull⟩
  · rintro ⟨rfl, hnull⟩
    cases w with
    | null => exact absurd rfl hnull
    | _ => cases h; rfl

theorem reads_none {d : Decoder β} {x : Option Json} {b : β} :
    Reads d none x b ↔ ∃ v, x = some v ∧ d v = .ok b := by
  cases x <;> simp [Reads]

/-- **A field is stable** if what is written of each value that it can have is read as that value, and under
its name. -/
def FieldStable (name : String) (d : Decoder β) (fallback : Option β)
    (write : β → Option (String × Json)) : Prop :=
  ∀ x b, Reads d fallback x b →
    (∀ p ∈ write b, p.1 = name) ∧ Reads d fallback ((write b).map Prod.snd) b

section

variable {d : Decoder β} {encode : β → Json} {name : String}

theorem Stable.required (h : Stable d encode) :
    FieldStable name d none fun b => Encode.always name (encode b) := by
  intro x b hb
  refine ⟨by simp [Encode.always], ?_⟩
  cases x with
  | none => simp [Reads] at hb
  | some v => exact h.again v b hb

/-- A field that is always written, also where it has its fallback. -/
theorem Stable.always (h : Stable d encode) {fallback : β} (hfallback : d (encode fallback) = .ok fallback) :
    FieldStable name d (some fallback) fun b => Encode.always name (encode b) := by
  intro x b hb
  refine ⟨by simp [Encode.always], ?_⟩
  cases x with
  | none => cases hb; exact hfallback
  | some v => exact h.again v b hb

theorem Stable.some? (h : Stable d encode) :
    FieldStable name (option d) (some none) (Encode.some? name encode) := by
  intro x o ho
  cases o with
  | none => exact ⟨by simp [Encode.some?], rfl⟩
  | some b =>
    obtain ⟨v, -, hnull, hv⟩ := reads_some ho
    refine ⟨by simp [Encode.some?], ?_⟩
    change option d (encode b) = .ok (some b)
    unfold option
    split
    · rename_i he; exact absurd he (h.solid v b hv hnull)
    · rw [h.again v b hv]; rfl

theorem Stable.nonEmpty {d : Decoder (List α)} {encode : List α → Json} (h : Stable d encode) :
    FieldStable name d (some []) (Encode.nonEmpty name encode) := by
  intro x as has
  cases as with
  | nil => exact ⟨by simp [Encode.nonEmpty], rfl⟩
  | cons a as =>
    refine ⟨by simp [Encode.nonEmpty], ?_⟩
    cases x with
    | none => simp [Reads] at has
    | some v => exact h.again v _ has

theorem fieldStable_whenTrue : FieldStable name flag (some false) (Encode.whenTrue name) := by
  intro x b _
  cases b <;> exact ⟨by simp [Encode.whenTrue], rfl⟩

end

/-! ## Records -/

namespace Record

/-- The slots that members fill, the first of them the one at `start`. -/
def filled (start : Nat) : List (Option (String × Json)) → List (Nat × Json)
  | [] => []
  | none :: ms => filled (start + 1) ms
  | some (_, v) :: ms => (start, v) :: filled (start + 1) ms

/-- **The record is built from these members**, of which each stands at the position of its field. -/
structure Written (r : Record α) (ms : List (Option (String × Json))) (a : α) : Prop where
  length : ms.length = r.rules.length
  fits : ∀ i k v, ms[i]? = some (some (k, v)) →
    r.position? k = some i ∧ ∃ rule, r.rules[i]? = some rule ∧ rule.check v = .ok ()
  builds : ∀ slots, (∀ i < r.rules.length, slots i = (ms[i]?.join).map Prod.snd) →
    r.build slots = .ok a

/-- **Whatever slots the record is built from**, `P` holds of them and of the record. -/
def Builds (r : Record α) (P : (Nat → Option Json) → α → Prop) : Prop :=
  ∀ slots a, r.build slots = .ok a → P slots a

/-- **Whatever the record is built from**, it is written as members from which it is built, and `Q` holds of
the two. -/
def Keeps (r : Record α) (Q : α → List (Option (String × Json)) → Prop) : Prop :=
  r.Builds fun _ a => ∃ ms, r.Written ms a ∧ Q a ms

variable {r : Record α} {ms : List (Option (String × Json))} {a : α}

/-- Slots before the first one are free. -/
theorem slotOf_filled_before {start i : Nat} (h : i < start) (ms : List (Option (String × Json))) :
    slotOf (filled start ms) i = none := by
  induction ms generalizing start with
  | nil => rfl
  | cons m ms ih =>
    have hrest := ih (Nat.lt_succ_of_lt h)
    cases m with
    | none => exact hrest
    | some p =>
      have hne : (start == i) = false := beq_eq_false_iff_ne.2 (Nat.ne_of_gt h)
      simpa [filled, slotOf, hne] using hrest

theorem slotOf_filled (start i : Nat) (ms : List (Option (String × Json))) :
    slotOf (filled start ms) (start + i) = (ms[i]?.join).map Prod.snd := by
  induction ms generalizing start i with
  | nil => simp [filled, slotOf]
  | cons m ms ih =>
    cases i with
    | zero =>
      cases m with
      | none => simpa [filled] using slotOf_filled_before (Nat.lt_succ_self start) ms
      | some p => simp [filled, slotOf]
    | succ i =>
      have hnext := ih (start + 1) i
      rw [show start + 1 + i = start + (i + 1) by omega] at hnext
      cases m with
      | none => simpa [filled] using hnext
      | some p =>
        have hne : (start == start + (i + 1)) = false := by simp
        simpa [filled, slotOf, hne] using hnext

/-- Members that no rule knows are put after the others, in their order. -/
theorem sortMembers_unknown {extra : Table Json} (hextra : ∀ p ∈ extra, r.position? p.1 = none)
    (slots : List (Nat × Json)) (others : Table Json) :
    r.sortMembers slots others extra = .ok (slots, others ++ extra) := by
  induction extra generalizing others with
  | nil => simp [sortMembers]
  | cons p extra ih =>
    rw [sortMembers, hextra p List.mem_cons_self]
    dsimp only
    rw [ih (fun q hq => hextra q (List.mem_cons_of_mem _ hq)), List.append_assoc]
    rfl

/-- Members that stand at their positions are sorted into them; the others come after. -/
theorem sortMembers_filled (extra : Table Json) (hextra : ∀ p ∈ extra, r.position? p.1 = none) :
    ∀ (ms : List (Option (String × Json))) (start : Nat) (slots : List (Nat × Json)),
      (∀ s ∈ slots, s.1 < start) →
      (∀ i k v, ms[i]? = some (some (k, v)) → r.position? k = some (start + i) ∧
        ∃ rule, r.rules[start + i]? = some rule ∧ rule.check v = .ok ()) →
      r.sortMembers slots [] (ms.filterMap id ++ extra) = .ok (slots ++ filled start ms, extra) := by
  intro ms
  induction ms with
  | nil => intro start slots _ _; simpa [filled] using sortMembers_unknown hextra slots []
  | cons m ms ih =>
    intro start slots hslots hfits
    have hrest : ∀ i k v, ms[i]? = some (some (k, v)) → r.position? k = some (start + 1 + i) ∧
        ∃ rule, r.rules[start + 1 + i]? = some rule ∧ rule.check v = .ok () := by
      intro i k v hi
      rw [show start + 1 + i = start + (i + 1) by omega]
      exact hfits (i + 1) k v (by simpa using hi)
    cases m with
    | none => exact ih (start + 1) slots (fun s hs => Nat.lt_succ_of_lt (hslots s hs)) hrest
    | some p =>
      obtain ⟨k, v⟩ := p
      obtain ⟨hposition, rule, hrule, hcheck⟩ := hfits 0 k v rfl
      rw [Nat.add_zero] at hposition hrule
      have hfree : slots.any (·.1 == start) = false := by
        rw [List.any_eq_false]
        intro s hs
        simpa using Nat.ne_of_lt (hslots s hs)
      -- the member fills the next slot, which is free since all before it have smaller positions
      have hslots' : ∀ s ∈ slots ++ [(start, v)], s.1 < start + 1 := by
        intro s hs
        rcases List.mem_append.1 hs with hs | hs
        · exact Nat.lt_succ_of_lt (hslots s hs)
        · rw [List.mem_singleton.1 hs]; exact Nat.lt_succ_self _
      change r.sortMembers slots [] ((k, v) :: (ms.filterMap id ++ extra)) = _
      simp only [sortMembers, hposition, hrule, hfree, hcheck, Bool.false_eq_true, if_false]
      rw [ih (start + 1) _ hslots' hrest, List.append_assoc]
      rfl

/-- **The members of a record, then others,** give the record and the others. -/
theorem Written.ofMembers (h : r.Written ms a) (extra : Table Json)
    (hextra : ∀ p ∈ extra, r.position? p.1 = none) :
    r.ofMembers (ms.filterMap id ++ extra) = .ok (a, extra) := by
  unfold Record.ofMembers
  rw [sortMembers_filled extra hextra ms 0 [] (by simp) (by simpa using h.fits), List.nil_append]
  dsimp only
  rw [h.builds _ fun i _ => by simpa using slotOf_filled 0 i ms]
  rfl

/-- **What sorting does with one member**: it belongs to no field, or fills the free slot of its field. -/
theorem sortMembers_cons {k : String} {v : Json} {slots : List (Nat × Json)} {others members : Table Json}
    {out : List (Nat × Json) × Table Json} (h : r.sortMembers slots others ((k, v) :: members) = .ok out) :
    (r.position? k = none ∧ r.sortMembers slots (others ++ [(k, v)]) members = .ok out) ∨
      ∃ i, r.position? k = some i ∧ slotOf slots i = none ∧
        r.sortMembers (slots ++ [(i, v)]) others members = .ok out := by
  unfold sortMembers at h
  split at h
  · exact .inl ⟨‹_›, h⟩
  · rename_i i hi
    split at h
    · rename_i hrule
      obtain ⟨hlt, -⟩ := List.findIdx?_eq_some_iff_getElem.1 hi
      exact absurd hlt (Nat.not_lt.2 (List.getElem?_eq_none_iff.1 hrule))
    · split at h
      · cases h
      · rename_i hfree
        split at h
        · cases h
        · have hnone : slotOf slots i = none := Option.map_eq_none_iff.2 <|
            List.find?_eq_none.2 fun s hs he => hfree (List.any_eq_true.2 ⟨s, hs, he⟩)
          exact .inr ⟨i, hi, hnone, h⟩

/-- What is left over after sorting belongs to no field. -/
theorem sortMembers_others {slots slots' : List (Nat × Json)} {others others' members : Table Json}
    (hothers : ∀ p ∈ others, r.position? p.1 = none)
    (h : r.sortMembers slots others members = .ok (slots', others')) :
    ∀ p ∈ others', r.position? p.1 = none := by
  induction members generalizing slots others with
  | nil => cases h; exact hothers
  | cons p members ih =>
    rcases sortMembers_cons h with ⟨hk, h⟩ | ⟨i, -, -, h⟩
    · refine ih (fun q hq => ?_) h
      rcases List.mem_append.1 hq with hq | hq
      · exact hothers q hq
      · rw [List.mem_singleton.1 hq]; exact hk
    · exact ih hothers h

/-- What members give was built from some slots. -/
theorem ofMembers_eq_ok {members extra : Table Json} (h : r.ofMembers members = .ok (a, extra)) :
    ∃ slots, r.sortMembers [] [] members = .ok (slots, extra) ∧ r.build (slotOf slots) = .ok a := by
  unfold Record.ofMembers at h
  split at h
  · cases h
  · rename_i slots others hsort
    obtain ⟨b, hb, he⟩ := map_eq_ok.1 h
    obtain ⟨rfl, rfl⟩ := Prod.mk.inj he
    exact ⟨slots, hsort, hb⟩

/-- A field without other names, found under its own. -/
structure Simple (r : Record α) (i : Nat) (rule : FieldRule) : Prop where
  stands : r.rules[i]? = some rule
  aliases : rule.aliases = []
  first : r.position? rule.name = some i

theorem Simple.position?_eq {i : Nat} {rule : FieldRule} (h : r.Simple i rule) (k : String) :
    r.position? k = some i ↔ k = rule.name := by
  constructor
  · intro hk
    obtain ⟨hi, hanswers, -⟩ := List.findIdx?_eq_some_iff_getElem.1 hk
    have hrule := h.stands
    rw [List.getElem?_eq_getElem hi, Option.some.injEq] at hrule
    rw [hrule, FieldRule.answersTo, h.aliases] at hanswers
    simp only [List.contains_nil, Bool.or_false, beq_iff_eq] at hanswers
    exact hanswers.symm
  · rintro rfl; exact h.first

theorem slotOf_concat (slots : List (Nat × Json)) (i j : Nat) (v : Json) :
    slotOf (slots ++ [(j, v)]) i = (slotOf slots i).or (if j = i then some v else none) := by
  simp only [slotOf, List.find?_append, Option.map_or]
  by_cases hji : j = i <;> simp [hji]

/-- **A slot holds what the member of its name holds**, if no other name leads to it. -/
theorem sortMembers_slotOf {i : Nat} {rule : FieldRule} (hi : r.Simple i rule)
    {members extra : Table Json} {slots : List (Nat × Json)}
    (h : r.sortMembers [] [] members = .ok (slots, extra)) :
    slotOf slots i = members.get? rule.name := by
  suffices hrun : ∀ (members : Table Json) (before : List (Nat × Json)) (others : Table Json),
      r.sortMembers before others members = .ok (slots, extra) →
        slotOf slots i = (slotOf before i).or (members.get? rule.name) by
    simpa [slotOf] using hrun members [] [] h
  intro members
  induction members with
  | nil =>
    intro before others h
    cases h
    simp [Table.get?]
  | cons p members ih =>
    obtain ⟨k, v⟩ := p
    intro before others h
    unfold Table.get?
    rcases sortMembers_cons h with ⟨hk, h⟩ | ⟨j, hj, hfree, h⟩
    · have hne : k ≠ rule.name := fun he => by
        rw [he, hi.first] at hk
        cases hk
      rw [if_neg hne]
      exact ih _ _ h
    · rw [ih _ _ h, slotOf_concat]
      by_cases hk : k = rule.name
      · -- the slot of the field is filled here, and was free before
        obtain rfl : j = i := Option.some.inj (hj.symm.trans ((hi.position?_eq k).2 hk))
        simp [hk, hfree]
      · have hne : j ≠ i := fun hji => hk ((hi.position?_eq k).1 (hji ▸ hj))
        simp [hk, hne]

/-! ### Field by field -/

theorem build_field_eq_ok {r : Record (β → α)} {name : String} {aliases : List String} {d : Decoder β}
    {fallback : Option β} {slots : Nat → Option Json} :
    (r.field name aliases d fallback).build slots = .ok a ↔
      ∃ f b, r.build slots = .ok f ∧ Reads d fallback (slots r.rules.length) b ∧ a = f b := by
  simp only [Record.field]
  cases hf : r.build slots with
  | error e => simp
  | ok f =>
    cases hv : slots r.rules.length with
    | none => cases fallback <;> simp [Reads, eq_comm]
    | some v => cases hd : d v <;> simp [Reads, hd, Except.map, eq_comm]

theorem position?_field {r : Record (β → α)} (name : String) (aliases : List String) (d : Decoder β)
    (fallback : Option β) (k : String) :
    (r.field name aliases d fallback).position? k =
      (r.position? k).or (if name == k || aliases.contains k then some r.rules.length else none) := by
  simp only [position?, Record.field, List.findIdx?_append, List.findIdx?_singleton,
    FieldRule.answersTo]
  split <;> simp

/-- One more field, under a new name. -/
theorem Written.concat {r : Record (β → α)} {f : β → α} (h : r.Written ms f) {name : String}
    {aliases : List String} {d : Decoder β} {fallback : Option β} {b : β} {m : Option (String × Json)}
    (hnew : r.position? name = none) (hname : ∀ p ∈ m, p.1 = name)
    (hreads : Reads d fallback (m.map Prod.snd) b) :
    (r.field name aliases d fallback).Written (ms ++ [m]) (f b) where
  length := by simp [Record.field, h.length]
  fits i k v hi := by
    rw [position?_field]
    -- the member of a field that was there, or of the new one
    rcases Nat.lt_trichotomy i ms.length with hlt | heq | hgt
    · rw [List.getElem?_append_left hlt] at hi
      obtain ⟨hposition, rule, hrule, hcheck⟩ := h.fits i k v hi
      refine ⟨by simp [hposition], rule, ?_, hcheck⟩
      exact (List.getElem?_append_left (h.length ▸ hlt)).trans hrule
    · subst heq
      obtain rfl : m = some (k, v) := by simpa using hi
      obtain rfl := hname (k, v) rfl
      refine ⟨by simp [hnew, h.length],
        ⟨k, aliases, fallback.isNone, fun v => (d v).map fun _ => ()⟩, ?_, ?_⟩
      · rw [h.length]; exact List.getElem?_concat_length
      · simp only [Reads, Option.map_some] at hreads
        simp [hreads, Except.map]
    · rw [List.getElem?_eq_none (by simp; omega)] at hi
      cases hi
  builds slots hslots := by
    have hlength : (r.field name aliases d fallback).rules.length = r.rules.length + 1 := by
      simp [Record.field]
    rw [hlength] at hslots
    refine build_field_eq_ok.2 ⟨f, b, h.builds slots fun i hi => ?_, ?_, rfl⟩
    · rw [hslots i (by omega), List.getElem?_append_left (h.length ▸ hi)]
    · rw [hslots _ (Nat.lt_succ_self _), ← h.length, List.getElem?_concat_length]
      exact hreads

theorem Builds.start {P : (Nat → Option Json) → α → Prop} (h : ∀ slots, P slots a) :
    (Record.start a).Builds P := by
  intro slots b hb
  cases hb
  exact h slots

theorem Builds.field {r : Record (β → α)} {P : (Nat → Option Json) → α → Prop} {name : String}
    {aliases : List String} {d : Decoder β} {fallback : Option β}
    (h : r.Builds fun slots f => ∀ b, Reads d fallback (slots r.rules.length) b → P slots (f b)) :
    (r.field name aliases d fallback).Builds P := by
  intro slots a ha
  obtain ⟨f, b, hf, hb, rfl⟩ := build_field_eq_ok.1 ha
  exact h slots f hf b hb

theorem Keeps.start {Q : α → List (Option (String × Json)) → Prop} (h : Q a []) :
    (Record.start a).Keeps Q :=
  Builds.start fun _ => ⟨[], ⟨rfl, by simp, fun _ _ => rfl⟩, h⟩

/-- The last field keeps its value if it is stable and its name is new. -/
theorem Keeps.field {r : Record (β → α)} {Q : α → List (Option (String × Json)) → Prop}
    {name : String} {aliases : List String} {d : Decoder β} {fallback : Option β}
    {write : β → Option (String × Json)}
    (h : r.Keeps fun f ms => ∀ b, Q (f b) (ms ++ [write b]))
    (hfield : FieldStable name d fallback write) (hnew : r.position? name = none) :
    (r.field name aliases d fallback).Keeps Q := by
  intro slots a ha
  obtain ⟨f, b, hf, hb, rfl⟩ := build_field_eq_ok.1 ha
  obtain ⟨ms, hms, hQ⟩ := h slots f hf
  obtain ⟨hname, hreads⟩ := hfield _ b hb
  exact ⟨ms ++ [write b], hms.concat hnew hname hreads, hQ b⟩

/-! ### The forms of a record -/

theorem decode_eq_ok {label : String} {v : Json} (h : r.decode label v = .ok a) :
    ∃ slots, r.build slots = .ok a := by
  cases v with
  | obj members =>
    obtain ⟨⟨b, extra⟩, hm, rfl⟩ := map_eq_ok.1 h
    obtain ⟨slots, -, hbuild⟩ := ofMembers_eq_ok hm
    exact ⟨_, hbuild⟩
  | arr items =>
    simp only [decode, ofItems] at h
    split at h
    · cases h
    · split at h
      · cases h
      · exact ⟨_, h⟩
  | _ => cases h

/-- What is decoded from members is built from slots that hold them. -/
theorem Builds.of_members {P : (Nat → Option Json) → α → Prop} (h : r.Builds P) {label : String}
    {members : Table Json} (hd : r.decode label (.obj members) = .ok a) :
    ∃ slots, (∀ i rule, r.Simple i rule → slots i = members.get? rule.name) ∧ P slots a := by
  obtain ⟨⟨b, extra⟩, hm, rfl⟩ := map_eq_ok.1 hd
  obtain ⟨slots, hsort, hbuild⟩ := ofMembers_eq_ok hm
  exact ⟨slotOf slots, fun i rule hi => sortMembers_slotOf hi hsort, h _ _ hbuild⟩

theorem decodeNamed_eq_decode {label : String} {v : Json} (h : r.decodeNamed label v = .ok a) :
    r.decode label v = .ok a := by
  cases v with
  | obj members => exact h
  | _ => cases h

theorem Written.decode (h : r.Written ms a) (label : String) :
    r.decodeNamed label (Encode.record ms) = .ok a ∧ r.decode label (Encode.record ms) = .ok a := by
  have hmembers := h.ofMembers [] (by simp)
  rw [List.append_nil] at hmembers
  have hmap : (r.ofMembers (ms.filterMap id)).map Prod.fst = .ok a := by rw [hmembers]; rfl
  exact ⟨hmap, hmap⟩

variable {encode : α → Json}

/-- **A record whose fields are stable is stable.** -/
theorem stable (h : r.Keeps fun a ms => encode a = Encode.record ms) (label : String) :
    Stable (r.decode label) encode where
  again v a hv := by
    obtain ⟨slots, hslots⟩ := decode_eq_ok hv
    obtain ⟨ms, hms, hencode⟩ := h slots a hslots
    rw [hencode]
    exact (hms.decode label).2
  solid v a hv _ := by
    obtain ⟨slots, hslots⟩ := decode_eq_ok hv
    obtain ⟨ms, -, hencode⟩ := h slots a hslots
    simp [hencode, Encode.record]

theorem stableNamed (h : r.Keeps fun a ms => encode a = Encode.record ms) (label : String) :
    Stable (r.decodeNamed label) encode where
  again v a hv := by
    obtain ⟨slots, hslots⟩ := decode_eq_ok (decodeNamed_eq_decode hv)
    obtain ⟨ms, hms, hencode⟩ := h slots a hslots
    rw [hencode]
    exact (hms.decode label).1
  solid v a hv := (stable h label).solid v a (decodeNamed_eq_decode hv)

/-- **A record with further attributes is stable**: they come after its fields, in their order. -/
theorem stableOpen {r : Record β} {extend : β → Table Json → α}
    (h : r.Keeps fun b ms => ∀ extra, encode (extend b extra) = .obj (ms.filterMap id ++ extra))
    (label : String) : Stable (r.decodeOpen label extend) encode := by
  have hwritten : ∀ v a, r.decodeOpen label extend v = .ok a → ∃ (b : β)
      (ms : List (Option (String × Json))) (extra : Table Json), a = extend b extra ∧
      encode a = .obj (ms.filterMap id ++ extra) ∧
      r.ofMembers (ms.filterMap id ++ extra) = .ok (b, extra) := by
    intro v a hv
    cases v with
    | obj members =>
      obtain ⟨⟨b, extra⟩, hm, rfl⟩ := map_eq_ok.1 hv
      obtain ⟨slots, hsort, hbuild⟩ := ofMembers_eq_ok hm
      obtain ⟨ms, hms, hencode⟩ := h _ b hbuild
      exact ⟨b, ms, extra, rfl, hencode extra, hms.ofMembers extra (sortMembers_others (by simp) hsort)⟩
    | _ => cases hv
  refine ⟨fun v a hv => ?_, fun v a hv _ => ?_⟩
  · obtain ⟨b, ms, extra, rfl, hencode, hagain⟩ := hwritten v a hv
    rw [hencode]
    change (r.ofMembers (ms.filterMap id ++ extra)).map _ = _
    rw [hagain]
    rfl
  · obtain ⟨b, ms, extra, -, hencode, -⟩ := hwritten v a hv
    simp [hencode]

end Record

end TraitWeave.Decode
