import TraitWeave.Proofs.Decode.Stable

/-!
# One member of a record

The members of a record are sorted into its fields one after the other. What one member does to the record shows
when the members before it, and those behind it, are sorted by themselves.

* `Decode.Record.sortMembers_append`: the members in two parts.
* `Decode.Record.Simple.get?_of_mem`: no field of a record that was decoded has two members.
* `Decode.Record.decode_refused`: a member that its field refuses.
* `Decode.Record.decode_ignored`: a member that makes no difference.
-/

namespace TraitWeave.Decode.Record

variable {α β : Type} {r : Record α} {i : Nat} {rule : FieldRule} {v : Json} {e : Error}
  {slots slots' : List (Nat × Json)} {others before behind members : Table Json}

/-- **Members in two parts**: the second part is sorted after the first. -/
theorem sortMembers_append (r : Record α) (slots : List (Nat × Json)) (others before behind : Table Json) :
    r.sortMembers slots others (before ++ behind) =
      (r.sortMembers slots others before).bind fun out => r.sortMembers out.1 out.2 behind := by
  induction before generalizing slots others with
  | nil => rfl
  | cons p before ih =>
    obtain ⟨k, v⟩ := p
    simp only [List.cons_append, sortMembers]
    split
    · exact ih _ _
    · split
      · exact ih _ _
      · split
        · rfl
        · split
          · rfl
          · exact ih _ _

theorem any_eq_isSome (slots : List (Nat × Json)) (i : Nat) :
    slots.any (·.1 == i) = (slotOf slots i).isSome := by
  rw [slotOf, Option.isSome_map, List.isSome_find?]

/-! ## A member by itself -/

/-- A member of a field is sorted last. -/
theorem sortMembers_member (hi : r.Simple i rule) (hfree : slotOf slots i = none) :
    r.sortMembers slots others ((rule.name, v) :: members) =
      match rule.check v with
      | .error e => .error e
      | .ok _ => r.sortMembers (slots ++ [(i, v)]) others members := by
  rw [sortMembers, hi.first]
  dsimp only
  rw [hi.stands]
  dsimp only
  rw [any_eq_isSome, hfree]
  rfl

/-- The slot of a field is free as long as no member of its name has come. -/
theorem slotOf_eq_none (hi : r.Simple i rule) (hbefore : rule.name ∉ before.keys)
    (h : r.sortMembers [] [] before = .ok (slots, others)) : slotOf slots i = none := by
  rw [sortMembers_slotOf hi h]
  exact Table.get?_eq_none_of_not_mem hbefore

/-- **A field has one member at most**, where the members could be sorted. -/
theorem Simple.get?_of_mem (hi : r.Simple i rule) {out : List (Nat × Json) × Table Json}
    (h : r.sortMembers slots others members = .ok out) (hmem : (rule.name, v) ∈ members) :
    slotOf slots i = none ∧ members.get? rule.name = some v := by
  induction members generalizing slots others with
  | nil => cases hmem
  | cons p members ih =>
    obtain ⟨k, w⟩ := p
    rw [Table.get?_cons]
    rcases sortMembers_cons h with ⟨hk, h⟩ | ⟨j, hj, hfree, h⟩
    · have hne : k ≠ rule.name := by
        rintro rfl
        rw [hi.first] at hk
        cases hk
      have hmem : (rule.name, v) ∈ members := by simpa [Ne.symm hne] using hmem
      rw [if_neg hne]
      exact ih h hmem
    · by_cases hk : k = rule.name
      · obtain rfl : j = i := Option.some.inj (hj.symm.trans ((hi.position?_eq k).2 hk))
        refine ⟨hfree, ?_⟩
        rcases List.mem_cons.1 hmem with heq | hmem
        · rw [if_pos hk, (Prod.mk.inj heq).2]
        · -- a second member would find the slot taken
          have hnone := (ih h hmem).1
          rw [slotOf_concat, hfree] at hnone
          simp at hnone
      · have hmem : (rule.name, v) ∈ members := by simpa [Ne.symm hk] using hmem
        obtain ⟨hnone, hget⟩ := ih h hmem
        rw [slotOf_concat] at hnone
        exact ⟨(Option.or_eq_none_iff.1 hnone).1, by rw [if_neg hk]; exact hget⟩

theorem get?_of_mem (hi : r.Simple i rule) {label : String} {a : α} (h : r.decode label (.obj members) = .ok a)
    (hmem : (rule.name, v) ∈ members) : members.get? rule.name = some v := by
  obtain ⟨⟨b, extra⟩, hmembers, -⟩ := map_eq_ok.1 h
  obtain ⟨slots, hsort, -⟩ := ofMembers_eq_ok hmembers
  exact (hi.get?_of_mem hsort hmem).2

/-- **A member that its field refuses** is the first fault, unless the members before it have one. -/
theorem decode_refused (hi : r.Simple i rule) (hbefore : rule.name ∉ before.keys)
    (hcheck : rule.check v = .error e) (label : String) :
    r.decode label (.obj (before ++ (rule.name, v) :: behind)) = .error e ∨
      ∃ e', r.decode label (.obj (before ++ behind)) = .error e' ∧
        r.decode label (.obj (before ++ (rule.name, v) :: behind)) = .error e' := by
  simp only [decode, ofMembers, sortMembers_append]
  cases hsort : r.sortMembers [] [] before with
  | error e' => exact .inr ⟨e', rfl, rfl⟩
  | ok out =>
    left
    simp only [Except.bind, sortMembers_member hi (slotOf_eq_none hi hbefore hsort), hcheck]
    rfl

/-! ## A member that makes no difference -/

/-- Sorting goes the same way where only the slot of one field differs and no member is of that field. -/
theorem sortMembers_apart (others : Table Json) (hmembers : ∀ p ∈ members, r.position? p.1 ≠ some i)
    (h : ∀ j, j ≠ i → slotOf slots j = slotOf slots' j) :
    (∃ e, r.sortMembers slots others members = .error e ∧ r.sortMembers slots' others members = .error e) ∨
      ∃ out out' rest, r.sortMembers slots others members = .ok (out, rest) ∧
        r.sortMembers slots' others members = .ok (out', rest) ∧
        (∀ j, j ≠ i → slotOf out j = slotOf out' j) ∧
        slotOf out i = slotOf slots i ∧ slotOf out' i = slotOf slots' i := by
  induction members generalizing slots slots' others with
  | nil => exact .inr ⟨slots, slots', others, rfl, rfl, h, rfl, rfl⟩
  | cons p members ih =>
    obtain ⟨k, v⟩ := p
    obtain ⟨hk, hmembers⟩ := List.forall_mem_cons.1 hmembers
    unfold sortMembers
    cases hposition : r.position? k with
    | none => exact ih _ hmembers h
    | some j =>
      have hne : j ≠ i := fun hji => hk (hji ▸ hposition)
      dsimp only
      cases r.rules[j]? with
      | none => exact ih _ hmembers h
      | some rule =>
        dsimp only
        rw [any_eq_isSome, any_eq_isSome, h j hne]
        cases slotOf slots' j with
        | some w => exact .inl ⟨_, rfl, rfl⟩
        | none =>
          cases rule.check v with
          | error e => exact .inl ⟨e, rfl, rfl⟩
          | ok u =>
            -- the same slot is filled in both, and it is not that of the field
            have hnext : ∀ j', j' ≠ i → slotOf (slots ++ [(j, v)]) j' = slotOf (slots' ++ [(j, v)]) j' := by
              intro j' hj'
              rw [slotOf_concat, slotOf_concat, h j' hj']
            have hkept (s : List (Nat × Json)) : slotOf (s ++ [(j, v)]) i = slotOf s i := by
              rw [slotOf_concat, if_neg hne, Option.or_none]
            have hrest := ih others hmembers hnext
            rwa [hkept, hkept] at hrest

/-- **A member makes no difference** where its field takes it and the record is built as if the slot of the
field were free. -/
theorem decode_ignored (hi : r.Simple i rule) (hbefore : rule.name ∉ before.keys)
    (hbehind : rule.name ∉ behind.keys) (hcheck : rule.check v = .ok ())
    (hbuild : ∀ x y : Nat → Option Json, (∀ j, j ≠ i → x j = y j) → x i = some v → y i = none →
      r.build x = r.build y) (label : String) :
    r.decode label (.obj (before ++ (rule.name, v) :: behind)) = r.decode label (.obj (before ++ behind)) := by
  simp only [decode, ofMembers, sortMembers_append]
  cases hsort : r.sortMembers [] [] before with
  | error e => rfl
  | ok out =>
    obtain ⟨slots, others⟩ := out
    have hfree := slotOf_eq_none hi hbefore hsort
    have hmembers : ∀ p ∈ behind, r.position? p.1 ≠ some i := fun p hp hposition =>
      hbehind (List.mem_map.2 ⟨p, hp, (hi.position?_eq p.1).1 hposition⟩)
    have happart : ∀ j, j ≠ i → slotOf (slots ++ [(i, v)]) j = slotOf slots j := fun j hj => by
      rw [slotOf_concat, if_neg (Ne.symm hj), Option.or_none]
    simp only [Except.bind, sortMembers_member hi hfree, hcheck]
    -- from here on the slots differ in that of the field only
    rcases sortMembers_apart others hmembers happart with
      ⟨e, hone, hother⟩ | ⟨out, out', rest, hone, hother, hrest, hfilled, hempty⟩
    · rw [hone, hother]
    · have hslot : slotOf out i = some v := by rw [hfilled, slotOf_concat, hfree]; simp
      rw [hone, hother]
      dsimp only
      rw [hbuild _ _ hrest hslot (hempty.trans hfree)]

end TraitWeave.Decode.Record
