import TraitWeave.Table
import Mathlib.Data.List.Induction
import Mathlib.Data.List.Nodup
import Mathlib.Data.List.Perm.Basic

/-!
# Tables behave as maps

* `Table.get?_put`, `Table.get?_place`, `Table.get?_erase`: what is found after each change.
* `Table.keys_put`: the order in which the names stand; `Table.put_erase`: where a value is put; `Table.perm_put`: its
  entry and the others.
* `Table.get?_putAll`, `Table.keys_ofPairs`: what pairs give that are put one after the other.
* `Table.lay`: a table put over another; `Table.get?_lay`, `Table.keys_lay`: what it has, and the order of the names.
* `Table.ext`: a table is determined by the order of its names and by what each has.
* `Table.grouped`: values sorted by name; `Table.keys_grouped`, `Table.get?_grouped`: the names, and what each has;
  `Table.perm_flatMap_grouped`: where the order of the values does not matter.
* `Table.Rising`: the names rise, as `place` keeps them and sorting leaves them; such tables with the same names list
  them alike.
* `Table.length_place`, `Table.length_erase`: how the number of entries changes.
-/

namespace TraitWeave.Table

variable {α β : Type} {op : α → α → α} {t u : Table α} {k k' : String} {v : α}

/-! ## What is found -/

@[simp] theorem get?_nil (k : String) : get? ([] : Table α) k = none := rfl

theorem get?_cons (p : String × α) (t : Table α) (k : String) :
    get? (p :: t) k = if p.1 = k then some p.2 else get? t k := rfl

theorem get?_put (t : Table α) (k k' : String) (v : α) :
    (t.put k v).get? k' = if k = k' then some v else t.get? k' := by
  induction t with
  | nil => simp [put, get?_cons]
  | cons p t ih =>
    obtain ⟨j, w⟩ := p
    unfold put
    by_cases hj : j = k
    · subst hj; by_cases h : j = k' <;> simp [get?_cons, h]
    · simp only [if_neg hj, get?_cons, ih]
      by_cases h : j = k'
      · have : k ≠ k' := fun hk => hj (h.trans hk.symm)
        simp [h, this]
      · simp [h]

theorem get?_place (t : Table α) (k k' : String) (v : α) :
    (t.place k v).get? k' = if k = k' then some v else t.get? k' := by
  induction t with
  | nil => simp [place, get?_cons]
  | cons p t ih =>
    obtain ⟨j, w⟩ := p
    unfold place
    split
    · simp [get?_cons]
    · split
      · rename_i hk; subst hk
        by_cases h : k = k' <;> simp [get?_cons, h]
      · rename_i hk
        simp only [get?_cons, ih]
        by_cases h : j = k'
        · have : k ≠ k' := fun hk' => hk (hk'.trans h.symm)
          simp [h, this]
        · simp [h]

theorem get?_erase (t : Table α) (k k' : String) :
    (t.erase k).get? k' = if k = k' then none else t.get? k' := by
  induction t with
  | nil => simp [erase]
  | cons p t ih =>
    obtain ⟨j, w⟩ := p
    unfold erase at ih ⊢
    rw [List.filter_cons]
    by_cases hj : j = k
    · subst hj
      rw [if_neg (by simp), ih, get?_cons]
      by_cases h : j = k' <;> simp [h]
    · rw [if_pos (by simpa using hj)]
      simp only [get?_cons, ih]
      by_cases h : j = k'
      · have : k ≠ k' := fun hk => hj (h.trans hk.symm)
        simp [h, this]
      · simp [h]

theorem mem_of_get? (h : t.get? k = some v) : (k, v) ∈ t := by
  induction t with
  | nil => simp at h
  | cons p t ih =>
    rw [get?_cons] at h
    split at h
    · rename_i hp; subst hp; cases h; exact List.mem_cons_self
    · exact List.mem_cons_of_mem _ (ih h)

theorem get?_eq_none : t.get? k = none ↔ ∀ p ∈ t, p.1 ≠ k := by
  induction t with
  | nil => simp
  | cons p t ih =>
    rw [get?_cons]
    by_cases hp : p.1 = k <;> simp [hp, ih]

theorem get?_eq_none_of_not_mem (h : k ∉ t.keys) : t.get? k = none :=
  get?_eq_none.2 fun p hp he => h (List.mem_map.2 ⟨p, hp, he⟩)

theorem has_eq (t : Table α) (k : String) : t.has k = (t.get? k).isSome := by
  induction t with
  | nil => rfl
  | cons p t ih =>
    unfold has at ih ⊢
    rw [List.any_cons, ih, get?_cons]
    by_cases hp : p.1 = k <;> simp [hp]

theorem mem_keys : k ∈ t.keys ↔ ∃ v, t.get? k = some v := by
  constructor
  · intro h
    cases hg : t.get? k with
    | some v => exact ⟨v, rfl⟩
    | none =>
      obtain ⟨p, hp, rfl⟩ := List.mem_map.1 h
      exact absurd rfl (get?_eq_none.1 hg p hp)
  · rintro ⟨v, hv⟩
    exact List.mem_map.2 ⟨_, mem_of_get? hv, rfl⟩

/-- Where the names are distinct, each entry is found. -/
theorem get?_of_mem (ht : t.keys.Nodup) (h : (k, v) ∈ t) : t.get? k = some v := by
  induction t with
  | nil => simp at h
  | cons p t ih =>
    obtain ⟨hp, ht⟩ := List.nodup_cons.1 ht
    rw [get?_cons]
    rcases List.mem_cons.1 h with rfl | h
    · simp
    · have hne : p.1 ≠ k := by
        rintro rfl; exact hp (List.mem_map.2 ⟨_, h, rfl⟩)
      rw [if_neg hne]; exact ih ht h

theorem erase_of_get?_none (h : t.get? k = none) : t.erase k = t := by
  unfold erase
  rw [List.filter_eq_self]
  intro p hp
  simpa using get?_eq_none.1 h p hp

/-- A known name keeps its place, a new one goes to the end. -/
theorem keys_put (t : Table α) (k : String) (v : α) :
    (t.put k v).keys = if k ∈ t.keys then t.keys else t.keys ++ [k] := by
  induction t with
  | nil => rfl
  | cons p t ih =>
    obtain ⟨j, w⟩ := p
    unfold keys at ih ⊢
    unfold put
    by_cases hj : j = k
    · simp [hj]
    · simp only [if_neg hj, List.map_cons, ih, List.mem_cons, Ne.symm hj, false_or]
      split <;> rfl

theorem nodup_put (ht : t.keys.Nodup) (k : String) (v : α) : (t.put k v).keys.Nodup := by
  rw [keys_put]
  split
  · exact ht
  · rename_i hk
    exact List.nodup_append.2 ⟨ht, List.nodup_singleton k, fun a ha b hb hab => by
      rw [List.mem_singleton.1 hb] at hab
      exact hk (hab ▸ ha)⟩

/-- **A value that is put, beside none at all**: the other entries are those before it and those behind it. -/
theorem put_erase (ht : t.keys.Nodup) (k : String) (v : α) :
    ∃ before behind : Table α, k ∉ before.keys ∧ k ∉ behind.keys ∧
      t.put k v = before ++ (k, v) :: behind ∧ t.erase k = before ++ behind := by
  induction t with
  | nil => exact ⟨[], [], List.not_mem_nil, List.not_mem_nil, rfl, rfl⟩
  | cons p t ih =>
    obtain ⟨j, w⟩ := p
    obtain ⟨hj, ht⟩ := List.nodup_cons.1 ht
    by_cases hk : j = k
    · subst hk
      have herase : Table.erase ((j, w) :: t) j = t := by
        have htail : Table.erase t j = t := erase_of_get?_none (get?_eq_none_of_not_mem hj)
        simpa [Table.erase] using htail
      exact ⟨[], t, List.not_mem_nil, hj, by simp [put], herase⟩
    · obtain ⟨before, behind, hbefore, hbehind, hput, herase⟩ := ih ht
      refine ⟨(j, w) :: before, behind, ?_, hbehind, ?_, ?_⟩
      · exact fun hmem => (List.mem_cons.1 hmem).elim (fun he => hk he.symm) hbefore
      · rw [put, if_neg hk, hput]; rfl
      · simpa [Table.erase, hk] using herase

theorem put_of_get? (h : t.get? k = some v) : t.put k v = t := by
  induction t with
  | nil => cases h
  | cons p t ih =>
    rw [get?_cons] at h
    unfold put
    split at h
    · rename_i hp
      rw [if_pos hp, ← Option.some.inj h]
    · rename_i hp
      rw [if_neg hp, ih h]

theorem perm_put (ht : t.keys.Nodup) (k : String) (v : α) : (t.put k v).Perm ((k, v) :: t.erase k) := by
  obtain ⟨before, behind, -, -, hput, herase⟩ := put_erase ht k v
  rw [hput, herase]
  exact List.perm_middle

/-- What stands under a name, and the other entries. -/
theorem perm_of_get? (ht : t.keys.Nodup) (h : t.get? k = some v) : t.Perm ((k, v) :: t.erase k) := by
  conv_lhs => rw [← put_of_get? h]
  exact perm_put ht k v

/-- In another order the same is found. -/
theorem get?_append (t u : Table α) (k : String) : get? (t ++ u) k = (t.get? k).or (u.get? k) := by
  induction t with
  | nil => rfl
  | cons p t ih =>
    rw [List.cons_append, get?_cons, get?_cons, ih]
    split <;> rfl

/-- Of the pairs with one name the last one counts. -/
theorem get?_putAll (t : Table α) (ps : List (String × α)) (k : String) :
    (t.putAll ps).get? k = (get? ps.reverse k).or (t.get? k) := by
  induction ps generalizing t with
  | nil => rfl
  | cons p ps ih =>
    have hlast : get? (p :: ps).reverse k = (get? ps.reverse k).or (get? [p] k) := by
      rw [List.reverse_cons, get?_append]
    rw [hlast, Option.or_assoc]
    refine (ih (t.put p.1 p.2)).trans (congrArg _ ?_)
    rw [get?_put, get?_cons]
    split <;> rfl

theorem eraseDups_concat (ks : List String) (k : String) :
    (ks ++ [k]).eraseDups = if k ∈ ks then ks.eraseDups else ks.eraseDups ++ [k] := by
  rw [List.eraseDups_append]
  split
  · rename_i hk
    have hnone : [k].removeAll ks = [] := by simp [List.removeAll, hk]
    rw [hnone, List.eraseDups_nil, List.append_nil]
  · rename_i hk
    have hone : [k].removeAll ks = [k] := by simp [List.removeAll, hk]
    rw [hone, List.eraseDups_cons]
    rfl

theorem ofPairs_concat (ps : List (String × α)) (p : String × α) :
    ofPairs (ps ++ [p]) = (ofPairs ps).put p.1 p.2 := by
  simp [ofPairs, putAll, List.foldl_append]

/-- Names stand in the order in which they first came. -/
theorem keys_ofPairs (ps : List (String × α)) : (ofPairs ps).keys = (ps.map Prod.fst).eraseDups := by
  induction ps using List.reverseRecOn with
  | nil => rfl
  | append_singleton ps p ih =>
    rw [ofPairs_concat, keys_put, ih, List.map_append, List.map_singleton, eraseDups_concat]
    simp only [List.mem_eraseDups]

theorem nodup_ofPairs (ps : List (String × α)) : (ofPairs ps).keys.Nodup := by
  induction ps using List.reverseRecOn with
  | nil => exact List.nodup_nil
  | append_singleton ps p ih =>
    rw [ofPairs_concat]
    exact nodup_put ih _ _

/-- Nothing is in the table that is not among the pairs. -/
theorem mem_of_mem_ofPairs {ps : List (String × α)} {p : String × α} (h : p ∈ ofPairs ps) : p ∈ ps := by
  have hget := get?_of_mem (nodup_ofPairs ps) h
  rw [ofPairs, get?_putAll, get?_nil, Option.or_none] at hget
  exact List.mem_reverse.1 (mem_of_get? hget)

/-- An entry with a new name goes to the end. -/
theorem put_of_not_mem (h : k ∉ t.keys) (v : α) : t.put k v = t ++ [(k, v)] := by
  induction t with
  | nil => rfl
  | cons p t ih =>
    obtain ⟨hp, ht⟩ := not_or.1 (mt List.mem_cons.2 h)
    unfold put
    rw [if_neg (Ne.symm hp), ih ht]
    rfl

/-- Pairs with distinct names are a table already. -/
theorem ofPairs_of_nodup {ps : List (String × α)} (h : (ps.map Prod.fst).Nodup) : ofPairs ps = ps := by
  induction ps using List.reverseRecOn with
  | nil => rfl
  | append_singleton ps p ih =>
    rw [List.map_append] at h
    obtain ⟨hps, -, hp⟩ := List.nodup_append.1 h
    rw [ofPairs_concat, ih hps]
    exact put_of_not_mem (fun hmem => hp _ hmem _ List.mem_cons_self rfl) p.2

@[simp] theorem keys_mapValues (f : α → β) (t : Table α) : (t.mapValues f).keys = t.keys := by
  simp [keys, mapValues, Function.comp_def]

@[simp] theorem get?_mapValues (f : α → β) (t : Table α) (k : String) :
    (t.mapValues f).get? k = (t.get? k).map f := by
  induction t with
  | nil => rfl
  | cons p t ih =>
    change get? ((p.1, f p.2) :: mapValues f t) k = _
    rw [get?_cons, get?_cons, ih]
    split <;> rfl

/-- A table of some of the values, each under its name. -/
theorem nodup_filterMap (f : α → Option β) (ht : t.keys.Nodup) :
    (keys (t.filterMap fun p => (f p.2).map (p.1, ·))).Nodup := by
  refine ht.sublist ?_
  induction t with
  | nil => exact List.Sublist.slnil
  | cons p t ih =>
    have ih := ih (List.nodup_cons.1 ht).2
    rw [List.filterMap_cons]
    cases f p.2 with
    | none => exact ih.cons _
    | some w => exact ih.cons_cons _

theorem get?_filterMap (f : α → Option β) (ht : t.keys.Nodup) (k : String) :
    get? (t.filterMap fun p => (f p.2).map (p.1, ·)) k = (t.get? k).bind f := by
  induction t with
  | nil => rfl
  | cons p t ih =>
    obtain ⟨hp, ht⟩ := List.nodup_cons.1 ht
    rw [List.filterMap_cons, get?_cons]
    by_cases hk : p.1 = k
    · subst hk
      have hnone : get? t p.1 = none := get?_eq_none_of_not_mem hp
      rw [if_pos rfl, Option.bind_some]
      cases hf : f p.2 with
      | none => rw [Option.map_none]; exact (ih ht).trans (by rw [hnone]; rfl)
      | some w => rw [Option.map_some]; simp [get?_cons]
    · rw [if_neg hk, ← ih ht]
      cases f p.2 with
      | none => rfl
      | some w => rw [Option.map_some]; simp [get?_cons, hk]

/-- Where the names are distinct, a name has one entry at most. -/
theorem filter_key (ht : t.keys.Nodup) (k : String) :
    (t.filter fun p => p.1 == k).map Prod.snd = (t.get? k).toList := by
  induction t with
  | nil => rfl
  | cons p t ih =>
    obtain ⟨hp, ht⟩ := List.nodup_cons.1 ht
    rw [List.filter_cons, get?_cons]
    by_cases hk : p.1 = k
    · subst hk
      have hnone : get? t p.1 = none := get?_eq_none_of_not_mem hp
      simp [ih ht, hnone]
    · simp [hk, ih ht]

/-! ## Tables put over each other -/

/-- The entries of a table put over another; where both have a value under a name, the two are combined. -/
def lay (op : α → α → α) (t u : Table α) : Table α :=
  u.foldl (fun acc p => acc.put p.1 (match acc.get? p.1 with
    | some w => op w p.2
    | none => p.2)) t

theorem lay_cons (op : α → α → α) (t : Table α) (p : String × α) (u : Table α) :
    lay op t (p :: u) = lay op (t.put p.1 (match t.get? p.1 with
      | some w => op w p.2
      | none => p.2)) u := rfl

/-- **What stands under a name**, when a table is put over another. -/
theorem get?_lay (op : α → α → α) (t : Table α) (hu : u.keys.Nodup) (k : String) :
    (lay op t u).get? k = Option.merge op (t.get? k) (u.get? k) := by
  induction u generalizing t with
  | nil => exact Option.merge_none_right.symm
  | cons p u ih =>
    obtain ⟨hp, hu⟩ := List.nodup_cons.1 hu
    rw [lay_cons, ih _ hu, get?_put, get?_cons]
    by_cases hk : p.1 = k
    · -- the rest does not speak of this name again
      have hnone : get? u k = none := get?_eq_none_of_not_mem (hk ▸ hp)
      rw [hnone, if_pos hk, if_pos hk, hk, Option.merge_none_right]
      cases t.get? k <;> rfl
    · rw [if_neg hk, if_neg hk]

/-- The names of the table below keep their places, the new ones follow in their order. -/
theorem keys_lay (op : α → α → α) (t : Table α) (hu : u.keys.Nodup) :
    (lay op t u).keys = t.keys ++ u.keys.filter fun k => k ∉ t.keys := by
  induction u generalizing t with
  | nil => exact (List.append_nil _).symm
  | cons p u ih =>
    obtain ⟨hp, hu⟩ := List.nodup_cons.1 hu
    have hcons : keys (p :: u) = p.1 :: keys u := rfl
    rw [lay_cons, ih _ hu, keys_put, hcons]
    by_cases hk : p.1 ∈ t.keys
    · rw [if_pos hk, List.filter_cons_of_neg (by simpa using hk)]
    · -- what stands in the rest is not the name that was just added
      have hfilter : (keys u).filter (fun k => k ∉ t.keys ++ [p.1]) =
          (keys u).filter fun k => k ∉ t.keys := by
        refine List.filter_congr fun k hmem => ?_
        have hne : k ≠ p.1 := fun he => hp (he ▸ hmem)
        simp [hne]
      rw [if_neg hk, hfilter, List.filter_cons_of_pos (by simpa using hk), List.append_assoc]
      rfl

theorem nodup_lay (op : α → α → α) (ht : t.keys.Nodup) (hu : u.keys.Nodup) : (lay op t u).keys.Nodup := by
  rw [keys_lay op t hu]
  -- a new name is none of those below
  refine List.nodup_append'.2 ⟨ht, hu.filter _, fun k hk hnew => ?_⟩
  exact of_decide_eq_true (List.mem_filter.1 hnew).2 hk

/-- The entries, name by name. -/
theorem eq_filterMap_keys (ht : t.keys.Nodup) : t = t.keys.filterMap fun k => (t.get? k).map (k, ·) := by
  have hentry : ∀ p ∈ t, (t.get? p.1).map (p.1, ·) = some p := fun p hp => by
    rw [get?_of_mem ht hp, Option.map_some]
  rw [keys, List.filterMap_map]
  exact (List.filterMap_some.symm).trans (List.filterMap_congr fun p hp => (hentry p hp).symm)

/-- **A table is determined** by the order of its names and by what each has. -/
theorem ext (ht : t.keys.Nodup) (hkeys : t.keys = u.keys) (h : ∀ k, t.get? k = u.get? k) : t = u := by
  have hu : u.keys.Nodup := hkeys ▸ ht
  calc t = t.keys.filterMap fun k => (t.get? k).map (k, ·) := eq_filterMap_keys ht
    _ = u.keys.filterMap fun k => (u.get? k).map (k, ·) := by simp only [hkeys, h]
    _ = u := (eq_filterMap_keys hu).symm

theorem mem_keys_lay (op : α → α → α) (hu : u.keys.Nodup) :
    k ∈ (lay op t u).keys ↔ k ∈ t.keys ∨ k ∈ u.keys := by
  rw [keys_lay op t hu]
  by_cases hk : k ∈ t.keys <;> simp [hk]

/-- A table stays as it is under one whose names are all known and whose values change nothing. -/
theorem lay_eq_self (ht : t.keys.Nodup) (hu : u.keys.Nodup) (hknown : ∀ k ∈ u.keys, k ∈ t.keys)
    (h : ∀ k, Option.merge op (t.get? k) (u.get? k) = t.get? k) : lay op t u = t := by
  have hnone : u.keys.filter (fun k => k ∉ t.keys) = [] :=
    List.filter_eq_nil_iff.2 fun k hk => by simpa using hknown k hk
  refine ext (nodup_lay op ht hu) ?_ fun k => ?_
  · rw [keys_lay op t hu, hnone, List.append_nil]
  · rw [get?_lay op t hu, h]

/-! ## Grouped values -/

/-- Values sorted by name, names in the order in which they first come. -/
def grouped (entries : List (String × α)) : Table (List α) :=
  entries.foldl (fun (t : Table (List α)) p => t.put p.1 ((t.get? p.1).getD [] ++ [p.2])) []

variable {entries : List (String × α)}

theorem grouped_concat (entries : List (String × α)) (e : String × α) :
    grouped (entries ++ [e]) =
      (grouped entries).put e.1 (((grouped entries).get? e.1).getD [] ++ [e.2]) := by
  simp [grouped]

/-- The names stand in the order in which they first come. -/
theorem keys_grouped (entries : List (String × α)) :
    (grouped entries).keys = (entries.map Prod.fst).eraseDups := by
  induction entries using List.reverseRecOn with
  | nil => rfl
  | append_singleton es e ih =>
    rw [grouped_concat, keys_put, ih, List.map_append, List.map_singleton, eraseDups_concat]
    simp only [List.mem_eraseDups]

theorem nodup_grouped (entries : List (String × α)) : (grouped entries).keys.Nodup := by
  induction entries using List.reverseRecOn with
  | nil => exact List.nodup_nil
  | append_singleton es e ih =>
    rw [grouped_concat]
    exact nodup_put ih _ _

/-- The values of a name stand in their order. -/
theorem get?_grouped (entries : List (String × α)) (key : String) :
    (grouped entries).get? key =
      match (entries.filter fun e => e.1 == key).map Prod.snd with
      | [] => none
      | vs => some vs := by
  induction entries using List.reverseRecOn with
  | nil => rfl
  | append_singleton es e ih =>
    rw [grouped_concat, get?_put, List.filter_append, List.map_append]
    by_cases he : e.1 = key
    · subst he
      rw [if_pos rfl, ih]
      cases (es.filter fun d => d.1 == e.1).map Prod.snd <;> simp
    · rw [if_neg he, ih]
      simp [he]

theorem getD_get?_grouped (entries : List (String × α)) (key : String) :
    ((grouped entries).get? key).getD [] = (entries.filter fun e => e.1 == key).map Prod.snd := by
  rw [get?_grouped]
  cases (entries.filter fun e => e.1 == key).map Prod.snd <;> rfl

/-- Every name has a value. -/
theorem ne_nil_of_mem_grouped {vs : List α} (h : (k, vs) ∈ grouped entries) : vs ≠ [] := by
  have hkey := get?_of_mem (nodup_grouped entries) h
  rw [get?_grouped] at hkey
  split at hkey
  · cases hkey
  · rename_i hne
    obtain rfl := Option.some.inj hkey
    exact hne

/-- What is grouped under a name are its values. -/
theorem grouped_eq_map (entries : List (String × α)) :
    grouped entries = (grouped entries).keys.map fun k =>
      (k, (entries.filter fun e => e.1 == k).map Prod.snd) := by
  unfold keys
  rw [List.map_map]
  refine (List.map_id _).symm.trans (List.map_congr_left fun p hp => ?_)
  have hvalues := getD_get?_grouped entries p.1
  rw [get?_of_mem (nodup_grouped entries) hp] at hvalues
  exact Prod.ext rfl hvalues

/-- Entries in another order are grouped under the same names. -/
theorem perm_keys_grouped {entries' : List (String × α)} (h : entries.Perm entries') :
    (grouped entries).keys.Perm (grouped entries').keys := by
  refine (List.perm_ext_iff_of_nodup (nodup_grouped _) (nodup_grouped _)).2 fun k => ?_
  rw [keys_grouped, keys_grouped, List.mem_eraseDups, List.mem_eraseDups]
  exact (h.map Prod.fst).mem_iff

/-- What is taken from each group does not depend on the order of the entries, if it does not depend on the
order in the group. -/
theorem perm_flatMap_grouped {f : String × List α → List β} {entries' : List (String × α)}
    (hf : ∀ k vs ws, vs.Perm ws → (f (k, vs)).Perm (f (k, ws))) (h : entries.Perm entries') :
    ((grouped entries).flatMap f).Perm ((grouped entries').flatMap f) := by
  rw [grouped_eq_map entries, grouped_eq_map entries', List.flatMap_map, List.flatMap_map]
  refine ((perm_keys_grouped h).flatMap_right _).trans (List.Perm.flatMap_left _ fun k _ => ?_)
  exact hf k _ _ ((h.filter _).map _)

/-! ## Rising tables -/

/-- The names rise. -/
def Rising (t : Table α) : Prop := t.Pairwise fun a b => a.1 < b.1

theorem Rising.nodup (h : t.Rising) : t.keys.Nodup :=
  List.pairwise_map.2 (h.imp String.ne_of_lt)

/-- A table sorted by its names rises. -/
theorem rising_mergeSort (ht : t.keys.Nodup) : Rising (t.mergeSort fun a b => a.1 ≤ b.1) := by
  have hsorted : (t.mergeSort fun a b => a.1 ≤ b.1).Pairwise fun a b => decide (a.1 ≤ b.1) = true := by
    refine List.pairwise_mergeSort (fun a b c hab hbc => ?_) (fun a b => ?_) t
    · exact decide_eq_true (String.le_trans (of_decide_eq_true hab) (of_decide_eq_true hbc))
    · simpa using String.le_total a.1 b.1
  have hnodup := ((List.mergeSort_perm t fun a b => decide (a.1 ≤ b.1)).map Prod.fst).nodup_iff.2 ht
  refine hsorted.imp₂ (fun a b hle hne => ?_) (List.pairwise_map.1 hnodup)
  exact String.not_le.1 fun hge => hne (String.le_antisymm (of_decide_eq_true hle) hge)

theorem mem_place {p : String × α} (h : p ∈ t.place k v) : p = (k, v) ∨ p ∈ t := by
  induction t with
  | nil => simpa [place] using h
  | cons q t ih =>
    obtain ⟨j, w⟩ := q
    unfold place at h
    split at h
    · simpa using h
    · split at h
      · rcases List.mem_cons.1 h with h | h
        · exact .inl h
        · exact .inr (List.mem_cons_of_mem _ h)
      · rcases List.mem_cons.1 h with h | h
        · exact .inr (h ▸ List.mem_cons_self)
        · exact (ih h).imp id (List.mem_cons_of_mem _)

theorem Rising.place (h : t.Rising) (k : String) (v : α) : (t.place k v).Rising := by
  induction t with
  | nil => exact List.pairwise_singleton _ _
  | cons q t ih =>
    obtain ⟨j, w⟩ := q
    obtain ⟨hj, ht⟩ := List.pairwise_cons.1 h
    unfold Table.place
    split
    · rename_i hk
      refine List.pairwise_cons.2 ⟨fun p hp => ?_, h⟩
      rcases List.mem_cons.1 hp with rfl | hp
      · exact hk
      · exact String.lt_trans hk (hj p hp)
    · rename_i hk
      split
      · rename_i he; subst he; exact List.pairwise_cons.2 ⟨hj, ht⟩
      · rename_i he
        refine List.pairwise_cons.2 ⟨fun p hp => ?_, ih ht⟩
        rcases mem_place hp with rfl | hp
        · exact String.not_le.1 fun hle => he (String.le_antisymm hle (String.not_lt.1 hk))
        · exact hj p hp

theorem Rising.erase (h : t.Rising) (k : String) : (t.erase k).Rising :=
  h.sublist List.filter_sublist

theorem length_place (h : t.get? k = none) (v : α) : (t.place k v).length = t.length + 1 := by
  induction t with
  | nil => rfl
  | cons q t ih =>
    obtain ⟨j, w⟩ := q
    rw [get?_cons] at h
    split at h
    · simp at h
    · rename_i hj
      unfold place
      split
      · rfl
      · rw [if_neg fun he => hj he.symm, List.length_cons, ih h]; rfl

/-- Where the name is there already, its entry is replaced. -/
theorem Rising.length_place (ht : t.Rising) (h : t.get? k = some v) (w : α) :
    (t.place k w).length = t.length := by
  induction t with
  | nil => simp at h
  | cons q t ih =>
    obtain ⟨j, x⟩ := q
    obtain ⟨hj, ht⟩ := List.pairwise_cons.1 ht
    rw [get?_cons] at h
    unfold Table.place
    split at h
    · rename_i hk; subst hk; rw [if_neg (String.lt_irrefl _), if_pos rfl]; rfl
    · rename_i hk
      have hlt : ¬ k < j := fun hlt => by
        exact String.lt_irrefl _ (String.lt_trans hlt (hj _ (mem_of_get? h)))
      rw [if_neg hlt, if_neg fun he => hk he.symm, List.length_cons, ih ht h]; rfl

theorem Rising.length_erase (ht : t.Rising) (h : t.get? k = some v) :
    (t.erase k).length + 1 = t.length := by
  induction t with
  | nil => simp at h
  | cons q t ih =>
    obtain ⟨j, x⟩ := q
    obtain ⟨hj, ht⟩ := List.pairwise_cons.1 ht
    rw [get?_cons] at h
    unfold Table.erase at ih ⊢
    rw [List.filter_cons]
    split at h
    · rename_i hk; subst hk
      rw [if_neg (by simp), List.filter_eq_self.2]
      · rfl
      · intro p hp
        have hne : p.1 ≠ j := fun he => String.lt_irrefl j (he ▸ hj p hp)
        simpa using hne
    · rename_i hk
      rw [if_pos (by simpa using hk), List.length_cons, ih ht h]; rfl

/-- Two rising tables in which the same is found are the same. -/
theorem Rising.ext (ht : t.Rising) (hu : u.Rising) (h : ∀ k, t.get? k = u.get? k) : t = u := by
  have hmem : ∀ p, p ∈ t ↔ p ∈ u := by
    rintro ⟨k, v⟩
    constructor
    · intro hm; exact mem_of_get? (h k ▸ get?_of_mem ht.nodup hm)
    · intro hm; exact mem_of_get? ((h k).symm ▸ get?_of_mem hu.nodup hm)
  have hperm := (List.perm_ext_iff_of_nodup (List.Nodup.of_map _ ht.nodup)
    (List.Nodup.of_map _ hu.nodup)).2 hmem
  refine hperm.eq_of_pairwise (fun a b _ _ hab hba => ?_) ht hu
  exact absurd (String.lt_trans hab hba) (String.lt_irrefl _)

/-- Two rising tables with the same names list them alike. -/
theorem Rising.keys_eq {u : Table β} (ht : t.Rising) (hu : u.Rising)
    (h : ∀ k, k ∈ t.keys ↔ k ∈ u.keys) : t.keys = u.keys := by
  have ht' : t.keys.Pairwise (· < ·) := List.pairwise_map.2 ht
  have hu' : u.keys.Pairwise (· < ·) := List.pairwise_map.2 hu
  refine ((List.perm_ext_iff_of_nodup ht.nodup hu.nodup).2 h).eq_of_pairwise
    (fun a b _ _ hab hba => ?_) ht' hu'
  exact absurd (String.lt_trans hab hba) (String.lt_irrefl _)

theorem Rising.place_erase (ht : t.Rising) (k : String) (v : α) :
    (t.erase k).place k v = t.place k v := by
  refine Rising.ext ((ht.erase k).place k v) (ht.place k v) fun j => ?_
  by_cases hj : k = j <;> simp [get?_place, get?_erase, hj]

end TraitWeave.Table
