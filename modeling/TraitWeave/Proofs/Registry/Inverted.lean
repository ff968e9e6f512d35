import TraitWeave.Proofs.Table
import TraitWeave.Registry.Index

/-!
# Inverted indexes

An inverted index leads from keys to sets of names. The sets are lists in rising order; a key that no name has
is not kept.

* `NameSet.mem_insert`, `NameSet.mem_union`, `NameSet.mem_inter`: what is in a set after each operation.
* `Inverted.Lists`: the index says exactly which names have which keys, and has no empty sets.
* `Inverted.Lists.foldl_link`, `Inverted.Lists.foldl_unlink`: how that changes with a record.
* `Inverted.mem_lookup`, `Inverted.lookup_congr`: what is found for some values.
-/

namespace TraitWeave

namespace NameSet

variable {s t : NameSet} {n name : String}

/-- The names rise, so each is there once. -/
def Rising (s : NameSet) : Prop := s.Pairwise (· < ·)

theorem mem_insert : n ∈ insert s name ↔ n = name ∨ n ∈ s := by
  induction s with
  | nil => simp [insert]
  | cons m s ih =>
    unfold insert
    split
    · simp
    · split
      · rename_i hm; subst hm; simp
      · simp only [List.mem_cons, ih]
        exact or_left_comm

theorem Rising.insert (h : Rising s) (name : String) : Rising (insert s name) := by
  induction s with
  | nil => exact List.pairwise_singleton _ _
  | cons m s ih =>
    obtain ⟨hm, hs⟩ := List.pairwise_cons.1 h
    unfold NameSet.insert
    split
    · rename_i hlt
      refine List.pairwise_cons.2 ⟨fun n hn => ?_, h⟩
      rcases List.mem_cons.1 hn with rfl | hn
      · exact hlt
      · exact String.lt_trans hlt (hm n hn)
    · rename_i hnlt
      split
      · exact h
      · rename_i hne
        refine List.pairwise_cons.2 ⟨fun n hn => ?_, ih hs⟩
        rcases mem_insert.1 hn with rfl | hn
        · exact String.not_le.1 fun hle => hne (String.le_antisymm hle (String.not_lt.1 hnlt))
        · exact hm n hn

theorem mem_union : n ∈ union s t ↔ n ∈ s ∨ n ∈ t := by
  unfold union
  induction t generalizing s with
  | nil => simp
  | cons m t ih =>
    rw [List.foldl_cons, ih, mem_insert, List.mem_cons, or_comm (a := n = m), or_assoc]

theorem Rising.union (hs : Rising s) (t : NameSet) : Rising (union s t) := by
  unfold NameSet.union
  induction t generalizing s with
  | nil => exact hs
  | cons m t ih => exact ih (hs.insert m)

theorem mem_inter : n ∈ inter s t ↔ n ∈ s ∧ n ∈ t := by
  simp [inter]

theorem Rising.inter (hs : Rising s) (t : NameSet) : Rising (inter s t) :=
  hs.sublist List.filter_sublist

theorem mem_foldl_union {sets : List NameSet} :
    n ∈ sets.foldl union s ↔ n ∈ s ∨ ∃ t ∈ sets, n ∈ t := by
  induction sets generalizing s with
  | nil => simp
  | cons t sets ih => rw [List.foldl_cons, ih, mem_union, or_assoc, List.exists_mem_cons_iff]

theorem rising_foldl_union {sets : List NameSet} (hs : Rising s) : Rising (sets.foldl union s) := by
  induction sets generalizing s with
  | nil => exact hs
  | cons t sets ih => exact ih (hs.union t)

theorem mem_foldl_inter {sets : List NameSet} :
    n ∈ sets.foldl inter s ↔ n ∈ s ∧ ∀ t ∈ sets, n ∈ t := by
  induction sets generalizing s with
  | nil => simp
  | cons t sets ih => rw [List.foldl_cons, ih, mem_inter, and_assoc, List.forall_mem_cons]

theorem rising_foldl_inter {sets : List NameSet} (hs : Rising s) : Rising (sets.foldl inter s) := by
  induction sets generalizing s with
  | nil => exact hs
  | cons t sets ih => exact ih (hs.inter t)

end NameSet

/-- Whether values select something that passes a test for some or all of them; no value selects nothing. -/
def MatchMode.selects (mode : MatchMode) (values : List String) (test : String → Bool) : Bool :=
  match mode with
  | any => values.any test
  | all => !values.isEmpty && values.all test

namespace Inverted

open NameSet (mem_insert mem_foldl_union mem_foldl_inter)

variable {t : Inverted} {has : String → String → Prop} {key name n : String} {names : NameSet}

/-- **The index lists which names have which keys**, each name once, and no key without names. -/
structure Lists (t : Inverted) (has : String → String → Prop) : Prop where
  nodup : t.keys.Nodup
  mem : ∀ key name, name ∈ (t.get? key).getD [] ↔ has key name
  rising : ∀ key names, t.get? key = some names → NameSet.Rising names
  nonempty : ∀ key, t.get? key ≠ some []

theorem Lists.empty : Lists [] fun _ _ => False where
  nodup := List.nodup_nil
  mem key name := by simp
  rising key names h := by simp at h
  nonempty key := by simp

theorem Lists.congr {has' : String → String → Prop} (h : Lists t has)
    (hhas : ∀ key name, has key name ↔ has' key name) : Lists t has' :=
  ⟨h.nodup, fun key name => (h.mem key name).trans (hhas key name), h.rising, h.nonempty⟩

/-- The set of a key rises, also where there is none. -/
theorem Lists.rising_getD (h : Lists t has) (key : String) : NameSet.Rising ((t.get? key).getD []) := by
  cases hk : t.get? key with
  | none => exact List.Pairwise.nil
  | some names => exact h.rising key names hk

/-! ## Linking and unlinking -/

/-- A name that has a key more. -/
theorem Lists.link (h : Lists t has) (name key : String) :
    Lists (link name t key) fun k n => has k n ∨ k = key ∧ n = name where
  nodup := Table.nodup_put h.nodup _ _
  mem k n := by
    rw [Inverted.link, Table.get?_put]
    split
    · rename_i hk; subst hk
      rw [Option.getD_some, mem_insert, h.mem]
      simp [or_comm]
    · rename_i hk
      rw [h.mem]
      simp [Ne.symm hk]
  rising k names hk := by
    rw [Inverted.link, Table.get?_put] at hk
    split at hk
    · obtain rfl := Option.some.inj hk
      exact (h.rising_getD key).insert name
    · exact h.rising k names hk
  nonempty k hk := by
    rw [Inverted.link, Table.get?_put] at hk
    split at hk
    · -- the set has the new name at least
      have hmem : name ∈ NameSet.insert ((t.get? key).getD []) name := mem_insert.2 (.inl rfl)
      rw [Option.some.inj hk] at hmem
      cases hmem
    · exact h.nonempty k hk

/-- What is left of a set without a name: the key is dropped with its last name. -/
theorem get?_unlink (name : String) (t : Inverted) (key k : String) :
    (unlink name t key).get? k =
      if key = k then
        ((t.get? key).map fun names => names.filter (· != name)).filter fun names => !names.isEmpty
      else t.get? k := by
  unfold unlink
  cases hkey : t.get? key with
  | none =>
    by_cases hk : key = k
    · subst hk; simp [hkey]
    · rw [if_neg hk]
  | some names =>
    dsimp only
    rw [Option.map_some, Option.filter_some]
    cases names.filter (· != name) with
    | nil => exact Table.get?_erase t key k
    | cons m rest => exact Table.get?_put t key k (m :: rest)

/-- A name that no longer has a key. -/
theorem Lists.unlink (h : Lists t has) (name key : String) :
    Lists (unlink name t key) fun k n => has k n ∧ ¬ (k = key ∧ n = name) where
  nodup := by
    unfold Inverted.unlink
    split
    · exact h.nodup
    · split
      · exact h.nodup.sublist (List.filter_sublist.map _)
      · exact Table.nodup_put h.nodup _ _
  mem k n := by
    rw [get?_unlink, ← h.mem]
    split
    · rename_i hk; subst hk
      cases hnames : t.get? key with
      | none => simp
      | some names =>
        -- if no other name has the key, its set is empty and the key is gone, which lists the same
        by_cases he : names.filter (· != name) = [] <;> grind
    · rename_i hk
      simp [Ne.symm hk]
  rising k names hk := by
    rw [get?_unlink] at hk
    split at hk
    · obtain ⟨hk, -⟩ := Option.filter_eq_some_iff.1 hk
      obtain ⟨old, hold, rfl⟩ := Option.map_eq_some_iff.1 hk
      exact (h.rising key old hold).sublist List.filter_sublist
    · exact h.rising k names hk
  nonempty k hk := by
    rw [get?_unlink] at hk
    split at hk
    · obtain ⟨-, hk⟩ := Option.filter_eq_some_iff.1 hk
      simp at hk
    · exact h.nonempty k hk

/-- A name that has several keys more. -/
theorem Lists.foldl_link (h : Lists t has) (name : String) (keys : List String) :
    Lists (keys.foldl (Inverted.link name) t) fun k n => has k n ∨ k ∈ keys ∧ n = name := by
  -- the same key may come twice: only its being among the keys counts
  induction keys generalizing t has with
  | nil => simpa using h
  | cons key keys ih =>
    refine (ih (h.link name key)).congr fun k n => ?_
    rw [or_assoc, ← or_and_right, List.mem_cons]

/-- A name that no longer has any of several keys. -/
theorem Lists.foldl_unlink (h : Lists t has) (name : String) (keys : List String) :
    Lists (keys.foldl (Inverted.unlink name) t) fun k n => has k n ∧ ¬ (k ∈ keys ∧ n = name) := by
  induction keys generalizing t has with
  | nil => simpa using h
  | cons key keys ih =>
    refine (ih (h.unlink name key)).congr fun k n => ?_
    rw [and_assoc, ← not_or, ← or_and_right, List.mem_cons]

/-! ## Lookups -/

theorem lookup_any (t : Inverted) (v : String) (values : List String) :
    t.lookup (v :: values) .any = ((v :: values).map t.names).foldl NameSet.union [] := rfl

theorem lookup_all (t : Inverted) (v : String) (values : List String) :
    t.lookup (v :: values) .all = (values.map t.names).foldl NameSet.inter (t.names v) := rfl

/-- **What is found** has some or all of the values. -/
theorem mem_lookup (t : Inverted) (values : List String) (mode : MatchMode) (n : String) :
    n ∈ t.lookup values mode ↔ mode.selects values (fun v => (t.names v).contains n) = true := by
  cases values with
  | nil => cases mode <;> simp [lookup, MatchMode.selects]
  | cons v values =>
    cases mode with
    | any =>
      rw [lookup_any, mem_foldl_union]
      simp [MatchMode.selects]
    | all =>
      rw [lookup_all, mem_foldl_inter]
      simp [MatchMode.selects]

/-- What is found depends on the normal forms of the values only. -/
theorem lookup_congr (t : Inverted) {us vs : List String} (h : us.map Name.normalize = vs.map Name.normalize)
    (mode : MatchMode) : t.lookup us mode = t.lookup vs mode := by
  have hnames (ws : List String) : ws.map t.names = (ws.map Name.normalize).map fun key => (t.get? key).getD [] := by
    rw [List.map_map]
    rfl
  unfold lookup
  rw [hnames us, hnames vs, h]

theorem Lists.rising_lookup (h : Lists t has) (values : List String) (mode : MatchMode) :
    NameSet.Rising (t.lookup values mode) := by
  cases values with
  | nil => cases mode <;> exact List.Pairwise.nil
  | cons v values =>
    cases mode with
    | any => exact NameSet.rising_foldl_union List.Pairwise.nil
    | all => exact NameSet.rising_foldl_inter (h.rising_getD _)

end Inverted

end TraitWeave
