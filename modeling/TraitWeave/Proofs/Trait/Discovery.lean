import TraitWeave.Proofs.Table
import TraitWeave.Proofs.Trait.Coverage
import TraitWeave.Trait.Discovery
import Mathlib.Data.Multiset.AddSub

/-!
# What becomes of the files that are found

Of the files that are found each goes to one of three places: its trait is kept, it has failed, or it stands in a list
of duplicates behind the file whose trait is kept. Which of the three it is can be said of the list of files alone,
by the first file that declares a name and those that declare it later.

* `Library.declaring`: the files that declare a name, in the order in which they were found.
* `Library.accounted`: the files that a library tells of.
* `Library.Gathered`: where a library stands after some files; `Library.Gathered.take`: one more file.
* `Library.Accounts`: what the library says of the files found.
* `Library.accounts_load`: it does so for all files below any roots.
-/

namespace TraitWeave.Library

variable {files : Files} {found : List Path} {l : Library} {p : Path} {t : Trait} {key : String}

/-- The trait of a file, with the file, if there is one in it. -/
def declared? (files : Files) (p : Path) : Option (Path × Trait) :=
  (Trait.ofFile p (files.text p)).toOption.map (p, ·)

/-- The file has a trait that is kept under the key, if it is the first such. -/
def declares (files : Files) (key : String) (p : Path) : Bool :=
  (declared? files p).any fun e => keyOf e.2 == key

/-- The files that declare a name, in the order in which they were found. -/
def declaring (files : Files) (key : String) (found : List Path) : List Path := found.filter (declares files key)

/-- The files of which a library tells: those of the kept traits, those that failed, and the duplicates. The first
file of a list of duplicates is that of a kept trait. -/
def accounted (l : Library) : Multiset Path :=
  ↑(l.traits.map Prod.fst) + ↑(l.failures.map Prod.fst) + ↑(l.duplicates.flatMap fun d => d.2.tail)

/-- **What a library says of the files found**, however often each of them was found. -/
structure Accounts (files : Files) (found : List Path) (l : Library) : Prop where
  /-- Each file is in one place, as often as it was found. -/
  conserved : ↑found = l.accounted
  /-- No two kept traits have one normalized qualified name. -/
  distinct : l.Distinct
  /-- A kept trait is that of the first file that declares its name. -/
  first : ∀ e ∈ l.traits, Trait.ofFile e.1 (files.text e.1) = .ok e.2 ∧
    (declaring files (keyOf e.2) found).head? = some e.1
  /-- Of each name that is declared a trait is kept. -/
  kept : ∀ p ∈ found, ∀ t, Trait.ofFile p (files.text p) = .ok t → ∃ e ∈ l.traits, keyOf e.2 = keyOf t
  /-- A file that failed has no trait, and stands there with what is wrong with it. -/
  failed : ∀ e ∈ l.failures, Trait.ofFile e.1 (files.text e.1) = .error e.2
  /-- A list of duplicates is the file of a kept trait and the others that declare its name, if there are any. -/
  repeated : ∀ d, d ∈ l.duplicates ↔ ∃ e ∈ l.traits, ∃ others,
    declaring files (keyOf e.2) found = e.1 :: others ∧ others ≠ [] ∧ d = (keyOf e.2, e.1 :: others)
  /-- There is one list for a name, and the names rise. -/
  rising : l.duplicates.Rising

/-! ## One file -/

theorem declared?_eq_some {e : Path × Trait} :
    declared? files p = some e ↔ p = e.1 ∧ Trait.ofFile e.1 (files.text e.1) = .ok e.2 := by
  obtain ⟨q, t⟩ := e
  unfold declared?
  cases h : Trait.ofFile p (files.text p) with
  | error ps =>
    refine iff_of_false (by simp [Except.toOption]) ?_
    rintro ⟨rfl, ht⟩
    rw [h] at ht
    cases ht
  | ok u =>
    simp only [Except.toOption, Option.map_some, Option.some.injEq, Prod.mk.injEq]
    refine and_congr_right ?_
    rintro rfl
    rw [h, Except.ok.injEq]

theorem declares_iff : declares files key p = true ↔
    ∃ t, Trait.ofFile p (files.text p) = .ok t ∧ keyOf t = key := by
  unfold declares declared?
  cases Trait.ofFile p (files.text p) <;> simp [Except.toOption]

theorem declares_ok (h : Trait.ofFile p (files.text p) = .ok t) : declares files key p = (keyOf t == key) := by
  simp [declares, declared?, h, Except.toOption]

theorem declaring_concat (files : Files) (key : String) (found : List Path) (p : Path) :
    declaring files key (found ++ [p]) = declaring files key found ++ if declares files key p then [p] else [] := by
  unfold declaring
  rw [List.filter_append, List.filter_singleton]
  cases declares files key p <;> rfl

/-- Files of which one declares a name as the first, and others do so later. -/
def several? : List Path → Option (List Path)
  | p :: q :: rest => some (p :: q :: rest)
  | _ => none

theorem several?_eq_some {ps qs : List Path} :
    several? ps = some qs ↔ ∃ p others, ps = p :: others ∧ others ≠ [] ∧ qs = p :: others := by
  rcases ps with - | ⟨p, - | ⟨q, rest⟩⟩
  · simp [several?]
  · simp [several?]
  · simp only [several?, Option.some.injEq, List.cons.injEq]
    constructor
    · rintro rfl
      exact ⟨p, q :: rest, ⟨rfl, rfl⟩, List.cons_ne_nil _ _, rfl⟩
    · rintro ⟨_, _, ⟨rfl, rfl⟩, -, rfl⟩
      rfl

theorem mem_of_kept? {e : Path × Trait} (h : l.kept? key = some e) : e ∈ l.traits ∧ keyOf e.2 = key := by
  unfold kept? at h
  exact ⟨List.mem_of_find?_eq_some h, by simpa using List.find?_some h⟩

theorem take_error (l : Library) (p : Path) (ps : List Document.Problem) :
    l.take p (.error ps) = ⟨l.traits, l.failures ++ [(p, ps)], l.duplicates⟩ := rfl

theorem take_new (h : l.kept? (keyOf t) = none) (p : Path) :
    l.take p (.ok t) = ⟨l.traits ++ [(p, t)], l.failures, l.duplicates⟩ := by
  simp only [take, h]

theorem take_again {e : Path × Trait} (h : l.kept? (keyOf t) = some e) (p : Path) :
    l.take p (.ok t) = ⟨l.traits, l.failures,
      l.duplicates.put (keyOf t) ((l.duplicates.get? (keyOf t)).getD [e.1] ++ [p])⟩ := by
  simp only [take, h]

/-! ## The files accounted for -/

variable {traits : List (Path × Trait)} {failures : List (Path × List Document.Problem)}
  {duplicates : Table (List Path)}

theorem accounted_trait (e : Path × Trait) :
    accounted ⟨traits ++ [e], failures, duplicates⟩ = accounted ⟨traits, failures, duplicates⟩ + {e.1} := by
  simp only [accounted, List.map_append, ← Multiset.coe_add, List.map_singleton, Multiset.coe_singleton]
  ac_rfl

theorem accounted_failure (e : Path × List Document.Problem) :
    accounted ⟨traits, failures ++ [e], duplicates⟩ = accounted ⟨traits, failures, duplicates⟩ + {e.1} := by
  simp only [accounted, List.map_append, ← Multiset.coe_add, List.map_singleton, Multiset.coe_singleton]
  ac_rfl

/-- A list of duplicates with one more file, where the others of it are there already. -/
theorem accounted_duplicate (hnodup : duplicates.keys.Nodup) {first : Path} {others : List Path}
    (h : ((duplicates.get? key).getD []).tail = others) (p : Path) :
    accounted ⟨traits, failures, duplicates.put key (first :: others ++ [p])⟩ =
      accounted ⟨traits, failures, duplicates⟩ + {p} := by
  have hput := (Table.perm_put hnodup key (first :: others ++ [p])).flatMap_right fun d => d.2.tail
  have hold : (duplicates.flatMap fun d => d.2.tail).Perm
      (others ++ (duplicates.erase key).flatMap fun d => d.2.tail) := by
    cases hget : duplicates.get? key with
    | none =>
      rw [hget] at h
      rw [← h, Table.erase_of_get?_none hget]
      exact .refl _
    | some ps =>
      rw [hget] at h
      rw [← h]
      exact (Table.perm_of_get? hnodup hget).flatMap_right _
  simp only [accounted]
  rw [Multiset.coe_eq_coe.2 hput, Multiset.coe_eq_coe.2 hold, List.flatMap_cons]
  simp only [List.cons_append, List.tail_cons, ← Multiset.coe_add, Multiset.coe_singleton]
  ac_rfl

/-! ## All files -/

/-- **Where a library stands after some files**: what is kept, failed and repeated, told by the files alone. -/
structure Gathered (files : Files) (found : List Path) (l : Library) : Prop where
  conserved : ↑found = l.accounted
  distinct : l.Distinct
  kept : ∀ key, l.kept? key = (declaring files key found).head?.bind (declared? files)
  failed : ∀ e ∈ l.failures, Trait.ofFile e.1 (files.text e.1) = .error e.2
  nodup : l.duplicates.keys.Nodup
  duplicates : ∀ key, l.duplicates.get? key = several? (declaring files key found)

namespace Gathered

theorem empty (files : Files) : Gathered files [] Library.empty where
  conserved := rfl
  distinct := List.nodup_nil
  kept _ := rfl
  failed := nofun
  nodup := List.nodup_nil
  duplicates _ := rfl

/-- What is kept under a key is the trait of the first file that declares it. -/
theorem declaring_of_kept? (h : Gathered files found l) {e : Path × Trait} (he : l.kept? key = some e) :
    Trait.ofFile e.1 (files.text e.1) = .ok e.2 ∧ ∃ others, declaring files key found = e.1 :: others := by
  rw [h.kept] at he
  obtain ⟨q, hq, hdeclared⟩ := Option.bind_eq_some_iff.1 he
  obtain ⟨rfl, ht⟩ := declared?_eq_some.1 hdeclared
  exact ⟨ht, List.head?_eq_some_iff.1 hq⟩

/-- Where nothing is kept under a key, no file declares it. -/
theorem declaring_of_new (h : Gathered files found l) (hnew : l.kept? key = none) :
    declaring files key found = [] := by
  cases hd : declaring files key found with
  | nil => rfl
  | cons q others =>
    have hq : q ∈ declaring files key found := hd ▸ List.mem_cons_self
    obtain ⟨t, ht, -⟩ := declares_iff.1 (List.mem_filter.1 hq).2
    have hdeclared : declared? files q = some (q, t) := declared?_eq_some.2 ⟨rfl, ht⟩
    rw [h.kept, hd, List.head?_cons, Option.bind_some, hdeclared] at hnew
    cases hnew

/-- A file without a trait. -/
theorem take_error (h : Gathered files found l) {ps : List Document.Problem}
    (hp : Trait.ofFile p (files.text p) = .error ps) : Gathered files (found ++ [p]) (l.take p (.error ps)) := by
  have hnone (key : String) : declaring files key (found ++ [p]) = declaring files key found := by
    rw [declaring_concat, if_neg, List.append_nil]
    rw [declares_iff]
    rintro ⟨t, ht, -⟩
    rw [hp] at ht
    cases ht
  rw [Library.take_error]
  exact {
    conserved := by
      rw [accounted_failure, ← h.conserved]
      exact (Multiset.coe_add _ _).symm
    distinct := h.distinct
    kept := fun key => by rw [hnone]; exact h.kept key
    failed := fun e he => (List.mem_append.1 he).elim (h.failed e) fun he => by
      obtain rfl := List.mem_singleton.1 he
      exact hp
    nodup := h.nodup
    duplicates := fun key => by rw [hnone]; exact h.duplicates key }

/-- A file whose trait has a new name. -/
theorem take_new (h : Gathered files found l) (hp : Trait.ofFile p (files.text p) = .ok t)
    (hnew : l.kept? (keyOf t) = none) : Gathered files (found ++ [p]) (l.take p (.ok t)) := by
  have hdistinct := h.distinct.take p (.ok t)
  have hempty := h.declaring_of_new hnew
  have hdeclared : declared? files p = some (p, t) := declared?_eq_some.2 ⟨rfl, hp⟩
  rw [Library.take_new hnew] at hdistinct ⊢
  refine ⟨?_, hdistinct, fun key => ?_, h.failed, h.nodup, fun key => ?_⟩
  · rw [accounted_trait, ← h.conserved]
    exact (Multiset.coe_add _ _).symm
  · have hkept : kept? ⟨l.traits ++ [(p, t)], l.failures, l.duplicates⟩ key =
        (l.kept? key).or (if keyOf t = key then some (p, t) else none) := by
      unfold kept?
      rw [List.find?_append, List.find?_singleton]
      simp
    rw [hkept, declaring_concat, declares_ok hp]
    by_cases hkey : keyOf t = key
    · subst hkey
      simp [hnew, hempty, hdeclared]
    · simp [hkey, h.kept]
  -- one file that declares a name is no duplicate yet
  · rw [declaring_concat, declares_ok hp]
    by_cases hkey : keyOf t = key
    · subst hkey
      have hnone := h.duplicates (keyOf t)
      rw [hempty] at hnone ⊢
      simpa [several?] using hnone
    · simpa [hkey] using h.duplicates key

/-- A file whose trait has the name of one that is kept. -/
theorem take_again (h : Gathered files found l) (hp : Trait.ofFile p (files.text p) = .ok t)
    {e : Path × Trait} (hkept : l.kept? (keyOf t) = some e) : Gathered files (found ++ [p]) (l.take p (.ok t)) := by
  obtain ⟨-, others, hdeclaring⟩ := h.declaring_of_kept? hkept
  have hdup := h.duplicates (keyOf t)
  rw [hdeclaring] at hdup
  -- the list of duplicates begins when the second file comes, and grows from then on
  have hlist : (l.duplicates.get? (keyOf t)).getD [e.1] = e.1 :: others := by
    rw [hdup]
    cases others <;> rfl
  rw [Library.take_again hkept, hlist]
  refine ⟨?_, h.distinct, fun key => ?_, h.failed, Table.nodup_put h.nodup _ _, fun key => ?_⟩
  · rw [accounted_duplicate h.nodup, ← h.conserved]
    · exact (Multiset.coe_add _ _).symm
    · rw [hdup]
      cases others <;> rfl
  · refine (h.kept key).trans ?_
    rw [declaring_concat, declares_ok hp]
    by_cases hkey : keyOf t = key
    · subst hkey
      simp [hdeclaring]
    · simp [hkey]
  · rw [Table.get?_put, declaring_concat, declares_ok hp]
    by_cases hkey : keyOf t = key
    · subst hkey
      rw [hdeclaring]
      cases others <;> simp [several?]
    · simpa [hkey] using h.duplicates key

/-- **One more file.** -/
theorem take (h : Gathered files found l) (p : Path) :
    Gathered files (found ++ [p]) (l.take p (Trait.ofFile p (files.text p))) := by
  cases hp : Trait.ofFile p (files.text p) with
  | error ps => exact h.take_error hp
  | ok t =>
    cases hkept : l.kept? (keyOf t) with
    | none => exact h.take_new hp hkept
    | some e => exact h.take_again hp hkept

/-- **All files.** -/
theorem foldl_take (files : Files) (found : List Path) :
    Gathered files found (found.foldl (fun l p => l.take p (Trait.ofFile p (files.text p))) Library.empty) := by
  induction found using List.reverseRecOn with
  | nil => exact .empty files
  | append_singleton found p ih =>
    rw [List.foldl_append]
    exact ih.take p

/-- What is kept of a trait is kept under its key. -/
theorem kept?_of_mem (h : Gathered files found l) {e : Path × Trait} (he : e ∈ l.traits) :
    l.kept? (keyOf e.2) = some e := by
  have hnodup : (l.traits.map fun e => keyOf e.2).Nodup := by
    have hdistinct := h.distinct
    unfold Distinct definitions at hdistinct
    rwa [List.map_map] at hdistinct
  cases hfind : l.kept? (keyOf e.2) with
  | none => exact absurd (beq_self_eq_true _) (List.find?_eq_none.1 hfind e he)
  | some e' =>
    obtain ⟨hmem, hkey⟩ := mem_of_kept? hfind
    exact congrArg some (List.inj_on_of_nodup_map hnodup hmem he hkey)

/-- Sorted, the library says of all files what became of them. -/
theorem accounts_sorted (h : Gathered files found l) : Accounts files found l.sorted where
  conserved := by
    rw [h.conserved]
    have hperm := (List.mergeSort_perm l.duplicates fun a b => a.1 ≤ b.1).flatMap_right fun d => d.2.tail
    exact congrArg (_ + ·) (Multiset.coe_eq_coe.2 hperm.symm)
  distinct := h.distinct
  first e he := by
    obtain ⟨ht, others, hdeclaring⟩ := h.declaring_of_kept? (h.kept?_of_mem he)
    exact ⟨ht, by rw [hdeclaring]; rfl⟩
  kept p hp t ht := by
    cases hkept : l.kept? (keyOf t) with
    | some e => exact ⟨e, mem_of_kept? hkept⟩
    | none =>
      -- nothing is kept under the name, so no file declares it
      have hmem : p ∈ declaring files (keyOf t) found :=
        List.mem_filter.2 ⟨hp, declares_iff.2 ⟨t, ht, rfl⟩⟩
      rw [h.declaring_of_new hkept] at hmem
      cases hmem
  failed := h.failed
  repeated d := by
    obtain ⟨key, paths⟩ := d
    -- sorting keeps the entries, and there is one for each name
    have hmem : (key, paths) ∈ l.sorted.duplicates ↔ several? (declaring files key found) = some paths := by
      rw [← h.duplicates key]
      exact List.mem_mergeSort.trans ⟨Table.get?_of_mem h.nodup, Table.mem_of_get?⟩
    rw [hmem, several?_eq_some]
    constructor
    · rintro ⟨p, others, hdeclaring, hothers, rfl⟩
      have hp : p ∈ declaring files key found := hdeclaring ▸ List.mem_cons_self
      obtain ⟨t, ht, rfl⟩ := declares_iff.1 (List.mem_filter.1 hp).2
      have hdeclared : declared? files p = some (p, t) := declared?_eq_some.2 ⟨rfl, ht⟩
      have hkept : l.kept? (keyOf t) = some (p, t) := by
        rw [h.kept, hdeclaring, List.head?_cons, Option.bind_some, hdeclared]
      exact ⟨(p, t), (mem_of_kept? hkept).1, others, hdeclaring, hothers, rfl⟩
    · rintro ⟨e, -, others, hdeclaring, hothers, hd⟩
      obtain ⟨rfl, rfl⟩ := Prod.mk.inj hd
      exact ⟨e.1, others, hdeclaring, hothers, rfl⟩
  rising := Table.rising_mergeSort h.nodup

end Gathered

/-- **Nothing that is found is lost.** Below any roots, repeated and nested ones included, each file found is kept,
failed or a duplicate behind the first one, as often as it was found. Kept traits have distinct names, each is that of
the first file that declares its name, and the duplicates are that file and the others, in the order in which they
were found. -/
theorem accounts_load (t : Tree) (roots : List Path) :
    Accounts t.files (roots.flatMap (discover t)) (load t roots) :=
  (Gathered.foldl_take t.files (roots.flatMap (discover t))).accounts_sorted

end TraitWeave.Library
