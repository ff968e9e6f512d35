import TraitWeave.Proofs.Registry.Index
import TraitWeave.Proofs.Registry.Inverted

/-!
# What queries find

Queries go through the inverted indexes. What they find is what a look at each record in turn finds.

* `Record.hasTrait`, `Record.hasTag`, `Record.hasDomain`, `Query.selects`: whether a record is sought.
* `Index.Indexed`: each inverted index lists the records that have its keys.
* `Index.Step`, `Index.run`: any use of an index, with `Index.Step.store` for the records alone.
* `Index.Scans`, `Index.run_scans`: after any use, queries find what a look at each record finds.
* `Index.SameFinds`, `Index.found_by_key`: the key of a record finds what its name finds.
-/

namespace TraitWeave

namespace Record

/-- The object refers to a trait by this name, by its last segment, or by this nickname. -/
def hasTrait (r : Record) (value : String) : Bool :=
  r.definition.activeTraits.any fun t =>
    Name.normalize value == Name.normalize t.name ||
      Name.normalize value == Name.normalize (Name.lastSegment t.name) ||
      t.nickname.any fun nickname => Name.normalize value == Name.normalize nickname

/-- The object has the tag. -/
def hasTag (r : Record) (value : String) : Bool :=
  r.tags.any fun tag => Name.normalize value == Name.normalize tag

/-- The object is in the domain. -/
def hasDomain (r : Record) (value : String) : Bool :=
  r.domains.any fun domain => Name.normalize value == Name.normalize domain

variable {r : Record} {value : String}

theorem hasTrait_iff : r.hasTrait value = true ↔ Name.normalize value ∈ r.traitKeys := by
  unfold hasTrait traitKeys
  rw [List.any_eq_true, List.mem_flatMap]
  refine exists_congr fun t => and_congr_right fun _ => ?_
  unfold referenceKeys
  cases t.nickname <;> simp [or_assoc]

/-- A text is like one of a list if its normal form is among theirs. -/
theorem any_normalize (texts : List String) (value : String) :
    (texts.any fun text => Name.normalize value == Name.normalize text) = true ↔
      Name.normalize value ∈ texts.map Name.normalize := by
  rw [List.any_eq_true, List.mem_map]
  simp only [beq_iff_eq, eq_comm (a := Name.normalize value)]

theorem hasTag_iff : r.hasTag value = true ↔ Name.normalize value ∈ r.tagKeys :=
  any_normalize r.tags value

theorem hasDomain_iff : r.hasDomain value = true ↔ Name.normalize value ∈ r.domainKeys :=
  any_normalize r.domains value

end Record

/-- The record is one that the query asks for; a part without values asks for nothing. -/
def Query.selects (q : Query) (r : Record) : Bool :=
  (q.traits.isEmpty || q.traitMatch.selects q.traits r.hasTrait) &&
    (q.tags.isEmpty || q.tagMatch.selects q.tags r.hasTag) &&
    (q.domains.isEmpty || q.domains.any r.hasDomain)

namespace Index

variable {ix : Index} {records : Table Record} {t : Inverted} {keysOf : Record → List String}
  {k name : String} {r : Record}

/-! ## Inverted indexes beside the records -/

/-- A record of this name has the key. -/
def HasKey (records : Table Record) (keysOf : Record → List String) (key name : String) : Prop :=
  ∃ r, records.get? name = some r ∧ key ∈ keysOf r

/-- A record that goes takes its keys along. -/
theorem lists_erase (h : t.Lists (HasKey records keysOf)) (hr : records.get? k = some r) :
    Inverted.Lists ((keysOf r).foldl (Inverted.unlink k) t) (HasKey (records.erase k) keysOf) := by
  refine (h.foldl_unlink k (keysOf r)).congr fun key name => ?_
  unfold HasKey
  rw [Table.get?_erase]
  constructor
  · rintro ⟨⟨r', hr', hkey⟩, hnot⟩
    -- a record that still has the key is another one
    refine ⟨r', ?_, hkey⟩
    rw [if_neg, hr']
    rintro rfl
    obtain rfl := Option.some.inj (hr.symm.trans hr')
    exact hnot ⟨hkey, rfl⟩
  · rintro ⟨r', hr', hkey⟩
    split at hr'
    · cases hr'
    · rename_i hk
      exact ⟨⟨r', hr', hkey⟩, fun ⟨_, he⟩ => hk he.symm⟩

/-- A record that comes brings its keys, where there is none of its name. -/
theorem lists_place (h : t.Lists (HasKey records keysOf)) (hk : records.get? k = none) (r : Record) :
    Inverted.Lists ((keysOf r).foldl (Inverted.link k) t) (HasKey (records.place k r) keysOf) := by
  refine (h.foldl_link k (keysOf r)).congr fun key name => ?_
  unfold HasKey
  rw [Table.get?_place]
  constructor
  · rintro (⟨r', hr', hkey⟩ | ⟨hkey, rfl⟩)
    · refine ⟨r', ?_, hkey⟩
      rw [if_neg, hr']
      rintro rfl
      rw [hk] at hr'
      cases hr'
    · exact ⟨r, if_pos rfl, hkey⟩
  · rintro ⟨r', hr', hkey⟩
    split at hr'
    · rename_i he
      obtain rfl := Option.some.inj hr'
      exact .inr ⟨hkey, he.symm⟩
    · exact .inl ⟨r', hr', hkey⟩

/-- **The inverted indexes say which records have which keys**, and the records are kept by their own. -/
structure Indexed (ix : Index) : Prop where
  rising : ix.records.Rising
  keyed : ∀ k r, ix.records.get? k = some r → r.key = k
  byTrait : ix.byTrait.Lists (HasKey ix.records Record.traitKeys)
  byTag : ix.byTag.Lists (HasKey ix.records Record.tagKeys)
  byDomain : ix.byDomain.Lists (HasKey ix.records Record.domainKeys)

theorem Indexed.empty : empty.Indexed where
  rising := List.Pairwise.nil
  keyed k r h := by simp [Index.empty] at h
  byTrait := Inverted.Lists.empty.congr fun _ _ => by simp [HasKey, Index.empty]
  byTag := Inverted.Lists.empty.congr fun _ _ => by simp [HasKey, Index.empty]
  byDomain := Inverted.Lists.empty.congr fun _ _ => by simp [HasKey, Index.empty]

theorem Indexed.remove (h : ix.Indexed) (name : String) : (ix.remove name).1.Indexed := by
  unfold Index.remove
  dsimp only
  split
  · exact h
  · rename_i r hr
    refine ⟨h.rising.erase _, fun k r' hr' => ?_, lists_erase h.byTrait hr, lists_erase h.byTag hr,
      lists_erase h.byDomain hr⟩
    rw [Table.get?_erase] at hr'
    split at hr'
    · cases hr'
    · exact h.keyed k r' hr'

theorem Indexed.insert (h : ix.Indexed) (r : Record) : (ix.insert r).1.Indexed := by
  have hrest := h.remove r.key
  -- the record of the same name goes first, so its keys are not mixed with the new ones
  have hnone : (ix.remove r.key).1.records.get? r.key = none := by
    rw [(remove_records ix r.normalize_key).1, Table.get?_erase, if_pos rfl]
  refine ⟨hrest.rising.place _ _, fun k r' hr' => ?_, lists_place hrest.byTrait hnone r,
    lists_place hrest.byTag hnone r, lists_place hrest.byDomain hnone r⟩
  change ((ix.remove r.key).1.records.place r.key r).get? k = some r' at hr'
  rw [Table.get?_place] at hr'
  split at hr'
  · rename_i hk
    rw [← Option.some.inj hr', hk]
  · exact hrest.keyed k r' hr'

/-! ## What is found -/

/-- The records stand in the order of their keys. -/
theorem Indexed.list_rising (h : ix.Indexed) : ix.list.Pairwise fun r s => r.key < s.key := by
  unfold list
  rw [List.pairwise_map]
  refine h.rising.imp_of_mem fun {p q} hp hq hlt => ?_
  rw [h.keyed p.1 p.2 (Table.get?_of_mem h.rising.nodup hp),
    h.keyed q.1 q.2 (Table.get?_of_mem h.rising.nodup hq)]
  exact hlt

theorem Indexed.mem_list (h : ix.Indexed) : r ∈ ix.list ↔ ix.records.get? r.key = some r := by
  unfold list
  rw [List.mem_map]
  constructor
  · rintro ⟨p, hp, rfl⟩
    have hget := Table.get?_of_mem h.rising.nodup hp
    rw [h.keyed p.1 p.2 hget]
    exact hget
  · intro hr
    exact ⟨_, Table.mem_of_get? hr, rfl⟩

/-- Two lists of records in the order of their keys that have the same records are the same. -/
theorem eq_of_rising {rs ss : List Record} (hrs : rs.Pairwise fun r s => r.key < s.key)
    (hss : ss.Pairwise fun r s => r.key < s.key) (h : ∀ r, r ∈ rs ↔ r ∈ ss) : rs = ss := by
  have hnodup : ∀ {us : List Record}, us.Pairwise (fun r s => r.key < s.key) → us.Nodup := by
    intro us hus
    refine hus.imp ?_
    rintro r s hlt rfl
    exact String.lt_irrefl _ hlt
  refine ((List.perm_ext_iff_of_nodup (hnodup hrs) (hnodup hss)).2 h).eq_of_pairwise
    (fun r s _ _ hlt hgt => ?_) hrs hss
  exact absurd (String.lt_trans hlt hgt) (String.lt_irrefl _)

/-- **The records of names** are those of all records whose keys are among the names. -/
theorem Indexed.collect_eq (h : ix.Indexed) {names : NameSet} (hnames : NameSet.Rising names) :
    ix.collect names = ix.list.filter fun r => names.contains r.key := by
  unfold collect
  -- both lists rise, so it is enough that they have the same records
  refine eq_of_rising ?_ (h.list_rising.filter _) fun r => ?_
  · refine List.pairwise_filterMap.2 (hnames.imp fun {m n} hlt r hr s hs => ?_)
    rw [h.keyed m r hr, h.keyed n s hs]
    exact hlt
  · rw [List.mem_filterMap, List.mem_filter, h.mem_list, List.contains_iff_mem]
    constructor
    · rintro ⟨n, hn, hr⟩
      have hkey := h.keyed n r hr
      rw [hkey]
      exact ⟨hr, hn⟩
    · rintro ⟨hr, hn⟩
      exact ⟨r.key, hn, hr⟩

/-- What an inverted index finds for a record is told by the record. -/
theorem Indexed.mem_lookup_key (h : ix.Indexed) (ht : t.Lists (HasKey ix.records keysOf))
    {test : Record → String → Bool}
    (htest : ∀ r value, test r value = true ↔ Name.normalize value ∈ keysOf r)
    (hr : r ∈ ix.list) (values : List String) (mode : MatchMode) :
    r.key ∈ t.lookup values mode ↔ mode.selects values (test r) = true := by
  have hsame : (fun v => (t.names v).contains r.key) = test r := by
    funext v
    rw [Bool.eq_iff_iff, List.contains_iff_mem, htest]
    refine (ht.mem _ _).trans ⟨?_, fun hkey => ⟨r, h.mem_list.1 hr, hkey⟩⟩
    rintro ⟨r', hr', hkey⟩
    obtain rfl := Option.some.inj ((h.mem_list.1 hr).symm.trans hr')
    exact hkey
  rw [Inverted.mem_lookup, hsame]

/-- **What one filter finds** is what a look at each record finds. -/
theorem Indexed.collect_lookup (h : ix.Indexed) (ht : t.Lists (HasKey ix.records keysOf))
    {test : Record → String → Bool}
    (htest : ∀ r value, test r value = true ↔ Name.normalize value ∈ keysOf r)
    (values : List String) (mode : MatchMode) :
    ix.collect (t.lookup values mode) = ix.list.filter fun r => mode.selects values (test r) := by
  rw [h.collect_eq (ht.rising_lookup values mode)]
  refine List.filter_congr fun r hr => ?_
  rw [Bool.eq_iff_iff, List.contains_iff_mem]
  exact h.mem_lookup_key ht htest hr values mode

theorem rising_narrow {names : NameSet} (hnames : NameSet.Rising names) (t : Inverted)
    (values : List String) (mode : MatchMode) : NameSet.Rising (narrow names t values mode) := by
  unfold narrow
  split
  · exact hnames
  · exact hnames.inter _

/-- A filter without values keeps all names, any other those that it finds. -/
theorem Indexed.mem_narrow (h : ix.Indexed) (ht : t.Lists (HasKey ix.records keysOf))
    {test : Record → String → Bool}
    (htest : ∀ r value, test r value = true ↔ Name.normalize value ∈ keysOf r)
    (hr : r ∈ ix.list) (names : NameSet) (values : List String) (mode : MatchMode) :
    r.key ∈ narrow names t values mode ↔
      r.key ∈ names ∧ (values.isEmpty || mode.selects values (test r)) = true := by
  unfold narrow
  split
  · rename_i hempty; simp [hempty]
  · rename_i hvalues
    rw [NameSet.mem_inter, h.mem_lookup_key ht htest hr]
    simp [hvalues]

/-- **What a query finds** is what a look at each record finds. -/
theorem Indexed.query_eq (h : ix.Indexed) (q : Query) : ix.query q = ix.list.filter q.selects := by
  unfold query
  dsimp only
  have hkeys : NameSet.Rising ix.records.keys := List.pairwise_map.2 h.rising
  -- the names of all records, narrowed by each filter in turn
  rw [h.collect_eq (rising_narrow (rising_narrow (rising_narrow hkeys _ _ _) _ _ _) _ _ _)]
  refine List.filter_congr fun r hr => ?_
  have hmem : r.key ∈ ix.records.keys := Table.mem_keys.2 ⟨r, h.mem_list.1 hr⟩
  rw [Bool.eq_iff_iff, List.contains_iff_mem,
    h.mem_narrow h.byDomain (fun r v => r.hasDomain_iff) hr,
    h.mem_narrow h.byTag (fun r v => r.hasTag_iff) hr,
    h.mem_narrow h.byTrait (fun r v => r.hasTrait_iff) hr]
  simp [Query.selects, MatchMode.selects, hmem]

/-! ## Any use of an index -/

/-- A change of an index. -/
inductive Step where
  | insert (r : Record)
  | remove (name : String)
  | clear

/-- The index after a change. -/
def Step.apply (ix : Index) : Step → Index
  | insert r => (ix.insert r).1
  | remove name => (ix.remove name).1
  | clear => .empty

/-- The records after a change, kept by their keys alone. -/
def Step.store (records : Table Record) : Step → Table Record
  | insert r => records.place r.key r
  | remove name => records.erase (Name.normalize name)
  | clear => []

/-- An index after some changes. -/
def run (steps : List Step) : Index := steps.foldl Step.apply .empty

/-- The records after some changes. -/
def stored (steps : List Step) : Table Record := steps.foldl Step.store []

theorem Indexed.apply (h : ix.Indexed) (step : Step) :
    (step.apply ix).Indexed ∧ (step.apply ix).records = step.store ix.records := by
  cases step with
  | insert r => exact ⟨h.insert r, (insert_records h.rising r).1⟩
  | remove name =>
    refine ⟨h.remove name, ?_⟩
    have hremove : ix.remove name = ix.remove (Name.normalize name) := by
      unfold Index.remove; rw [Name.normalize_normalize]
    change (ix.remove name).1.records = _
    rw [hremove]
    exact (remove_records ix (Name.normalize_normalize name)).1
  | clear => exact ⟨.empty, rfl⟩

theorem run_indexed (steps : List Step) : (run steps).Indexed ∧ (run steps).records = stored steps := by
  suffices h : ∀ (ix : Index), ix.Indexed → (steps.foldl Step.apply ix).Indexed ∧
      (steps.foldl Step.apply ix).records = steps.foldl Step.store ix.records from h _ .empty
  -- the index and the records alone take the same steps
  induction steps with
  | nil => exact fun ix h => ⟨h, rfl⟩
  | cons step steps ih =>
    intro ix h
    obtain ⟨hstep, hrecords⟩ := h.apply step
    rw [List.foldl_cons, List.foldl_cons, ← hrecords]
    exact ih _ hstep

/-- An inverted index has no key without names, and no name without a record. -/
def Tight (records : Table Record) (t : Inverted) : Prop :=
  ∀ entry ∈ t, entry.2 ≠ [] ∧ ∀ name ∈ entry.2, ∃ r, records.get? name = some r

theorem tight_of_lists (h : t.Lists (HasKey records keysOf)) : Tight records t := by
  rintro ⟨key, names⟩ hentry
  have hget := Table.get?_of_mem h.nodup hentry
  refine ⟨?_, fun name hname => ?_⟩
  · rintro rfl
    exact h.nonempty key hget
  · obtain ⟨r, hr, -⟩ := (h.mem key name).1 (by rw [hget]; exact hname)
    exact ⟨r, hr⟩

/-- **What an index answers**, where `records` are the records that were stored: a look at each of them. -/
structure Scans (ix : Index) (records : Table Record) : Prop where
  list : ix.list = records.map Prod.snd
  /-- Each record is there once, in the order of the keys. -/
  ascending : ix.list.Pairwise fun r s => r.key < s.key
  findByTrait : ∀ values mode,
    ix.findByTrait values mode = ix.list.filter fun r => mode.selects values r.hasTrait
  filterByTags : ∀ values mode,
    ix.filterByTags values mode = ix.list.filter fun r => mode.selects values r.hasTag
  filterByDomains : ∀ values,
    ix.filterByDomains values = ix.list.filter fun r => values.any r.hasDomain
  query : ∀ q, ix.query q = ix.list.filter q.selects
  tight : ∀ t ∈ [ix.byTrait, ix.byTag, ix.byDomain], Tight records t

/-- **After any use of an index** its queries find what a look at each stored record finds, and nothing is left
in the inverted indexes of records that are gone. -/
theorem run_scans (steps : List Step) : (run steps).Scans (stored steps) := by
  obtain ⟨h, hrecords⟩ := run_indexed steps
  rw [← hrecords]
  refine ⟨rfl, h.list_rising, fun values mode => ?_, fun values mode => ?_, fun values => ?_, h.query_eq, ?_⟩
  · exact h.collect_lookup h.byTrait (fun r v => r.hasTrait_iff) values mode
  · exact h.collect_lookup h.byTag (fun r v => r.hasTag_iff) values mode
  · exact h.collect_lookup h.byDomain (fun r v => r.hasDomain_iff) values .any
  · simp only [List.mem_cons, List.not_mem_nil, or_false]
    rintro t (rfl | rfl | rfl)
    · exact tight_of_lists h.byTrait
    · exact tight_of_lists h.byTag
    · exact tight_of_lists h.byDomain

/-! ## Names that find the same -/

variable {n m : String}

/-- **An index makes no difference between two names**: it finds the same record by both, removes the same, and selects
the same with either among the values of a filter. -/
structure SameFinds (ix : Index) (n m : String) : Prop where
  get? : ix.get? n = ix.get? m
  has : ix.has n = ix.has m
  remove : ix.remove n = ix.remove m
  findByTrait : ∀ us vs mode, ix.findByTrait (us ++ n :: vs) mode = ix.findByTrait (us ++ m :: vs) mode
  filterByTags : ∀ us vs mode, ix.filterByTags (us ++ n :: vs) mode = ix.filterByTags (us ++ m :: vs) mode
  filterByDomains : ∀ us vs, ix.filterByDomains (us ++ n :: vs) = ix.filterByDomains (us ++ m :: vs)

theorem sameFinds_of_normalize_eq (ix : Index) (h : Name.normalize n = Name.normalize m) : ix.SameFinds n m := by
  have hvalues (us vs : List String) :
      (us ++ n :: vs).map Name.normalize = (us ++ m :: vs).map Name.normalize := by
    rw [List.map_append, List.map_append, List.map_cons, List.map_cons, h]
  refine ⟨?_, ?_, ?_, fun us vs mode => ?_, fun us vs mode => ?_, fun us vs => ?_⟩
  · unfold Index.get?; rw [h]
  · unfold Index.has; rw [h]
  · unfold Index.remove; rw [h]
  · exact congrArg ix.collect (ix.byTrait.lookup_congr (hvalues us vs) mode)
  · exact congrArg ix.collect (ix.byTag.lookup_congr (hvalues us vs) mode)
  · exact congrArg ix.collect (ix.byDomain.lookup_congr (hvalues us vs) .any)

/-- After any use of an index each of its records is found by its key. -/
theorem get?_key_of_mem_list (steps : List Step) {r : Record} (hr : r ∈ (run steps).list) :
    (run steps).get? r.key = some r := by
  rw [get?_eq _ r.normalize_key]
  exact (run_indexed steps).1.mem_list.1 hr

/-- **A key finds what the name finds that it came from.** Normal names are their own normal forms, and the blanks around
and between words make no difference to them; so every index makes no difference between the key of a record and its
name, and after any use of an index its records are found by both. -/
theorem found_by_key :
    (∀ s, Name.normalize (Name.normalize s) = Name.normalize s) ∧
      (∀ s t, Text.Respaced s t → Name.normalize s = Name.normalize t) ∧
      (∀ (ix : Index) (r : Record), ix.SameFinds r.key r.name) ∧
      ∀ steps : List Step, ∀ r ∈ (run steps).list,
        (run steps).get? r.key = some r ∧ (run steps).get? r.name = some r := by
  have hsame (ix : Index) (r : Record) : ix.SameFinds r.key r.name :=
    ix.sameFinds_of_normalize_eq r.normalize_key
  refine ⟨Name.normalize_normalize, fun _ _ => Name.normalize_eq_of_respaced, hsame, fun steps r hr => ?_⟩
  have hkey := get?_key_of_mem_list steps hr
  exact ⟨hkey, (hsame _ r).get? ▸ hkey⟩

/-- The record of an object whose name ends in a sigma and a dotted capital, with two blanks between its words. -/
def street : Record :=
  Record.of ⟨⟨"ΟΔΟΣ\u2003 İ", none, none, none, [], []⟩, [], [], [], [], [], [], Resolutions.empty, []⟩
    ⟨"street.object.yaml"⟩ ⟨0, 0⟩

theorem found_by_key_street :
    (Text.Respaced "ΟΔΟΣ İ" "\tΟΔΟΣ\u2003 İ\n" ∧ street ∈ (run [.insert street]).list) ∧
      street.key = "οδος i\u0307" ∧
      Name.normalize "οδος i\u0307" = "οδος i\u0307" ∧
      Name.normalize "ΟΔΟΣ İ" = Name.normalize "\tΟΔΟΣ\u2003 İ\n" ∧
      (run [.insert street]).SameFinds street.key street.name ∧
      (run [.insert street]).get? "οδος i\u0307" = some street := by
  have hgap : Text.Respaced "ΟΔΟΣ İ" "ΟΔΟΣ\u2003 İ" :=
    .between "ΟΔΟΣ" "İ" (b := " ") (c := "\u2003 ") ⟨by decide, by decide⟩ ⟨by decide, by decide⟩
  have hrespaced : Text.Respaced "ΟΔΟΣ İ" "\tΟΔΟΣ\u2003 İ\n" :=
    hgap.trans (.around "ΟΔΟΣ\u2003 İ" (b := "\t") (e := "\n") (by decide) (by decide))
  have hmem : street ∈ (run [.insert street]).list := List.mem_cons_self
  have hkey : street.key = "οδος i\u0307" := by decide +kernel
  obtain ⟨hnormal, hspace, hsame, hfound⟩ := found_by_key
  refine ⟨⟨hrespaced, hmem⟩, hkey, ?_, hspace _ _ hrespaced, hsame _ _, ?_⟩
  · rw [← hkey]; exact hnormal street.name
  · rw [← hkey]; exact (hfound _ street hmem).1

end Index

end TraitWeave
