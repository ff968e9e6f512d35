import TraitWeave.Proofs.Compose.Layering
import TraitWeave.Proofs.Json.Merge

/-!
# What was merged already changes nothing

A merge is neither commutative nor associative, but it absorbs: a layer merged with itself is the layer, and a
layer that went into a merge may be merged with it again, from above or from below. The laws are those of
replacing a value by a later one; they pass from the values of a table to the table, and so from the members of
objects to the objects and from the attributes of declarations to the declarations.

* `Absorbing`: the laws; `Absorbing.option`, `Absorbing.lay`: where there may be no value, and for tables.
* `Json.absorbing_merge`, `Field.absorbing_merge`: values and declarations.
* `Object.compose_erase`: a declaration of the foundation that went into the base's may be left out.
* `merge_absorbs`: **all of it.**
-/

namespace TraitWeave

variable {α : Type} {op : α → α → α} {P Q : α → Prop}

/-- An operation that puts the later of two values over the earlier one; that either comes again makes no
difference. -/
structure Absorbing (op : α → α → α) (P : α → Prop) : Prop where
  self : ∀ {a}, P a → op a a = a
  /-- The later value once more on top. -/
  again : ∀ {a b}, P a → P b → op (op a b) b = op a b
  /-- The earlier value once more below. -/
  under : ∀ {a b}, P a → P b → op a (op a b) = op a b

namespace Absorbing

theorem mono (h : Absorbing op P) (hQ : ∀ a, Q a → P a) : Absorbing op Q where
  self ha := h.self (hQ _ ha)
  again ha hb := h.again (hQ _ ha) (hQ _ hb)
  under ha hb := h.under (hQ _ ha) (hQ _ hb)

/-- The later value stands. -/
theorem later : Absorbing (fun _ b : α => b) P := ⟨fun _ => rfl, fun _ _ => rfl, fun _ _ => rfl⟩

/-- Values that there may be or not. -/
theorem option (h : Absorbing op P) : Absorbing (Option.merge op) fun o => ∀ a ∈ o, P a where
  self {a} ha := by
    cases a with
    | none => rfl
    | some a => exact congrArg some (h.self (ha a rfl))
  again {a b} ha hb := by
    cases b with
    | none => rw [Option.merge_none_right]
    | some b =>
      cases a with
      | none => exact congrArg some (h.self (hb b rfl))
      | some a => exact congrArg some (h.again (ha a rfl) (hb b rfl))
  under {a b} ha hb := by
    cases a with
    | none => rw [Option.merge_none_left, Option.merge_none_left]
    | some a =>
      cases b with
      | none => exact congrArg some (h.self (ha a rfl))
      | some b => exact congrArg some (h.under (ha a rfl) (hb b rfl))

/-- **Tables absorb** as their values do. The names that come again are known, so none is added to the order. -/
theorem lay (h : Absorbing op P) : Absorbing (Table.lay op) fun t => t.keys.Nodup ∧ ∀ p ∈ t, P p.2 := by
  have hfound {t : Table α} (ht : ∀ p ∈ t, P p.2) (k : String) : ∀ v ∈ t.get? k, P v :=
    fun v hv => ht (k, v) (Table.mem_of_get? hv)
  refine ⟨?_, ?_, ?_⟩
  · rintro t ⟨ht, htP⟩
    exact Table.lay_eq_self ht ht (fun _ => id) fun k => h.option.self (hfound htP k)
  · rintro t u ⟨ht, htP⟩ ⟨hu, huP⟩
    refine Table.lay_eq_self (Table.nodup_lay op ht hu) hu (fun k hk => (Table.mem_keys_lay op hu).2 (.inr hk)) ?_
    intro k
    rw [Table.get?_lay op t hu]
    exact h.option.again (hfound htP k) (hfound huP k)
  · rintro t u ⟨ht, htP⟩ ⟨hu, huP⟩
    have hw := Table.nodup_lay op ht hu
    refine Table.ext (Table.nodup_lay op ht hw) ?_ fun k => ?_
    · -- the names of the table below come first in both, and what is new stays new
      rw [Table.keys_lay op t hw, Table.keys_lay op t hu, List.filter_append, List.filter_filter]
      simp
    · rw [Table.get?_lay op t hw, Table.get?_lay op t hu]
      exact h.option.under (hfound htP k) (hfound huP k)

end Absorbing

/-! ## Values -/

namespace Json

variable {depth : Depth} {P : Json → Prop}

/-- One merge absorbs where what it does to members absorbs. -/
theorem absorbing_of_members (h : Absorbing (overMember depth) P) :
    Absorbing (merge depth) fun v => v.Distinct ∧ ∀ ms, v = obj ms → ∀ p ∈ ms, P p.2 := by
  have hself {v : Json} (hv : v.Distinct ∧ ∀ ms, v = obj ms → ∀ p ∈ ms, P p.2) : v.merge depth v = v := by
    cases hobj : v.asObj? with
    | none => exact merge_of_no_obj (.inl hobj)
    | some ms =>
      obtain rfl := asObj?_eq_some.1 hobj
      rw [merge_obj, mergeMembers_eq, h.lay.self ⟨hv.1.nodup, hv.2 ms rfl⟩]
  -- two objects are merged as tables, otherwise the later value stands
  have hcases (a b : Json) : (a.asObj? = none ∨ b.asObj? = none) ∨ ∃ ms ns, a = obj ms ∧ b = obj ns := by
    cases a <;> cases b <;> simp [asObj?]
  refine ⟨hself, ?_, ?_⟩
  · rintro a b ha hb
    rcases hcases a b with hobj | ⟨ms, ns, rfl, rfl⟩
    · rw [merge_of_no_obj hobj]
      exact hself hb
    · rw [merge_obj, merge_obj, mergeMembers_eq, mergeMembers_eq,
        h.lay.again ⟨ha.1.nodup, ha.2 ms rfl⟩ ⟨hb.1.nodup, hb.2 ns rfl⟩]
  · rintro a b ha hb
    rcases hcases a b with hobj | ⟨ms, ns, rfl, rfl⟩
    · rw [merge_of_no_obj hobj, merge_of_no_obj hobj]
    · rw [merge_obj, merge_obj, mergeMembers_eq, mergeMembers_eq,
        h.lay.under ⟨ha.1.nodup, ha.2 ms rfl⟩ ⟨hb.1.nodup, hb.2 ns rfl⟩]

/-- A deep merge of values below a size; the members of an object are smaller than the object. -/
theorem absorbing_merge_below (n : ℕ) : Absorbing (merge .deep) fun v => v.Distinct ∧ sizeOf v < n := by
  induction n with
  | zero =>
    have hnone (v : Json) : ¬ (v.Distinct ∧ sizeOf v < 0) := fun h => Nat.not_lt_zero _ h.2
    exact ⟨fun ha => absurd ha (hnone _), fun ha => absurd ha (hnone _), fun ha => absurd ha (hnone _)⟩
  | succ n ih =>
    have hmembers : Absorbing (overMember .deep) _ := ih
    refine (absorbing_of_members hmembers).mono ?_
    rintro v ⟨hv, hsize⟩
    refine ⟨hv, ?_⟩
    rintro ms rfl p hp
    have hget : Table.get? ms p.1 = some p.2 := Table.get?_of_mem hv.nodup hp
    have hless : sizeOf p < sizeOf ms := List.sizeOf_lt_of_mem hp
    have hobj : sizeOf (obj ms) = 1 + sizeOf ms := obj.sizeOf_spec ms
    have hpair : sizeOf p = 1 + sizeOf p.1 + sizeOf p.2 := rfl
    exact ⟨hv.member hget, by omega⟩

/-- **A merge of values absorbs**, shallow or deep. -/
theorem absorbing_merge (depth : Depth) : Absorbing (merge depth) Distinct := by
  cases depth with
  | shallow =>
    have hmembers : Absorbing (overMember .shallow) fun _ => True := .later
    exact (absorbing_of_members hmembers).mono fun _ h => ⟨h, fun _ _ _ _ => trivial⟩
  | deep =>
    have hbelow (n : ℕ) := absorbing_merge_below n
    refine ⟨fun {a} ha => ?_, fun {a b} ha hb => ?_, fun {a b} ha hb => ?_⟩
    · exact (hbelow (sizeOf a + 1)).self ⟨ha, by omega⟩
    · exact (hbelow (sizeOf a + sizeOf b + 1)).again ⟨ha, by omega⟩ ⟨hb, by omega⟩
    · exact (hbelow (sizeOf a + sizeOf b + 1)).under ⟨ha, by omega⟩ ⟨hb, by omega⟩

end Json

/-! ## Declarations -/

theorem Rules.absorbing_merge : Absorbing Rules.merge fun _ => True where
  self _ := by simp [Rules.merge]
  again _ _ := by simp [Rules.merge, ← Option.or_assoc]
  under _ _ := by simp [Rules.merge, Option.or_assoc]

namespace Field

/-- No object in the default or in the further attributes has a name twice. -/
structure Distinct (f : Field) : Prop where
  default : ∀ v ∈ f.default, v.Distinct
  extra : f.extra.keys.Nodup ∧ ∀ p ∈ f.extra, p.2.Distinct

theorem mergeDefault_eq (depth : Depth) (a b : Option Json) :
    mergeDefault depth a b = Option.merge (Json.merge depth) a b := by
  cases a <;> cases b <;> rfl

theorem mergeExtra_eq (depth : Depth) (t u : Table Json) :
    mergeExtra depth t u = Table.lay (Json.merge depth) t u := by
  unfold mergeExtra Table.lay
  congr 1
  funext acc p
  cases acc.get? p.1 <;> rfl

/-- **A merge of declarations absorbs**, attribute by attribute. -/
theorem absorbing_merge (depth : Depth) : Absorbing (merge depth) Distinct := by
  have hvalues := Json.absorbing_merge depth
  refine ⟨fun {f} hf => ?_, fun {f g} hf hg => ?_, fun {f g} hf hg => ?_⟩
  · have hdefault := hvalues.option.self hf.default
    have hextra := hvalues.lay.self hf.extra
    have hrules := Rules.absorbing_merge.self (a := f.rules) trivial
    simp only [merge, mergeDefault_eq, mergeExtra_eq, hdefault, hextra, hrules, Option.or_self]
  · have hdefault := hvalues.option.again hf.default hg.default
    have hextra := hvalues.lay.again hf.extra hg.extra
    have hrules := Rules.absorbing_merge.again (a := f.rules) (b := g.rules) trivial trivial
    simp only [merge, mergeDefault_eq, mergeExtra_eq, hdefault, hextra, hrules, ← Option.or_assoc, Option.or_self]
  · have hdefault := hvalues.option.under hf.default hg.default
    have hextra := hvalues.lay.under hf.extra hg.extra
    have hrules := Rules.absorbing_merge.under (a := f.rules) (b := g.rules) trivial trivial
    simp only [merge, mergeDefault_eq, mergeExtra_eq, hdefault, hextra, hrules, Option.or_assoc, Option.or_self]

end Field

/-! ## The foundation below a base -/

namespace Strata

variable {L M : Strata α} {merge : α → α → α} {strategy : Option Strategy} {key : String}

/-- A declaration at the bottom that went into the next one makes no difference to what is chosen. -/
theorem chosen?_of_absorbed {c d : Candidate α} {cs : List (Candidate α)}
    (htraits : M.byTraits key = L.byTraits key) (hobject : M.byObject? key = L.byObject? key)
    (hM : M.declared key = d :: cs) (hL : L.declared key = c :: d :: cs)
    (hmerge : merge c.value d.value = d.value) :
    M.chosen? merge strategy key = L.chosen? merge strategy key := by
  have hlast : (M.declared key).getLast? = (L.declared key).getLast? := by rw [hM, hL, List.getLast?_cons_cons]
  unfold chosen?
  cases strategy with
  | none => exact hlast
  | some strategy =>
    cases strategy with
    | useTrait => rw [htraits, hlast]
    | useObject => rw [hobject, hlast]
    | merge => simp only [hM, hL, List.foldl_cons, hmerge]

/-- **What stands does not depend on a declaration of the foundation** that went into the base's. -/
theorem standing?_erase (merge : α → α → α) (strategy : Option Strategy) {source : String} {base : Table α}
    {f v : α} (hf : L.foundation.get? key = some f)
    (hbase : L.base = some (source, base)) (hv : base.get? key = some v) (hmerge : merge f v = v) (k : String) :
    { L with foundation := L.foundation.erase key }.standing? merge strategy k =
      L.standing? merge strategy k := by
  have hfoundation : (L.foundation.erase key).get? k = if key = k then none else L.foundation.get? k :=
    L.foundation.get?_erase key k
  by_cases hk : key = k
  · subst hk
    rw [if_pos rfl] at hfoundation
    -- the declarations of the key differ in the lowest one, which the next one absorbs
    have hchosen : { L with foundation := L.foundation.erase key }.chosen? merge strategy key =
        L.chosen? merge strategy key := by
      have habove : { L with foundation := L.foundation.erase key }.declared key =
          ⟨⟨.base, source⟩, v⟩ :: (L.byTraits key ++ (L.byObject? key).toList) := by
        simp [declared, declaration?, hfoundation, hbase, hv, byTraits, byObject?]
      have hbelow : L.declared key =
          ⟨⟨.foundation, "foundation"⟩, f⟩ :: ⟨⟨.base, source⟩, v⟩ ::
            (L.byTraits key ++ (L.byObject? key).toList) := by
        simp [declared, declaration?, hf, hbase, hv]
      exact chosen?_of_absorbed rfl rfl habove hbelow hmerge
    unfold standing?
    rw [hchosen]
  · rw [if_neg hk] at hfoundation
    have hdeclared : { L with foundation := L.foundation.erase key }.declared k = L.declared k := by
      simp [declared, declaration?, hfoundation, byTraits, byObject?]
    unfold standing? chosen?
    rw [hdeclared]
    rfl

end Strata

namespace Object

variable {foundation : Table Field} {o : Object} {resolved : List Resolved} {b : Composed} {key : String}

/-- **A declaration of the foundation that went into the base's counts once**: without it every key has the same
declaration from the same source, whatever the strategies are. -/
theorem compose_erase {f v : Field} (h : Distinct foundation o resolved (some b))
    (hf : foundation.get? key = some f) (hv : b.schema.get? key = some v)
    (hmerge : f.merge o.resolutions.depth v = v) (k : String) :
    let once := o.compose (foundation.erase key) resolved (some b)
    let twice := o.compose foundation resolved (some b)
    twice.schema.get? k = once.schema.get? k ∧ twice.provenance.get? k = once.provenance.get? k := by
  have herase : Distinct (foundation.erase key) o resolved (some b) :=
    { h with foundation := h.foundation.sublist (List.filter_sublist.map _) }
  have hbase : (fieldStrata foundation o resolved (some b)).base = some (b.name, b.schema) := rfl
  have hstanding := Strata.standing?_erase (Field.merge o.resolutions.depth) (o.strategy? .fields k) hf hbase hv
    hmerge k
  obtain ⟨settled, hsettled, hschema, hprovenance⟩ := compose_settles h
  obtain ⟨settled', hsettled', hschema', hprovenance'⟩ := compose_settles herase
  have hsame : settled.get? k = settled'.get? k :=
    (hsettled.value k).trans (hstanding.symm.trans (hsettled'.value k).symm)
  intro once twice
  constructor
  · rw [hschema, hschema', Table.get?_mapValues, Table.get?_mapValues, hsame]
  · rw [hprovenance, hprovenance', Table.get?_mapValues, Table.get?_mapValues, hsame]

end Object

/-- **What was merged already changes nothing.** Values and declarations absorb, shallow and deep, the order of names
included; so where the base has what the foundation declares, by itself or with another declaration merged over it,
the foundation's own declaration makes no difference. Two declarations over it are another matter: where the first
of them replaces an object of the foundation by a value of another kind and the second brings an object back, the
foundation's members return. -/
theorem merge_absorbs (depth : Depth) :
    Absorbing (Json.merge depth) Json.Distinct ∧ Absorbing (Field.merge depth) Field.Distinct ∧
      ∀ (foundation : Table Field) (o : Object) (resolved : List Resolved) (b : Composed) (key : String)
        (f g : Field), Object.Distinct foundation o resolved (some b) → o.resolutions.depth = depth →
        f.Distinct → g.Distinct → foundation.get? key = some f →
        (b.schema.get? key = some f ∨ b.schema.get? key = some (f.merge depth g)) → ∀ k,
        let once := o.compose (foundation.erase key) resolved (some b)
        let twice := o.compose foundation resolved (some b)
        twice.schema.get? k = once.schema.get? k ∧ twice.provenance.get? k = once.provenance.get? k := by
  refine ⟨Json.absorbing_merge depth, Field.absorbing_merge depth, ?_⟩
  rintro foundation o resolved b key f g h rfl hf hg hkey hbase
  have habsorbing := Field.absorbing_merge o.resolutions.depth
  rcases hbase with hb | hb
  · exact Object.compose_erase h hkey hb (habsorbing.self hf)
  · exact Object.compose_erase h hkey hb (habsorbing.under hf hg)

/-- A title that all objects share; the base says that there must be one. -/
theorem merge_absorbs_title :
    let f : Field := { Field.ofKind "string" with default := some (.obj [("en", .str "Untitled")]) }
    let g : Field := { Field.empty with required := some true, default := some (.obj [("de", .str "Ohne Titel")]) }
    let o : Object := { Object.article with
      resolutions := { Resolutions.empty with fields := [("title", ⟨some .merge, none⟩)], depth := .deep } }
    let b : Composed := { Composed.empty "Page" with schema := [("title", f.merge o.resolutions.depth g)] }
    (f.Distinct ∧ g.Distinct ∧ Object.Distinct [("title", f)] o [] (some b)) ∧
      (f.merge o.resolutions.depth g).merge o.resolutions.depth g = f.merge o.resolutions.depth g ∧
      (o.compose [("title", f)] [] (some b)).schema.get? "title" =
        (o.compose [] [] (some b)).schema.get? "title" := by
  intro f g o b
  have hobject (k v : String) : (Json.obj [(k, .str v)]).Distinct :=
    Json.distinct_obj (List.nodup_singleton k)
      (List.forall_mem_singleton.2 (Json.distinct_of_asObj?_eq_none rfl))
  have hf : f.Distinct := ⟨fun v hv => Option.some.inj hv ▸ hobject _ _, List.nodup_nil, List.forall_mem_nil _⟩
  have hg : g.Distinct := ⟨fun v hv => Option.some.inj hv ▸ hobject _ _, List.nodup_nil, List.forall_mem_nil _⟩
  have hdistinct : Object.Distinct [("title", f)] o [] (some b) :=
    { foundation := List.nodup_singleton _
      base := by
        rintro _ ⟨⟩
        exact ⟨List.nodup_singleton _, fun s => by cases s <;> exact List.nodup_nil⟩
      traits := by simp
      own := ⟨by decide, fun s => by cases s <;> exact List.nodup_nil⟩
      resolutions := fun s => by cases s <;> decide }
  obtain ⟨-, habsorbing, hcompose⟩ := merge_absorbs o.resolutions.depth
  refine ⟨⟨hf, hg, hdistinct⟩, habsorbing.again hf hg, ?_⟩
  exact (hcompose _ o [] b "title" f g hdistinct rfl hf hg rfl (.inr rfl) "title").1

end TraitWeave
