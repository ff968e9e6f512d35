import TraitWeave.Proofs.Digraph.Reach
import TraitWeave.Proofs.Trait.Conflicts
import Mathlib.Order.Bounds.Defs

/-!
# Traits that are needed together and refuse each other

A trait is needed together with all that it depends on, at any distance. Where one of two such traits refuses the
other, the pair is told once, for the first trait that needs both.

* `Graph.Requires`: a trait that is another one or depends on it, with `Graph.mem_group` for what is collected.
* `Graph.Meets`: a pair of traits that is to be told, and a trait that needs both.
* `Graph.conflicts_tells`: each such pair is told once, with the first trait that needs both.
* `Graph.incompatible_ofTraits`: the errors about incompatible traits, and that there are no others.
-/

namespace TraitWeave.Graph

open Name (SameName)
open Relation (TransGen ReflTransGen)

variable {g : Graph} {given : List Node} {ts : List Trait} {reported : List (Nat × Nat)} {p : Nat × Nat}
  {i j k n : Nat}

/-- The node is the other one, or depends on it at any distance. -/
def Requires (g : Graph) (k i : Nat) : Prop := ReflTransGen g.DependsOn k i

theorem Requires.lt (h : g.Requires k i) (hi : i < g.nodes.length) : k < g.nodes.length := by
  rcases ReflTransGen.cases_head h with rfl | ⟨j, ⟨n, hn, -⟩, -⟩
  · exact hi
  · exact (List.getElem?_eq_some_iff.1 hn).1

theorem Requires.target_lt (h : g.Requires k i) (hk : k < g.nodes.length) : i < g.nodes.length := by
  rcases ReflTransGen.cases_tail h with rfl | ⟨j, -, n, -, d, -, hd⟩
  · exact hk
  · exact lookupIn_lt hd

/-! ## What is needed together -/

theorem mem_closure_ofNodes (hk : k < (ofNodes given).nodes.length) :
    i ∈ (ofNodes given).edges.closure k ↔ i ≠ k ∧ TransGen (ofNodes given).DependsOn k i := by
  rw [← needs_ofNodes]
  exact Digraph.mem_closure (proper_ofNodes given) (size_edges given ▸ hk)

theorem nodup_group (hk : k < (ofNodes given).nodes.length) : ((ofNodes given).group k).Nodup :=
  Digraph.nodup_closure (proper_ofNodes given) (size_edges given ▸ hk)

/-- **A group** is a node with all that it requires. -/
theorem mem_group (hk : k < (ofNodes given).nodes.length) :
    i ∈ (ofNodes given).group k ↔ (ofNodes given).Requires k i := by
  rw [group, List.mem_cons, mem_closure_ofNodes hk, Requires, Relation.reflTransGen_iff_eq_or_transGen]
  by_cases hi : i = k
  · simp [hi]
  · simp [hi]

/-! ## The pairs of one group -/

theorem declaresConflict_comm (g : Graph) (i j : Nat) : g.declaresConflict i j = g.declaresConflict j i := by
  unfold declaresConflict
  cases g.nodes[i]? <;> cases g.nodes[j]? <;> simp [Bool.or_comm]

/-- A pair of nodes, the earlier one first, of which one refuses the other; `k` needs both. -/
structure Meets (g : Graph) (p : Nat × Nat) (k : Nat) : Prop where
  lt : p.1 < p.2
  refuses : g.declaresConflict p.1 p.2 = true
  first : p.1 ∈ g.group k
  second : p.2 ∈ g.group k

/-- A pair with the earlier one first. -/
def rising (p : Nat × Nat) : Nat × Nat := (min p.1 p.2, max p.1 p.2)

theorem rising_eq_or (p : Nat × Nat) : rising p = p ∨ rising p = p.swap := by
  rcases Nat.le_total p.1 p.2 with h | h
  · exact .inl (Prod.ext (Nat.min_eq_left h) (Nat.max_eq_right h))
  · exact .inr (Prod.ext (Nat.min_eq_right h) (Nat.max_eq_left h))

/-- The pairs that meet are those of the group of which one refuses the other. -/
theorem meets_iff (hgroup : (g.group k).Nodup) :
    g.Meets p k ↔ ∃ q ∈ pairs (g.group k), g.declaresConflict q.1 q.2 = true ∧ p = rising q := by
  constructor
  · rintro ⟨hlt, hrefuses, hfirst, hsecond⟩
    have hrising : p = rising p := Prod.ext (Nat.min_eq_left hlt.le).symm (Nat.max_eq_right hlt.le).symm
    -- the group has the two in one order or the other
    obtain ⟨a, ha⟩ := List.getElem?_of_mem hfirst
    obtain ⟨b, hb⟩ := List.getElem?_of_mem hsecond
    rcases Nat.lt_trichotomy a b with hab | rfl | hba
    · exact ⟨p, mem_pairs.2 ⟨a, b, hab, ha, hb⟩, hrefuses, hrising⟩
    · exact absurd (Option.some.inj (ha.symm.trans hb)) hlt.ne
    · have hswap : rising p = rising p.swap := Prod.ext (Nat.min_comm _ _) (Nat.max_comm _ _)
      exact ⟨p.swap, mem_pairs.2 ⟨b, a, hba, hb, ha⟩, (declaresConflict_comm g _ _).trans hrefuses,
        hrising.trans hswap⟩
  · rintro ⟨q, hq, hrefuses, rfl⟩
    have hsublist := mem_pairs_sublist.1 hq
    have hne : q.1 ≠ q.2 := by
      have hpair := hgroup.sublist hsublist
      simpa using hpair
    have hfirst : q.1 ∈ g.group k := hsublist.subset (by simp)
    have hsecond : q.2 ∈ g.group k := hsublist.subset (by simp)
    have hlt : (rising q).1 < (rising q).2 := by
      unfold rising
      omega
    rcases rising_eq_or q with heq | heq
    · rw [heq] at hlt ⊢
      exact ⟨hlt, hrefuses, hfirst, hsecond⟩
    · rw [heq] at hlt ⊢
      exact ⟨hlt, (declaresConflict_comm g _ _).trans hrefuses, hsecond, hfirst⟩

/-- What is found when one more pair of a group is looked at. -/
def lookAt (g : Graph) (reported found : List (Nat × Nat)) (q : Nat × Nat) : List (Nat × Nat) :=
  if g.declaresConflict q.1 q.2 && !reported.contains (rising q) && !found.contains (rising q) then
    found ++ [rising q]
  else found

/-- **What was found among some pairs**: those of which one node refuses the other, without those reported before,
each once. -/
structure Finds (g : Graph) (reported qs found : List (Nat × Nat)) : Prop where
  nodup : found.Nodup
  mem : ∀ p, p ∈ found ↔ p ∉ reported ∧ ∃ q ∈ qs, g.declaresConflict q.1 q.2 = true ∧ p = rising q

/-- One more pair. -/
theorem Finds.concat {qs found : List (Nat × Nat)} (h : g.Finds reported qs found) (q : Nat × Nat) :
    g.Finds reported (qs ++ [q]) (g.lookAt reported found q) := by
  unfold lookAt
  by_cases hnew : g.declaresConflict q.1 q.2 = true ∧ rising q ∉ reported ∧ rising q ∉ found
  · obtain ⟨hrefuses, hunreported, hunfound⟩ := hnew
    rw [if_pos (by simp [hrefuses, hunreported, hunfound])]
    refine ⟨?_, fun p => ?_⟩
    · rw [← List.concat_eq_append]
      exact (List.nodup_concat _ _).2 ⟨hunfound, h.nodup⟩
    · simp only [List.mem_append, List.mem_singleton, h.mem]
      constructor
      · rintro (⟨hp, r, hr, hpr⟩ | rfl)
        · exact ⟨hp, r, .inl hr, hpr⟩
        · exact ⟨hunreported, q, .inr rfl, hrefuses, rfl⟩
      · rintro ⟨hp, r, hr | rfl, hpr⟩
        · exact .inl ⟨hp, r, hr, hpr⟩
        · exact .inr hpr.2
  · rw [if_neg (by simpa using hnew)]
    refine ⟨h.nodup, fun p => ?_⟩
    simp only [List.mem_append, List.mem_singleton, h.mem]
    constructor
    · rintro ⟨hp, r, hr, hpr⟩
      exact ⟨hp, r, .inl hr, hpr⟩
    · rintro ⟨hp, r, hr | rfl, hrefuses, rfl⟩
      · exact ⟨hp, r, hr, hrefuses, rfl⟩
      · -- a pair that could be told was told for an earlier one of the list
        by_contra hnone
        exact hnew ⟨hrefuses, hp, fun hfound => hnone ((h.mem _).1 hfound)⟩

theorem finds_foldl (g : Graph) (reported qs : List (Nat × Nat)) :
    g.Finds reported qs (qs.foldl (g.lookAt reported) []) := by
  induction qs using List.reverseRecOn with
  | nil => exact ⟨List.nodup_nil, by simp⟩
  | append_singleton qs q ih =>
    rw [List.foldl_concat]
    exact ih.concat q

/-- **One group** adds the pairs that meet in it and were not reported before, each once. -/
theorem conflictsIn_tells (hgroup : (g.group k).Nodup) (reported : List (Nat × Nat)) :
    (g.conflictsIn reported k).Nodup ∧ ∀ p, p ∈ g.conflictsIn reported k ↔ p ∉ reported ∧ g.Meets p k := by
  have hfinds : g.Finds reported (pairs (g.group k)) (g.conflictsIn reported k) := finds_foldl g reported _
  exact ⟨hfinds.nodup, fun p => by rw [hfinds.mem, meets_iff hgroup]⟩

/-! ## All groups -/

/-- **What is told of the groups of the first nodes**: each pair that meets in one of them, once, for the first. -/
structure Tells (g : Graph) (n : Nat) (told : List ((Nat × Nat) × Nat)) : Prop where
  nodup : (told.map Prod.fst).Nodup
  mem : ∀ p k, (p, k) ∈ told ↔ k < n ∧ g.Meets p k ∧ ∀ l < k, ¬ g.Meets p l

theorem Tells.mem_fst {told : List ((Nat × Nat) × Nat)} (h : g.Tells n told) :
    p ∈ told.map Prod.fst ↔ ∃ k < n, g.Meets p k := by
  constructor
  · intro hp
    obtain ⟨⟨q, k⟩, hmem, rfl⟩ := List.mem_map.1 hp
    obtain ⟨hk, hmeets, -⟩ := (h.mem q k).1 hmem
    exact ⟨k, hk, hmeets⟩
  · rintro ⟨k, hk, hmeets⟩
    classical
    have hexists : ∃ k, g.Meets p k := ⟨k, hmeets⟩
    have hfirst : Nat.find hexists < n := lt_of_le_of_lt (Nat.find_min' hexists hmeets) hk
    exact List.mem_map.2 ⟨(p, Nat.find hexists), (h.mem p _).2 ⟨hfirst, Nat.find_spec hexists,
      fun l hl => Nat.find_min hexists hl⟩, rfl⟩

/-- One more group. -/
theorem Tells.succ {told : List ((Nat × Nat) × Nat)} (h : g.Tells n told) (hgroup : (g.group n).Nodup) :
    g.Tells (n + 1) (told ++ (g.conflictsIn (told.map Prod.fst) n).map (·, n)) := by
  obtain ⟨hnodup, hmem⟩ := conflictsIn_tells hgroup (told.map Prod.fst)
  have hfst : ((g.conflictsIn (told.map Prod.fst) n).map (·, n)).map Prod.fst =
      g.conflictsIn (told.map Prod.fst) n := by
    simp [Function.comp_def]
  constructor
  · rw [List.map_append, hfst]
    refine List.nodup_append'.2 ⟨h.nodup, hnodup, fun p hold hnew => ?_⟩
    exact ((hmem p).1 hnew).1 hold
  · intro p k
    rw [List.mem_append, h.mem, List.mem_map]
    constructor
    · rintro (⟨hk, hmeets⟩ | ⟨q, hq, heq⟩)
      · exact ⟨Nat.lt_succ_of_lt hk, hmeets⟩
      · obtain ⟨rfl, rfl⟩ := Prod.mk.inj heq
        obtain ⟨hunreported, hmeets⟩ := (hmem _).1 hq
        exact ⟨Nat.lt_succ_self _, hmeets, fun l hl hearly => hunreported (h.mem_fst.2 ⟨l, hl, hearly⟩)⟩
    · rintro ⟨hk, hmeets, hfirst⟩
      rcases Nat.lt_or_eq_of_le (Nat.lt_succ_iff.1 hk) with hk | rfl
      · exact .inl ⟨hk, hmeets, hfirst⟩
      · refine .inr ⟨p, (hmem p).2 ⟨fun hold => ?_, hmeets⟩, rfl⟩
        obtain ⟨l, hl, hearly⟩ := h.mem_fst.1 hold
        exact hfirst l hl hearly

/-- **All that is told.** -/
theorem conflicts_tells (given : List Node) :
    (ofNodes given).Tells (ofNodes given).nodes.length (ofNodes given).conflicts := by
  unfold conflicts
  suffices h : ∀ n ≤ (ofNodes given).nodes.length, (ofNodes given).Tells n
      ((List.range n).foldl (fun acc i =>
        acc ++ ((ofNodes given).conflictsIn (acc.map Prod.fst) i).map (·, i)) []) from
    h _ le_rfl
  intro n hn
  induction n with
  | zero => exact ⟨List.nodup_nil, by simp⟩
  | succ n ih =>
    rw [List.range_succ, List.foldl_concat]
    exact (ih (by omega)).succ (nodup_group hn)

/-! ## In terms of traits -/

section

variable {a b : Trait}

theorem node_ofTraits (ha : (Trait.firsts ts)[i]? = some a) : (ofTraits ts).nodes[i]? = some (.ofTrait a) := by
  rw [nodes_ofTraits, List.getElem?_map, ha]
  rfl

theorem exists_first (hi : i < (ofTraits ts).nodes.length) : ∃ a, (Trait.firsts ts)[i]? = some a := by
  rw [nodes_ofTraits, List.length_map] at hi
  exact ⟨_, List.getElem?_eq_getElem hi⟩

theorem meets_ofTraits (ha : (Trait.firsts ts)[i]? = some a) (hb : (Trait.firsts ts)[j]? = some b)
    (hk : k < (ofTraits ts).nodes.length) :
    (ofTraits ts).Meets (i, j) k ↔ i < j ∧ (a.Refuses SameName b ∨ b.Refuses SameName a) ∧
      (ofTraits ts).Requires k i ∧ (ofTraits ts).Requires k j := by
  rw [← declaresConflict_nodes (node_ofTraits ha) (node_ofTraits hb)]
  constructor
  · rintro ⟨hlt, hrefuses, hi, hj⟩
    exact ⟨hlt, hrefuses, (mem_group hk).1 hi, (mem_group hk).1 hj⟩
  · rintro ⟨hlt, hrefuses, hi, hj⟩
    exact ⟨hlt, hrefuses, (mem_group hk).2 hi, (mem_group hk).2 hj⟩

end

/-- **A pair is told** if the one refuses the other and some trait needs both, for the first of these. -/
theorem mem_conflicts_ofTraits : ((i, j), k) ∈ (ofTraits ts).conflicts ↔
    Clash SameName (Trait.firsts ts) i j ∧
      IsLeast {l | (ofTraits ts).Requires l i ∧ (ofTraits ts).Requires l j} k := by
  have htells : (ofTraits ts).Tells (ofTraits ts).nodes.length (ofTraits ts).conflicts := conflicts_tells _
  rw [htells.mem]
  constructor
  · rintro ⟨hk, hmeets, hfirst⟩
    obtain ⟨a, ha⟩ := exists_first (((mem_group hk).1 hmeets.first).target_lt hk)
    obtain ⟨b, hb⟩ := exists_first (((mem_group hk).1 hmeets.second).target_lt hk)
    obtain ⟨hlt, hrefuses, hboth⟩ := (meets_ofTraits ha hb hk).1 hmeets
    refine ⟨⟨hlt, a, b, ha, hb, hrefuses⟩, hboth, fun l hl => ?_⟩
    by_contra hearly
    have hlk : l < k := Nat.lt_of_not_le hearly
    exact hfirst l hlk ((meets_ofTraits ha hb (hlk.trans hk)).2 ⟨hlt, hrefuses, hl⟩)
  · rintro ⟨⟨hlt, a, b, ha, hb, hrefuses⟩, hboth, hleast⟩
    have hi : i < (ofTraits ts).nodes.length := (List.getElem?_eq_some_iff.1 (node_ofTraits ha)).1
    have hk : k < (ofTraits ts).nodes.length := hboth.1.lt hi
    refine ⟨hk, (meets_ofTraits ha hb hk).2 ⟨hlt, hrefuses, hboth⟩, fun l hl hmeets => ?_⟩
    obtain ⟨-, -, hearly⟩ := (meets_ofTraits ha hb (hl.trans hk)).1 hmeets
    exact absurd (hleast hearly) (Nat.not_le.2 hl)

/-! ## The errors -/

/-- The error tells of two traits that are incompatible, in whatever order. -/
def Error.concerns (a b : String) : Error → Bool
  | .incompatible first second _ => (first == a && second == b) || (first == b && second == a)
  | _ => false

/-- The error for a pair, with the first node that needs both. -/
def Error.ofMeeting (g : Graph) (m : (Nat × Nat) × Nat) : Error :=
  .incompatible (g.nameAt m.1.1) (g.nameAt m.1.2) ("both are required by \"" ++ g.nameAt m.2 ++ "\"")

theorem filter_concerns (g : Graph) (a b : String) :
    g.validate.filter (·.concerns a b) = (g.conflicts.map (.ofMeeting g)).filter (·.concerns a b) := by
  have hmissing : g.missing.filter (·.concerns a b) = [] := by
    rw [List.filter_eq_nil_iff]
    intro e he
    obtain ⟨n, -, he⟩ := List.mem_flatMap.1 he
    obtain ⟨d, -, rfl⟩ := List.mem_map.1 he
    exact Bool.false_ne_true
  have hcycles : (g.cycles.map Error.cycle).filter (·.concerns a b) = [] := by
    rw [List.filter_eq_nil_iff]
    intro e he
    obtain ⟨path, -, rfl⟩ := List.mem_map.1 he
    exact Bool.false_ne_true
  rw [validate, List.filter_append, List.filter_append, hmissing, hcycles]
  rfl

theorem exists_meeting {e : Error} {a b : String} (he : e ∈ g.validate) (h : e.concerns a b = true) :
    ∃ m ∈ g.conflicts, Error.ofMeeting g m = e := by
  have hmem := List.mem_filter.2 ⟨he, h⟩
  rw [filter_concerns, List.mem_filter] at hmem
  exact List.mem_map.1 hmem.1

theorem Error.concerns_comm (a b : String) (e : Error) : e.concerns a b = e.concerns b a := by
  cases e <;> simp [concerns, Bool.or_comm]

/-- A pair stands for the names of its nodes. -/
theorem concerns_ofMeeting (h : Distinct g.nodes) {m : (Nat × Nat) × Nat} (hm : m.1.1 < m.1.2)
    (hbounded : m.1.2 < g.nodes.length) (hij : i < j) (hj : j < g.nodes.length) :
    (Error.ofMeeting g m).concerns (g.nameAt i) (g.nameAt j) = true ↔ m.1 = (i, j) := by
  have hname : ∀ {k l}, k < g.nodes.length → l < g.nodes.length → (g.nameAt k = g.nameAt l ↔ k = l) := by
    intro k l hk hl
    refine ⟨fun heq => Option.some.inj ?_, fun heq => heq ▸ rfl⟩
    rw [← lookup_nameAt h hk, ← lookup_nameAt h hl, heq]
  have hi := hij.trans hj
  have hfirst := hm.trans hbounded
  simp only [Error.concerns, Error.ofMeeting, Bool.or_eq_true, Bool.and_eq_true, beq_iff_eq,
    hname hfirst hi, hname hbounded hj, hname hfirst hj, hname hbounded hi, Prod.ext_iff]
  omega

section

variable {a b : Trait} (ha : (Trait.firsts ts)[i]? = some a) (hb : (Trait.firsts ts)[j]? = some b) (hij : i < j)
include ha hb hij

theorem concerns_iff_fst {m : (Nat × Nat) × Nat} (hm : m ∈ (ofTraits ts).conflicts) :
    (Error.ofMeeting (ofTraits ts) m).concerns a.name b.name = true ↔ m.1 = (i, j) := by
  obtain ⟨⟨hlt, -, c, -, hc, -⟩, -⟩ := mem_conflicts_ofTraits.1 hm
  have hbounded := (List.getElem?_eq_some_iff.1 (node_ofTraits hc)).1
  have hj := (List.getElem?_eq_some_iff.1 (node_ofTraits hb)).1
  have hfirst : (ofTraits ts).nameAt i = a.name := nameAt_eq (node_ofTraits ha)
  have hsecond : (ofTraits ts).nameAt j = b.name := nameAt_eq (node_ofTraits hb)
  rw [← hfirst, ← hsecond]
  exact concerns_ofMeeting (distinct_ofNodes _) hlt hbounded hij hj

/-- **What is told of two traits** is the error for their pair. -/
theorem filter_concerns_pair (h : ((i, j), k) ∈ (ofTraits ts).conflicts) :
    (ofTraits ts).validate.filter (·.concerns a.name b.name) = [.ofMeeting (ofTraits ts) ((i, j), k)] := by
  have htells : (ofTraits ts).Tells (ofTraits ts).nodes.length (ofTraits ts).conflicts := conflicts_tells _
  have hnodup : (ofTraits ts).conflicts.Nodup := htells.nodup.of_map
  -- a pair is told once, so that the pair decides
  have hiff : ∀ m ∈ (ofTraits ts).conflicts,
      (Error.ofMeeting (ofTraits ts) m).concerns a.name b.name = (m == ((i, j), k)) := by
    intro m hm
    rw [Bool.eq_iff_iff, concerns_iff_fst ha hb hij hm, beq_iff_eq]
    exact ⟨fun heq => List.inj_on_of_nodup_map htells.nodup hm h heq, fun heq => heq ▸ rfl⟩
  have hone : (ofTraits ts).conflicts.filter (· == ((i, j), k)) = [((i, j), k)] := by
    rw [List.filter_beq, List.count_eq_one_of_mem hnodup h]
    rfl
  rw [filter_concerns, List.filter_map, ← List.map_singleton, ← hone]
  exact congrArg _ (List.filter_congr hiff)

/-- Two traits are told of if one refuses the other and both are needed by some trait. -/
theorem exists_concerns_iff :
    (∃ e ∈ (ofTraits ts).validate, e.concerns a.name b.name = true) ↔
      (a.Refuses SameName b ∨ b.Refuses SameName a) ∧
        ∃ k, (ofTraits ts).Requires k i ∧ (ofTraits ts).Requires k j := by
  constructor
  · rintro ⟨e, he, hconcerns⟩
    obtain ⟨⟨p, k⟩, hm, rfl⟩ := exists_meeting he hconcerns
    obtain rfl := (concerns_iff_fst ha hb hij hm).1 hconcerns
    obtain ⟨⟨-, a', b', ha', hb', hrefuses⟩, hboth, -⟩ := mem_conflicts_ofTraits.1 hm
    obtain rfl : a' = a := Option.some.inj (ha'.symm.trans ha)
    obtain rfl : b' = b := Option.some.inj (hb'.symm.trans hb)
    exact ⟨hrefuses, k, hboth⟩
  · rintro ⟨hrefuses, hneeded⟩
    classical
    have hleast : IsLeast {l | (ofTraits ts).Requires l i ∧ (ofTraits ts).Requires l j} (Nat.find hneeded) :=
      ⟨Nat.find_spec hneeded, fun l hl => Nat.find_min' hneeded hl⟩
    have hm := mem_conflicts_ofTraits.2 ⟨⟨hij, a, b, ha, hb, hrefuses⟩, hleast⟩
    have hfilter := filter_concerns_pair ha hb hij hm
    exact ⟨_, List.mem_filter.1 (hfilter ▸ List.mem_singleton_self _)⟩

end

/-- **Which traits are told to be incompatible.** The collection of what a trait depends on comes to an end, and is all
that it depends on at any distance, without the trait itself. Two traits are told to be incompatible just if one of
them refuses the other and some trait needs both. Then there is one error about the two: it has the trait that was
given earlier first, and it names the first one that needs both. -/
theorem incompatible_ofTraits (ts : List Trait) :
    let g := ofTraits ts
    let nodes := Trait.firsts ts
    (∀ k < nodes.length, (g.edges.reach k g.edges.size ⟨[], [k]⟩).pending = [] ∧ (g.edges.closure k).Nodup ∧
      ∀ i, i ∈ g.edges.closure k ↔ i ≠ k ∧ TransGen g.DependsOn k i) ∧
    (∀ i j a b, i ≠ j → nodes[i]? = some a → nodes[j]? = some b →
      ((∃ e ∈ g.validate, e.concerns a.name b.name = true) ↔
        (a.Refuses SameName b ∨ b.Refuses SameName a) ∧ ∃ k, g.Requires k i ∧ g.Requires k j)) ∧
    ∀ first second reason, .incompatible first second reason ∈ g.validate →
      ∃ i j k a b c, i < j ∧ nodes[i]? = some a ∧ nodes[j]? = some b ∧ nodes[k]? = some c ∧
        IsLeast {l | g.Requires l i ∧ g.Requires l j} k ∧
        first = a.name ∧ second = b.name ∧ reason = "both are required by \"" ++ c.name ++ "\"" ∧
        g.validate.filter (·.concerns first second) = [.incompatible first second reason] := by
  intro g nodes
  have hlength : nodes.length = g.nodes.length := by rw [nodes_ofTraits, List.length_map]
  refine ⟨fun k hk => ?_, fun i j a b hij ha hb => ?_, fun first second reason he => ?_⟩
  · have hproper : g.edges.Proper := proper_ofNodes _
    have hsize : g.edges.size = g.nodes.length := size_edges _
    have hk : k < g.nodes.length := hlength ▸ hk
    exact ⟨Digraph.pending_closure hproper (hsize ▸ hk), (List.nodup_cons.1 (nodup_group hk)).2,
      fun i => mem_closure_ofNodes hk⟩
  · rcases Nat.lt_or_gt_of_ne hij with hij | hji
    · exact exists_concerns_iff ha hb hij
    · have hother := exists_concerns_iff hb ha hji
      simp only [Error.concerns_comm b.name] at hother
      rw [hother, or_comm]
      exact and_congr_right fun _ => exists_congr fun k => and_comm
  · have hconcerns : (Error.incompatible first second reason).concerns first second = true := by
      simp [Error.concerns]
    obtain ⟨⟨⟨i, j⟩, k⟩, hm, heq⟩ := exists_meeting he hconcerns
    obtain ⟨⟨hij, a, b, ha, hb, -⟩, hleast⟩ := mem_conflicts_ofTraits.1 hm
    have hk : k < g.nodes.length := hleast.1.1.lt (List.getElem?_eq_some_iff.1 (node_ofTraits ha)).1
    obtain ⟨c, hc⟩ := exists_first hk
    have hfirst : g.nameAt i = a.name := nameAt_eq (node_ofTraits ha)
    have hsecond : g.nameAt j = b.name := nameAt_eq (node_ofTraits hb)
    have hneeds : g.nameAt k = c.name := nameAt_eq (node_ofTraits hc)
    have hfilter := filter_concerns_pair ha hb hij hm
    rw [heq] at hfilter
    simp only [Error.ofMeeting, hfirst, hsecond, hneeds] at heq
    obtain ⟨rfl, rfl, rfl⟩ := Error.incompatible.inj heq
    exact ⟨i, j, k, a, b, c, hij, ha, hb, hc, hleast, rfl, rfl, rfl, hfilter⟩

/-- A store and its shop depend on each other; the shop depends on two traits of which one refuses the other, and it
spells one of them with a directory. -/
def stocked : List Trait :=
  [refusing "Audit" [" BILLING"], refusing "Billing" [],
    { refusing "Store" [] with dependencies := [.name "Shop"] },
    { refusing "Shop" [] with dependencies := [.name "Store", .name "Audit", .name "core/Billing"] }]

theorem incompatible_ofTraits_stocked :
    let g := ofTraits stocked
    TransGen g.DependsOn 2 0 ∧ (∃ k, g.Requires k 1 ∧ g.Requires k 0) ∧
      g.validate.filter (·.concerns "Audit" "Billing") =
        [.incompatible "Audit" "Billing" "both are required by \"Store\""] := by
  intro g
  have hfirsts : Trait.firsts stocked = stocked := Trait.firsts_eq_self (by decide +kernel)
  obtain ⟨hclosure, hpairs, herrors⟩ := incompatible_ofTraits stocked
  rw [hfirsts] at hclosure hpairs herrors
  have hmem : .incompatible "Audit" "Billing" "both are required by \"Store\"" ∈ g.validate := by decide +kernel
  obtain ⟨-, -, hreached⟩ := hclosure 2 (by decide)
  have htold : ∃ e ∈ g.validate, e.concerns "Billing" "Audit" = true := ⟨_, hmem, by decide⟩
  refine ⟨((hreached 0).1 (by decide +kernel)).2, ((hpairs 1 0 _ _ (by decide) rfl rfl).1 htold).2, ?_⟩
  obtain ⟨-, -, -, -, -, -, -, -, -, -, -, -, -, -, hfilter⟩ := herrors _ _ _ hmem
  exact hfilter

end TraitWeave.Graph
