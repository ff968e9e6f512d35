import TraitWeave.Proofs.Name
import TraitWeave.Proofs.Trait.Coverage
import TraitWeave.Proofs.Trait.Pairs

/-!
# The two checks for traits that refuse each other

Traits that are composed are checked by position, with names compared letter by letter but for the case of ASCII
letters; a selection is checked in the dependency graph, with names compared in their normal form. What the first
check reports the second one reports too. Where a trait spells the name of another one with other blanks, or with
another case of a letter that is not of ASCII, only the second one does.

* `Trait.Refuses`, `Graph.Clash`: a trait that lists the name of another one, and two of which one does.
* `Graph.mem_conflictingPairs`, `Graph.mem_checkSelection`: what each of the checks reports.
* `Graph.conflictingPairs_checkSelection`: how the two reports are related.
* `Graph.spelled_not_agree`: they are not the same.
-/

namespace TraitWeave

/-- The names differ in the case of ASCII letters at most. -/
def Name.SameLetters (s t : String) : Prop := Text.eqIgnoringAsciiCase s t = true

/-- The names have one normal form. -/
def Name.SameName (s t : String) : Prop := normalize s = normalize t

theorem Name.SameLetters.sameName {s t : String} (h : SameLetters s t) : SameName s t :=
  normalize_eq_of_eqIgnoringAsciiCase h

/-- The trait lists a name that is taken for that of another one. -/
def Trait.Refuses (same : String → String → Prop) (a b : Trait) : Prop :=
  ∃ c ∈ a.metadata.conflictsWith, same c b.name

namespace Graph

open Name (SameLetters SameName)

variable {ts : List Trait} {a b : Trait} {i j : Nat}
  {same same' : String → String → Prop}

/-- Of the traits at two positions, the first before the second, one refuses the other. -/
def Clash (same : String → String → Prop) (ts : List Trait) (i j : Nat) : Prop :=
  i < j ∧ ∃ a b, ts[i]? = some a ∧ ts[j]? = some b ∧ (a.Refuses same b ∨ b.Refuses same a)

theorem Clash.imp (h : Clash same ts i j)
    (hsame : ∀ a ∈ ts, ∀ b ∈ ts, ∀ c ∈ a.metadata.conflictsWith, same c b.name → same' c b.name) :
    Clash same' ts i j := by
  obtain ⟨hij, a, b, ha, hb, hrefuses⟩ := h
  have hmemA := List.mem_of_getElem? ha
  have hmemB := List.mem_of_getElem? hb
  refine ⟨hij, a, b, ha, hb, hrefuses.imp ?_ ?_⟩
  · rintro ⟨c, hc, hname⟩
    exact ⟨c, hc, hsame a hmemA b hmemB c hc hname⟩
  · rintro ⟨c, hc, hname⟩
    exact ⟨c, hc, hsame b hmemB a hmemA c hc hname⟩

/-! ## What is reported -/

theorem declaresConflictWith_iff {other : String} :
    a.declaresConflictWith other = true ↔ ∃ c ∈ a.metadata.conflictsWith, SameLetters c other := by
  simp [Trait.declaresConflictWith, SameLetters]

theorem refuses_ofTrait : (Node.ofTrait a).refuses (.ofTrait b) = true ↔ a.Refuses SameName b := by
  simp [Node.refuses, Node.ofTrait, Trait.Refuses, SameName]

theorem declaresConflict_nodes {g : Graph} (ha : g.nodes[i]? = some (.ofTrait a))
    (hb : g.nodes[j]? = some (.ofTrait b)) :
    g.declaresConflict i j = true ↔ a.Refuses SameName b ∨ b.Refuses SameName a := by
  rw [declaresConflict, ha, hb]
  simp only [Bool.or_eq_true, refuses_ofTrait]

/-- **Composed traits** are compared by their letters. -/
theorem mem_conflictingPairs : (i, j) ∈ conflictingPairs ts ↔ Clash SameLetters ts i j := by
  rw [conflictingPairs, List.mem_map]
  constructor
  · rintro ⟨⟨p, q⟩, hmem, heq⟩
    obtain ⟨hpairs, hrefuses⟩ := List.mem_filter.1 hmem
    obtain ⟨rfl, rfl⟩ := Prod.mk.inj heq
    obtain ⟨hij, hp, hq⟩ := mem_pairs_zipIdx.1 hpairs
    rw [Bool.or_eq_true, declaresConflictWith_iff, declaresConflictWith_iff] at hrefuses
    exact ⟨hij, p.1, q.1, hp, hq, hrefuses⟩
  · rintro ⟨hij, a, b, ha, hb, hrefuses⟩
    refine ⟨((a, i), (b, j)), List.mem_filter.2 ⟨mem_pairs_zipIdx.2 ⟨hij, ha, hb⟩, ?_⟩, rfl⟩
    rw [Bool.or_eq_true, declaresConflictWith_iff, declaresConflictWith_iff]
    exact hrefuses

section

variable (h : (ts.map Trait.plainKey).Nodup)
include h

theorem nodes_of_nodup : (ofTraits ts).nodes = ts.map Node.ofTrait := by
  rw [nodes_ofTraits, Trait.firsts_eq_self h]

theorem nameAt_ofTraits (ha : ts[i]? = some a) : (ofTraits ts).nameAt i = a.name :=
  nameAt_eq (n := .ofTrait a) (by rw [nodes_of_nodup h, List.getElem?_map, ha]; rfl)

theorem lookup_names : (ts.map Trait.name).filterMap (ofTraits ts).lookup = List.range ts.length := by
  have hnames : ts.map Trait.name = (List.range ts.length).map (ofTraits ts).nameAt := by
    refine List.ext_getElem (by simp) fun k hk _ => ?_
    have hk' : k < ts.length := by simpa using hk
    rw [List.getElem_map, List.getElem_map, List.getElem_range,
      nameAt_ofTraits h (List.getElem?_eq_getElem hk')]
  have hlength : (ofTraits ts).nodes.length = ts.length := by rw [nodes_of_nodup h, List.length_map]
  rw [hnames]
  exact filterMap_lookup (distinct_ofNodes _) fun k hk => hlength ▸ List.mem_range.1 hk

theorem declaresConflict_iff (ha : ts[i]? = some a) (hb : ts[j]? = some b) :
    (ofTraits ts).declaresConflict i j = true ↔ a.Refuses SameName b ∨ b.Refuses SameName a := by
  refine declaresConflict_nodes ?_ ?_ <;> rw [nodes_of_nodup h, List.getElem?_map]
  · rw [ha]; rfl
  · rw [hb]; rfl

/-- **A selection** is compared by normal names. -/
theorem mem_checkSelection {e : Error} :
    e ∈ (ofTraits ts).checkSelection (ts.map Trait.name) ↔
      ∃ i j a b, Clash SameName ts i j ∧ ts[i]? = some a ∧ ts[j]? = some b ∧
        e = .incompatible a.name b.name "declared in conflicts_with" := by
  rw [checkSelection, lookup_names h, List.mem_map]
  constructor
  · rintro ⟨⟨i, j⟩, hmem, rfl⟩
    obtain ⟨hpairs, hrefuses⟩ := List.mem_filter.1 hmem
    obtain ⟨hij, hj⟩ := mem_pairs_range.1 hpairs
    obtain ⟨-, hrefuses⟩ := (Bool.and_eq_true _ _).mp hrefuses
    have ha := List.getElem?_eq_getElem (hij.trans hj)
    have hb := List.getElem?_eq_getElem hj
    refine ⟨i, j, _, _, ⟨hij, _, _, ha, hb, (declaresConflict_iff h ha hb).1 hrefuses⟩, ha, hb, ?_⟩
    rw [nameAt_ofTraits h ha, nameAt_ofTraits h hb]
  · rintro ⟨i, j, a, b, ⟨hij, a', b', ha', hb', hrefuses⟩, ha, hb, rfl⟩
    obtain rfl : a' = a := Option.some.inj (ha'.symm.trans ha)
    obtain rfl : b' = b := Option.some.inj (hb'.symm.trans hb)
    have hj := (List.getElem?_eq_some_iff.1 hb).1
    refine ⟨(i, j), List.mem_filter.2 ⟨mem_pairs_range.2 ⟨hij, hj⟩, ?_⟩, ?_⟩
    · rw [Bool.and_eq_true]
      exact ⟨bne_iff_ne.2 hij.ne, (declaresConflict_iff h ha hb).2 hrefuses⟩
    · rw [nameAt_ofTraits h ha, nameAt_ofTraits h hb]

end

/-- **How the two checks are related**, for traits of different names. Composing reports the pairs that clash by
letters, checking the selection those that clash by normal names, and so at least the same ones. They report the
same if each name that is listed has the letters of the name that it means. -/
theorem conflictingPairs_checkSelection (h : (ts.map Trait.plainKey).Nodup) :
    (∀ i j, (i, j) ∈ conflictingPairs ts ↔ Clash SameLetters ts i j) ∧
    (∀ e, e ∈ (ofTraits ts).checkSelection (ts.map Trait.name) ↔
      ∃ i j a b, Clash SameName ts i j ∧ ts[i]? = some a ∧ ts[j]? = some b ∧
        e = .incompatible a.name b.name "declared in conflicts_with") ∧
    (∀ i j, Clash SameLetters ts i j → Clash SameName ts i j) ∧
    ((∀ a ∈ ts, ∀ b ∈ ts, ∀ c ∈ a.metadata.conflictsWith, SameName c b.name → SameLetters c b.name) →
      ∀ i j, Clash SameName ts i j → Clash SameLetters ts i j) :=
  ⟨fun _ _ => mem_conflictingPairs, fun _ => mem_checkSelection h,
    fun _ _ hclash => hclash.imp fun _ _ _ _ _ _ => Name.SameLetters.sameName,
    fun hspelled _ _ hclash => hclash.imp hspelled⟩

/-- A trait of which only the name and the names that it refuses are given. -/
def refusing (name : String) (refused : List String) : Trait where
  info := ⟨name, "1", none, none, none, []⟩
  parameters := []
  schema := []
  semantics := []
  viewExtensions := []
  tokens := []
  dependencies := []
  actions := []
  stateMachine := none
  metadata := ⟨refused, []⟩

/-- One trait refuses the other, whose name it spells with two blanks between the words. -/
def spelled : List Trait := [refusing "Order Item" [], refusing "Cart" ["order  item"]]

theorem nodup_spelled : (spelled.map Trait.plainKey).Nodup := by decide

theorem conflictingPairs_checkSelection_spelled :
    Clash SameName spelled 0 1 ∧ ¬ Clash SameLetters spelled 0 1 := by
  obtain ⟨hpairs, hselection, -, -⟩ := conflictingPairs_checkSelection nodup_spelled
  have hreported : Error.incompatible "Order Item" "Cart" "declared in conflicts_with" ∈
      (ofTraits spelled).checkSelection (spelled.map Trait.name) := by decide +kernel
  obtain ⟨i, j, a, b, hclash, ha, hb, -⟩ := (hselection _).1 hreported
  have hj : j < 2 := (List.getElem?_eq_some_iff.1 hb).1
  have hij := hclash.1
  obtain rfl : i = 0 := by omega
  obtain rfl : j = 1 := by omega
  refine ⟨hclash, fun hletters => ?_⟩
  have hmem := (hpairs 0 1).2 hletters
  revert hmem
  decide

/-- **The checks do not agree** where a name is spelled with other blanks. -/
theorem spelled_not_agree :
    ¬ ∀ ts : List Trait, (ts.map Trait.plainKey).Nodup → ∀ i j a b, i < j → ts[i]? = some a → ts[j]? = some b →
      ((i, j) ∈ conflictingPairs ts ↔
        Error.incompatible a.name b.name "declared in conflicts_with" ∈
          (ofTraits ts).checkSelection (ts.map Trait.name)) := by
  intro h
  have hagree := h spelled nodup_spelled 0 1 _ _ (by decide) rfl rfl
  revert hagree
  decide +kernel

end Graph

end TraitWeave
