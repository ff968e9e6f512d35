import TraitWeave.Proofs.Trait.Graph
import TraitWeave.Trait.Library

/-!
# What of a library is in its dependency graph

A library tells traits apart by their qualified names, its graph by their plain names. So the graph has the first
trait of each plain name, and what it says about the library it says about these.

* `Trait.firsts`: the first trait of each plain name.
* `Graph.nodes_ofTraits`: they are the nodes of the graph.
* `Library.Covered`: the graph speaks for every trait of the library.
* `Library.coverage_ofFiles`: what the graph speaks for, in every library; all of it where no two traits share a
  plain name.
-/

namespace TraitWeave

/-- The plain name of a trait, without its namespace, as names are compared. -/
def Trait.plainKey (t : Trait) : String := Name.normalize t.name

/-- The first trait of each plain name. -/
def Trait.firsts : List Trait → List Trait
  | [] => []
  | t :: ts => t :: (firsts ts).filter fun u => u.plainKey != t.plainKey

namespace Trait

variable {t : Trait} {ts : List Trait}

/-- A trait is among them just if it is the first of its name. -/
theorem mem_firsts : t ∈ firsts ts ↔ ts.find? (fun u => u.plainKey == t.plainKey) = some t := by
  induction ts with
  | nil => simp [firsts]
  | cons u ts ih =>
    rw [firsts, List.mem_cons, List.mem_filter, List.find?_cons, ih]
    by_cases hkey : u.plainKey = t.plainKey
    · simp [hkey, eq_comm]
    · have hne : t ≠ u := fun heq => hkey (heq ▸ rfl)
      have hfalse : (u.plainKey == t.plainKey) = false := beq_eq_false_iff_ne.2 hkey
      simp [hfalse, hne, Ne.symm hkey]

theorem mem_of_mem_firsts (h : t ∈ firsts ts) : t ∈ ts := List.mem_of_find?_eq_some (mem_firsts.1 h)

/-- Each name has its first trait. -/
theorem exists_mem_firsts (h : t ∈ ts) : ∃ u ∈ firsts ts, u.plainKey = t.plainKey := by
  have hsome : (ts.find? fun u => u.plainKey == t.plainKey).isSome :=
    List.find?_isSome.2 ⟨t, h, beq_self_eq_true _⟩
  obtain ⟨u, hu⟩ := Option.isSome_iff_exists.1 hsome
  have hkey : u.plainKey = t.plainKey := beq_iff_eq.1 (List.find?_eq_some_iff_append.1 hu).1
  refine ⟨u, mem_firsts.2 ?_, hkey⟩
  rw [hkey]
  exact hu

/-- Where no two traits share a plain name, each is the first of its name. -/
theorem firsts_eq_self (h : (ts.map plainKey).Nodup) : firsts ts = ts := by
  induction ts with
  | nil => rfl
  | cons t ts ih =>
    obtain ⟨hnew, hrest⟩ := List.nodup_cons.1 h
    rw [firsts, ih hrest]
    congr 1
    refine List.filter_eq_self.2 fun u hu => bne_iff_ne.2 fun hkey => hnew ?_
    exact hkey ▸ List.mem_map_of_mem hu

end Trait

namespace Graph

open Trait (firsts)

variable {g : Graph} {given nodes : List Node} {n : Node} {key : String}

/-! ## Nodes -/

theorem isNone_position?_append :
    (position? (nodes ++ [n]) key).isNone = ((position? nodes key).isNone && key != Name.normalize n.name) := by
  rw [Bool.eq_iff_iff, Bool.and_eq_true, bne_iff_ne, Option.isNone_iff_eq_none, Option.isNone_iff_eq_none,
    ← Option.not_isSome_iff_eq_none, ← Option.not_isSome_iff_eq_none, isSome_position?, isSome_position?]
  simp only [List.mem_append, List.mem_singleton]
  grind

theorem foldl_addNode (ts : List Trait) (nodes : List Node) :
    (ts.map Node.ofTrait).foldl addNode nodes =
      nodes ++ ((firsts ts).filter fun t => (position? nodes t.plainKey).isNone).map Node.ofTrait := by
  -- on the traits, for any nodes that are there already: a name among these is not added again
  induction ts generalizing nodes with
  | nil => simp [firsts]
  | cons t ts ih =>
    rw [List.map_cons, List.foldl_cons, ih, firsts, List.filter_cons, List.filter_filter, addNode]
    have hname : Name.normalize (Node.ofTrait t).name = t.plainKey := rfl
    rw [hname]
    cases hold : position? nodes t.plainKey with
    | none => simp [isNone_position?_append, hname]
    | some i =>
      simp only [Option.isSome_some, Option.isNone_some, if_true, Bool.false_eq_true, if_false]
      congr 2
      refine List.filter_congr fun u _ => ?_
      by_cases hkey : u.plainKey = t.plainKey
      · rw [hkey, hold]; rfl
      · rw [bne_iff_ne.2 hkey, Bool.and_true]

/-- **The nodes are the first traits of each plain name**, in the order in which they were given. -/
theorem nodes_ofTraits (ts : List Trait) : (ofTraits ts).nodes = (firsts ts).map Node.ofTrait := by
  refine (foldl_addNode ts []).trans ?_
  simp [position?]

/-! ## What the graph says of its nodes -/

theorem missing_eq_nil :
    g.missing = [] ↔ ∀ n ∈ g.nodes, ∀ d ∈ n.dependencies, (g.lookup d).isSome := by
  simp [missing, List.flatMap_eq_nil_iff, Option.isSome_iff_ne_none]

theorem map_nameAt_range (g : Graph) :
    (List.range g.nodes.length).map g.nameAt = g.nodes.map Node.name := by
  refine List.ext_getElem (by simp) fun i hi hi' => ?_
  rw [List.getElem_map, List.getElem_range, List.getElem_map]
  exact nameAt_eq (List.getElem?_eq_getElem (by simpa using hi'))

/-- An order has the name of every node, once for each. -/
theorem perm_of_order {names : List String} (h : (ofNodes given).order = .ok names) :
    names.Perm ((ofNodes given).nodes.map Node.name) := by
  obtain ⟨order, horder, rfl⟩ := order_eq_ok.1 h
  obtain ⟨hperm, -⟩ := Digraph.order?_eq_some (proper_ofNodes given) horder
  rw [← map_nameAt_range, ← size_edges]
  exact hperm.map _

end Graph

namespace Library

open Trait (firsts)

variable {l : Library} {t u : Trait}

/-! ## What is kept -/

/-- The traits that are kept have different qualified names. -/
def Distinct (l : Library) : Prop := (l.definitions.map keyOf).Nodup

theorem Distinct.take (h : l.Distinct) (p : Path) (parsed : Except (List Document.Problem) Trait) :
    (l.take p parsed).Distinct := by
  unfold Library.take
  split
  · exact h
  · rename_i t
    split
    · rename_i hnew
      unfold Distinct definitions
      rw [List.map_append, List.map_append]
      refine List.nodup_append.2 ⟨h, List.nodup_singleton _, ?_⟩
      rintro a ha b hb rfl
      obtain ⟨u, hu, hkey⟩ := List.mem_map.1 ha
      obtain ⟨e, he, rfl⟩ := List.mem_map.1 hu
      refine List.find?_eq_none.1 hnew e he (beq_iff_eq.2 (hkey.trans ?_))
      simpa using hb
    · exact h

theorem distinct_ofFiles (files : Files) (paths : List Path) : (ofFiles files paths).Distinct := by
  suffices h : ∀ l : Library, l.Distinct →
      (paths.foldl (fun l p => l.take p (Trait.ofFile p (files.text p))) l).Distinct from
    h empty List.nodup_nil
  induction paths with
  | nil => exact fun l h => h
  | cons p paths ih => exact fun l h => ih _ (h.take p _)

/-! ## What the graph speaks for -/

/-- The dependency graph of a library. -/
def graph (l : Library) : Graph := .ofTraits l.definitions

/-- The traits of a library that are the first of their plain names. -/
def leading (l : Library) : List Trait := firsts l.definitions

/-- **The graph speaks for every trait of the library**: none is left out, where nothing is wrong all their
dependencies mean something, and an order has as many names as there are traits. -/
structure Covered (l : Library) : Prop where
  all : ∀ t ∈ l.definitions, .ofTrait t ∈ l.graph.nodes
  resolves : l.graph.validate = [] →
    ∀ t ∈ l.definitions, ∀ d ∈ t.dependencyNames, (l.graph.lookup d).isSome
  counted : ∀ names, l.graph.order = .ok names → names.length = l.definitions.length

/-- A trait that is left out shares its plain name with one that is not, of another namespace. -/
theorem Distinct.exists_leading (h : l.Distinct) (ht : t ∈ l.definitions) (hout : t ∉ l.leading) :
    ∃ u ∈ l.leading, u.plainKey = t.plainKey ∧ keyOf u ≠ keyOf t := by
  obtain ⟨u, hu, hkey⟩ := Trait.exists_mem_firsts ht
  -- of one qualified name there is one trait only
  refine ⟨u, hu, hkey, fun hsame => hout ?_⟩
  rwa [← List.inj_on_of_nodup_map h (Trait.mem_of_mem_firsts hu) ht hsame]

theorem resolves_leading (hvalid : l.graph.validate = []) (ht : t ∈ l.leading) :
    ∀ d ∈ t.dependencyNames, (l.graph.lookup d).isSome := by
  have hmissing : l.graph.missing = [] := (List.append_eq_nil_iff.1 (List.append_eq_nil_iff.1 hvalid).1).1
  refine Graph.missing_eq_nil.1 hmissing (.ofTrait t) ?_
  rw [graph, Graph.nodes_ofTraits]
  exact List.mem_map_of_mem ht

theorem perm_leading {names : List String} (h : l.graph.order = .ok names) :
    names.Perm (l.leading.map Trait.name) := by
  have hperm := Graph.perm_of_order h
  change names.Perm (l.graph.nodes.map Graph.Node.name) at hperm
  rw [graph, Graph.nodes_ofTraits, List.map_map] at hperm
  exact hperm

theorem covered_of_nodup (h : (l.definitions.map Trait.plainKey).Nodup) : l.Covered := by
  have hleading : l.leading = l.definitions := Trait.firsts_eq_self h
  refine ⟨fun t ht => ?_, fun hvalid t ht => ?_, fun names hnames => ?_⟩
  · rw [graph, Graph.nodes_ofTraits, ← leading, hleading]
    exact List.mem_map_of_mem ht
  · exact resolves_leading hvalid (by rw [hleading]; exact ht)
  · rw [(perm_leading hnames).length_eq, List.length_map, hleading]

/-- **What the graph of a library speaks for**: the first trait of each plain name. Each of the others shares its
plain name with one of these, of another namespace; where there are no others, it speaks for the whole library. -/
theorem coverage_ofFiles (files : Files) (paths : List Path) :
    let l := ofFiles files paths
    l.graph.nodes = l.leading.map .ofTrait ∧
      (∀ t ∈ l.definitions, t ∉ l.leading →
        ∃ u ∈ l.leading, u.plainKey = t.plainKey ∧ keyOf u ≠ keyOf t) ∧
      (l.graph.validate = [] → ∀ t ∈ l.leading, ∀ d ∈ t.dependencyNames, (l.graph.lookup d).isSome) ∧
      (∀ names, l.graph.order = .ok names → names.Perm (l.leading.map Trait.name)) ∧
      ((l.definitions.map Trait.plainKey).Nodup → l.Covered) :=
  ⟨Graph.nodes_ofTraits _, fun _ => (distinct_ofFiles files paths).exists_leading,
    fun hvalid _ => resolves_leading hvalid, fun _ => perm_leading, covered_of_nodup⟩

/-- Two files of one plain name, the second of which depends on a trait that is not there. -/
def logs : Files where
  isFile _ := true
  text p := if p.text = "a/Log.trait.json" then
      .ok "\x7b\"trait\":\x7b\"name\":\"Log\",\"version\":\"1\",\"namespace\":\"a\"\x7d,\"schema\":\x7b\x7d\x7d"
    else
      .ok ("\x7b\"trait\":\x7b\"name\":\"Log\",\"version\":\"1\",\"namespace\":\"b\"\x7d,\"schema\":\x7b\x7d," ++
        "\"dependencies\":[\"Ghost\"]\x7d")

/-- **Two traits of one plain name are not both checked**: nothing is found wrong though the second one depends on a
trait that is not there, and the order has one name. -/
theorem not_covered :
    (¬ ∀ (files : Files) (paths : List Path), (ofFiles files paths).Covered) ∧
      let l := ofFiles logs [⟨"a/Log.trait.json"⟩, ⟨"b/Log.trait.json"⟩]
      l.graph.validate = [] ∧ (∃ t ∈ l.definitions, ∃ d ∈ t.dependencyNames, l.graph.lookup d = none) ∧
        l.graph.order = .ok ["Log"] ∧ l.definitions.length = 2 := by
  have hlogs : let l := ofFiles logs [⟨"a/Log.trait.json"⟩, ⟨"b/Log.trait.json"⟩]
      l.graph.validate = [] ∧ (∃ t ∈ l.definitions, ∃ d ∈ t.dependencyNames, l.graph.lookup d = none) ∧
        l.graph.order = .ok ["Log"] ∧ l.definitions.length = 2 := by decide +kernel
  refine ⟨fun h => ?_, hlogs⟩
  obtain ⟨-, -, horder, hlength⟩ := hlogs
  have hcounted := (h logs [⟨"a/Log.trait.json"⟩, ⟨"b/Log.trait.json"⟩]).counted ["Log"] horder
  have htwo : ["Log"].length = 2 := hcounted.trans hlength
  cases htwo

end Library

end TraitWeave
