import TraitWeave.Proofs.Digraph.Search
import TraitWeave.Proofs.Digraph.Sorting
import TraitWeave.Trait.Graph

/-!
# The dependency graph of traits

A node depends on the nodes that its declared dependencies mean; dependencies that mean no node are passed over.

* `Graph.DependsOn`: the dependencies, with `Graph.needs_ofTraits` for the edges that are kept of them.
* `Graph.lookup_nameAt`: a node is found by its name, so a list of names stands for one list of nodes.
* `Graph.order_ofTraits`: when there is an order, and that it is the least legal one.
* `Graph.cycles_ofTraits`: the cycles that are found, and that one of them is told where there is no order.
-/

namespace TraitWeave.Graph

variable {g : Graph} {nodes given : List Node} {n : Node} {i j : Nat} {key : String}

/-- The node depends on another: one of its declared dependencies means that one. -/
def DependsOn (g : Graph) (i j : Nat) : Prop :=
  ∃ n, g.nodes[i]? = some n ∧ ∃ d ∈ n.dependencies, g.lookup d = some j

/-! ## Nodes -/

theorem isSome_position? : (position? nodes key).isSome ↔ ∃ n ∈ nodes, Name.normalize n.name = key := by
  unfold position?
  rw [List.findIdx?_isSome, List.any_eq_true]
  simp only [beq_iff_eq]

theorem position?_lt (h : position? nodes key = some i) : i < nodes.length :=
  (List.findIdx?_eq_some_iff_getElem.1 h).1

theorem lookupIn_lt {name : String} (h : lookupIn nodes name = some i) : i < nodes.length := by
  rcases Option.or_eq_some_iff.1 h with h | ⟨-, h⟩
  · exact position?_lt h
  · exact position?_lt h

/-- The nodes have different names. -/
def Distinct (nodes : List Node) : Prop := (nodes.map fun n => Name.normalize n.name).Nodup

theorem Distinct.addNode (h : Distinct nodes) (n : Node) : Distinct (addNode nodes n) := by
  unfold Graph.addNode
  split
  · exact h
  · rename_i hnew
    rw [isSome_position?] at hnew
    unfold Distinct
    rw [List.map_append]
    refine List.nodup_append.2 ⟨h, List.nodup_singleton _, ?_⟩
    rintro a ha b hb rfl
    obtain ⟨m, hm, hname⟩ := List.mem_map.1 ha
    rw [List.map_singleton, List.mem_singleton] at hb
    exact hnew ⟨m, hm, hname.trans hb⟩

theorem distinct_ofNodes (given : List Node) : Distinct (ofNodes given).nodes := by
  suffices h : ∀ nodes, Distinct nodes → Distinct (given.foldl addNode nodes) from
    h [] List.nodup_nil
  induction given with
  | nil => exact fun nodes h => h
  | cons n given ih => exact fun nodes h => ih _ (h.addNode n)

/-- The node of a name is the one that has it. -/
theorem position?_name (h : Distinct nodes) (hi : nodes[i]? = some n) :
    position? nodes (Name.normalize n.name) = some i := by
  obtain ⟨hlt, rfl⟩ := List.getElem?_eq_some_iff.1 hi
  refine List.findIdx?_eq_some_iff_getElem.2 ⟨hlt, beq_self_eq_true _, fun j hj => ?_⟩
  rw [beq_iff_eq]
  intro hname
  have hi' : i < (nodes.map fun n => Name.normalize n.name).length := by simpa using hlt
  have hj' : j < (nodes.map fun n => Name.normalize n.name).length := hj.trans hi'
  have hsame : (nodes.map fun n => Name.normalize n.name)[j] = (nodes.map fun n => Name.normalize n.name)[i] := by
    simpa using hname
  exact absurd ((List.Nodup.getElem_inj_iff h).1 hsame) hj.ne

theorem nameAt_eq (hi : g.nodes[i]? = some n) : g.nameAt i = n.name := by
  unfold nameAt
  rw [hi]
  rfl

/-- **A node is found by its name.** -/
theorem lookup_nameAt (h : Distinct g.nodes) (hi : i < g.nodes.length) : g.lookup (g.nameAt i) = some i := by
  have hnode := List.getElem?_eq_getElem hi
  rw [nameAt_eq hnode]
  unfold lookup lookupIn
  rw [position?_name h hnode]
  rfl

/-- A list of names stands for one list of nodes. -/
theorem filterMap_lookup (h : Distinct g.nodes) {is : List Nat} (his : ∀ i ∈ is, i < g.nodes.length) :
    (is.map g.nameAt).filterMap g.lookup = is := by
  induction is with
  | nil => rfl
  | cons i is ih =>
    rw [List.map_cons, List.filterMap_cons, lookup_nameAt h (his i List.mem_cons_self)]
    exact congrArg (i :: ·) (ih fun j hj => his j (List.mem_cons_of_mem _ hj))

/-- Different nodes have different names. -/
theorem nodup_map_nameAt (h : Distinct g.nodes) {is : List Nat} (his : ∀ i ∈ is, i < g.nodes.length)
    (hnodup : is.Nodup) : (is.map g.nameAt).Nodup := by
  refine hnodup.map_on fun i hi j hj hij => Option.some.inj ?_
  rw [← lookup_nameAt h (his i hi), ← lookup_nameAt h (his j hj), hij]

/-! ## Edges -/

theorem distinct_concat (is : List Nat) (i : Nat) :
    distinct (is ++ [i]) = if (distinct is).contains i then distinct is else distinct is ++ [i] := by
  simp [distinct]

theorem mem_distinct {is : List Nat} : j ∈ distinct is ↔ j ∈ is := by
  induction is using List.reverseRecOn with
  | nil => simp [distinct]
  | append_singleton is i ih =>
    rw [distinct_concat, List.mem_append, List.mem_singleton, ← ih]
    split
    · rename_i hi
      refine ⟨.inl, ?_⟩
      rintro (hj | rfl)
      · exact hj
      · exact List.contains_iff_mem.1 hi
    · rw [List.mem_append, List.mem_singleton]

theorem nodup_distinct (is : List Nat) : (distinct is).Nodup := by
  induction is using List.reverseRecOn with
  | nil => exact List.nodup_nil
  | append_singleton is i ih =>
    rw [distinct_concat]
    split
    · exact ih
    · rename_i hi
      refine List.nodup_append.2 ⟨ih, List.nodup_singleton i, ?_⟩
      rintro a ha b hb rfl
      exact hi (List.contains_iff_mem.2 (List.mem_singleton.1 hb ▸ ha))

theorem size_edges (given : List Node) : (ofNodes given).edges.size = (ofNodes given).nodes.length := by
  simp [ofNodes, Digraph.size]

theorem succ_ofNodes (given : List Node) (i : Nat) :
    (ofNodes given).edges.succ i = match (ofNodes given).nodes[i]? with
      | some n => distinct (n.dependencies.filterMap (ofNodes given).lookup)
      | none => [] := by
  unfold Digraph.succ
  rw [List.getD_eq_getElem?_getD]
  simp only [ofNodes, List.getElem?_map]
  cases (given.foldl addNode [])[i]? <;> rfl

/-- **The edges are the dependencies.** -/
theorem needs_ofNodes (given : List Node) : (ofNodes given).edges.Needs = (ofNodes given).DependsOn := by
  funext i j
  rw [eq_iff_iff, Digraph.Needs, succ_ofNodes, DependsOn]
  cases (ofNodes given).nodes[i]? with
  | none => simp
  | some n => simp [mem_distinct]

theorem proper_ofNodes (given : List Node) : (ofNodes given).edges.Proper where
  bounded i j hj := by
    obtain ⟨n, -, d, -, hd⟩ := (congrFun (congrFun (needs_ofNodes given) i) j).mp hj
    rw [size_edges]
    exact lookupIn_lt hd
  nodup i := by
    rw [succ_ofNodes]
    split
    · exact nodup_distinct _
    · exact List.nodup_nil

/-! ## Order and cycles -/

theorem order_eq_ok {names : List String} :
    g.order = .ok names ↔ ∃ order, g.edges.order? = some order ∧ names = order.map g.nameAt := by
  unfold order
  cases g.edges.order? with
  | none => simp
  | some order => simp [eq_comm]

theorem order_eq_error {e : Error} (h : g.order = .error e) :
    g.edges.order? = none ∧ e = .cycle (g.cycles.head?.getD []) := by
  unfold order at h
  cases horder : g.edges.order? with
  | none =>
    rw [horder] at h
    exact ⟨rfl, (Except.error.inj h).symm⟩
  | some order =>
    rw [horder] at h
    cases h

theorem isSome_order?_ofNodes (given : List Node) :
    (ofNodes given).edges.order?.isSome ↔ Acyclic (ofNodes given).DependsOn := by
  rw [← needs_ofNodes]
  exact Digraph.isSome_order? (proper_ofNodes given)

theorem cycles_ofNodes_eq_nil (given : List Node) :
    (ofNodes given).cycles = [] ↔ Acyclic (ofNodes given).DependsOn := by
  rw [← needs_ofNodes, ← Digraph.cycles_eq_nil (proper_ofNodes given)]
  exact List.map_eq_nil_iff

/-- Each cycle that is found is one of nodes. -/
theorem elementary_of_mem_cycles {cycle : List Nat} (h : cycle ∈ (ofNodes given).edges.cycles) :
    ElementaryCycle (ofNodes given).DependsOn cycle ∧ ∀ i ∈ cycle, i < (ofNodes given).nodes.length := by
  have helementary := (Digraph.cycles_elementary (proper_ofNodes given)).1 cycle h
  rw [needs_ofNodes] at helementary
  refine ⟨helementary, fun i hi => ?_⟩
  obtain ⟨j, n, hn, -⟩ := helementary.exists_needs hi
  exact (List.getElem?_eq_some_iff.1 hn).1

/-- Different cycles have different names on them. -/
theorem nodup_cycles_ofNodes (given : List Node) : (ofNodes given).cycles.Nodup := by
  have hdistinct := distinct_ofNodes given
  refine (Digraph.cycles_elementary (proper_ofNodes given)).2.map_on fun c hc d hd hcd => ?_
  rw [← filterMap_lookup hdistinct (elementary_of_mem_cycles hc).2,
    ← filterMap_lookup hdistinct (elementary_of_mem_cycles hd).2, hcd]

/-- **A graph of traits has an order unless it has a cycle.** The order names every node once, each after
those that it depends on, and at the first difference to any other such order it has the node that was given
earlier. The counts that lead to it never fall below zero. -/
theorem order_ofTraits (ts : List Trait) :
    let g := ofTraits ts
    ((∃ names, g.order = .ok names) ↔ Acyclic g.DependsOn) ∧
      (∀ names, g.order = .ok names → ∃ order, names = order.map g.nameAt ∧
        order.Perm (List.range g.nodes.length) ∧ Legal g.DependsOn order ∧
        ∀ other, Legal g.DependsOn other → other.Perm (List.range g.nodes.length) → order ≤ other) ∧
      g.edges.sort? g.edges.size g.edges.sortingStart =
        some (g.edges.sort g.edges.size g.edges.sortingStart) := by
  intro g
  have hproper : g.edges.Proper := proper_ofNodes _
  have hneeds : g.edges.Needs = g.DependsOn := needs_ofNodes _
  have hsize : g.edges.size = g.nodes.length := size_edges _
  refine ⟨?_, fun names hnames => ?_, Digraph.sort?_sortingStart hproper⟩
  · have hsome : g.edges.order?.isSome ↔ Acyclic g.DependsOn := isSome_order?_ofNodes _
    rw [← hsome, Option.isSome_iff_exists]
    simp only [order_eq_ok]
    exact ⟨fun ⟨_, order, horder, _⟩ => ⟨order, horder⟩, fun ⟨order, horder⟩ => ⟨_, order, horder, rfl⟩⟩
  · obtain ⟨order, horder, rfl⟩ := order_eq_ok.1 hnames
    obtain ⟨hperm, hlegal, hleast⟩ := Digraph.order?_eq_some hproper horder
    rw [hsize] at hperm hleast
    rw [hneeds] at hlegal hleast
    exact ⟨order, rfl, hperm, hlegal, hleast⟩

/-- Of the traits that are ready the one given first comes first. -/
example : (ofNodes [⟨"A", ["core/C"], []⟩, ⟨"B", [], []⟩, ⟨"C", [], []⟩]).order = .ok ["B", "C", "A"] := by
  decide +kernel

/-- **What is found are the cycles of the graph**, each from its earliest node on: no node is met twice, no cycle is
told twice, and there is one unless the graph has none. Where there is no order, one of them is told. -/
theorem cycles_ofTraits (ts : List Trait) :
    let g := ofTraits ts
    (∀ path ∈ g.cycles, path.dropLast.Nodup ∧
      ∃ cycle, path = cycle.map g.nameAt ∧ ElementaryCycle g.DependsOn cycle) ∧
      g.cycles.Nodup ∧
      (g.cycles ≠ [] ↔ ¬ Acyclic g.DependsOn) ∧
      ∀ e, g.order = .error e → ∃ path ∈ g.cycles, path ≠ [] ∧ e = .cycle path := by
  intro g
  have hdistinct : Distinct g.nodes := distinct_ofNodes _
  have hsome : g.edges.order?.isSome ↔ Acyclic g.DependsOn := isSome_order?_ofNodes _
  have hnone : g.cycles = [] ↔ Acyclic g.DependsOn := cycles_ofNodes_eq_nil _
  have hpaths : ∀ path ∈ g.cycles, path.dropLast.Nodup ∧
      ∃ cycle, path = cycle.map g.nameAt ∧ ElementaryCycle g.DependsOn cycle := by
    intro path hpath
    obtain ⟨cycle, hcycle, rfl⟩ := List.mem_map.1 hpath
    obtain ⟨helementary, hbounded⟩ := elementary_of_mem_cycles hcycle
    refine ⟨?_, cycle, rfl, helementary⟩
    rw [← List.map_dropLast]
    exact nodup_map_nameAt hdistinct (fun i hi => hbounded i (List.dropLast_subset cycle hi))
      helementary.nodup_dropLast
  refine ⟨hpaths, nodup_cycles_ofNodes _, not_congr hnone, fun e he => ?_⟩
  obtain ⟨horder, rfl⟩ := order_eq_error he
  -- where there is no order there is a cycle, and so a first one among those that are found
  have hcyclic : g.cycles ≠ [] := by
    rw [Ne, hnone, ← hsome, horder]
    exact Bool.false_ne_true
  obtain ⟨path, rest, hcycles⟩ := List.exists_cons_of_ne_nil hcyclic
  have hmem : path ∈ g.cycles := hcycles ▸ List.mem_cons_self
  obtain ⟨-, cycle, hpath, helementary⟩ := hpaths path hmem
  refine ⟨path, hmem, fun hnil => helementary.ne_nil (List.map_eq_nil_iff.1 (hpath.symm.trans hnil)), ?_⟩
  rw [hcycles]
  rfl

end TraitWeave.Graph
