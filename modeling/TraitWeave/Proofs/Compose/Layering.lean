import TraitWeave.Compose.Composed
import TraitWeave.Proofs.Compose.Candidates

/-!
# What stands for each key of a composed object

A composed object is told key by key: which layers declare the key, which of their declarations the
strategy of the key chooses, and what the override puts on top.

* `Strata`: what the layers declare, layer by layer.
* `Strata.keys`, `Strata.standing?`: the keys in their order, and what stands for each.
* `Object.compose_layered`: composition follows these rules.
-/

namespace TraitWeave

variable {α : Type}

/-- What the layers declare. -/
structure Strata (α : Type) where
  foundation : Table α
  /-- The base object, where there is one, with the source that it counts as. -/
  base : Option (String × Table α)
  /-- The traits in their order, each with its name. -/
  traits : List (String × Table α)
  own : Table α
  overrides : Table α
  /-- How the object itself is named as a source. -/
  source : String

namespace Strata

/-- The declaration of a key in a table of one layer. -/
def declaration? (layer : Layer) (source : String) (t : Table α) (key : String) : Option (Candidate α) :=
  (t.get? key).map fun v => ⟨⟨layer, source⟩, v⟩

variable (L : Strata α) (merge : α → α → α) (strategy : Option Strategy) (key : String)

/-- The declarations of a key by the traits, in their order. -/
def byTraits : List (Candidate α) := L.traits.filterMap fun t => declaration? .trait t.1 t.2 key

/-- The declaration of a key by the object itself. -/
def byObject? : Option (Candidate α) := declaration? .object L.source L.own key

/-- All declarations of a key but the override, in the order of the layers. -/
def declared : List (Candidate α) :=
  (declaration? .foundation "foundation" L.foundation key).toList ++
    (L.base.toList.filterMap fun b => declaration? .base b.1 b.2 key) ++
    L.byTraits key ++ (L.byObject? key).toList

/-- The keys, in the order in which they first come in the layers. -/
def keys : List String :=
  (L.foundation.keys ++ (L.base.toList.flatMap fun b => b.2.keys) ++
    (L.traits.flatMap fun t => t.2.keys) ++ L.own.keys ++ L.overrides.keys).eraseDups

/-- The declaration that the strategy chooses. -/
def chosen? : Option (Candidate α) :=
  match strategy with
  | none => (L.declared key).getLast?
  | some .useTrait => (L.byTraits key).head?.or (L.declared key).getLast?
  | some .useObject => (L.byObject? key).or (L.declared key).getLast?
  | some .merge =>
    match L.declared key with
    | [] => none
    | c :: cs => some (cs.foldl (fun merged next => { next with value := merge merged.value next.value }) c)

/-- What stands: the chosen declaration with the override on top, or the override alone. -/
def standing? : Option (Candidate α) :=
  match L.chosen? merge strategy key, L.overrides.get? key with
  | chosen, none => chosen
  | none, some v => some ⟨⟨.context, L.source⟩, v⟩
  | some c, some v => some ⟨⟨.context, L.source⟩, merge c.value v⟩

/-- The names of each table are distinct. -/
structure Distinct (L : Strata α) : Prop where
  foundation : L.foundation.keys.Nodup
  base : ∀ b ∈ L.base.toList, b.2.keys.Nodup
  traits : ∀ t ∈ L.traits, t.2.keys.Nodup
  own : L.own.keys.Nodup
  overrides : L.overrides.keys.Nodup

/-- The declarations of all keys, layer by layer. -/
def entries : List (String × Candidate α) :=
  Candidate.ofTable .foundation "foundation" L.foundation ++
    (L.base.toList.flatMap fun b => Candidate.ofTable .base b.1 b.2) ++
    (L.traits.flatMap fun t => Candidate.ofTable .trait t.1 t.2) ++
    Candidate.ofTable .object L.source L.own ++
    Candidate.ofTable .context L.source L.overrides

variable {L merge strategy key}

theorem keys_entries (L : Strata α) : (L.entries.map Prod.fst).eraseDups = L.keys := by
  unfold keys entries
  congr 1
  simp [Candidate.ofTable, Table.keys, List.map_flatMap, Function.comp_def]

theorem nodup_keys (L : Strata α) : L.keys.Nodup := by
  rw [← keys_entries, ← Table.keys_grouped]
  exact Table.nodup_grouped _

/-- The declarations of a key in several tables of one layer. -/
theorem filter_flatMap {ts : List (String × Table α)} (hts : ∀ t ∈ ts, t.2.keys.Nodup) (layer : Layer)
    (key : String) :
    ((ts.flatMap fun t => Candidate.ofTable layer t.1 t.2).filter fun e => e.1 == key).map Prod.snd =
      ts.filterMap fun t => declaration? layer t.1 t.2 key := by
  induction ts with
  | nil => rfl
  | cons t ts ih =>
    obtain ⟨ht, hts⟩ := List.forall_mem_cons.1 hts
    rw [List.flatMap_cons, List.filter_append, List.map_append, ih hts, Candidate.filter_ofTable ht,
      List.filterMap_cons]
    unfold declaration?
    cases t.2.get? key <;> rfl

/-- The declarations of a key are those below the context and the override. -/
theorem filter_entries (h : L.Distinct) (key : String) :
    (L.entries.filter fun e => e.1 == key).map Prod.snd =
      L.declared key ++ (declaration? .context L.source L.overrides key).toList := by
  unfold entries declared byTraits byObject?
  simp only [List.filter_append, List.map_append, Candidate.filter_ofTable h.foundation,
    Candidate.filter_ofTable h.own, Candidate.filter_ofTable h.overrides, filter_flatMap h.base,
    filter_flatMap h.traits]
  rfl

theorem layer_of_declaration? {layer : Layer} {source : String} {t : Table α} {c : Candidate α}
    (h : declaration? layer source t key = some c) : c.layer = layer := by
  obtain ⟨v, -, rfl⟩ := Option.map_eq_some_iff.1 h
  rfl

theorem layer_of_mem {layer : Layer} {ts : List (String × Table α)} {c : Candidate α}
    (h : c ∈ ts.filterMap fun t => declaration? layer t.1 t.2 key) : c.layer = layer := by
  obtain ⟨t, -, ht⟩ := List.mem_filterMap.1 h
  exact layer_of_declaration? ht

theorem not_context_of_mem_declared {c : Candidate α} (h : c ∈ L.declared key) : c.layer ≠ .context := by
  unfold declared at h
  simp only [List.mem_append, Option.mem_toList] at h
  rcases h with ((h | h) | h) | h
  · rw [layer_of_declaration? h]; decide
  · rw [layer_of_mem h]; decide
  · rw [layer_of_mem h]; decide
  · rw [layer_of_declaration? h]; decide

/-- Of declarations of one layer, all or none are of another given one. -/
theorem filter_layer {layer : Layer} {cs : List (Candidate α)} (h : ∀ c ∈ cs, c.layer = layer) (other : Layer) :
    cs.filter (fun c => c.layer == other) = if layer = other then cs else [] := by
  split
  · rename_i heq
    exact List.filter_eq_self.2 fun c hc => beq_iff_eq.2 ((h c hc).trans heq)
  · rename_i hne
    exact List.filter_eq_nil_iff.2 fun c hc he => hne ((h c hc).symm.trans (beq_iff_eq.1 he))

/-- The declarations of a key, told apart by their layers again. -/
theorem filter_declared (layer : Layer) : (L.declared key).filter (fun c => c.layer == layer) =
    match layer with
    | .foundation => (declaration? .foundation "foundation" L.foundation key).toList
    | .base => L.base.toList.filterMap fun b => declaration? .base b.1 b.2 key
    | .trait => L.byTraits key
    | .object => (L.byObject? key).toList
    | .context => [] := by
  have htraits := filter_layer (fun c (hc : c ∈ L.byTraits key) => layer_of_mem hc) layer
  have hown := filter_layer (fun c (hc : c ∈ (L.byObject? key).toList) =>
    layer_of_declaration? (Option.mem_toList.1 hc)) layer
  unfold declared
  rw [List.filter_append, List.filter_append, List.filter_append, htraits, hown,
    filter_layer fun c hc => layer_of_declaration? (Option.mem_toList.1 hc), filter_layer fun c hc => layer_of_mem hc]
  cases layer <;> simp

/-- The first declaration by a trait. -/
theorem firstTrait?_declared : Candidate.firstTrait? (L.declared key) = (L.byTraits key).head? := by
  rw [Candidate.firstTrait?, ← List.head?_filter, filter_declared]

/-- The declaration by the object. -/
theorem lastObject?_declared : Candidate.lastObject? (L.declared key) = L.byObject? key := by
  rw [Candidate.lastObject?, filter_declared]
  cases L.byObject? key <;> rfl

/-- **What the strategy chooses** among the declarations below the context. -/
theorem choose?_declared : Candidate.choose? merge strategy (L.declared key) = L.chosen? merge strategy key := by
  unfold Candidate.choose? chosen?
  cases strategy with
  | none => rfl
  | some strategy =>
    cases strategy with
    | useTrait => rw [← firstTrait?_declared]
    | useObject => rw [← lastObject?_declared]
    | merge => cases L.declared key <;> rfl

/-- Something is chosen wherever a layer declares the key, so an override stands alone only where none does. -/
theorem chosen?_eq_none : L.chosen? merge strategy key = none ↔ L.declared key = [] := by
  rw [← choose?_declared]
  constructor
  · intro hnone
    by_contra hne
    have hsome : (Candidate.choose? merge strategy (L.declared key)).isSome = true :=
      Candidate.choose?_isSome strategy hne
    rw [hnone] at hsome
    cases hsome
  · intro hnil
    rw [hnil]
    cases strategy with
    | none => rfl
    | some strategy => cases strategy <;> rfl

/-- **What is settled for a key** is what stands in the layers. -/
theorem settle?_declared (resolution : Option Resolution) :
    Candidate.settle? merge resolution
        (L.declared key ++ (declaration? .context L.source L.overrides key).toList) =
      L.standing? merge (resolution.bind Resolution.strategy) key := by
  rw [Candidate.settle?_eq (fun c hc => not_context_of_mem_declared hc)
    (fun c hc => layer_of_declaration? (Option.mem_toList.1 hc)), choose?_declared]
  unfold standing? declaration?
  cases L.chosen? merge (resolution.bind Resolution.strategy) key <;> cases L.overrides.get? key <;> rfl

/-- What is settled for all keys: the values, and where each comes from. -/
structure Settles (L : Strata α) (merge : α → α → α) (resolutions : Table Resolution)
    (settled : Table (Candidate α)) : Prop where
  keys : settled.keys = L.keys
  value : ∀ key, settled.get? key =
    L.standing? merge ((resolutions.get? key).bind Resolution.strategy) key

end Strata

namespace Object

variable {merge : α → α → α} {resolutions : Table Resolution}

/-! ## Settling all keys -/

theorem settleAll_cons (merge : α → α → α) (resolutions : Table Resolution) {cs : List (Candidate α)}
    (h : cs ≠ []) (key : String) (t : Table (List (Candidate α))) :
    ∃ c, Candidate.settle? merge (resolutions.get? key) cs = some c ∧
      settleAll merge resolutions ((key, cs) :: t) = (key, c) :: settleAll merge resolutions t := by
  obtain ⟨c, hc⟩ := Option.isSome_iff_exists.1 (Candidate.settle?_isSome merge (resolutions.get? key) h)
  exact ⟨c, hc, by simp [settleAll, hc]⟩

/-- Every key keeps its place when it is settled. -/
theorem keys_settleAll {layered : Table (List (Candidate α))} (h : ∀ p ∈ layered, p.2 ≠ []) :
    (settleAll merge resolutions layered).keys = layered.keys := by
  induction layered with
  | nil => rfl
  | cons p t ih =>
    obtain ⟨hp, ht⟩ := List.forall_mem_cons.1 h
    obtain ⟨c, -, hcons⟩ := settleAll_cons merge resolutions hp p.1 t
    rw [hcons]
    exact congrArg (p.1 :: ·) (ih ht)

/-- What is settled for a key. -/
theorem get?_settleAll {layered : Table (List (Candidate α))} (h : ∀ p ∈ layered, p.2 ≠ [])
    (key : String) :
    (settleAll merge resolutions layered).get? key =
      (layered.get? key).bind (Candidate.settle? merge (resolutions.get? key)) := by
  induction layered with
  | nil => rfl
  | cons p t ih =>
    obtain ⟨hp, ht⟩ := List.forall_mem_cons.1 h
    obtain ⟨c, hc, hcons⟩ := settleAll_cons merge resolutions hp p.1 t
    rw [hcons, Table.get?_cons, Table.get?_cons, ih ht]
    split
    · rename_i hk
      rw [Option.bind_some, ← hk, hc]
    · rfl

theorem keys_settleAll_gather (entries : List (String × Candidate α)) :
    (settleAll merge resolutions (Candidate.gather entries)).keys = (entries.map Prod.fst).eraseDups := by
  rw [Candidate.gather_eq, keys_settleAll fun p hp => Table.ne_nil_of_mem_grouped hp, Table.keys_grouped]

/-- What is settled for a key is settled among its declarations. -/
theorem get?_settleAll_gather (entries : List (String × Candidate α)) (key : String) :
    (settleAll merge resolutions (Candidate.gather entries)).get? key =
      Candidate.settle? merge (resolutions.get? key)
        ((entries.filter fun e => e.1 == key).map Prod.snd) := by
  rw [Candidate.gather_eq, get?_settleAll fun p hp => Table.ne_nil_of_mem_grouped hp, Table.get?_grouped]
  cases (entries.filter fun e => e.1 == key).map Prod.snd with
  | nil => exact (Candidate.settle?_nil _ _).symm
  | cons c cs => rfl

/-- **Settling what the layers declare** gives what stands for each key. -/
theorem settleAll_settles {L : Strata α} (h : L.Distinct) (merge : α → α → α)
    (resolutions : Table Resolution) :
    L.Settles merge resolutions (settleAll merge resolutions (Candidate.gather L.entries)) := by
  refine ⟨?_, fun key => ?_⟩
  · rw [keys_settleAll_gather, Strata.keys_entries]
  · rw [get?_settleAll_gather, Strata.filter_entries h, Strata.settle?_declared]

/-! ## The layers of an object -/

/-- The override of a field, where its value is a declaration. -/
def fieldOverride? (r : Resolution) : Option Field := r.override.bind fun v => (Field.decode v).toOption

/-- What the layers of an object declare as fields. -/
def fieldStrata (foundation : Table Field) (o : Object) (resolved : List Resolved)
    (base : Option Composed) : Strata Field where
  foundation := foundation
  base := base.map fun b => (b.name, b.schema)
  traits := resolved.map fun r => (r.name, r.trait.schema.mapValues (Field.bindEnumFrom r.parameters))
  own := o.schema
  overrides := o.resolutions.fields.filterMap fun p => (fieldOverride? p.2).map (p.1, ·)
  source := o.sourceName

/-- What the layers of an object have in a section of values. -/
def sectionStrata (o : Object) (resolved : List Resolved) (base : Option Composed) (s : Section) :
    Strata Json where
  foundation := []
  base := base.map fun b => ("base", valuesOfBase b s)
  traits := resolved.map fun r => (r.name, valuesOfTrait r.trait s)
  own := o.ownValues s
  overrides := (s.resolutions o.resolutions).filterMap fun p => p.2.override.map (p.1, ·)
  source := o.sourceName

/-- The tables that are composed have distinct names. -/
structure Distinct (foundation : Table Field) (o : Object) (resolved : List Resolved)
    (base : Option Composed) : Prop where
  foundation : foundation.keys.Nodup
  base : ∀ b ∈ base, b.schema.keys.Nodup ∧ ∀ s, (valuesOfBase b s).keys.Nodup
  traits : ∀ r ∈ resolved, r.trait.schema.keys.Nodup ∧ ∀ s, (valuesOfTrait r.trait s).keys.Nodup
  own : o.schema.keys.Nodup ∧ ∀ s, (o.ownValues s).keys.Nodup
  resolutions : ∀ s : Section, (s.resolutions o.resolutions).keys.Nodup

variable {foundation : Table Field} {o : Object} {resolved : List Resolved} {base : Option Composed}

theorem fieldOverrides_eq (o : Object) :
    o.fieldOverrides = o.resolutions.fields.filterMap fun p => (fieldOverride? p.2).map (p.1, ·) := by
  unfold fieldOverrides fieldOverride?
  congr 1
  funext p
  obtain ⟨key, r⟩ := p
  cases hr : r.override <;> simp [hr]

theorem fieldLayers_eq :
    o.fieldLayers foundation resolved base = (fieldStrata foundation o resolved base).entries := by
  unfold fieldLayers Strata.entries fieldStrata
  rw [fieldOverrides_eq]
  cases base <;> simp [List.flatMap_map]

theorem sectionLayers_eq (s : Section) :
    o.sectionLayers resolved base s = (sectionStrata o resolved base s).entries := by
  unfold sectionLayers Strata.entries sectionStrata
  cases base <;> simp [List.flatMap_map, Candidate.ofTable]

theorem fieldStrata_distinct (h : Distinct foundation o resolved base) :
    (fieldStrata foundation o resolved base).Distinct := by
  refine ⟨h.foundation, ?_, ?_, h.own.1, ?_⟩
  · simpa [fieldStrata] using fun b hb => (h.base b hb).1
  · simpa [fieldStrata] using fun r hr => (h.traits r hr).1
  · exact Table.nodup_filterMap fieldOverride? (h.resolutions .fields)

theorem sectionStrata_distinct (h : Distinct foundation o resolved base) (s : Section) :
    (sectionStrata o resolved base s).Distinct := by
  refine ⟨List.nodup_nil, ?_, ?_, h.own.2 s, ?_⟩
  · simpa [sectionStrata] using fun b hb => (h.base b hb).2 s
  · simpa [sectionStrata] using fun r hr => (h.traits r hr).2 s
  · exact Table.nodup_filterMap Resolution.override (h.resolutions s)

/-- The override of a field is the one that its resolution has, where that is a declaration. -/
theorem fieldStrata_override (h : o.resolutions.fields.keys.Nodup) (key : String) :
    (fieldStrata foundation o resolved base).overrides.get? key =
      (o.resolutions.fields.get? key).bind fieldOverride? :=
  Table.get?_filterMap fieldOverride? h key

theorem sectionStrata_override {s : Section} (h : (s.resolutions o.resolutions).keys.Nodup)
    (key : String) :
    (sectionStrata o resolved base s).overrides.get? key =
      ((s.resolutions o.resolutions).get? key).bind Resolution.override :=
  Table.get?_filterMap Resolution.override h key

/-! ## The composed object -/

/-- The strategy for a key of a section. -/
def strategy? (o : Object) (s : Section) (key : String) : Option Strategy :=
  ((s.resolutions o.resolutions).get? key).bind Resolution.strategy

/-- The fields of the composed object, settled with where they come from. -/
theorem compose_settles (h : Distinct foundation o resolved base) :
    ∃ settled, (fieldStrata foundation o resolved base).Settles (Field.merge o.resolutions.depth)
        o.resolutions.fields settled ∧
      (o.compose foundation resolved base).schema = settled.mapValues Candidate.value ∧
      (o.compose foundation resolved base).provenance = settled.mapValues Candidate.toProvenance := by
  have hsettles := settleAll_settles (fieldStrata_distinct h) (Field.merge o.resolutions.depth)
    o.resolutions.fields
  rw [← fieldLayers_eq] at hsettles
  exact ⟨_, hsettles, rfl, rfl⟩

/-- The values of a section of the composed object, settled. -/
theorem compose_section_settles (h : Distinct foundation o resolved base) {s : Section}
    (hs : s ≠ .fields) :
    ∃ settled, (sectionStrata o resolved base s).Settles (Json.merge o.resolutions.depth)
        (s.resolutions o.resolutions) settled ∧
      valuesOfBase (o.compose foundation resolved base) s = settled.mapValues Candidate.value := by
  have hsettles := settleAll_settles (sectionStrata_distinct h s) (Json.merge o.resolutions.depth)
    (s.resolutions o.resolutions)
  rw [← sectionLayers_eq] at hsettles
  refine ⟨_, hsettles, ?_⟩
  cases s with
  | fields => exact absurd rfl hs
  | semantics => rfl
  | tokens => rfl
  | views => rfl

/-- **A composed object can be a base**: its own tables have distinct names again. -/
theorem compose_distinct (h : Distinct foundation o resolved base) :
    (o.compose foundation resolved base).schema.keys.Nodup ∧
      ∀ s, (valuesOfBase (o.compose foundation resolved base) s).keys.Nodup := by
  constructor
  · obtain ⟨settled, hsettled, hschema, -⟩ := compose_settles h
    rw [hschema, Table.keys_mapValues, hsettled.keys]
    exact Strata.nodup_keys _
  · intro s
    by_cases hs : s = .fields
    · rw [hs]; exact List.nodup_nil
    · obtain ⟨settled, hsettled, hvalues⟩ := compose_section_settles h hs
      rw [hvalues, Table.keys_mapValues, hsettled.keys]
      exact Strata.nodup_keys _

end Object

namespace Field

/-- The declaration of a trait's field, with the literal values of a parameter in place of its name. -/
structure Binds (parameters : Table Json) (f g : Field) : Prop where
  bound : ∀ source vs, f.rules.enumFrom = some source → parameters.get? source = some (.arr vs) →
    (∀ v ∈ vs, v.isLiteral = true) →
    g = { f with allowed := some vs, rules := { f.rules with enumFrom := none } }
  unbound : (∀ source vs, f.rules.enumFrom = some source → parameters.get? source = some (.arr vs) →
    ∃ v ∈ vs, v.isLiteral = false) → g = f

theorem bindEnumFrom_binds (parameters : Table Json) (f : Field) :
    Binds parameters f (f.bindEnumFrom parameters) := by
  constructor
  · intro source vs hsource hvs hliteral
    have hall : vs.all Json.isLiteral = true := List.all_eq_true.2 hliteral
    simp [bindEnumFrom, hsource, allowedFrom?, hvs, hall]
  · intro h
    unfold bindEnumFrom
    split
    · rfl
    · rename_i source hsource
      unfold allowedFrom?
      split
      · rfl
      · rename_i vs' hallowed
        split at hallowed
        · rename_i vs hvs
          obtain ⟨v, hv, hliteral⟩ := h source vs hsource hvs
          have hall : vs.all Json.isLiteral = false := List.all_eq_false.2 ⟨v, hv, by simp [hliteral]⟩
          simp [hall] at hallowed
        · cases hallowed

end Field

namespace Object

variable {foundation : Table Field} {o : Object} {resolved : List Resolved} {base : Option Composed}

/-- **Composition follows the layers, key by key.** The keys of the schema and of its provenance are those
of the layers as they first come; for each key the value and the provenance are those of the declaration that
stands. The sections of values follow the same rule. -/
theorem compose_layered (h : Distinct foundation o resolved base) :
    let c := o.compose foundation resolved base
    let L := fieldStrata foundation o resolved base
    c.schema.keys = L.keys ∧ c.provenance.keys = L.keys ∧
      (∀ key,
        let standing := L.standing? (Field.merge o.resolutions.depth) (o.strategy? .fields key) key
        c.schema.get? key = standing.map Candidate.value ∧
          c.provenance.get? key = standing.map Candidate.toProvenance) ∧
      (∀ r ∈ resolved, ∀ f, Field.Binds r.parameters f (f.bindEnumFrom r.parameters)) ∧
      ∀ s, s ≠ .fields →
        let M := sectionStrata o resolved base s
        (valuesOfBase c s).keys = M.keys ∧ ∀ key, (valuesOfBase c s).get? key =
          (M.standing? (Json.merge o.resolutions.depth) (o.strategy? s key) key).map Candidate.value := by
  intro c L
  obtain ⟨settled, hsettled, hschema, hprovenance⟩ := compose_settles h
  refine ⟨?_, ?_, fun key => ⟨?_, ?_⟩, fun r _ f => Field.bindEnumFrom_binds r.parameters f, ?_⟩
  · rw [hschema, Table.keys_mapValues, hsettled.keys]
  · rw [hprovenance, Table.keys_mapValues, hsettled.keys]
  · rw [hschema, Table.get?_mapValues, hsettled.value]; rfl
  · rw [hprovenance, Table.get?_mapValues, hsettled.value]; rfl
  · intro s hs M
    obtain ⟨settled, hsettled, hvalues⟩ := compose_section_settles h hs
    refine ⟨?_, fun key => ?_⟩
    · rw [hvalues, Table.keys_mapValues, hsettled.keys]
    · rw [hvalues, Table.get?_mapValues, hsettled.value]; rfl

/-! ## An article -/

/-- A trait whose field takes its values from a parameter. -/
def publishable : Resolved where
  reference := .named "publishable"
  trait :=
    { info := ⟨"publishable", "1.0.0", none, none, none, []⟩
      parameters := []
      schema := [("status", { Field.ofKind "string" with
        rules := { Rules.empty with enumFrom := some "states" } })]
      semantics := []
      viewExtensions := []
      tokens := []
      dependencies := []
      actions := []
      stateMachine := none
      metadata := ⟨[], []⟩ }
  parameters := [("states", .arr [.str "draft", .str "live"])]
  path := ⟨"traits/publishable.trait.yaml"⟩

/-- An object that declares a field of its trait again, and has an override for a field of its own. -/
def article : Object where
  info := ⟨"Article", none, none, none, [], []⟩
  traits := [.named "publishable"]
  schema := [("title", .ofKind "string"), ("status", .ofKind "string")]
  semantics := []
  tokens := []
  views := []
  actions := []
  resolutions := { Resolutions.empty with
    fields := [("status", ⟨some .useTrait, none⟩),
      ("pinned", ⟨none, some (.obj [("type", .str "boolean")])⟩)] }
  metadata := []

/-- The article, composed with what all objects share. -/
def composedArticle : Composed := article.compose [("id", .ofKind "string")] [publishable] none

theorem article_distinct : Distinct [("id", .ofKind "string")] article [publishable] none where
  foundation := by decide
  base := by simp
  traits := by
    simp only [List.mem_singleton, forall_eq]
    exact ⟨by decide, fun s => by cases s <;> decide⟩
  own := ⟨by decide, fun s => by cases s <;> decide⟩
  resolutions s := by cases s <;> decide

theorem compose_layered_article :
    Distinct [("id", .ofKind "string")] article [publishable] none ∧
      composedArticle.schema.keys = ["id", "status", "title", "pinned"] ∧
      composedArticle.provenance.get? "status" = some ⟨.trait, "publishable"⟩ ∧
      composedArticle.provenance.get? "pinned" = some ⟨.context, "Article (object override)"⟩ := by
  have hlayered := compose_layered article_distinct
  refine ⟨article_distinct, hlayered.1.trans ?_, (hlayered.2.2.1 "status").2.trans ?_,
    (hlayered.2.2.1 "pinned").2.trans ?_⟩
  · decide
  · decide
  · decide

end Object

end TraitWeave
