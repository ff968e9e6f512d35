import TraitWeave.Proofs.Compose.Layering

/-!
# An override stands on top of all layers

The override of a field makes up the context, the layer above all others. It is merged over what is settled
without it, and stands alone where nothing is.

* `Candidate.settle?_concat`: one declaration of the context on top of the others.
* `Object.withoutOverride`: the same object without the override of one field.
* `Object.Undeclared`: no layer below the context declares a field.
* `Object.Overridden`: what an override does to its field in a composed object.
* `Object.overridden`: **every override that is a declaration does this.**
-/

namespace TraitWeave

namespace Candidate

variable {α : Type} {merge : α → α → α} {below : List (Candidate α)}

theorem settle?_below (hbelow : ∀ c ∈ below, c.layer ≠ .context) (resolution : Option Resolution) :
    settle? merge resolution below = choose? merge (resolution.bind Resolution.strategy) below := by
  have hnone : settle? merge resolution (below ++ []) =
      choose? merge (resolution.bind Resolution.strategy) below := settle?_eq hbelow (by simp)
  rwa [List.append_nil] at hnone

/-- **One declaration of the context** stands on top of what is settled without it. -/
theorem settle?_concat (hbelow : ∀ c ∈ below, c.layer ≠ .context) {c : Candidate α} (hc : c.layer = .context)
    {r r' : Option Resolution} (hstrategy : r.bind Resolution.strategy = r'.bind Resolution.strategy) :
    settle? merge r (below ++ [c]) = putOver merge (settle? merge r' below) c := by
  rw [settle?_eq hbelow (by simpa using hc), settle?_below hbelow, hstrategy]
  rfl

end Candidate

namespace Object

variable {foundation : Table Field} {o : Object} {resolved : List Resolved} {base : Option Composed}
  {key : String} {r : Resolution}

/-! ## Below the context -/

/-- What the layers below the context declare as fields, in order. -/
def lowerFieldLayers (foundation : Table Field) (o : Object) (resolved : List Resolved)
    (base : Option Composed) : List (String × Candidate Field) :=
  Candidate.ofTable .foundation "foundation" foundation ++
    (match base with
      | some b => Candidate.ofTable .base b.name b.schema
      | none => []) ++
    (resolved.flatMap fun r =>
      Candidate.ofTable .trait r.name (r.trait.schema.mapValues (Field.bindEnumFrom r.parameters))) ++
    Candidate.ofTable .object o.sourceName o.schema

theorem fieldLayers_eq_lower : o.fieldLayers foundation resolved base =
    o.lowerFieldLayers foundation resolved base ++ Candidate.ofTable .context o.sourceName o.fieldOverrides := rfl

/-- No layer below the context declares the field. -/
structure Undeclared (foundation : Table Field) (o : Object) (resolved : List Resolved) (base : Option Composed)
    (key : String) : Prop where
  foundation : key ∉ foundation.keys
  base : ∀ b ∈ base, key ∉ b.schema.keys
  traits : ∀ r ∈ resolved, key ∉ r.trait.schema.keys
  own : key ∉ o.schema.keys

/-- The declarations of a field below the context. -/
def lowerDeclarations (foundation : Table Field) (o : Object) (resolved : List Resolved) (base : Option Composed)
    (key : String) : List (Candidate Field) :=
  ((o.lowerFieldLayers foundation resolved base).filter fun e => e.1 == key).map Prod.snd

theorem layer_of_mem_lowerDeclarations {c : Candidate Field}
    (h : c ∈ o.lowerDeclarations foundation resolved base key) : c.layer ≠ .context := by
  obtain ⟨e, he, rfl⟩ := List.mem_map.1 h
  have hlayer (layer : Layer) (source : String) (t : Table Field) (he : e ∈ Candidate.ofTable layer source t) :
      e.2.layer = layer := by
    obtain ⟨p, -, rfl⟩ := List.mem_map.1 he
    rfl
  have hmem := (List.mem_filter.1 he).1
  simp only [lowerFieldLayers, List.mem_append, List.mem_flatMap] at hmem
  rcases hmem with ((he | he) | ⟨r, -, he⟩) | he
  · rw [hlayer _ _ _ he]; decide
  · cases base with
    | none => cases he
    | some b => rw [hlayer _ _ _ he]; decide
  · rw [hlayer _ _ _ he]; decide
  · rw [hlayer _ _ _ he]; decide

theorem lowerDeclarations_eq_nil :
    o.lowerDeclarations foundation resolved base key = [] ↔ Undeclared foundation o resolved base key := by
  have hkeys : o.lowerDeclarations foundation resolved base key = [] ↔
      key ∉ (o.lowerFieldLayers foundation resolved base).map Prod.fst := by
    rw [lowerDeclarations, List.map_eq_nil_iff, List.filter_eq_nil_iff, List.mem_map]
    simp only [beq_iff_eq, not_exists, not_and]
  have htable (layer : Layer) (source : String) (t : Table Field) :
      (Candidate.ofTable layer source t).map Prod.fst = t.keys := List.map_map
  have hbase : (match base with
      | some b => Candidate.ofTable .base b.name b.schema
      | none => ([] : List (String × Candidate Field))).map Prod.fst =
        (match base with
          | some b => b.schema.keys
          | none => []) := by
    cases base with
    | none => rfl
    | some b => exact htable _ _ _
  -- layer by layer, the keys are those of tables
  rw [hkeys]
  unfold lowerFieldLayers
  simp only [List.map_append, List.map_flatMap, htable, hbase, Table.keys_mapValues, List.mem_append,
    List.mem_flatMap, not_or, not_exists, not_and]
  constructor
  · rintro ⟨⟨⟨hfoundation, hbase⟩, htraits⟩, hown⟩
    exact ⟨hfoundation, fun b hb => by cases hb; exact hbase, htraits, hown⟩
  · rintro ⟨hfoundation, hbase, htraits, hown⟩
    refine ⟨⟨⟨hfoundation, ?_⟩, htraits⟩, hown⟩
    cases base with
    | none => exact List.not_mem_nil
    | some b => exact hbase b rfl

/-! ## Without an override -/

/-- The same object, but without the override of a field. -/
def withoutOverride (o : Object) (key : String) : Object :=
  match o.resolutions.fields.get? key with
  | none => o
  | some r =>
    { o with resolutions := { o.resolutions with
        fields := o.resolutions.fields.put key { r with override := none } } }

theorem withoutOverride_eq (hr : o.resolutions.fields.get? key = some r) : o.withoutOverride key =
    { o with resolutions := { o.resolutions with
        fields := o.resolutions.fields.put key { r with override := none } } } := by
  rw [withoutOverride, hr]

theorem get?_fieldOverrides (h : o.resolutions.fields.keys.Nodup) (key : String) :
    o.fieldOverrides.get? key = (o.resolutions.fields.get? key).bind fieldOverride? := by
  rw [fieldOverrides_eq]
  exact Table.get?_filterMap fieldOverride? h key

theorem nodup_fieldOverrides (h : o.resolutions.fields.keys.Nodup) : o.fieldOverrides.keys.Nodup := by
  rw [fieldOverrides_eq]
  exact Table.nodup_filterMap fieldOverride? h

/-- The declarations of a field: those below the context, and the override. -/
theorem filter_fieldLayers (h : o.resolutions.fields.keys.Nodup) (key : String) :
    ((o.fieldLayers foundation resolved base).filter fun e => e.1 == key).map Prod.snd =
      o.lowerDeclarations foundation resolved base key ++
        (((o.resolutions.fields.get? key).bind fieldOverride?).map fun f =>
          ⟨⟨.context, o.sourceName⟩, f⟩).toList := by
  rw [fieldLayers_eq_lower, List.filter_append, List.map_append,
    Candidate.filter_ofTable (nodup_fieldOverrides h), get?_fieldOverrides h]
  rfl

/-- What is settled for the fields of an object. -/
def settledFields (foundation : Table Field) (o : Object) (resolved : List Resolved) (base : Option Composed) :
    Table (Candidate Field) :=
  settleAll (Field.merge o.resolutions.depth) o.resolutions.fields
    (Candidate.gather (o.fieldLayers foundation resolved base))

theorem compose_schema : (o.compose foundation resolved base).schema =
    (o.settledFields foundation resolved base).mapValues Candidate.value := rfl

theorem compose_provenance : (o.compose foundation resolved base).provenance =
    (o.settledFields foundation resolved base).mapValues Candidate.toProvenance := rfl

/-- **What is settled for a field without its override** is settled among the declarations below the context. -/
theorem get?_settledFields_without (h : o.resolutions.fields.keys.Nodup)
    (hr : o.resolutions.fields.get? key = some r) :
    ((o.withoutOverride key).settledFields foundation resolved base).get? key =
      Candidate.settle? (Field.merge o.resolutions.depth) (some { r with override := none })
        (o.lowerDeclarations foundation resolved base key) := by
  have hwithout := withoutOverride_eq hr
  have hget : (o.withoutOverride key).resolutions.fields.get? key = some { r with override := none } := by
    rw [hwithout, Table.get?_put, if_pos rfl]
  have hnodup : (o.withoutOverride key).resolutions.fields.keys.Nodup := by
    rw [hwithout]
    exact Table.nodup_put h _ _
  have hlower : (o.withoutOverride key).lowerDeclarations foundation resolved base key =
      o.lowerDeclarations foundation resolved base key := by rw [hwithout]; rfl
  have hdepth : (o.withoutOverride key).resolutions.depth = o.resolutions.depth := by rw [hwithout]
  have hnone : fieldOverride? { r with override := none } = none := rfl
  rw [settledFields, get?_settleAll_gather, filter_fieldLayers hnodup, hget, Option.bind_some, hnone, hlower,
    hdepth, Option.map_none, Option.toList_none, List.append_nil]

/-- **What is settled for a field with its override**: this on top of what is settled without it. -/
theorem get?_settledFields (foundation : Table Field) (resolved : List Resolved) (base : Option Composed)
    (h : o.resolutions.fields.keys.Nodup) (hr : o.resolutions.fields.get? key = some r) {f : Field}
    (hf : fieldOverride? r = some f) :
    (o.settledFields foundation resolved base).get? key =
      Candidate.putOver (Field.merge o.resolutions.depth)
        (((o.withoutOverride key).settledFields foundation resolved base).get? key)
        ⟨⟨.context, o.sourceName⟩, f⟩ := by
  rw [get?_settledFields_without h hr, settledFields, get?_settleAll_gather, filter_fieldLayers h, hr,
    Option.bind_some, hf]
  exact Candidate.settle?_concat (fun c hc => layer_of_mem_lowerDeclarations hc) rfl rfl

/-- Without its override a field is settled wherever a layer declares it. -/
theorem get?_settledFields_without_eq_none (h : o.resolutions.fields.keys.Nodup)
    (hr : o.resolutions.fields.get? key = some r) :
    ((o.withoutOverride key).settledFields foundation resolved base).get? key = none ↔
      Undeclared foundation o resolved base key := by
  rw [get?_settledFields_without h hr, ← lowerDeclarations_eq_nil]
  constructor
  · intro hnone
    by_contra hne
    have hsome := Candidate.settle?_isSome (Field.merge o.resolutions.depth) (some { r with override := none }) hne
    rw [hnone] at hsome
    cases hsome
  · intro hnil
    rw [hnil]
    exact Candidate.settle?_nil _ _

/-! ## What is noted of it -/

variable {α : Type}

/-- The entries of one section are about this section. -/
theorem place_of_mem_appliedTo {s : Section} {layered : Table (List (Candidate α))} {a : Applied}
    (h : a ∈ o.appliedTo s layered) : a.place = s := by
  obtain ⟨p, -, hp⟩ := List.mem_filterMap.1 h
  obtain ⟨r, -, rfl⟩ := Option.map_eq_some_iff.1 hp
  rfl

/-- A key that some layer declares has one entry, if there is a resolution for it. -/
theorem filter_appliedTo {s : Section} {layered : Table (List (Candidate α))} (h : layered.keys.Nodup)
    (hkey : key ∈ layered.keys) (hr : (s.resolutions o.resolutions).get? key = some r) :
    (o.appliedTo s layered).filter (fun a => a.place == s && a.key == key) =
      [⟨s, key, r.strategy, r.override.isSome⟩] := by
  obtain ⟨cs, hcs⟩ := Table.mem_keys.1 hkey
  have hone := layered.filter_key h key
  rw [hcs, Option.toList_some] at hone
  have hentry (p : String × List (Candidate α)) :
      (((s.resolutions o.resolutions).get? p.1).map fun r =>
          (⟨s, p.1, r.strategy, r.override.isSome⟩ : Applied)).filter (fun a => a.place == s && a.key == key) =
        if p.1 == key then some ⟨s, key, r.strategy, r.override.isSome⟩ else none := by
    by_cases hp : p.1 = key
    · rw [hp, hr]
      simp
    · cases (s.resolutions o.resolutions).get? p.1 <;> simp [hp]
  -- the entries of other keys go, and the key has one
  calc (o.appliedTo s layered).filter (fun a => a.place == s && a.key == key)
    _ = layered.filterMap fun p =>
          if p.1 == key then some ⟨s, key, r.strategy, r.override.isSome⟩ else none := by
        rw [appliedTo, List.filter_filterMap]
        exact List.filterMap_congr fun p _ => hentry p
    _ = ((layered.filter fun p => p.1 == key).map Prod.snd).map fun _ =>
          ⟨s, key, r.strategy, r.override.isSome⟩ := by
        rw [← List.filterMap_filter, List.filterMap_eq_map', List.map_map]
        rfl
    _ = [⟨s, key, r.strategy, r.override.isSome⟩] := by
        rw [hone]
        rfl

/-- What is noted about a field: one entry, if some layer declares it. -/
theorem filter_applied (hkey : key ∈ (o.fieldLayers foundation resolved base).map Prod.fst)
    (hr : o.resolutions.fields.get? key = some r) :
    (o.compose foundation resolved base).applied.filter (fun a => a.place == .fields && a.key == key) =
      [⟨.fields, key, r.strategy, r.override.isSome⟩] := by
  have hfields : (o.appliedTo .fields (Candidate.gather (o.fieldLayers foundation resolved base))).filter
      (fun a => a.place == .fields && a.key == key) = [⟨.fields, key, r.strategy, r.override.isSome⟩] :=
    filter_appliedTo (Table.nodup_grouped _)
      (by rwa [Candidate.gather_eq, Table.keys_grouped, List.mem_eraseDups]) hr
  have hsection (s : Section) (hs : s ≠ .fields) (layered : Table (List (Candidate Json))) :
      (o.appliedTo s layered).filter (fun a => a.place == .fields && a.key == key) = [] := by
    refine List.filter_eq_nil_iff.2 fun a ha => ?_
    rw [place_of_mem_appliedTo ha]
    simp [hs]
  simp only [compose, List.filter_append, hfields, hsection .semantics (by decide), hsection .tokens (by decide),
    hsection .views (by decide), List.append_nil]

/-! ## With it -/

/-- **What an override does** to its field in an object that is composed: the override is merged over what the
field is without it, and is all that the field is where no other layer declares it; it counts as the source of the
field; and one entry notes that it took effect. -/
structure Overridden (foundation : Table Field) (o : Object) (resolved : List Resolved) (base : Option Composed)
    (key : String) (strategy : Option Strategy) (f : Field) : Prop where
  value : (o.compose foundation resolved base).schema.get? key =
    some (match ((o.withoutOverride key).compose foundation resolved base).schema.get? key with
      | some g => Field.merge o.resolutions.depth g f
      | none => f)
  alone : ((o.withoutOverride key).compose foundation resolved base).schema.get? key = none ↔
    Undeclared foundation o resolved base key
  provenance : (o.compose foundation resolved base).provenance.get? key =
    some ⟨.context, o.name ++ " (object override)"⟩
  applied : (o.compose foundation resolved base).applied.filter (fun a => a.place == .fields && a.key == key) =
    [⟨.fields, key, strategy, true⟩]

/-- **An override that is a declaration** is never passed over, whatever the object is composed with. -/
theorem overridden (h : o.resolutions.fields.keys.Nodup) (hr : o.resolutions.fields.get? key = some r)
    {f : Field} (hf : fieldOverride? r = some f) (foundation : Table Field) (resolved : List Resolved)
    (base : Option Composed) : Overridden foundation o resolved base key r.strategy f := by
  have hsettled := get?_settledFields foundation resolved base h hr hf
  have hoverride : r.override.isSome = true := by
    obtain ⟨v, hv, -⟩ := Option.bind_eq_some_iff.1 hf
    rw [hv]
    rfl
  constructor
  · rw [compose_schema, compose_schema, Table.get?_mapValues, Table.get?_mapValues, hsettled]
    cases ((o.withoutOverride key).settledFields foundation resolved base).get? key <;> rfl
  · rw [compose_schema, Table.get?_mapValues, Option.map_eq_none_iff]
    exact get?_settledFields_without_eq_none h hr
  · rw [compose_provenance, Table.get?_mapValues, hsettled]
    cases ((o.withoutOverride key).settledFields foundation resolved base).get? key <;> rfl
  · -- the field is settled, so it is among those that layers declare
    have hkey : key ∈ (o.settledFields foundation resolved base).keys := by
      rw [Table.mem_keys, hsettled]
      cases ((o.withoutOverride key).settledFields foundation resolved base).get? key <;> exact ⟨_, rfl⟩
    rw [settledFields, keys_settleAll_gather, List.mem_eraseDups] at hkey
    rw [filter_applied hkey hr, hoverride]

end Object

end TraitWeave
