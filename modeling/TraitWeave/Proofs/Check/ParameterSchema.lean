import TraitWeave.Check.ParameterSchema
import TraitWeave.Check.Validator
import TraitWeave.Proofs.Schema.Usable

/-!
# The schema of parameters means what is declared

What the declarations of parameters say of given values can be told rule by rule, without a schema. The schema
that follows from them allows just these values, and the validator finds no error just with them.

* `Parameter.Accepts`, `Trait.Accepts`: what the declarations say.
* `Parameter.allows_schema`, `Trait.allows_parameterSchema`: the schemas mean the same.
* `Trait.usable_parameterSchema`: the validator can use the schema.
* `Trait.valid_iff_accepts`: its reports.
-/

namespace TraitWeave

open Schema (Usable KeywordUsable)

/-- What the declaration of a parameter says of its value. How values are compared with literal ones and texts with
patterns is left open. -/
structure Parameter.Accepts (r : Schema.Reading) (p : Parameter) (v : Json) : Prop where
  kind : ∀ type, jsonType? p.kind = some type → Schema.hasType .y2020 type v = true
  literal : ∀ vs, p.literals? = some vs →
    if p.isArray then ∀ items, v = .arr items → ∀ w ∈ items, ∃ u ∈ vs, r.same u w else ∃ u ∈ vs, r.same u v
  minimum : ∀ limit n, p.rules.minimum = some limit → v = .num n → n.compareValue (.real limit) ≠ .lt
  maximum : ∀ limit n, p.rules.maximum = some limit → v = .num n → n.compareValue (.real limit) ≠ .gt
  minLength : ∀ limit, p.rules.minLength = some limit →
    if p.isArray then ∀ items, v = .arr items → limit ≤ items.length else ∀ s, v = .str s → limit ≤ s.length
  maxLength : ∀ limit, p.rules.maxLength = some limit →
    if p.isArray then ∀ items, v = .arr items → items.length ≤ limit else ∀ s, v = .str s → s.length ≤ limit
  pattern : ∀ source s, p.rules.pattern = some source → v = .str s → r.matched source s

/-- What the declarations of a trait's parameters say of given values: all that are required are there, and each one
that is declared is as its declaration says. -/
structure Trait.Accepts (r : Schema.Reading) (t : Trait) (values : Table Json) : Prop where
  present : ∀ p ∈ t.parameters, p.required = true → values.has p.name = true
  accepted : ∀ p ∈ t.parameters, ∀ v, values.get? p.name = some v → p.Accepts r v

/-! ## Records of members -/

section Record

variable {α : Type} {key : String} {P : String × Json → Prop}

theorem forall_some?_iff {encode : α → Json} {o : Option α} :
    (∀ m, Encode.some? key encode o = some m → P m) ↔ ∀ a, o = some a → P (key, encode a) := by
  cases o <;> simp [Encode.some?]

theorem forall_whenTrue_iff {b : Bool} :
    (∀ m, Encode.whenTrue key b = some m → P m) ↔ (b = true → P (key, .bool true)) := by
  cases b <;> simp [Encode.whenTrue]

theorem forall_map_iff {f : α → String × Json} {o : Option α} :
    (∀ m, o.map f = some m → P m) ↔ ∀ a, o = some a → P (f a) := by
  cases o <;> simp

theorem forall_mem_filterMap_iff {members : List (Option (String × Json))} :
    (∀ m ∈ members.filterMap id, P m) ↔ ∀ o ∈ members, ∀ m, o = some m → P m := by
  simp only [List.mem_filterMap, id]
  exact ⟨fun h o ho m hm => h m ⟨o, ho, hm⟩, fun h m ⟨o, ho, hm⟩ => h o ho m hm⟩

end Record

namespace Parameter

variable {r : Schema.Reading} {p : Parameter} {v : Json}

/-- The members of a parameter's schema. -/
theorem schema_members (p : Parameter) : ∃ ms, p.schema = .obj ms ∧ ∀ P : String × Json → Prop,
    (∀ m ∈ ms, P m) ↔
      (∀ type, jsonType? p.kind = some type → P ("type", .str type)) ∧
      (∀ d, p.description = some d → P ("description", .str d)) ∧
      (∀ vs, p.literals? = some vs →
        P (if p.isArray then ("items", .obj [("enum", .arr vs)]) else ("enum", .arr vs))) ∧
      (∀ limit, p.rules.minimum = some limit → P ("minimum", Encode.real limit)) ∧
      (∀ limit, p.rules.maximum = some limit → P ("maximum", Encode.real limit)) ∧
      (∀ limit, p.rules.minLength = some limit →
        P (if p.isArray then "minItems" else "minLength", Encode.natural limit)) ∧
      (∀ limit, p.rules.maxLength = some limit →
        P (if p.isArray then "maxItems" else "maxLength", Encode.natural limit)) ∧
      (∀ source, p.rules.pattern = some source → P ("pattern", .str source)) ∧
      (p.deprecated = true → P ("deprecated", .bool true)) := by
  refine ⟨_, rfl, fun P => ?_⟩
  simp only [forall_mem_filterMap_iff, List.forall_mem_cons, List.not_mem_nil, forall_some?_iff,
    forall_whenTrue_iff, literalsMember, forall_map_iff, false_implies, implies_true, and_true]

/-! ### What the keywords mean that depend on the type -/

section Meaning

open Schema.Reading

/-- Literal values: those of the items for arrays. -/
theorem keyword_literals {vs : List Json} {array : Bool} {m : String × Json}
    (hm : m = if array then ("items", .obj [("enum", .arr vs)]) else ("enum", .arr vs)) : r.Keyword m.1 m.2 v ↔
    if array then ∀ items, v = .arr items → ∀ w ∈ items, ∃ u ∈ vs, r.same u w else ∃ u ∈ vs, r.same u v := by
  subst hm
  cases array with
  | false => exact keyword_enum
  | true => simp only [if_true, keyword_items, allows_obj, List.forall_mem_singleton, keyword_enum]

/-- The least size: that of an array or of a text. -/
theorem keyword_least {limit : Nat} {array : Bool} :
    r.Keyword (if array then "minItems" else "minLength") (Encode.natural limit) v ↔
    if array then ∀ items, v = .arr items → limit ≤ items.length else ∀ s, v = .str s → limit ≤ s.length := by
  cases array with
  | false => exact keyword_minLength
  | true => exact keyword_minItems

/-- The greatest size. -/
theorem keyword_greatest {limit : Nat} {array : Bool} :
    r.Keyword (if array then "maxItems" else "maxLength") (Encode.natural limit) v ↔
    if array then ∀ items, v = .arr items → items.length ≤ limit else ∀ s, v = .str s → s.length ≤ limit := by
  cases array with
  | false => exact keyword_maxLength
  | true => exact keyword_maxItems

end Meaning

/-- **The schema of a parameter means what its declaration says.** -/
theorem allows_schema : r.Allows p.schema v ↔ p.Accepts r v := by
  obtain ⟨ms, hms, hmembers⟩ := p.schema_members
  rw [hms, Schema.Reading.allows_obj, hmembers]
  dsimp only
  constructor
  · rintro ⟨kind, -, literal, minimum, maximum, least, greatest, pattern, -⟩
    exact {
      kind := fun type h => Schema.Reading.keyword_type.1 (kind type h)
      literal := fun vs h => (keyword_literals rfl).1 (literal vs h)
      minimum := fun limit n h => Schema.Reading.keyword_minimum.1 (minimum limit h) n
      maximum := fun limit n h => Schema.Reading.keyword_maximum.1 (maximum limit h) n
      minLength := fun limit h => keyword_least.1 (least limit h)
      maxLength := fun limit h => keyword_greatest.1 (greatest limit h)
      pattern := fun source s h => Schema.Reading.keyword_pattern.1 (pattern source h) s }
  · intro h
    exact ⟨fun type ht => Schema.Reading.keyword_type.2 (h.kind type ht), fun _ _ => Schema.Reading.keyword_description,
      fun vs hvs => (keyword_literals rfl).2 (h.literal vs hvs),
      fun limit hl => Schema.Reading.keyword_minimum.2 fun n => h.minimum limit n hl,
      fun limit hl => Schema.Reading.keyword_maximum.2 fun n => h.maximum limit n hl,
      fun limit hl => keyword_least.2 (h.minLength limit hl),
      fun limit hl => keyword_greatest.2 (h.maxLength limit hl),
      fun source hs => Schema.Reading.keyword_pattern.2 fun s => h.pattern source s hs,
      fun _ => Schema.Reading.keyword_deprecated⟩

/-! ### The schema can be used -/

theorem typeNames_of_jsonType? {kind type : String} (h : jsonType? kind = some type) :
    Schema.typeNames.contains type = true := by
  unfold jsonType? at h
  dsimp only at h
  split_ifs at h <;> cases h <;> decide

/-- The pattern of a parameter, if it has one, can be read. -/
def Readable (p : Parameter) : Prop := ∀ source, p.rules.pattern = some source → (Pattern.read source).isSome

theorem usable_schema (h : p.Readable) : Usable 2 p.schema := by
  obtain ⟨ms, hms, hmembers⟩ := p.schema_members
  rw [hms]
  refine Schema.usable_obj ((hmembers fun m => KeywordUsable 1 m.1 m.2).2
    ⟨fun type ht => Schema.keywordUsable_type (typeNames_of_jsonType? ht),
      fun d _ => Schema.keywordUsable_description d,
      fun vs _ => ?_, fun limit _ => Schema.keywordUsable_minimum _, fun limit _ => Schema.keywordUsable_maximum _,
      fun limit _ => ?_, fun limit _ => ?_, fun source hs => ?_, fun _ => Schema.keywordUsable_deprecated true⟩)
  -- the schema of an array has its keywords about the items, or about their number
  · cases p.isArray with
    | false => exact Schema.keywordUsable_enum vs
    | true =>
      refine Schema.keywordUsable_items (Schema.usable_obj ?_)
      exact List.forall_mem_singleton.2 (Schema.keywordUsable_enum vs)
  · cases p.isArray with
    | false => exact Schema.keywordUsable_minLength limit
    | true => exact Schema.keywordUsable_minItems limit
  · cases p.isArray with
    | false => exact Schema.keywordUsable_maxLength limit
    | true => exact Schema.keywordUsable_maxItems limit
  · obtain ⟨pattern, hpattern⟩ := Option.isSome_iff_exists.1 (h source hs)
    exact Schema.keywordUsable_pattern hpattern

end Parameter

namespace Trait

variable {r : Schema.Reading} {t : Trait} {values : Table Json}

theorem properties_of_nodup (h : (t.parameters.map Parameter.name).Nodup) :
    Table.ofPairs (t.parameters.map fun p => (p.name, p.schema)) = t.parameters.map fun p => (p.name, p.schema) :=
  Table.ofPairs_of_nodup (by rwa [List.map_map])

/-- **The schema of a trait's parameters means what their declarations say.** -/
theorem allows_parameterSchema (h : (t.parameters.map Parameter.name).Nodup) :
    r.Allows t.parameterSchema (.obj values) ↔ t.Accepts r values := by
  have htype : r.Keyword "type" (.str "object") (.obj values) := Schema.Reading.keyword_type.2 rfl
  have hproperties : r.Keyword "properties" (.obj (t.parameters.map fun p => (p.name, p.schema))) (.obj values) ↔
      ∀ p ∈ t.parameters, ∀ v, values.get? p.name = some v → p.Accepts r v := by
    rw [Schema.Reading.keyword_properties, List.forall_mem_map]
    exact forall₃_congr fun p _ v => imp_congr_right fun _ => Parameter.allows_schema
  have hrequired : r.Keyword "required" (Encode.texts ((t.parameters.filter Parameter.required).map Parameter.name))
      (.obj values) ↔ ∀ p ∈ t.parameters, p.required = true → values.has p.name = true := by
    rw [Schema.Reading.keyword_required]
    simp only [Json.obj.injEq, forall_eq', List.forall_mem_map, List.mem_filter, and_imp]
  unfold parameterSchema
  rw [properties_of_nodup h]
  simp only [Schema.Reading.allows_obj, List.forall_mem_cons, List.not_mem_nil, hproperties, hrequired]
  exact ⟨fun ⟨_, _, haccepted, hpresent, _⟩ => ⟨hpresent, haccepted⟩,
    fun ⟨hpresent, haccepted⟩ => ⟨Schema.Reading.keyword_title, htype, haccepted, hpresent, nofun⟩⟩

theorem usable_parameterSchema (hnames : (t.parameters.map Parameter.name).Nodup)
    (hpatterns : ∀ p ∈ t.parameters, p.Readable) : Usable 3 t.parameterSchema := by
  have hproperties : KeywordUsable 2 "properties" (.obj (t.parameters.map fun p => (p.name, p.schema))) :=
    Schema.keywordUsable_properties (List.forall_mem_map.2 fun p hp => Parameter.usable_schema (hpatterns p hp))
  have hrequired : ((t.parameters.filter Parameter.required).map Parameter.name).Nodup :=
    hnames.sublist (List.filter_sublist.map _)
  unfold parameterSchema
  rw [properties_of_nodup hnames]
  exact Schema.usable_obj (List.forall_mem_cons.2 ⟨Schema.keywordUsable_title _, List.forall_mem_cons.2
    ⟨Schema.keywordUsable_type (by decide), List.forall_mem_cons.2 ⟨hproperties, List.forall_mem_singleton.2
      (Schema.keywordUsable_required hrequired)⟩⟩⟩)

end Trait

/-! ## The reports of the validator -/

namespace Report

/-- A report is without errors if no issue is one. -/
theorem ofIssues_valid {issues : List Issue} {options : ReportOptions} :
    (ofIssues issues options).valid = true ↔ ∀ i ∈ issues, i.severity ≠ .error := by
  simp [ofIssues, Summary.of]

end Report

/-- Members that are not declared or are deprecated are no errors. -/
theorem declarationIssues_severity {schema payload : Json} :
    ∀ i ∈ declarationIssues schema payload, i.severity ≠ .error := by
  intro i hi
  unfold declarationIssues at hi
  split at hi
  · obtain ⟨key, -, hkey⟩ := List.mem_filterMap.1 hi
    unfold declarationIssue? at hkey
    split at hkey <;> split at hkey <;> cases hkey <;> exact nofun
  · cases hi

variable {σ : Type} {desk : SchemaDesk σ} {st : σ × Validator} {q : Inquiry}

/-- A check under a schema that can be used finds an error just if the schema does not mean to allow the values. -/
theorem Validator.check_valid_iff {schema : Json} {k : Nat} (husable : Usable k schema) (hk : k ≤ 4)
    (hnew : st.2.cache.get? q.key = none) (hschema : (desk.load st.1 q.request).2 = .ok (some schema))
    (payload : Json) (options : ReportOptions) :
    (check desk st q payload options).2.valid = true ↔ Schema.Reading.ofLibrary.Allows schema payload := by
  obtain ⟨c, hc, -, hfindings⟩ := husable.compiled hk
  have hprepared : (obtain desk st q).2 = .ok (.ready c) := by
    unfold Validator.obtain
    rw [hnew]
    rcases hload : desk.load st.1 q.request with ⟨s, answer⟩
    rw [hload] at hschema
    cases hschema
    simp only [prepare, hc]
  show (Report.ofIssues (issues desk q.label payload (obtain desk st q).2) options).valid = true ↔ _
  rw [hprepared, ← hfindings, Report.ofIssues_valid]
  unfold issues
  rw [List.forall_mem_append, and_iff_left declarationIssues_severity, List.forall_mem_map]
  exact ⟨fun h => List.eq_nil_iff_forall_not_mem.2 fun f hf => h f hf rfl, fun h f hf => by rw [h] at hf; cases hf⟩

namespace Trait

variable {t : Trait}

/-- Only values of declared parameters matter. -/
theorem Accepts.of_agree {r : Schema.Reading} {values values' : Table Json} (h : t.Accepts r values)
    (hagree : ∀ p ∈ t.parameters, values.get? p.name = values'.get? p.name) : t.Accepts r values' where
  present p hp hrequired := by
    rw [Table.has_eq, ← hagree p hp, ← Table.has_eq]
    exact h.present p hp hrequired
  accepted p hp v hv := h.accepted p hp v (by rw [hagree p hp, hv])

/-- **The schema of a trait's parameters means what the declarations say.** Under each reading it allows just the
values that the declarations accept; the validator finds no error just with those that they accept as it reads them;
and values of parameters that are not declared do not matter to it. -/
theorem parameterSchema_faithful (t : Trait) (hnames : (t.parameters.map Parameter.name).Nodup)
    (hpatterns : ∀ p ∈ t.parameters, p.Readable) :
    (∀ r values, r.Allows t.parameterSchema (.obj values) ↔ t.Accepts r values) ∧
    ∀ {σ : Type} (desk : SchemaDesk σ) (st : σ × Validator) (q : Inquiry), st.2.cache.get? q.key = none →
      (desk.load st.1 q.request).2 = .ok (some t.parameterSchema) → ∀ (values : Table Json) options,
        ((Validator.check desk st q (.obj values) options).2.valid = true ↔ t.Accepts .ofLibrary values) ∧
        ∀ values' : Table Json, (∀ p ∈ t.parameters, values.get? p.name = values'.get? p.name) →
          (Validator.check desk st q (.obj values') options).2.valid =
            (Validator.check desk st q (.obj values) options).2.valid := by
  refine ⟨fun r values => allows_parameterSchema hnames, fun desk st q hnew hschema values options => ?_⟩
  have hvalid (values : Table Json) : (Validator.check desk st q (.obj values) options).2.valid = true ↔
      t.Accepts .ofLibrary values := by
    rw [Validator.check_valid_iff (usable_parameterSchema hnames hpatterns) (by decide) hnew hschema,
      allows_parameterSchema hnames]
  refine ⟨hvalid values, fun values' hagree => Bool.eq_iff_iff.2 ?_⟩
  rw [hvalid, hvalid]
  exact ⟨fun h => h.of_agree fun p hp => (hagree p hp).symm, fun h => h.of_agree hagree⟩

/-- A trait with a number, a list and a text as parameters. -/
def throttling : Trait where
  info := ⟨"throttled", "1.0", none, none, none, []⟩
  parameters := [
    ⟨"window", "Integer", true, none, none, none, false, { Rules.empty with minimum := some ⟨false, 0x10000000000000, -52⟩ }⟩,
    ⟨"methods", "array", false, none, none, some [.str "GET", .str "PUT"], false,
      { Rules.empty with minLength := some 1 }⟩,
    ⟨"path", "string", false, none, none, none, true, { Rules.empty with pattern := some "^/" }⟩]
  schema := []
  semantics := []
  viewExtensions := []
  tokens := []
  dependencies := []
  actions := []
  stateMachine := none
  metadata := Metadata.empty

/-- A desk with the schema of that trait. -/
def throttlingDesk : SchemaDesk Unit where
  load _ _ := ((), .ok (some throttling.parameterSchema))
  location name := name

/-- A new validator finds no error with values for all parameters and one more, and one with a method that is not
listed. -/
theorem parameterSchema_faithful_throttling :
    (throttling.parameters.map Parameter.name).Nodup ∧ (∀ p ∈ throttling.parameters, p.Readable) ∧
    (Validator.check throttlingDesk ((), .empty) (.named "throttled") (.obj [("window", .num (.int 5)),
      ("methods", .arr [.str "PUT"]), ("path", .str "/v1"), ("note", .null)]) .standard).2.valid = true ∧
    (Validator.check throttlingDesk ((), .empty) (.named "throttled") (.obj [("window", .num (.int 5)),
      ("methods", .arr [.str "PATCH"])]) .standard).2.valid = false := by
  have hnames : (throttling.parameters.map Parameter.name).Nodup := by decide
  have hread : ((Pattern.read "^/").bind fun p => p.occursIn? "/v1") = some true := by decide +kernel
  obtain ⟨p, hp, hmatched⟩ := Option.bind_eq_some_iff.1 hread
  have hpatterns : ∀ p ∈ throttling.parameters, p.Readable := by
    simp [throttling, Parameter.Readable, Rules.empty, hp]
  have hchecks := (parameterSchema_faithful throttling hnames hpatterns).2 throttlingDesk ((), .empty)
    (.named "throttled") rfl rfl
  -- no schema is compiled here: what the parameters accept decides
  refine ⟨hnames, hpatterns, (hchecks _ _).1.2 ⟨by decide, ?_⟩, Bool.eq_false_iff.2 fun hvalid => ?_⟩
  · have hwindow : throttling.parameters[0].Accepts .ofLibrary (.num (.int 5)) :=
      { kind := fun type h => by cases h; decide
        literal := nofun
        minimum := fun limit n hlimit hn => by cases hlimit; cases hn; decide
        maximum := nofun
        minLength := nofun
        maxLength := nofun
        pattern := nofun }
    have hmethods : throttling.parameters[1].Accepts .ofLibrary (.arr [.str "PUT"]) :=
      { kind := fun type h => by cases h; decide
        literal := fun vs h items hitems w hw => by
          cases h; cases hitems
          rw [List.mem_singleton.1 hw]
          exact ⟨.str "PUT", List.mem_cons_of_mem _ List.mem_cons_self, rfl⟩
        minimum := nofun
        maximum := nofun
        minLength := fun limit h items hitems => by cases h; cases hitems; decide
        maxLength := nofun
        pattern := nofun }
    have hpath : throttling.parameters[2].Accepts .ofLibrary (.str "/v1") :=
      { kind := fun type h => by cases h; decide
        literal := nofun
        minimum := nofun
        maximum := nofun
        minLength := nofun
        maxLength := nofun
        pattern := fun source s hs h => by cases hs; cases h; exact ⟨p, hp, hmatched⟩ }
    refine List.forall_mem_cons.2 ⟨fun v hv => ?_, List.forall_mem_cons.2 ⟨fun v hv => ?_,
      List.forall_mem_singleton.2 fun v hv => ?_⟩⟩
    · cases hv; exact hwindow
    · cases hv; exact hmethods
    · cases hv; exact hpath
  · have hmethods := ((hchecks _ _).1.1 hvalid).accepted throttling.parameters[1] (List.getElem_mem _) _ rfl
    obtain ⟨u, hu, hsame⟩ := hmethods.literal _ rfl _ rfl (.str "PATCH") List.mem_cons_self
    have hother : ∀ w ∈ [Json.str "GET", .str "PUT"], Schema.equal (.str "PATCH") w = false :=
      List.forall_mem_cons.2 ⟨rfl, List.forall_mem_singleton.2 rfl⟩
    exact absurd hsame (Bool.eq_false_iff.1 (hother u hu))

end Trait

end TraitWeave
