import TraitWeave.Check.EnumFrom
import TraitWeave.Proofs.Compose.Layering

/-!
# When values taken from other parameters are found wrong

A parameter is tied to another one if its rules name that one, it is declared, and both have values. The other one
should list literal values, and what the first one holds should be among them. Fields of the trait take their literal
values from the same lists.

* `Json.Lists`, `Json.IsAmong`: an array of literal values, and a value that is equal to one of some values.
* `Trait.Ties`: a parameter that is tied to another one, with the values of both.
* `Trait.offending`: what a parameter holds that is not among the values to which it is tied.
* `EnumFrom.issuesOf_lists`, `issuesOf_notList`, `issuesOf_undeclared`, `issuesOf_untied`: the issues of one parameter.
* `Trait.enumFrom_exact`: the errors, their number, the warnings, and what composing makes of the same lists.
-/

namespace TraitWeave

namespace Json

/-- The value is an array of strings, numbers and booleans: these ones. -/
def Lists (v : Json) (vs : List Json) : Prop :=
  v = .arr vs ∧ ∀ w ∈ vs, w.kind = .str ∨ w.kind = .num ∨ w.kind = .bool

/-- One of the values is equal to this one. -/
def IsAmong (v : Json) (vs : List Json) : Prop := ∃ w ∈ vs, w.same v = true

instance (v : Json) (vs : List Json) : Decidable (v.IsAmong vs) :=
  inferInstanceAs (Decidable (∃ w ∈ vs, w.same v = true))

theorem elem_eq (v : Json) (vs : List Json) : elem v vs = decide (v.IsAmong vs) := by
  rw [Bool.eq_iff_iff, decide_eq_true_iff, elem, List.any_eq_true]
  rfl

theorem isLiteral_iff {v : Json} : v.isLiteral = true ↔ v.kind = .str ∨ v.kind = .num ∨ v.kind = .bool := by
  cases v <;> simp [isLiteral, kind]

theorem Lists.unique {v : Json} {vs ws : List Json} (h : v.Lists vs) (h' : v.Lists ws) : vs = ws :=
  Json.arr.inj (h.1.symm.trans h'.1)

end Json

theorem allowedFrom?_eq_some {parameters : Table Json} {source : String} {vs : List Json} :
    allowedFrom? parameters source = some vs ↔ ∃ found, parameters.get? source = some found ∧ found.Lists vs := by
  unfold allowedFrom?
  constructor
  · intro h
    split at h
    · rename_i ws hfound
      split at h
      · rename_i hall
        obtain rfl := Option.some.inj h
        exact ⟨_, hfound, rfl, fun w hw => Json.isLiteral_iff.1 (List.all_eq_true.1 hall w hw)⟩
      · cases h
    · cases h
  · rintro ⟨found, hfound, rfl, hliteral⟩
    have hall : vs.all Json.isLiteral = true :=
      List.all_eq_true.2 fun w hw => Json.isLiteral_iff.2 (hliteral w hw)
    simp [hfound, hall]

theorem allowedFrom?_eq_none {parameters : Table Json} {source : String} :
    allowedFrom? parameters source = none ↔
      ¬ ∃ found vs, parameters.get? source = some found ∧ found.Lists vs := by
  simp only [Option.eq_none_iff_forall_ne_some, ne_eq, allowedFrom?_eq_some]
  exact ⟨fun h ⟨found, vs, hvs⟩ => h vs ⟨found, hvs⟩, fun h vs ⟨found, hvs⟩ => h ⟨found, vs, hvs⟩⟩

namespace Trait

/-- The parameter is tied to another one, which its rules name: that one is declared, and both have values. -/
structure Ties (t : Trait) (parameters : Table Json) (p : Parameter) (source : String) (v found : Json) : Prop where
  mem : p ∈ t.parameters
  named : p.rules.enumFrom = some source
  declared : ∃ q ∈ t.parameters, q.name = source
  value : parameters.get? p.name = some v
  values : parameters.get? source = some found

theorem isNone_parameter? {t : Trait} {source : String} :
    (t.parameter? source).isNone = true ↔ ¬ ∃ q ∈ t.parameters, q.name = source := by
  simp [parameter?]

/-- What the parameter holds that is not among the literal values to which it is tied. -/
def offending (t : Trait) (parameters : Table Json) (p : Parameter) : List Json :=
  match p.rules.enumFrom with
  | none => []
  | some source =>
    match parameters.get? p.name, allowedFrom? parameters source with
    | some v, some vs =>
      if ∃ q ∈ t.parameters, q.name = source then (EnumFrom.valuesOf v).filter fun w => ¬ Json.IsAmong w vs
      else []
    | _, _ => []

section

variable {t : Trait} {parameters : Table Json} {p : Parameter} {source source' : String} {v v' found found' : Json}
  {vs : List Json}

/-- A parameter is tied to one other at most, and the values are those of the table. -/
theorem Ties.unique (h : t.Ties parameters p source v found) (h' : t.Ties parameters p source' v' found') :
    source = source' ∧ v = v' ∧ found = found' := by
  obtain rfl : source = source' := Option.some.inj (h.named.symm.trans h'.named)
  exact ⟨rfl, Option.some.inj (h.value.symm.trans h'.value), Option.some.inj (h.values.symm.trans h'.values)⟩

theorem Ties.not_undeclared (h : t.Ties parameters p source v found) (hnamed : p.rules.enumFrom = some source')
    (hundeclared : ¬ ∃ q ∈ t.parameters, q.name = source') : False := by
  obtain rfl : source' = source := Option.some.inj (hnamed.symm.trans h.named)
  exact hundeclared h.declared

theorem offending_of_lists (h : t.Ties parameters p source v found) (hlists : found.Lists vs) :
    t.offending parameters p = (EnumFrom.valuesOf v).filter fun w => ¬ w.IsAmong vs := by
  have hallowed : allowedFrom? parameters source = some vs := allowedFrom?_eq_some.2 ⟨found, h.values, hlists⟩
  simp only [offending, h.named, h.value, hallowed, if_pos h.declared]

theorem offending_eq_nil (hp : p ∈ t.parameters)
    (h : ∀ source v found vs, t.Ties parameters p source v found → ¬ found.Lists vs) :
    t.offending parameters p = [] := by
  unfold offending
  split
  · rfl
  · rename_i source hnamed
    split
    · rename_i v vs hvalue hallowed
      obtain ⟨found, hfound, hlists⟩ := allowedFrom?_eq_some.1 hallowed
      exact if_neg fun hdeclared => h source v found vs ⟨hp, hnamed, hdeclared, hvalue, hfound⟩ hlists
    · rfl

end

end Trait

/-! ## The issues of one parameter -/

namespace EnumFrom

variable {t : Trait} {parameters : Table Json} {p : Parameter} {name source : String} {v found : Json}
  {vs : List Json}

theorem issuesOf_undeclared (h : ¬ ∃ q ∈ t.parameters, q.name = source) :
    issuesOf t parameters name source = [undeclared name source] :=
  if_pos (Trait.isNone_parameter?.2 h)

theorem issuesOf_declared (h : ∃ q ∈ t.parameters, q.name = source) :
    issuesOf t parameters name source =
      match parameters.get? name, parameters.get? source with
      | some v, some found =>
        match allowedFrom? parameters source with
        | none => [notList source found]
        | some allowed =>
          ((valuesOf v).filter fun w => !Json.elem w allowed).map (notInList name source allowed)
      | _, _ => [] :=
  if_neg fun hnone => Trait.isNone_parameter?.1 hnone h

/-- Each item that is not among the listed values has an issue. -/
theorem issuesOf_lists (h : t.Ties parameters p source v found) (hlists : found.Lists vs) :
    issuesOf t parameters p.name source =
      ((valuesOf v).filter fun w => ¬ w.IsAmong vs).map (notInList p.name source vs) := by
  have hallowed : allowedFrom? parameters source = some vs := allowedFrom?_eq_some.2 ⟨found, h.values, hlists⟩
  rw [issuesOf_declared h.declared]
  simp only [h.value, h.values, hallowed, Json.elem_eq, decide_not]

/-- A value that lists no literal values has one issue. -/
theorem issuesOf_notList (h : t.Ties parameters p source v found) (hlists : ∀ vs, ¬ found.Lists vs) :
    issuesOf t parameters p.name source = [notList source found] := by
  have hallowed : allowedFrom? parameters source = none := by
    rw [allowedFrom?_eq_none]
    rintro ⟨found', vs, hfound, hvs⟩
    obtain rfl : found = found' := Option.some.inj (h.values.symm.trans hfound)
    exact hlists vs hvs
  rw [issuesOf_declared h.declared]
  simp only [h.value, h.values, hallowed]

/-- A parameter that is tied to nothing has no issue, if the other one is declared. -/
theorem issuesOf_untied (hp : p ∈ t.parameters) (hnamed : p.rules.enumFrom = some source)
    (hdeclared : ∃ q ∈ t.parameters, q.name = source) (h : ∀ v found, ¬ t.Ties parameters p source v found) :
    issuesOf t parameters p.name source = [] := by
  rw [issuesOf_declared hdeclared]
  cases hvalue : parameters.get? p.name with
  | none => rfl
  | some v =>
    cases hvalues : parameters.get? source with
    | none => rfl
    | some found => exact absurd ⟨hp, hnamed, hdeclared, hvalue, hvalues⟩ (h v found)

/-- The issues of a parameter, if its rules name another one. -/
def issuesAt (t : Trait) (parameters : Table Json) (p : Parameter) : List Issue :=
  match p.rules.enumFrom with
  | none => []
  | some source => issuesOf t parameters p.name source

/-- **What the issues of a parameter are**, by what it is tied to. -/
inductive Verdict (t : Trait) (parameters : Table Json) (p : Parameter) : List Issue → Prop
  | untied (hdeclared : ∀ source, p.rules.enumFrom = some source → ∃ q ∈ t.parameters, q.name = source)
      (h : ∀ source v found, ¬ t.Ties parameters p source v found) : Verdict t parameters p []
  | undeclared {source : String} (hnamed : p.rules.enumFrom = some source)
      (h : ¬ ∃ q ∈ t.parameters, q.name = source) : Verdict t parameters p [undeclared p.name source]
  | notList {source : String} {v found : Json} (h : t.Ties parameters p source v found)
      (hlists : ∀ vs, ¬ found.Lists vs) : Verdict t parameters p [notList source found]
  | list {source : String} {v found : Json} {vs : List Json} (h : t.Ties parameters p source v found)
      (hlists : found.Lists vs) :
      Verdict t parameters p (((valuesOf v).filter fun w => ¬ w.IsAmong vs).map (notInList p.name source vs))

theorem verdict (hp : p ∈ t.parameters) : Verdict t parameters p (issuesAt t parameters p) := by
  unfold issuesAt
  cases hnamed : p.rules.enumFrom with
  | none =>
    have hnone : ∀ source, p.rules.enumFrom ≠ some source := fun source => by simp [hnamed]
    exact .untied (fun source h => absurd h (hnone source)) fun source v found h => hnone source h.named
  | some source =>
    by_cases hdeclared : ∃ q ∈ t.parameters, q.name = source
    · by_cases htied : ∃ v found, t.Ties parameters p source v found
      · obtain ⟨v, found, h⟩ := htied
        by_cases hlists : ∃ vs, found.Lists vs
        · obtain ⟨vs, hvs⟩ := hlists
          simp only [issuesOf_lists h hvs]
          exact .list h hvs
        · have hnone : ∀ vs, ¬ found.Lists vs := fun vs hvs => hlists ⟨vs, hvs⟩
          simp only [issuesOf_notList h hnone]
          exact .notList h hnone
      -- the other parameter is declared, but one of the two has no value
      · have hsource : ∀ source', p.rules.enumFrom = some source' → source = source' := fun source' h =>
          Option.some.inj (hnamed.symm.trans h)
        have hnone : ∀ v found, ¬ t.Ties parameters p source v found := fun v found h => htied ⟨v, found, h⟩
        simp only [issuesOf_untied hp hnamed hdeclared hnone]
        refine .untied (fun source' h => hsource source' h ▸ hdeclared) fun source' v found h => ?_
        obtain rfl := hsource source' h.named
        exact hnone v found h
    · simp only [issuesOf_undeclared hdeclared]
      exact .undeclared hnamed hdeclared

end EnumFrom

/-- The issue tells that a value is not among those that another parameter lists. -/
def Issue.TellsOutside (i : Issue) : Prop :=
  ∃ name source allowed v, i = EnumFrom.notInList name source allowed v

/-- Its advice tells such an issue from that of a value that lists no literal values. -/
theorem Issue.not_tellsOutside_notList (source : String) (found : Json) :
    ¬ (EnumFrom.notList source found).TellsOutside := by
  rintro ⟨name, source', allowed, v, h⟩
  have hhint := congrArg (fun i => i.hint.map fun s => s.toList.head?) h
  simp [EnumFrom.notList, EnumFrom.notInList, Issue.ofField] at hhint

theorem Issue.not_tellsOutside_undeclared (name source : String) :
    ¬ (EnumFrom.undeclared name source).TellsOutside := by
  rintro ⟨name', source', allowed, v, h⟩
  exact absurd (congrArg Issue.severity h) (by simp [EnumFrom.undeclared, EnumFrom.notInList, Issue.ofField])

namespace EnumFrom

variable {t : Trait} {parameters : Table Json} {p : Parameter} {is : List Issue}

/-! ## What the issues of one parameter tell -/

@[simp] theorem severity_undeclared (name source : String) : (undeclared name source).severity = .warning := rfl

@[simp] theorem severity_notList (source : String) (found : Json) : (notList source found).severity = .error := rfl

@[simp] theorem severity_notInList (name source : String) (allowed : List Json) (v : Json) :
    (notInList name source allowed v).severity = .error := rfl

/-- Of what is tied, the values of both sides are known. -/
theorem forall_ties {P : String → Json → Json → Prop} {source : String} {v found : Json}
    (h : t.Ties parameters p source v found) :
    (∀ source' v' found', t.Ties parameters p source' v' found' → P source' v' found') ↔ P source v found := by
  refine ⟨fun hall => hall source v found h, fun hP source' v' found' h' => ?_⟩
  obtain ⟨rfl, rfl, rfl⟩ := h.unique h'
  exact hP

/-- **There is no error** if what the parameter holds is among the values that the other one lists. -/
theorem Verdict.noError_iff (h : Verdict t parameters p is) :
    (∀ i ∈ is, i.severity ≠ .error) ↔ ∀ source v found, t.Ties parameters p source v found →
      ∃ vs, found.Lists vs ∧ ∀ w ∈ valuesOf v, w.IsAmong vs := by
  cases h with
  | untied hdeclared huntied =>
    exact ⟨fun _ source v found htie => absurd htie (huntied source v found), fun _ => by simp⟩
  | undeclared hnamed hundeclared =>
    refine ⟨fun _ source v found htie => ?_, fun _ => ?_⟩
    · exact (htie.not_undeclared hnamed hundeclared).elim
    · simp
  | @notList source v found htie hlists =>
    rw [forall_ties htie]
    refine ⟨fun hsound => absurd rfl (hsound _ (List.mem_singleton_self _)), ?_⟩
    rintro ⟨vs, hvs, -⟩
    exact absurd hvs (hlists vs)
  | @list source v found vs htie hlists =>
    rw [forall_ties htie]
    constructor
    · refine fun hsound => ⟨vs, hlists, fun w hw => ?_⟩
      by_contra hout
      have hmem : w ∈ (valuesOf v).filter fun w => ¬ w.IsAmong vs := by simp [hw, hout]
      exact hsound _ (List.mem_map_of_mem hmem) rfl
    · rintro ⟨vs', hvs', hamong⟩
      obtain rfl := hlists.unique hvs'
      have hnone : ((valuesOf v).filter fun w => ¬ w.IsAmong vs) = [] := by
        simpa [List.filter_eq_nil_iff] using hamong
      rw [hnone]
      simp

/-- An issue for each item that is not among the listed values, and no other that tells so. -/
theorem Verdict.countP_tellsOutside (h : Verdict t parameters p is) (hp : p ∈ t.parameters)
    [DecidablePred Issue.TellsOutside] :
    is.countP (fun i => i.TellsOutside) = (t.offending parameters p).length := by
  have hnone : (∀ source v found vs, t.Ties parameters p source v found → ¬ found.Lists vs) →
      (t.offending parameters p).length = 0 := fun h => by rw [Trait.offending_eq_nil hp h, List.length_nil]
  cases h with
  | untied hdeclared huntied =>
    rw [hnone fun source v found vs htie => absurd htie (huntied source v found), List.countP_nil]
  | undeclared hnamed hundeclared =>
    rw [hnone fun source v found vs htie => ?_]
    · simp [Issue.not_tellsOutside_undeclared]
    · exact (htie.not_undeclared hnamed hundeclared).elim
  | @notList source v found htie hlists =>
    rw [hnone fun source' v' found' vs htie' => ?_]
    · simp [Issue.not_tellsOutside_notList]
    · obtain ⟨-, -, rfl⟩ := htie.unique htie'
      exact hlists vs
  | @list source v found vs htie hlists =>
    have hall : ∀ w ∈ (valuesOf v).filter fun w => ¬ w.IsAmong vs,
        decide (Issue.TellsOutside (notInList p.name source vs w)) = true := fun w _ =>
      decide_eq_true ⟨p.name, source, vs, w, rfl⟩
    rw [Trait.offending_of_lists htie hlists, List.countP_map]
    exact List.countP_eq_length.2 hall

/-- The warning of a parameter whose rules name one that is not declared. -/
def warning? (t : Trait) (p : Parameter) : Option Issue :=
  p.rules.enumFrom.bind fun source =>
    if ∃ q ∈ t.parameters, q.name = source then none else some (undeclared p.name source)

/-- **There is a warning** just for a name that is not declared. -/
theorem Verdict.filter_warning (h : Verdict t parameters p is) :
    is.filter (·.severity == .warning) = (warning? t p).toList := by
  cases h with
  | untied hdeclared huntied =>
    unfold warning?
    cases hnamed : p.rules.enumFrom with
    | none => rfl
    | some source =>
      rw [Option.bind_some, if_pos (hdeclared source hnamed)]
      rfl
  | undeclared hnamed hundeclared =>
    rw [warning?, hnamed, Option.bind_some, if_neg hundeclared]
    rfl
  | notList htie hlists =>
    rw [warning?, htie.named, Option.bind_some, if_pos htie.declared]
    rfl
  | list htie hlists =>
    rw [warning?, htie.named, Option.bind_some, if_pos htie.declared, List.filter_map]
    simp [Function.comp_def]

/-- **An error** is one of a parameter that is tied to another one. -/
theorem Verdict.exists_ties (h : Verdict t parameters p is) {i : Issue} (hi : i ∈ is) (herror : i.severity = .error) :
    ∃ source v found, t.Ties parameters p source v found ∧
      (i = EnumFrom.notList source found ∧ (∀ vs, ¬ found.Lists vs) ∨
        ∃ vs w, found.Lists vs ∧ w ∈ valuesOf v ∧ ¬ w.IsAmong vs ∧ i = notInList p.name source vs w) := by
  cases h with
  | untied hdeclared huntied => cases hi
  | undeclared hnamed hundeclared =>
    obtain rfl := List.mem_singleton.1 hi
    cases herror
  | @notList source v found htie hlists =>
    exact ⟨source, v, found, htie, .inl ⟨List.mem_singleton.1 hi, hlists⟩⟩
  | @list source v found vs htie hlists =>
    obtain ⟨w, hw, rfl⟩ := List.mem_map.1 hi
    obtain ⟨hmem, hout⟩ := List.mem_filter.1 hw
    exact ⟨source, v, found, htie, .inr ⟨vs, w, hlists, hmem, by simpa using hout, rfl⟩⟩

end EnumFrom

/-! ## Fields with the same values -/

namespace Candidate

variable {α : Type}

theorem choose?_singleton (merge : α → α → α) (strategy : Option Strategy) (c : Candidate α) :
    choose? merge strategy [c] = some c := by
  cases strategy with
  | none => rfl
  | some strategy =>
    cases strategy with
    | useTrait => cases hlayer : c.layer == .trait <;> simp [choose?, firstTrait?, hlayer]
    | useObject => cases hlayer : c.layer == .object <;> simp [choose?, lastObject?, hlayer]
    | merge => rfl

/-- **A single declaration** stands, whatever the strategy. -/
theorem settle?_singleton (merge : α → α → α) (resolution : Option Resolution) (c : Candidate α) :
    settle? merge resolution [c] = some c := by
  by_cases hlayer : c.layer = .context
  · have habove : ∀ d ∈ [c], d.layer = .context := by simpa using hlayer
    have hnone : choose? merge (resolution.bind Resolution.strategy) [] = none := by
      cases resolution.bind Resolution.strategy with
      | none => rfl
      | some strategy => cases strategy <;> rfl
    rw [← List.nil_append [c], settle?_eq (by simp) habove, hnone]
    rfl
  · have hbelow : ∀ d ∈ [c], d.layer ≠ .context := by simpa using hlayer
    rw [← List.append_nil [c], settle?_eq hbelow (by simp), choose?_singleton]
    rfl

end Candidate

/-- A field that is declared once is composed as it is declared. -/
theorem Object.compose_of_single {foundation : Table Field} {o : Object} {resolved : List Resolved}
    {base : Option Composed} {key : String} {c : Candidate Field}
    (h : (o.fieldLayers foundation resolved base).filter (fun e => e.1 == key) = [(key, c)]) :
    (o.compose foundation resolved base).schema.get? key = some c.value := by
  have hsettled : (settleAll (Field.merge o.resolutions.depth) o.resolutions.fields
      (Candidate.gather (o.fieldLayers foundation resolved base))).get? key = some c := by
    rw [get?_settleAll_gather, h, List.map_singleton, Candidate.settle?_singleton]
  change ((settleAll (Field.merge o.resolutions.depth) o.resolutions.fields
    (Candidate.gather (o.fieldLayers foundation resolved base))).mapValues Candidate.value).get? key = _
  rw [Table.get?_mapValues, hsettled]
  rfl

/-- What a trait declares is among the layers, with the values of its parameters. -/
theorem Object.mem_fieldLayers {foundation : Table Field} {o : Object} {resolved : List Resolved}
    {base : Option Composed} {r : Resolved} (hr : r ∈ resolved) {key : String} {f : Field}
    (hf : (key, f) ∈ r.trait.schema) :
    (key, ⟨⟨.trait, r.name⟩, f.bindEnumFrom r.parameters⟩) ∈ o.fieldLayers foundation resolved base := by
  have hmem : (key, ⟨⟨.trait, r.name⟩, f.bindEnumFrom r.parameters⟩) ∈
      resolved.flatMap fun r =>
        Candidate.ofTable .trait r.name (r.trait.schema.mapValues (Field.bindEnumFrom r.parameters)) := by
    refine List.mem_flatMap.2 ⟨r, hr, ?_⟩
    unfold Candidate.ofTable Table.mapValues
    rw [List.map_map]
    exact List.mem_map.2 ⟨(key, f), hf, rfl⟩
  unfold fieldLayers
  simp only [List.mem_append]
  exact .inl (.inl (.inr hmem))

namespace Field

variable {parameters : Table Json} {f : Field} {source : String} {found : Json} {vs : List Json}

theorem bindEnumFrom_of_lists (hnamed : f.rules.enumFrom = some source) (hfound : parameters.get? source = some found)
    (hlists : found.Lists vs) :
    f.bindEnumFrom parameters = { f with allowed := some vs, rules := { f.rules with enumFrom := none } } := by
  have hallowed : allowedFrom? parameters source = some vs := allowedFrom?_eq_some.2 ⟨found, hfound, hlists⟩
  simp only [bindEnumFrom, hnamed, hallowed]

theorem bindEnumFrom_of_not_lists (hnamed : f.rules.enumFrom = some source)
    (h : ¬ ∃ found vs, parameters.get? source = some found ∧ found.Lists vs) : f.bindEnumFrom parameters = f := by
  simp only [bindEnumFrom, hnamed, allowedFrom?_eq_none.2 h]

end Field

open EnumFrom (issuesAt verdict valuesOf notList notInList warning?) in
open Classical in
/-- **What is found wrong with values taken from other parameters.** There is no error just if each parameter that is
tied to another one holds values that this one lists. There are as many errors about such values as there are values
that are not listed, and each error comes from a parameter that is tied to a declared one. A name that is not declared
has one warning. A field of the trait takes its values from the same lists: where there is one it has these values, and
is otherwise left as it is, and so it is composed if nothing else declares it. -/
theorem Trait.enumFrom_exact (t : Trait) (parameters : Table Json) :
    let issues := t.enumFromIssues parameters
    ((∀ i ∈ issues, i.severity ≠ .error) ↔
      ∀ p source v found, t.Ties parameters p source v found →
        ∃ vs, found.Lists vs ∧ ∀ w ∈ valuesOf v, w.IsAmong vs) ∧
    issues.countP (fun i => i.TellsOutside) = (t.parameters.flatMap (t.offending parameters)).length ∧
    (∀ i ∈ issues, i.severity = .error → ∃ p source v found, t.Ties parameters p source v found ∧
      (i = notList source found ∧ (∀ vs, ¬ found.Lists vs) ∨
        ∃ vs w, found.Lists vs ∧ w ∈ valuesOf v ∧ ¬ w.IsAmong vs ∧ i = notInList p.name source vs w)) ∧
    issues.filter (·.severity == .warning) = t.parameters.filterMap (warning? t) ∧
    ∀ foundation o resolved base, ∀ r ∈ resolved, r.trait = t → r.parameters = parameters →
      ∀ key f source, (key, f) ∈ t.schema → f.rules.enumFrom = some source →
        let g := f.bindEnumFrom parameters
        let layers := Object.fieldLayers foundation o resolved base
        (key, ⟨⟨.trait, r.name⟩, g⟩) ∈ layers ∧
        (g.rules.enumFrom = none ↔ ∃ found vs, parameters.get? source = some found ∧ found.Lists vs) ∧
        (∀ found vs, parameters.get? source = some found → found.Lists vs →
          g = { f with allowed := some vs, rules := { f.rules with enumFrom := none } }) ∧
        ((¬ ∃ found vs, parameters.get? source = some found ∧ found.Lists vs) → g = f) ∧
        ((layers.filter fun e => e.1 == key).length = 1 →
          (o.compose foundation resolved base).schema.get? key = some g) := by
  intro issues
  have hissues : issues = t.parameters.flatMap (issuesAt t parameters) := rfl
  refine ⟨?_, ?_, ?_, ?_, ?_⟩
  -- what is said of all issues is said of those of each parameter
  · rw [hissues]
    simp only [List.mem_flatMap, forall_exists_index, and_imp]
    constructor
    · intro h p source v found htie
      exact (verdict htie.mem).noError_iff.1 (fun i hi => h i p htie.mem hi) source v found htie
    · intro h i p hp hi
      exact (verdict hp).noError_iff.2 (h p) i hi
  · rw [hissues, List.countP_flatMap, List.length_flatMap]
    exact congrArg List.sum (List.map_congr_left fun p hp => (verdict hp).countP_tellsOutside hp)
  · intro i hi herror
    obtain ⟨p, hp, hi⟩ := List.mem_flatMap.1 hi
    exact ⟨p, (verdict hp).exists_ties hi herror⟩
  · rw [hissues, List.filter_flatMap, List.filterMap_eq_flatMap_toList]
    exact List.flatMap_congr fun p hp => (verdict hp).filter_warning
  · rintro foundation o resolved base r hr rfl rfl key f source hf hnamed g layers
    have hmem : (key, ⟨⟨.trait, r.name⟩, g⟩) ∈ layers := Object.mem_fieldLayers hr hf
    have hlists : ∀ found vs, r.parameters.get? source = some found → found.Lists vs →
        g = { f with allowed := some vs, rules := { f.rules with enumFrom := none } } :=
      fun found vs hfound hvs => Field.bindEnumFrom_of_lists hnamed hfound hvs
    have hnone : (¬ ∃ found vs, r.parameters.get? source = some found ∧ found.Lists vs) → g = f :=
      Field.bindEnumFrom_of_not_lists hnamed
    refine ⟨hmem, ⟨fun hbound => ?_, ?_⟩, hlists, hnone, fun hsingle => ?_⟩
    · by_contra hno
      rw [hnone hno, hnamed] at hbound
      cases hbound
    · rintro ⟨found, vs, hfound, hvs⟩
      rw [hlists found vs hfound hvs]
    -- the one layer of the key is that of the trait
    · obtain ⟨e, he⟩ := List.length_eq_one_iff.1 hsingle
      have hfilter : (key, ⟨⟨.trait, r.name⟩, g⟩) ∈ layers.filter fun e => e.1 == key :=
        List.mem_filter.2 ⟨hmem, beq_self_eq_true key⟩
      rw [he, List.mem_singleton] at hfilter
      rw [← hfilter] at he
      exact Object.compose_of_single he

/-- A parameter that says no more than its name and where its values are listed. -/
def listedIn (name : String) (source : Option String) : Parameter :=
  ⟨name, "string", false, none, none, none, false, { Rules.empty with enumFrom := source }⟩

/-- A trait with a list of states, two parameters that hold some of them, and one that names no parameter. -/
def staged : Resolved where
  reference := .named "staged"
  trait :=
    { info := ⟨"staged", "1.0.0", none, none, none, []⟩
      parameters := [listedIn "states" none, listedIn "initial" (some "states"),
        listedIn "previous" (some "states"), listedIn "fallback" (some "ghost")]
      schema := [("status", { Field.ofKind "string" with
        rules := { Rules.empty with enumFrom := some "states" } })]
      semantics := []
      viewExtensions := []
      tokens := []
      dependencies := []
      actions := []
      stateMachine := none
      metadata := ⟨[], []⟩ }
  parameters := [("states", .arr [.str "draft", .str "review"]), ("initial", .str "review"),
    ("previous", .arr [.str "draft", .str "gone"]), ("fallback", .str "draft")]
  path := ⟨"traits/staged.trait.yaml"⟩

/-- An object without declarations of its own. -/
def plainObject : Object where
  info := ⟨"Plain", none, none, none, [], []⟩
  traits := [.named "staged"]
  schema := []
  semantics := []
  tokens := []
  views := []
  actions := []
  resolutions := .empty
  metadata := []

open Classical in
theorem Trait.enumFrom_exact_staged :
    let issues := staged.trait.enumFromIssues staged.parameters
    (∃ i ∈ issues, i.severity = .error) ∧ issues.countP (fun i => i.TellsOutside) = 1 ∧
      issues.filter (·.severity == .warning) = [EnumFrom.undeclared "fallback" "ghost"] ∧
      ((plainObject.compose [] [staged] none).schema.get? "status").bind Field.allowed =
        some [.str "draft", .str "review"] := by
  intro issues
  obtain ⟨hsound, hcount, -, hwarnings, hcomposed⟩ := enumFrom_exact staged.trait staged.parameters
  have hlists : (Json.arr [.str "draft", .str "review"]).Lists [.str "draft", .str "review"] :=
    ⟨rfl, by simp [Json.kind]⟩
  refine ⟨?_, hcount.trans (by decide), hwarnings.trans (by decide), ?_⟩
  · by_contra hnone
    push Not at hnone
    obtain ⟨vs, hvs, hamong⟩ := hsound.1 hnone (listedIn "previous" (some "states")) "states"
      (.arr [.str "draft", .str "gone"]) (.arr [.str "draft", .str "review"])
      ⟨by simp [staged], rfl, ⟨listedIn "states" none, by simp [staged], rfl⟩, rfl, rfl⟩
    obtain rfl := hlists.unique hvs
    exact absurd (hamong (.str "gone") (by simp [EnumFrom.valuesOf])) (by decide)
  · obtain ⟨-, -, hbound, -, hsingle⟩ := hcomposed [] plainObject [staged] none staged
      (List.mem_singleton_self _) rfl rfl "status" _ "states" (List.mem_singleton_self _) rfl
    rw [hsingle (by decide), hbound _ _ rfl hlists]
    rfl

end TraitWeave
