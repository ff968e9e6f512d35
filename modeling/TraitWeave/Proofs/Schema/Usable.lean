import TraitWeave.Proofs.Schema.Meaning
import TraitWeave.Proofs.Schema.Plain
import Mathlib.Data.List.Forall2

/-!
# Schemas that can be used, and what they find

A schema with simple keywords only is of the right form, can be made ready, and finds nothing with a value just
when it means to allow it.

* `Reading.ofLibrary`: how the validator compares values and matches texts.
* `Usable`: a schema that is right in these respects, when it is made ready and asked in some steps at least.
* `KeywordUsable`: the same of a keyword with its argument; one lemma for each kind of keyword.
* `usable_obj`: a schema is usable if its keywords are.
* `Usable.compiled`: a usable schema is compiled, and finds nothing just with what it allows.
-/

namespace TraitWeave.Schema

open Form (schema map list anything number natural pattern names text flag)
open Keyword (takesMembers checks checkRules exclusion? sizeLimit below byName)

/-- How values and texts are compared by the validator. -/
def Reading.ofLibrary : Reading where
  same w v := equal v w = true
  matched source s := ∃ p, Pattern.read source = some p ∧ p.occursIn? s = some true

/-! ## Lists of things made ready -/

namespace Preparing

variable {α β : Type} {f : α → Preparing β} {P : α → β → Prop} {xs : List α}

theorem each_pure (h : ∀ x ∈ xs, ∃ y, f x = pure y ∧ P x y) :
    ∃ ys, each f xs = pure ys ∧ List.Forall₂ P xs ys := by
  induction xs with
  | nil => exact ⟨[], rfl, .nil⟩
  | cons x xs ih =>
    rw [List.forall_mem_cons] at h
    obtain ⟨y, hy, hxy⟩ := h.1
    obtain ⟨ys, hys, hall⟩ := ih h.2
    exact ⟨y :: ys, by rw [each, hy, pure_bind, hys, pure_bind], .cons hxy hall⟩

end Preparing

/-- Nothing is found by any if each of them finds nothing just under its condition. -/
theorem flatMap_eq_nil_of_forall₂ {α β γ : Type} {f : β → List γ} {P : α → Prop} {xs : List α} {ys : List β}
    (h : List.Forall₂ (fun x y => f y = [] ↔ P x) xs ys) : ys.flatMap f = [] ↔ ∀ x ∈ xs, P x := by
  induction h with
  | nil => simp
  | cons hxy _ ih => rw [List.flatMap_cons, List.append_eq_nil_iff, hxy, ih, List.forall_mem_cons]

/-! ## Keywords -/

/-- The keywords of types, listed values, bounds, sizes, patterns, members and items, and some that describe. -/
def simpleKeywords : List String := [
  "title", "description", "deprecated", "type", "enum", "minimum", "maximum", "minLength", "maxLength",
  "minItems", "maxItems", "pattern", "required", "properties", "items"]

/-- Their forms. -/
def simpleForms : FormTable := [
  ("items", schema), ("properties", map schema), ("type", Form.types), ("enum", list anything 0 false),
  ("maximum", number), ("minimum", number), ("maxLength", natural), ("minLength", natural), ("pattern", pattern),
  ("maxItems", natural), ("minItems", natural), ("required", names), ("title", text), ("description", text),
  ("deprecated", flag)]

theorem filter_formTables :
    Draft.y2020.formTables.flatten.filter (fun e => simpleKeywords.contains e.1) = simpleForms := rfl

theorem mem_simpleForms {keyword : String} {f : Form} (hkeyword : keyword ∈ simpleKeywords)
    (h : (keyword, f) ∈ Draft.y2020.formTables.flatten) : (keyword, f) ∈ simpleForms := by
  rw [← filter_formTables, List.mem_filter]
  exact ⟨h, by simpa using hkeyword⟩

/-- A context of the latest draft, with all of its keywords. -/
structure Context.Latest (c : Context) : Prop where
  draft : c.draft = .y2020
  vocabularies : c.vocabularies = Draft.y2020.vocabularies

theorem Context.Latest.under {c : Context} (h : c.Latest) (step : String) : (c.under step).Latest := ⟨h.1, h.2⟩

theorem Context.Latest.knows {c : Context} (h : c.Latest) (keyword : String) :
    c.knows keyword = Draft.y2020.knows Draft.y2020.vocabularies keyword := by
  unfold Context.knows
  rw [h.draft, h.vocabularies]

/-- A schema of the right form, without names, that can be made ready, and finds nothing just with what it means
to allow. `k` steps are needed. -/
structure Usable (k : Nat) (schema : Json) : Prop where
  form : ∀ fuel, formFaultIn .y2020 fuel schema = none
  plain : Plain schema
  ready : ∀ {fuel}, k ≤ fuel → ∀ {c : Context}, c.Latest → ∃ node, prepareIn fuel c schema = pure node ∧
    ∀ size n, k ≤ n → ∀ place v, findingsIn size n node place v = [] ↔ Reading.ofLibrary.Allows schema v

/-- The rules of a keyword in a schema, none if the keyword is not known. -/
def keywordRules (fuel : Nat) (c : Context) (ms : Table Json) (keyword : String) (arg : Json) :
    Preparing (List Rule) :=
  if c.knows keyword then Keyword.rules (prepareIn fuel) fuel c ms keyword arg else pure []

/-- What rules find with a value. -/
def rulesFind (size n : Nat) (place : List String) (v : Json) (rules : List Rule) : List Finding :=
  rules.flatMap fun r => r.findings (findingsIn size n) size place v

/-- The same of a keyword and its argument. -/
structure KeywordUsable (k : Nat) (keyword : String) (arg : Json) : Prop where
  simple : keyword ∈ simpleKeywords
  form : ∀ fuel f, (keyword, f) ∈ simpleForms → f.fault .y2020 (formFaultIn .y2020 fuel) arg = none
  held : ∀ h, Draft.y2020.holding? keyword = some h → ∀ s ∈ h.schemas arg, Plain s
  ready : ∀ {fuel}, k ≤ fuel → ∀ {c : Context}, c.Latest → ∀ {ms : Table Json}, takesMembers ms = false →
    ms.get? "prefixItems" = none → ∃ rules, keywordRules fuel c ms keyword arg = pure rules ∧
      ∀ size n, k ≤ n → ∀ place v, rulesFind size n place v rules = [] ↔ Reading.ofLibrary.Keyword keyword arg v

/-- The rules of a keyword that is known. -/
theorem keywordRules_of_known {c : Context} (hc : c.Latest) {keyword : String}
    (hknown : Draft.y2020.knows Draft.y2020.vocabularies keyword = true) (fuel : Nat) (ms : Table Json) (arg : Json) :
    keywordRules fuel c ms keyword arg = Keyword.rules (prepareIn fuel) fuel c ms keyword arg := by
  unfold keywordRules
  rw [hc.knows, hknown, if_pos rfl]

theorem rulesFind_singleton (size n : Nat) (place : List String) (v : Json) (r : Rule) :
    rulesFind size n place v [r] = r.findings (findingsIn size n) size place v := by
  unfold rulesFind
  rw [List.flatMap_singleton]

/-- A usable schema is made ready in its own context, which is that of the schema around it. -/
theorem Usable.ready_below {k fuel : Nat} {schema : Json} (h : Usable k schema) (hfuel : k ≤ fuel) {c : Context}
    (hc : c.Latest) : ∃ node, below (prepareIn fuel) c schema = pure node ∧
      ∀ size n, k ≤ n → ∀ place v, findingsIn size n node place v = [] ↔ Reading.ofLibrary.Allows schema v := by
  obtain ⟨node, hnode, hfind⟩ := h.ready hfuel hc
  refine ⟨node, ?_, hfind⟩
  unfold below
  rw [h.plain.inside hc.draft]
  exact hnode

/-! ### Schemas made of keywords -/

theorem get?_eq_none_of_simple {ms : Table Json} (h : ∀ m ∈ ms, m.1 ∈ simpleKeywords) {key : String}
    (hkey : key ∉ simpleKeywords) : ms.get? key = none :=
  Table.get?_eq_none.2 fun m hm hkey' => hkey (hkey' ▸ h m hm)

/-- A schema has the right form if the arguments of its keywords do. -/
theorem formFaultIn_obj {k : Nat} {ms : Table Json} (h : ∀ m ∈ ms, KeywordUsable k m.1 m.2) (fuel : Nat) :
    formFaultIn .y2020 fuel (.obj ms) = none := by
  cases fuel with
  | zero => rfl
  | succ fuel =>
    have hobject : Draft.y2020.schemaTypes.any (hasType .y2020 · (.obj ms)) = true := by
      simp [Draft.schemaTypes, hasType]
    have hforms : ∀ q ∈ Draft.y2020.formTables.flatten,
        ((Json.obj ms).member? q.1).bind (q.2.fault .y2020 (formFaultIn .y2020 fuel)) = none := by
      intro q hmem
      cases harg : (Json.obj ms).member? q.1 with
      | none => rfl
      | some arg =>
        have hm := h _ (Table.mem_of_get? harg)
        exact hm.form fuel q.2 (mem_simpleForms hm.simple hmem)
    unfold formFaultIn
    rw [hobject, List.findSome?_eq_none_iff.2 hforms]
    rfl

/-- It has no name either: none of these keywords gives one, and what they hold has none. -/
theorem plain_obj {k : Nat} {ms : Table Json} (h : ∀ m ∈ ms, KeywordUsable k m.1 m.2) : Plain (.obj ms) := by
  refine .intro (fun key hkey => ?_) fun s hs => ?_
  · have hnaming : ∀ key ∈ namingKeywords, key ∉ simpleKeywords := by decide
    exact get?_eq_none_of_simple (fun m hm => (h m hm).simple) (hnaming key hkey)
  · obtain ⟨⟨key, arg⟩, hm, hs⟩ := List.mem_flatMap.1 hs
    dsimp only at hs
    split at hs
    · rename_i holding hholding
      exact (h _ hm).held holding hholding s hs
    · cases hs

/-- **A schema is usable if its keywords are.** -/
theorem usable_obj {k : Nat} {ms : Table Json} (h : ∀ m ∈ ms, KeywordUsable k m.1 m.2) : Usable (k + 1) (.obj ms) where
  form := formFaultIn_obj h
  plain := plain_obj h
  ready {fuel} hfuel {c} hc := by
    have hsimple : ∀ m ∈ ms, m.1 ∈ simpleKeywords := fun m hm => (h m hm).simple
    -- no keyword takes the members or the first items away from the others
    have hmembers : takesMembers ms = false := by
      unfold takesMembers
      rw [get?_eq_none_of_simple hsimple (by decide)]
    have htuple : ms.get? "prefixItems" = none := get?_eq_none_of_simple hsimple (by decide)
    obtain ⟨fuel, rfl⟩ : ∃ n, fuel = n + 1 := ⟨fuel - 1, by omega⟩
    obtain ⟨rules, hrules, hfind⟩ := Preparing.each_pure fun m hm =>
      (h m hm).ready (Nat.le_of_succ_le_succ hfuel) hc hmembers htuple
    refine ⟨.rules rules.flatten, ?_, fun size n hn place v => ?_⟩
    · have hcount : countingKeywords c.draft ms = ms := by
        rw [hc.draft]
        rfl
      unfold prepareIn
      dsimp only
      rw [hcount]
      exact congrArg (· >>= _) hrules
    · obtain ⟨n, rfl⟩ : ∃ m, n = m + 1 := ⟨n - 1, by omega⟩
      have hall := flatMap_eq_nil_of_forall₂ (f := rulesFind size n place v)
        (hfind.imp fun m rs hm => hm size n (Nat.le_of_succ_le_succ hn) place v)
      rw [Reading.allows_obj, ← hall]
      show rulesFind size n place v rules.flatten = [] ↔ _
      unfold rulesFind
      rw [List.flatten_eq_flatMap, List.flatMap_assoc]
      rfl

/-! ### Keywords one by one -/

variable {k : Nat} {keyword : String} {arg : Json}

theorem fault_of_filter (form : Form) (hform : simpleForms.filter (fun e => e.1 == keyword) = [(keyword, form)])
    (hfault : ∀ fuel, form.fault .y2020 (formFaultIn .y2020 fuel) arg = none) :
    ∀ fuel f, (keyword, f) ∈ simpleForms → f.fault .y2020 (formFaultIn .y2020 fuel) arg = none := by
  intro fuel f hf
  have hmem : (keyword, f) ∈ simpleForms.filter (fun e => e.1 == keyword) :=
    List.mem_filter.2 ⟨hf, beq_self_eq_true keyword⟩
  rw [hform, List.mem_singleton] at hmem
  rw [(Prod.mk.inj hmem).2]
  exact hfault fuel

/-- A keyword that only describes says nothing. -/
theorem keywordUsable_describing (hsimple : keyword ∈ simpleKeywords)
    (hknown : Draft.y2020.knows Draft.y2020.vocabularies keyword = false)
    (hheld : Draft.y2020.holding? keyword = none)
    (hform : ∀ fuel f, (keyword, f) ∈ simpleForms → f.fault .y2020 (formFaultIn .y2020 fuel) arg = none)
    (hmeaning : ∀ v, Reading.ofLibrary.Keyword keyword arg v) : KeywordUsable k keyword arg where
  simple := hsimple
  form := hform
  held h hh := by rw [hheld] at hh; cases hh
  ready _ c hc ms _ _ := by
    refine ⟨[], ?_, fun size n _ place v => iff_of_true rfl (hmeaning v)⟩
    unfold keywordRules
    rw [hc.knows, hknown, if_neg Bool.false_ne_true]

/-- A keyword that speaks of the value alone. -/
theorem keywordUsable_check (check : Check) (hsimple : keyword ∈ simpleKeywords)
    (hknown : Draft.y2020.knows Draft.y2020.vocabularies keyword = true)
    (hheld : Draft.y2020.holding? keyword = none)
    (hform : ∀ fuel f, (keyword, f) ∈ simpleForms → f.fault .y2020 (formFaultIn .y2020 fuel) arg = none)
    (hrules : ∀ fuel c ms, Keyword.rules (prepareIn fuel) fuel c ms keyword arg = checkRules c ms keyword arg)
    (hchecks : ∀ c ms, c.Latest → checks c ms keyword arg = pure [check])
    (hmeaning : ∀ v, check.faults v = [] ↔ Reading.ofLibrary.Keyword keyword arg v) : KeywordUsable k keyword arg where
  simple := hsimple
  form := hform
  held h hh := by rw [hheld] at hh; cases hh
  ready {fuel} _ c hc ms _ _ := by
    refine ⟨[.check (c.path ++ [keyword]) check], ?_, fun size n _ place v => ?_⟩
    -- no keyword of this draft turns another one into an exclusive bound
    · have hexclusion : exclusion? c.draft ms keyword = none := by
        unfold exclusion?
        rw [hc.draft, if_neg fun h => nomatch h.1]
      rw [keywordRules_of_known hc hknown, hrules]
      unfold checkRules
      rw [hexclusion]
      dsimp only
      rw [hchecks c ms hc, pure_bind]
      rfl
    · rw [rulesFind_singleton]
      unfold Rule.findings Rule.report
      rw [List.map_eq_nil_iff, hmeaning]

theorem keywordUsable_title (s : String) : KeywordUsable k "title" (.str s) :=
  keywordUsable_describing (by decide) (by decide) (by decide) (fault_of_filter text rfl fun _ => rfl) fun _ =>
    Reading.keyword_title

theorem keywordUsable_description (s : String) : KeywordUsable k "description" (.str s) :=
  keywordUsable_describing (by decide) (by decide) (by decide) (fault_of_filter text rfl fun _ => rfl) fun _ =>
    Reading.keyword_description

theorem keywordUsable_deprecated (b : Bool) : KeywordUsable k "deprecated" (.bool b) :=
  keywordUsable_describing (by decide) (by decide) (by decide) (fault_of_filter flag rfl fun _ => rfl) fun _ =>
    Reading.keyword_deprecated

theorem keywordUsable_type {t : String} (ht : typeNames.contains t = true) : KeywordUsable k "type" (.str t) := by
  refine keywordUsable_check (.types .y2020 [t]) (by decide) (by decide) (by decide)
    (fault_of_filter Form.types rfl fun fuel => ?_) (fun _ _ _ => rfl) (fun c ms hc => ?_) fun v => ?_
  · simp only [Form.types, Form.fault, ht, if_true, Option.isNone_none, Bool.true_or]
  · have htypes : Keyword.types (.str t) = pure [t] := if_pos ht
    show (do pure [Check.types c.draft (← Keyword.types (.str t))]) = _
    rw [htypes, pure_bind, hc.draft]
  · simp [Reading.keyword_type, Check.faults, Check.when]

theorem keywordUsable_enum (vs : List Json) : KeywordUsable k "enum" (.arr vs) := by
  refine keywordUsable_check (.options vs) (by decide) (by decide) (by decide)
    (fault_of_filter (list anything 0 false) rfl fun fuel => ?_) (fun _ _ _ => rfl) (fun _ _ _ => rfl) fun v => ?_
  · simp [Form.fault]
  · simp [Reading.keyword_enum, Check.faults, Check.when, Reading.ofLibrary]

theorem keywordUsable_minimum (x : Number) : KeywordUsable k "minimum" (.num x) :=
  keywordUsable_check (.minimum x) (by decide) (by decide) (by decide) (fault_of_filter number rfl fun _ => rfl)
    (fun _ _ _ => rfl) (fun _ _ _ => rfl) fun v => by
    cases v <;> simp [Reading.keyword_minimum, Check.faults, Check.when, Check.ofNumber]

theorem keywordUsable_maximum (x : Number) : KeywordUsable k "maximum" (.num x) :=
  keywordUsable_check (.maximum x) (by decide) (by decide) (by decide) (fault_of_filter number rfl fun _ => rfl)
    (fun _ _ _ => rfl) (fun _ _ _ => rfl) fun v => by
    cases v <;> simp [Reading.keyword_maximum, Check.faults, Check.when, Check.ofNumber]

/-- A keyword that limits a size. -/
theorem keywordUsable_size (check : Nat → Check) (n : Nat) (hsimple : keyword ∈ simpleKeywords)
    (hknown : Draft.y2020.knows Draft.y2020.vocabularies keyword = true)
    (hheld : Draft.y2020.holding? keyword = none)
    (hform : simpleForms.filter (fun e => e.1 == keyword) = [(keyword, natural)])
    (hrules : ∀ fuel c ms arg, Keyword.rules (prepareIn fuel) fuel c ms keyword arg = checkRules c ms keyword arg)
    (hchecks : ∀ c ms arg, checks c ms keyword arg = do pure [check (← sizeLimit c.draft arg)])
    (hmeaning : ∀ v, (check n).faults v = [] ↔ Reading.ofLibrary.Keyword keyword (Encode.natural n) v) :
    KeywordUsable k keyword (Encode.natural n) := by
  refine keywordUsable_check (check n) hsimple hknown hheld (fault_of_filter natural hform fun fuel => ?_)
    (fun fuel c ms => hrules fuel c ms _) (fun c ms _ => ?_) hmeaning
  · have hnonneg : Number.compareValue (.int n) (.int 0) ≠ .lt := by
      show compare (n : Int) 0 ≠ .lt
      rw [Ne, Int.compare_eq_lt]
      omega
    have htype : Form.typeFault .y2020 "integer" (.num (.int n)) = none := rfl
    unfold Form.fault Encode.natural
    simp [htype, hnonneg]
  · have hlimit : sizeLimit c.draft (Encode.natural n) = pure n := by
      unfold sizeLimit Encode.natural
      simp
    rw [hchecks, hlimit, pure_bind]

theorem keywordUsable_minLength (n : Nat) : KeywordUsable k "minLength" (Encode.natural n) :=
  keywordUsable_size .minLength n (by decide) (by decide) (by decide) rfl (fun _ _ _ _ => rfl) (fun _ _ _ => rfl)
    fun v => by cases v <;> simp [Reading.keyword_minLength, Check.faults, Check.when, Check.ofText]

theorem keywordUsable_maxLength (n : Nat) : KeywordUsable k "maxLength" (Encode.natural n) :=
  keywordUsable_size .maxLength n (by decide) (by decide) (by decide) rfl (fun _ _ _ _ => rfl) (fun _ _ _ => rfl)
    fun v => by cases v <;> simp [Reading.keyword_maxLength, Check.faults, Check.when, Check.ofText]

theorem keywordUsable_minItems (n : Nat) : KeywordUsable k "minItems" (Encode.natural n) :=
  keywordUsable_size .minItems n (by decide) (by decide) (by decide) rfl (fun _ _ _ _ => rfl) (fun _ _ _ => rfl)
    fun v => by cases v <;> simp [Reading.keyword_minItems, Check.faults, Check.when, Check.ofItems]

theorem keywordUsable_maxItems (n : Nat) : KeywordUsable k "maxItems" (Encode.natural n) :=
  keywordUsable_size .maxItems n (by decide) (by decide) (by decide) rfl (fun _ _ _ _ => rfl) (fun _ _ _ => rfl)
    fun v => by cases v <;> simp [Reading.keyword_maxItems, Check.faults, Check.when, Check.ofItems]

theorem keywordUsable_pattern {source : String} {p : Pattern} (hp : Pattern.read source = some p) :
    KeywordUsable k "pattern" (.str source) := by
  refine keywordUsable_check (.pattern source p) (by decide) (by decide) (by decide)
    (fault_of_filter pattern rfl fun fuel => ?_) (fun _ _ _ => rfl) (fun c ms hc => ?_) fun v => ?_
  · rfl
  · have hread : Keyword.pattern source (.str source) = pure p := by
      unfold Keyword.pattern
      rw [hp]
    show (do pure [Check.pattern source (← Keyword.pattern source (.str source))]) = _
    rw [hread, pure_bind]
  · have hmatched (s : String) : Reading.ofLibrary.matched source s ↔ p.occursIn? s = some true :=
      ⟨fun ⟨q, hq, hs⟩ => by rw [hp] at hq; cases hq; exact hs, fun hs => ⟨p, hp, hs⟩⟩
    simp only [Reading.keyword_pattern, hmatched]
    show Check.matchFaults v source p = [] ↔ _
    unfold Check.matchFaults Check.ofText
    cases v with
    | str s => rcases hs : p.occursIn? s with _ | _ | _ <;> simp [hs]
    | _ => simp

theorem distinctBy_texts {same : Json → Json → Bool} (hsame : ∀ a b, same (.str a) (.str b) = (a == b))
    {names : List String} (h : names.Nodup) : distinctBy same (names.map .str) = true := by
  induction names with
  | nil => rfl
  | cons n names ih =>
    rw [List.nodup_cons] at h
    rw [List.map_cons, distinctBy, ih h.2, List.any_map]
    simp only [Function.comp_def, hsame, Bool.and_true, Bool.not_eq_true', List.any_eq_false]
    exact fun m hm => by simpa using fun hnm : n = m => h.1 (hnm ▸ hm)

/-- Distinct texts are distinct as values. -/
theorem allDistinct_texts {names : List String} (h : names.Nodup) : allDistinct (names.map .str) = true := by
  unfold allDistinct
  split
  · exact distinctBy_texts (fun a b => by simp only [equal]) h
  · exact distinctBy_texts (fun a b => by simp only [equal, sameZeros, Bool.and_true]) h

theorem Preparing.each_text (ss : List String) : Preparing.each Keyword.text (ss.map .str) = pure ss := by
  induction ss with
  | nil => rfl
  | cons s ss ih =>
    have hs : Keyword.text (.str s) = pure s := rfl
    rw [List.map_cons, Preparing.each, hs, pure_bind, ih, pure_bind]

theorem keywordUsable_required {needed : List String} (h : needed.Nodup) :
    KeywordUsable k "required" (Encode.texts needed) := by
  refine keywordUsable_check (.required needed) (by decide) (by decide) (by decide)
    (fault_of_filter names rfl fun fuel => ?_) (fun _ _ _ => rfl) (fun c ms hc => ?_) fun v => ?_
  · have htexts : (needed.map Json.str).findSome? (text.fault .y2020 (formFaultIn .y2020 fuel)) = none := by
      rw [List.findSome?_eq_none_iff]
      intro v hv
      obtain ⟨s, -, rfl⟩ := List.mem_map.1 hv
      rfl
    unfold names Form.fault Encode.texts
    dsimp only
    rw [htexts, allDistinct_texts h]
    rfl
  · show (do pure [Check.required (← Keyword.names (Encode.texts needed))]) = _
    have hnames : Keyword.names (Encode.texts needed) = pure needed := Preparing.each_text needed
    rw [hnames, pure_bind]
  · cases v <;> simp [Reading.keyword_required, Check.faults, Check.ofMembers]

/-- A keyword for all items, with a usable schema. -/
theorem keywordUsable_items {ns : Table Json} (h : Usable k (.obj ns)) : KeywordUsable k "items" (.obj ns) where
  simple := by decide
  form := fault_of_filter schema rfl fun fuel => h.form fuel
  held holding hholding s hs := by
    have hone : Draft.y2020.holding? "items" = some .one := by decide
    rw [hone] at hholding
    cases hholding
    rw [List.mem_singleton.1 hs]
    exact h.plain
  ready {fuel} hfuel {c} hc {ms} _ htuple := by
    obtain ⟨node, hbelow, hfind⟩ := h.ready_below hfuel (hc.under "items")
    refine ⟨[.items 0 node], ?_, fun size n hn place v => ?_⟩
    · rw [keywordRules_of_known hc (by decide)]
      show Keyword.itemRules (prepareIn fuel) c ms (.obj ns) = _
      unfold Keyword.itemRules
      dsimp only
      rw [htuple, hbelow, pure_bind]
      rfl
    · rw [rulesFind_singleton]
      show (((v.asArr?.getD []).zipIdx).drop 0).flatMap _ = [] ↔ _
      rw [List.drop_zero, List.flatMap_eq_nil_iff]
      have hkeyword : Reading.ofLibrary.Keyword "items" (.obj ns) v ↔
          ∀ w ∈ v.asArr?.getD [], Reading.ofLibrary.Allows (.obj ns) w := by
        cases v <;> simp [Reading.keyword_items, Json.asArr?]
      rw [hkeyword]
      calc (∀ p ∈ (v.asArr?.getD []).zipIdx, findingsIn size n node (place ++ [toString p.2]) p.1 = [])
          ↔ ∀ p ∈ (v.asArr?.getD []).zipIdx, Reading.ofLibrary.Allows (.obj ns) p.1 :=
            forall₂_congr fun p _ => hfind size n hn _ p.1
        _ ↔ ∀ w ∈ ((v.asArr?.getD []).zipIdx).map Prod.fst, Reading.ofLibrary.Allows (.obj ns) w :=
            List.forall_mem_map.symm
        _ ↔ _ := by rw [List.zipIdx_map_fst]

/-- Nothing is found with the members if each of their schemas allows its own. -/
theorem namedFindings_eq_nil {ask : Asked} {P : Json → Json → Prop} {ps : Table Json} {nodes : List (String × Node)}
    (h : List.Forall₂ (fun p y => y.1 = p.1 ∧ ∀ place v, ask y.2 place v = [] ↔ P p.2 v) ps nodes)
    (place : List String) (members : Table Json) : Rule.namedFindings ask nodes place members = [] ↔
      ∀ p ∈ ps, ∀ w, members.get? p.1 = some w → P p.2 w := by
  refine flatMap_eq_nil_of_forall₂ (h.imp fun p y hy => ?_)
  obtain ⟨key, node⟩ := y
  obtain ⟨rfl, hy⟩ := hy
  dsimp only
  cases members.get? p.1 with
  | none => simp
  | some w => simpa using hy _ w

/-- A keyword for members by name, with usable schemas. -/
theorem keywordUsable_properties {ps : Table Json} (h : ∀ p ∈ ps, Usable k p.2) :
    KeywordUsable k "properties" (.obj ps) where
  simple := by decide
  form := fault_of_filter (map schema) rfl fun fuel =>
    List.findSome?_eq_none_iff.2 fun p hp => (h p hp).form fuel
  held holding hholding s hs := by
    have hmembers : Draft.y2020.holding? "properties" = some .members := by decide
    rw [hmembers] at hholding
    cases hholding
    obtain ⟨p, hp, rfl⟩ := List.mem_map.1 hs
    exact (h p hp).plain
  ready {fuel} hfuel {c} hc {ms} hmembers _ := by
    -- each member's schema is made ready by itself, under its name
    have heach : ∀ p ∈ ps, ∃ y : String × Node,
        (do pure (p.1, ← below (prepareIn fuel) ((c.under "properties").under p.1) p.2)) = (pure y : Preparing _) ∧
          (y.1 = p.1 ∧ ∀ size n, k ≤ n → ∀ place v,
            findingsIn size n y.2 place v = [] ↔ Reading.ofLibrary.Allows p.2 v) := by
      intro p hp
      obtain ⟨node, hbelow, hfind⟩ := (h p hp).ready_below hfuel ((hc.under "properties").under p.1)
      exact ⟨(p.1, node), by rw [hbelow, pure_bind], rfl, hfind⟩
    obtain ⟨nodes, hnodes, hfind⟩ := Preparing.each_pure heach
    refine ⟨[.named nodes], ?_, fun size n hn place v => ?_⟩
    · have hbyName : byName (prepareIn fuel) c "properties" ps = pure nodes := hnodes
      rw [keywordRules_of_known hc (by decide)]
      show (if takesMembers ms then pure []
        else do pure [Rule.named (← byName (prepareIn fuel) c "properties" (← Keyword.table (.obj ps)))]) = _
      have htable : Keyword.table (.obj ps) = pure ps := rfl
      rw [hmembers, if_neg Bool.false_ne_true, htable, pure_bind, hbyName, pure_bind]
    · rw [Reading.keyword_properties, rulesFind_singleton]
      cases v with
      | obj members =>
        exact namedFindings_eq_nil (hfind.imp fun _ _ hy => ⟨hy.1, fun place v => hy.2 size n hn place v⟩) place members
      | _ => exact iff_of_true rfl fun _ _ _ => nofun

/-! ## Schemas compiled -/

/-- **A usable schema is compiled**, and finds nothing just with what it means to allow. -/
theorem Usable.compiled {schema : Json} (h : Usable k schema) (hk : k ≤ 4) : ∃ c, Compiled.of schema = .ok c ∧
    c.schema = schema ∧ ∀ v, c.findings v = [] ↔ Reading.ofLibrary.Allows schema v := by
  have hdetect : Draft.detect schema = .ok .y2020 := h.plain.detectOr .y2020
  have hform : formFault .y2020 schema = none := h.form schema.depth
  -- Which library it is does not matter, and must not be computed.
  obtain ⟨scope, hscope⟩ : ∃ scope, Schema.scopeOf .y2020 schema = .ok scope := ⟨_, h.plain.scopeOf⟩
  obtain ⟨size, hsize⟩ : ∃ size, scope.library.size = size := ⟨_, rfl⟩
  have hsquare : 2 * 2 ≤ Compiled.steps size := Nat.mul_le_mul (Nat.le_add_left 2 size) (Nat.le_add_left 2 size)
  have hsteps : k ≤ Compiled.steps size := Nat.le_trans hk hsquare
  obtain ⟨node, hbelow, hfind⟩ :=
    h.ready_below hsteps (c := ⟨scope, .y2020, Draft.y2020.vocabularies, []⟩) ⟨rfl, rfl⟩
  refine ⟨⟨schema, size, node⟩, ?_, rfl, fun v => ?_⟩
  · unfold Compiled.of
    simp only [hdetect, hscope, hform, hsize, hbelow]
    rfl
  · exact hfind _ _ (Nat.le_trans hsteps (Nat.le_mul_of_pos_right _ (Nat.succ_pos _))) [] v

end TraitWeave.Schema
