import TraitWeave.Encode
import TraitWeave.Schema.Value
import TraitWeave.Proofs.Table

/-!
# What schemas mean

What a schema of the latest draft means is told by its keywords, for those that speak of types, listed values,
bounds, sizes, patterns, members and items. Two notions are left open: when a value is the same as a listed one,
and when a text matches a pattern.

* `Reading`: the two notions.
* `Reading.Asserts`: what a keyword says of a value alone.
* `Reading.Allows`: whether a schema allows a value.
* `Reading.Keyword`, `Reading.allows_obj`: whether a keyword does, and that a schema allows what its keywords allow.
-/

namespace TraitWeave.Schema

/-- How values are compared with listed ones, and texts with patterns. -/
structure Reading where
  /-- A listed value, and one that is to be the same. -/
  same : Json → Json → Prop
  /-- A pattern as it is written, and a text that matches it. -/
  matched : String → String → Prop

namespace Reading

/-- What a keyword says of a value alone; a keyword that speaks of values of one kind allows all others. -/
def Asserts (r : Reading) (keyword : String) (arg v : Json) : Prop :=
  match keyword with
  | "type" => ∀ t, arg = .str t → hasType .y2020 t v = true
  | "enum" => ∀ vs, arg = .arr vs → ∃ w ∈ vs, r.same w v
  | "minimum" => ∀ limit n, arg = .num limit → v = .num n → n.compareValue limit ≠ .lt
  | "maximum" => ∀ limit n, arg = .num limit → v = .num n → n.compareValue limit ≠ .gt
  | "minLength" => ∀ (limit : Int) s, arg = .num (.int limit) → v = .str s → limit ≤ s.length
  | "maxLength" => ∀ (limit : Int) s, arg = .num (.int limit) → v = .str s → s.length ≤ limit
  | "minItems" => ∀ (limit : Int) items, arg = .num (.int limit) → v = .arr items → limit ≤ items.length
  | "maxItems" => ∀ (limit : Int) items, arg = .num (.int limit) → v = .arr items → items.length ≤ limit
  | "pattern" => ∀ source s, arg = .str source → v = .str s → r.matched source s
  | "required" => ∀ keys ms, arg = .arr keys → v = .obj ms → ∀ k, .str k ∈ keys → Table.has ms k = true
  | _ => True

mutual

/-- Whether a schema allows a value. -/
def Allows (r : Reading) : Json → Json → Prop
  | .bool b, _ => b = true
  | .obj ms, v => AllowsAll r ms v
  | _, _ => False

/-- Whether all keywords allow a value. -/
def AllowsAll (r : Reading) : List (String × Json) → Json → Prop
  | [], _ => True
  | (keyword, arg) :: rest, v =>
    (if keyword = "items" then ∀ items, v = .arr items → ∀ w ∈ items, Allows r arg w
      else if keyword = "properties" then AllowsNamed r arg v
      else r.Asserts keyword arg v) ∧ AllowsAll r rest v

/-- Whether the members of a value are allowed by schemas that are told by name. -/
def AllowsNamed (r : Reading) : Json → Json → Prop
  | .obj schemas, v => AllowsMembers r schemas v
  | _, _ => True

/-- Whether the members of a value are allowed by the schemas of their names. -/
def AllowsMembers (r : Reading) : List (String × Json) → Json → Prop
  | [], _ => True
  | (key, schema) :: rest, v => (∀ w, v.member? key = some w → Allows r schema w) ∧ AllowsMembers r rest v

end

/-- Whether a keyword allows a value. -/
def Keyword (r : Reading) (keyword : String) (arg v : Json) : Prop :=
  if keyword = "items" then ∀ items, v = .arr items → ∀ w ∈ items, r.Allows arg w
  else if keyword = "properties" then
    ∀ schemas, arg = .obj schemas → ∀ p ∈ schemas, ∀ w, v.member? p.1 = some w → r.Allows p.2 w
  else r.Asserts keyword arg v

variable {r : Reading} {ms schemas : List (String × Json)} {v : Json}

theorem allowsMembers_iff :
    r.AllowsMembers schemas v ↔ ∀ p ∈ schemas, ∀ w, v.member? p.1 = some w → r.Allows p.2 w := by
  induction schemas with
  | nil => simp [AllowsMembers]
  | cons p rest ih => rw [AllowsMembers, ih, List.forall_mem_cons]

theorem allowsNamed_iff {arg : Json} : r.AllowsNamed arg v ↔
    ∀ schemas, arg = .obj schemas → ∀ p ∈ schemas, ∀ w, v.member? p.1 = some w → r.Allows p.2 w := by
  cases arg with
  | obj schemas =>
    rw [AllowsNamed, allowsMembers_iff]
    exact ⟨fun h _ hs => Json.obj.inj hs ▸ h, fun h => h schemas rfl⟩
  | _ => exact ⟨fun _ => nofun, fun _ => by rw [AllowsNamed]; exacts [trivial, nofun]⟩

theorem allowsAll_iff : r.AllowsAll ms v ↔ ∀ m ∈ ms, r.Keyword m.1 m.2 v := by
  induction ms with
  | nil => simp [AllowsAll]
  | cons m rest ih =>
    obtain ⟨keyword, arg⟩ := m
    rw [AllowsAll, ih, List.forall_mem_cons]
    refine and_congr_left fun _ => ?_
    unfold Keyword
    rw [allowsNamed_iff]

/-- A schema allows what all of its keywords allow. -/
theorem allows_obj : r.Allows (.obj ms) v ↔ ∀ m ∈ ms, r.Keyword m.1 m.2 v := by
  rw [Allows, allowsAll_iff]

/-! ## The keywords one by one -/

/-- A keyword that has no schemas for parts of the value speaks of the value alone. -/
theorem keyword_iff_asserts {keyword : String} {arg : Json} (hitems : keyword ≠ "items")
    (hproperties : keyword ≠ "properties") : r.Keyword keyword arg v ↔ r.Asserts keyword arg v := by
  unfold Keyword
  rw [if_neg hitems, if_neg hproperties]

theorem keyword_title {arg : Json} : r.Keyword "title" arg v := by
  rw [keyword_iff_asserts (by decide) (by decide)]
  trivial

theorem keyword_description {arg : Json} : r.Keyword "description" arg v := by
  rw [keyword_iff_asserts (by decide) (by decide)]
  trivial

theorem keyword_deprecated {arg : Json} : r.Keyword "deprecated" arg v := by
  rw [keyword_iff_asserts (by decide) (by decide)]
  trivial

theorem keyword_type {type : String} : r.Keyword "type" (.str type) v ↔ hasType .y2020 type v = true := by
  rw [keyword_iff_asserts (by decide) (by decide)]
  exact ⟨fun h => h type rfl, fun h _ ht => Json.str.inj ht ▸ h⟩

theorem keyword_enum {vs : List Json} : r.Keyword "enum" (.arr vs) v ↔ ∃ w ∈ vs, r.same w v := by
  rw [keyword_iff_asserts (by decide) (by decide)]
  exact ⟨fun h => h vs rfl, fun h _ hvs => Json.arr.inj hvs ▸ h⟩

theorem keyword_minimum {limit : Number} :
    r.Keyword "minimum" (.num limit) v ↔ ∀ n, v = .num n → n.compareValue limit ≠ .lt := by
  rw [keyword_iff_asserts (by decide) (by decide)]
  exact ⟨fun h n => h limit n rfl, fun h _ n hlimit => Json.num.inj hlimit ▸ h n⟩

theorem keyword_maximum {limit : Number} :
    r.Keyword "maximum" (.num limit) v ↔ ∀ n, v = .num n → n.compareValue limit ≠ .gt := by
  rw [keyword_iff_asserts (by decide) (by decide)]
  exact ⟨fun h n => h limit n rfl, fun h _ n hlimit => Json.num.inj hlimit ▸ h n⟩

/-- A natural number as an argument. -/
theorem natural_eq {limit : Nat} {n : Int} (h : Encode.natural limit = .num (.int n)) : limit = n :=
  Number.int.inj (Json.num.inj h)

/-- What is said of every number that the argument is, is said of the natural number that it was made of. -/
theorem forall_natural_iff {α : Type} {limit : Nat} {Q : α → Prop} {P : Int → α → Prop} :
    (∀ n a, Encode.natural limit = .num (.int n) → Q a → P n a) ↔ ∀ a, Q a → P limit a :=
  ⟨fun h a => h limit a rfl, fun h _ a hlimit ha => natural_eq hlimit ▸ h a ha⟩

theorem keyword_minLength {limit : Nat} :
    r.Keyword "minLength" (Encode.natural limit) v ↔ ∀ s, v = .str s → limit ≤ s.length := by
  rw [keyword_iff_asserts (by decide) (by decide)]
  exact forall_natural_iff.trans (forall₂_congr fun _ _ => Int.ofNat_le)

theorem keyword_maxLength {limit : Nat} :
    r.Keyword "maxLength" (Encode.natural limit) v ↔ ∀ s, v = .str s → s.length ≤ limit := by
  rw [keyword_iff_asserts (by decide) (by decide)]
  exact forall_natural_iff.trans (forall₂_congr fun _ _ => Int.ofNat_le)

theorem keyword_minItems {limit : Nat} :
    r.Keyword "minItems" (Encode.natural limit) v ↔ ∀ items, v = .arr items → limit ≤ items.length := by
  rw [keyword_iff_asserts (by decide) (by decide)]
  exact forall_natural_iff.trans (forall₂_congr fun _ _ => Int.ofNat_le)

theorem keyword_maxItems {limit : Nat} :
    r.Keyword "maxItems" (Encode.natural limit) v ↔ ∀ items, v = .arr items → items.length ≤ limit := by
  rw [keyword_iff_asserts (by decide) (by decide)]
  exact forall_natural_iff.trans (forall₂_congr fun _ _ => Int.ofNat_le)

theorem keyword_pattern {source : String} :
    r.Keyword "pattern" (.str source) v ↔ ∀ s, v = .str s → r.matched source s := by
  rw [keyword_iff_asserts (by decide) (by decide)]
  exact ⟨fun h s => h source s rfl, fun h _ s hsource => Json.str.inj hsource ▸ h s⟩

theorem keyword_required {names : List String} : r.Keyword "required" (Encode.texts names) v ↔
    ∀ members, v = .obj members → ∀ name ∈ names, Table.has members name = true := by
  rw [keyword_iff_asserts (by decide) (by decide)]
  constructor
  · intro h members hmembers name hname
    exact h _ members rfl hmembers name (List.mem_map_of_mem hname)
  · intro h keys members hkeys hmembers name hname
    rw [← Json.arr.inj hkeys] at hname
    obtain ⟨k, hk, hkname⟩ := List.mem_map.1 hname
    exact h members hmembers name (Json.str.inj hkname ▸ hk)

theorem keyword_items {arg : Json} :
    r.Keyword "items" arg v ↔ ∀ items, v = .arr items → ∀ w ∈ items, r.Allows arg w := by
  simp [Keyword]

theorem keyword_properties :
    r.Keyword "properties" (.obj schemas) v ↔ ∀ p ∈ schemas, ∀ w, v.member? p.1 = some w → r.Allows p.2 w := by
  simp [Keyword]

end Reading

end TraitWeave.Schema
