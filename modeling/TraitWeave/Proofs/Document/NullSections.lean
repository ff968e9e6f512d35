import TraitWeave.Proofs.Document.Formats

/-!
# A section that is null

The checks of a document take a section that is null for one that is left out. The decoder does so only where the
section is read by `Decode.option`. Of the sections that may be left out this is so for the state machine of a
trait; all others are then refused for being null, although the checks let them pass.

* `Document.SameSections`, `Trait.structureProblems_congr`, `Object.structureProblems_congr`: the checks find the
  same.
* `Decode.TreatsNull`: what a decoder makes of a member that is null.
* `Trait.optionalSections`, `Object.optionalSections`: the sections, and what each asks for in place of null.
* `Document.NullSection`: what becomes of the document, beside the one that leaves the section out.
* `Document.null_sections`: **every section of both kinds of documents.**
-/

namespace TraitWeave

open Decode Decode.Record

namespace Document

variable {α β : Type} {file : Option Path} {ms ns root : Table Json} {key field : String} {shape : Shape}

/-! ## Checks of structure -/

/-- The same is found, or null beside nothing. -/
inductive NullAlike : Option Json → Option Json → Prop where
  | same (x : Option Json) : NullAlike x x
  | null : NullAlike (some .null) none

@[elab_as_elim]
theorem NullAlike.elim {P : Option Json → Option Json → Prop} {x y : Option Json} (h : NullAlike x y)
    (same : ∀ x, P x x) (null : P (some .null) none) : P x y := by
  cases h with
  | same => exact same x
  | null => exact null

/-- The same sections stand in both, but that those that are null in the first may be left out of the second. -/
def SameSections (ms ns : Table Json) : Prop := ∀ k, NullAlike (ms.get? k) (ns.get? k)

theorem sameSections_put_erase (root : Table Json) (key : String) :
    SameSections (root.put key .null) (root.erase key) := by
  intro k
  rw [Table.get?_put, Table.get?_erase]
  split
  · exact .null
  · exact .same _

theorem SameSections.require (h : SameSections ms ns) (file : Option Path) (key field : String) (shape : Shape) :
    require file ms key field shape = require file ns key field shape := by
  unfold Document.require
  exact (h key).elim (fun _ => rfl) rfl

theorem SameSections.allow (h : SameSections ms ns) (file : Option Path) (key field : String) (shape : Shape) :
    allow file ms key field shape = allow file ns key field shape := by
  unfold Document.allow
  exact (h key).elim (fun _ => rfl) rfl

theorem SameSections.schemaDeclarations (h : SameSections ms ns) (file : Option Path) :
    schemaDeclarations file ms = schemaDeclarations file ns := by
  unfold Document.schemaDeclarations
  exact (h "schema").elim (fun _ => rfl) rfl

/-- A section that is known is not told as unknown, whether it is null or left out. -/
theorem unknownSections_put_erase {known : List String} (hkey : key ∈ known) (root : Table Json) :
    unknownSections file known (root.put key .null) = unknownSections file known (root.erase key) := by
  have hknown : (!known.contains key) = false := by simpa using hkey
  have hput : (root.put key .null).keys.filter (fun k => !known.contains k) =
      root.keys.filter fun k => !known.contains k := by
    rw [Table.keys_put]
    split
    · rfl
    · rw [List.filter_append, List.filter_singleton, hknown]
      exact List.append_nil _
  have herase : (root.erase key).keys.filter (fun k => !known.contains k) =
      root.keys.filter fun k => !known.contains k := by
    rw [Table.keys, Table.keys, Table.erase, List.filter_map, List.filter_map, List.filter_filter]
    refine congrArg _ (List.filter_congr fun p _ => ?_)
    by_cases hp : p.1 = key <;> simp [hp, hkey]
  rw [unknownSections, unknownSections, hput, herase]

end Document

open Document

namespace Trait

variable {file : Option Path} {ms ns : Table Json}

/-- The checks of a trait document take null for nothing. -/
theorem structureProblems_congr (format : Format) (h : SameSections ms ns)
    (hknown : unknownSections file sections ms = unknownSections file sections ns) :
    structureProblems format file ms = structureProblems format file ns := by
  have hinfo : infoProblems file ms = infoProblems file ns := by
    rw [infoProblems, infoProblems, h.require]
    exact (h "trait").elim (fun _ => rfl) rfl
  have hmachine : machineSectionProblems file ms = machineSectionProblems file ns := by
    rw [machineSectionProblems, machineSectionProblems, h.allow]
    exact (h "state_machine").elim (fun _ => rfl) rfl
  have hstrict : strictProblems file ms = strictProblems file ns := by
    rw [strictProblems, strictProblems, hknown, h.schemaDeclarations]
    exact (h "parameters").elim (fun _ => rfl) rfl
  simp only [structureProblems, hinfo, hmachine, hstrict, h.require, h.allow]

end Trait

namespace Object

variable {file : Option Path} {ms ns : Table Json}

/-- The checks of an object document take null for nothing. -/
theorem structureProblems_congr (format : Format) (h : SameSections ms ns)
    (hknown : unknownSections file sections ms = unknownSections file sections ns) :
    structureProblems format file ms = structureProblems format file ns := by
  have hinfo : infoProblems file ms = infoProblems file ns := by
    rw [infoProblems, infoProblems, h.require]
    exact (h "object").elim (fun _ => rfl) rfl
  have htraits : traitsProblems file ms = traitsProblems file ns := by
    rw [traitsProblems, traitsProblems, h.allow]
    exact (h "traits").elim (fun _ => rfl) rfl
  have hresolutions : resolutionProblems file ms = resolutionProblems file ns := by
    rw [resolutionProblems, resolutionProblems]
    exact (h "resolutions").elim (fun _ => rfl) rfl
  have hstrict : strictProblems file ms = strictProblems file ns := by
    rw [strictProblems, strictProblems, hknown, h.schemaDeclarations]
  simp only [structureProblems, hinfo, htraits, hresolutions, hstrict, h.allow]

end Object

namespace Decode

variable {α β : Type}

/-! ## Null in a record -/

namespace Record

/-- The record is built alike from two assignments of slots. -/
def BuildsAlike (r : Record α) (x y : Nat → Option Json) : Prop := r.build x = r.build y

variable {r : Record (β → α)} {x y : Nat → Option Json}

theorem BuildsAlike.start (a : α) : (Record.start a).BuildsAlike x y := rfl

theorem BuildsAlike.field {name : String} {aliases : List String} {d : Decoder β} {fallback : Option β}
    (hslot : x r.rules.length = y r.rules.length) (h : r.BuildsAlike x y) :
    (r.field name aliases d fallback).BuildsAlike x y := by
  unfold BuildsAlike at h ⊢
  simp only [Record.field, h, hslot]

/-- A field that may be null does not tell null from nothing. -/
theorem BuildsAlike.null {r : Record (Option β → α)} {name : String} {d : Decoder β}
    (hnull : x r.rules.length = some .null) (hnone : y r.rules.length = none) (h : r.BuildsAlike x y) :
    (r.optional name d).BuildsAlike x y := by
  unfold BuildsAlike at h ⊢
  simp only [Record.optional, Record.field, h, hnull, hnone, option]
  rfl

end Record

/-- What a decoder makes of a member that is null, wherever it stands among the others: it counts as left out, or
something else is asked for in its place, unless a member before it is refused. -/
def TreatsNull (d : Decoder α) (key : String) (expected : Option String) : Prop :=
  ∀ before behind : Table Json, key ∉ before.keys → key ∉ behind.keys →
    match expected with
    | none => d (.obj (before ++ (key, .null) :: behind)) = d (.obj (before ++ behind))
    | some s => d (.obj (before ++ (key, .null) :: behind)) = .error (.wrongType .null s) ∨
      ∃ e, d (.obj (before ++ behind)) = .error e ∧ d (.obj (before ++ (key, .null) :: behind)) = .error e

variable {r : Record α} {i : Nat} {rule : FieldRule}

theorem Record.Simple.refusesNull (hi : r.Simple i rule) {s : String}
    (hcheck : rule.check .null = .error (.wrongType .null s)) (label : String) :
    TreatsNull (r.decode label) rule.name (some s) :=
  fun _ _ hbefore _ => decode_refused hi hbefore hcheck label

theorem Record.Simple.takesNull (hi : r.Simple i rule) (hcheck : rule.check .null = .ok ())
    (hbuild : ∀ x y, (∀ j, j ≠ i → x j = y j) → x i = some .null → y i = none → r.BuildsAlike x y)
    (label : String) : TreatsNull (r.decode label) rule.name none :=
  fun _ _ hbefore hbehind => decode_ignored hi hbefore hbehind hcheck hbuild label

end Decode

namespace Document

variable {α : Type} {file : Option Path} {format : Format} {root : Table Json} {key : String}

/-! ## A section that is null -/

theorem keys_expandShorthand (ms : Table Json) : (expandShorthand ms).keys = ms.keys := by
  unfold expandShorthand Table.keys
  rw [List.map_map]
  refine List.map_congr_left fun p _ => ?_
  simp only [Function.comp_apply]
  split <;> rfl

theorem expandShorthand_null (before behind : Table Json) (key : String) :
    expandShorthand (before ++ (key, .null) :: behind) =
      expandShorthand before ++ (key, .null) :: expandShorthand behind := by
  unfold expandShorthand
  rw [List.map_append, List.map_cons]
  split
  · rename_i heq
    cases (Prod.mk.inj heq).2
  · rfl

/-- In both formats the decoder gets the same members with null among them, or without it. -/
theorem formatted_put_erase (format : Format) (hroot : root.keys.Nodup) (key : String) :
    ∃ before behind : Table Json, key ∉ before.keys ∧ key ∉ behind.keys ∧
      (if format.isStrict then root.put key .null else expandShorthand (root.put key .null)) =
        before ++ (key, .null) :: behind ∧
      (if format.isStrict then root.erase key else expandShorthand (root.erase key)) = before ++ behind := by
  obtain ⟨before, behind, hbefore, hbehind, hput, herase⟩ := Table.put_erase hroot key .null
  rw [hput, herase]
  cases format.isStrict with
  | true => exact ⟨before, behind, hbefore, hbehind, rfl, rfl⟩
  | false =>
    refine ⟨expandShorthand before, expandShorthand behind, ?_, ?_, expandShorthand_null before behind key, ?_⟩
    · rwa [keys_expandShorthand]
    · rwa [keys_expandShorthand]
    · exact List.map_append

/-- **What becomes of a document** `blank` in which a section is null, beside the document `absent` that leaves it
out. The checks take null for nothing, and where they find problems, that is the outcome. The decoder either takes
null for nothing too, or asks for what is `expected` in its place. -/
structure NullSection (file : Option Path) (expected : Option String) (checks : Table Json → List Problem)
    (outcome : Table Json → Except (List Problem) α) (blank absent : Table Json) : Prop where
  alike : checks blank = checks absent
  found : checks absent ≠ [] → outcome blank = outcome absent
  taken : expected = none → outcome blank = outcome absent
  refused : ∀ s, expected = some s →
    outcome blank = .error [.ofCause file (.mismatch (.wrongType .null s))] ∨
      ∃ ps, outcome absent = .error ps ∧ outcome blank = .error ps

theorem nullSection {decode : Decoder α} {checks : Table Json → List Problem}
    {outcome : Table Json → Except (List Problem) α} (hjudges : Judges format file decode checks outcome)
    (hroot : root.keys.Nodup) {expected : Option String} (hnull : TreatsNull decode key expected)
    (hchecks : checks (root.put key .null) = checks (root.erase key)) :
    NullSection file expected checks outcome (root.put key .null) (root.erase key) := by
  have hfound : checks (root.erase key) ≠ [] → outcome (root.put key .null) = outcome (root.erase key) :=
    fun h => by rw [hjudges.found _ h, hjudges.found _ (hchecks ▸ h), hchecks]
  refine ⟨hchecks, hfound, ?_, ?_⟩
  -- the decoder sees null and nothing at the same place, among the same members
  all_goals
    obtain ⟨before, behind, hbefore, hbehind, hput, herase⟩ := formatted_put_erase format hroot key
    have htreats := hnull before behind hbefore hbehind
  · rintro rfl
    by_cases h : checks (root.erase key) = []
    · rw [hjudges.passed _ h, hjudges.passed _ (hchecks.trans h), hput, herase]
      exact congrArg _ htreats
    · exact hfound h
  · rintro s rfl
    by_cases h : checks (root.erase key) = []
    · rw [hjudges.passed _ h, hjudges.passed _ (hchecks.trans h), hput, herase]
      rcases htreats with hnull | ⟨e, habsent, hblank⟩
      · exact .inl (by rw [hnull]; rfl)
      · exact .inr ⟨_, by rw [habsent]; rfl, by rw [hblank]; rfl⟩
    · exact .inr ⟨_, hjudges.found _ h, (hfound h).trans (hjudges.found _ h)⟩

end Document

open Document

namespace Trait

/-- The sections that a trait document may leave out, each with what is asked for in place of null, if null does
not count as left out. -/
def optionalSections : Table (Option String) :=
  [("parameters", some "a sequence"), ("dependencies", some "a sequence"), ("actions", some "a sequence"),
    ("semantics", some "a map"), ("tokens", some "a map"), ("metadata", some "struct TraitMetadata"),
    ("view_extensions", some "a map"), ("state_machine", none)]

/-- Null counts as no state machine. -/
theorem treatsNull_stateMachine : TreatsNull decode "state_machine" none :=
  Simple.takesNull (r := record) (i := 8) ⟨rfl, rfl, rfl⟩ rfl
    (fun _ _ h hnull hnone =>
      -- from the last field to the first
      .field (h 9 (by decide)) <| .null hnull hnone <| .field (h 7 (by decide)) <| .field (h 6 (by decide)) <|
      .field (h 5 (by decide)) <| .field (h 4 (by decide)) <| .field (h 3 (by decide)) <|
      .field (h 2 (by decide)) <| .field (h 1 (by decide)) <| .field (h 0 (by decide)) <| .start _) _

theorem treatsNull : ∀ p ∈ optionalSections, TreatsNull decode p.1 p.2 := by
  simp only [optionalSections, List.forall_mem_cons]
  exact ⟨Simple.refusesNull (r := record) (i := 1) ⟨rfl, rfl, rfl⟩ rfl _,
    Simple.refusesNull (r := record) (i := 6) ⟨rfl, rfl, rfl⟩ rfl _,
    Simple.refusesNull (r := record) (i := 7) ⟨rfl, rfl, rfl⟩ rfl _,
    Simple.refusesNull (r := record) (i := 3) ⟨rfl, rfl, rfl⟩ rfl _,
    Simple.refusesNull (r := record) (i := 5) ⟨rfl, rfl, rfl⟩ rfl _,
    Simple.refusesNull (r := record) (i := 9) ⟨rfl, rfl, rfl⟩ rfl _,
    Simple.refusesNull (r := record) (i := 4) ⟨rfl, rfl, rfl⟩ rfl _,
    treatsNull_stateMachine, by simp⟩

theorem nullSection (format : Format) (file : Option Path) {root : Table Json} (hroot : root.keys.Nodup)
    {key : String} {expected : Option String} (h : (key, expected) ∈ optionalSections) :
    NullSection file expected (structureProblems format file) (ofMembers format file) (root.put key .null)
      (root.erase key) := by
  have hknown : ∀ p ∈ optionalSections, p.1 ∈ sections := by decide
  exact Document.nullSection (judges format file) hroot (treatsNull _ h)
    (structureProblems_congr format (sameSections_put_erase root key) (unknownSections_put_erase (hknown _ h) root))

end Trait

namespace Object

/-- The sections that an object document may leave out, each with what is asked for in place of null. -/
def optionalSections : Table (Option String) :=
  [("traits", some "a sequence"), ("schema", some "a map"), ("semantics", some "a map"), ("tokens", some "a map"),
    ("views", some "a map"), ("actions", some "a sequence"), ("resolutions", some "struct Resolutions"),
    ("metadata", some "a map")]

theorem treatsNull : ∀ p ∈ optionalSections, TreatsNull decode p.1 p.2 := by
  simp only [optionalSections, List.forall_mem_cons]
  exact ⟨Simple.refusesNull (r := record) (i := 1) ⟨rfl, rfl, rfl⟩ rfl _,
    Simple.refusesNull (r := record) (i := 2) ⟨rfl, rfl, rfl⟩ rfl _,
    Simple.refusesNull (r := record) (i := 3) ⟨rfl, rfl, rfl⟩ rfl _,
    Simple.refusesNull (r := record) (i := 4) ⟨rfl, rfl, rfl⟩ rfl _,
    Simple.refusesNull (r := record) (i := 5) ⟨rfl, rfl, rfl⟩ rfl _,
    Simple.refusesNull (r := record) (i := 6) ⟨rfl, rfl, rfl⟩ rfl _,
    Simple.refusesNull (r := record) (i := 7) ⟨rfl, rfl, rfl⟩ rfl _,
    Simple.refusesNull (r := record) (i := 8) ⟨rfl, rfl, rfl⟩ rfl _,
    by simp⟩

theorem nullSection (format : Format) (file : Option Path) {root : Table Json} (hroot : root.keys.Nodup)
    {key : String} {expected : Option String} (h : (key, expected) ∈ optionalSections) :
    NullSection file expected (structureProblems format file) (ofMembers format file) (root.put key .null)
      (root.erase key) := by
  have hknown : ∀ p ∈ optionalSections, p.1 ∈ sections := by decide
  exact Document.nullSection (judges format file) hroot (treatsNull _ h)
    (structureProblems_congr format (sameSections_put_erase root key) (unknownSections_put_erase (hknown _ h) root))

end Object

namespace Document

/-- **A section that is null**, of a document whose sections have different names, as those of every text have. The
checks always find what they find without the section. What they find is then the outcome with it and without it. A
document that passes them has the outcome that it has without the section where null counts as left out, as it does
for a state machine. All other sections are refused for being null, unless the decoder refuses something before; so
a document that is accepted without the section is not accepted with it. -/
theorem null_sections (format : Format) (file : Option Path) {root : Table Json} (hroot : root.keys.Nodup) :
    (∀ p ∈ Trait.optionalSections,
      NullSection file p.2 (Trait.structureProblems format file) (Trait.ofMembers format file)
        (root.put p.1 .null) (root.erase p.1)) ∧
    (∀ p ∈ Object.optionalSections,
      NullSection file p.2 (Object.structureProblems format file) (Object.ofMembers format file)
        (root.put p.1 .null) (root.erase p.1)) :=
  ⟨fun _ hp => Trait.nullSection format file hroot hp, fun _ hp => Object.nullSection format file hroot hp⟩

/-- A trait without sections that may be left out. -/
def bareTrait : Table Json :=
  [("trait", .obj [("name", .str "Note"), ("version", .str "1")]), ("schema", .obj [])]

/-- An object without sections that may be left out. -/
def bareObject : Table Json := [("object", .obj [("name", .str "Page")])]

theorem null_sections_bare :
    (bareTrait.keys.Nodup ∧
      NullSection none (some "a sequence") (Trait.structureProblems .yaml none) (Trait.ofMembers .yaml none)
        (bareTrait.put "parameters" .null) (bareTrait.erase "parameters") ∧
      NullSection none none (Trait.structureProblems .yaml none) (Trait.ofMembers .yaml none)
        (bareTrait.put "state_machine" .null) (bareTrait.erase "state_machine")) ∧
    (bareObject.keys.Nodup ∧
      NullSection none (some "a sequence") (Object.structureProblems .yaml none) (Object.ofMembers .yaml none)
        (bareObject.put "traits" .null) (bareObject.erase "traits")) := by
  have htrait : bareTrait.keys.Nodup := by decide
  have hobject : bareObject.keys.Nodup := by decide
  have hsections := (null_sections .yaml none htrait).1
  exact ⟨⟨htrait, hsections ("parameters", _) (by decide), hsections ("state_machine", _) (by decide)⟩,
    hobject, (null_sections .yaml none hobject).2 ("traits", _) (by decide)⟩

/-- Null does not count as left out for every section: no parameters are not null parameters, and no traits are
not null traits. -/
theorem null_is_not_left_out :
    (¬ ∀ (format : Format) (file : Option Path) (root : Table Json), root.keys.Nodup →
      ∀ key ∈ Trait.optionalSections.keys,
        Trait.ofMembers format file (root.put key .null) = Trait.ofMembers format file (root.erase key)) ∧
    (¬ ∀ (format : Format) (file : Option Path) (root : Table Json), root.keys.Nodup →
      ∀ key ∈ Object.optionalSections.keys,
        Object.ofMembers format file (root.put key .null) = Object.ofMembers format file (root.erase key)) := by
  constructor
  · intro h
    have hsame := h .yaml none bareTrait (by decide) "parameters" (by decide)
    have hrefused : (Trait.ofMembers .yaml none (bareTrait.put "parameters" .null)).isOk = false := by decide
    rw [hsame] at hrefused
    revert hrefused
    decide
  · intro h
    have hsame := h .yaml none bareObject (by decide) "traits" (by decide)
    have hrefused : (Object.ofMembers .yaml none (bareObject.put "traits" .null)).isOk = false := by decide
    rw [hsame] at hrefused
    revert hrefused
    decide

end Document

end TraitWeave
