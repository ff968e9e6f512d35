import TraitWeave.Proofs.Decode.Members
import TraitWeave.Proofs.Document.RoundTrip

/-!
# The strict format narrows the lenient one

In the lenient format short forms are written out before a document is decoded. The strict format refuses them
instead, by checks that come after those of the lenient one. A document that passes these checks has no short
forms, so writing them out changes nothing.

* `Document.expandShorthand_of_decode`: a decoded document whose declarations are objects has no short forms.
* `Document.ofTree`: what becomes of a value that a text holds.
* `Document.Narrows`: one format accepts less than the other, but nothing as something else.
* `Trait.narrows`, `Object.narrows`: the documents of each kind.
* `Document.strict_within_lenient`: **every value, read as a document of either kind.**
* `Document.parse_lenient`: the same for texts.
-/

namespace TraitWeave

open Decode Decode.Record

namespace Document

variable {α : Type} {file : Option Path} {root : Table Json}

/-! ## Shorthand -/

theorem expandDeclaration_of_fits {v : Json} (h : Shape.object.fits v = true) : expandDeclaration v = v := by
  cases v with
  | obj ms => rfl
  | _ => cases h

/-- A schema in which every declaration is written out has no shorthand. -/
theorem expandShorthand_eq_self
    (h : ∀ fields, ("schema", Json.obj fields) ∈ root → ∀ p ∈ fields, Shape.object.fits p.2 = true) :
    expandShorthand root = root := by
  unfold expandShorthand
  refine (List.map_congr_left fun p hp => ?_).trans (List.map_id _)
  split
  · rename_i fields
    have hfields : Table.mapValues expandDeclaration fields = fields := by
      refine (List.map_congr_left (g := id) fun q hq => ?_).trans (List.map_id _)
      exact Prod.ext rfl (expandDeclaration_of_fits (h fields hp q hq))
    rw [hfields]
    rfl
  · rfl

/-- Where the declarations of the schema pass the strict check and the document was decoded, it has no
shorthand. A schema behind the first one would be shorthand that the check does not see, but it is refused. -/
theorem expandShorthand_of_decode {r : Decode.Record α} {i : Nat} {rule : FieldRule} (hi : r.Simple i rule)
    (hname : rule.name = "schema") (hschema : schemaDeclarations file root = []) {label : String} {a : α}
    (h : r.decode label (.obj root) = .ok a) : expandShorthand root = root := by
  refine expandShorthand_eq_self fun fields hmem p hp => ?_
  rw [← hname] at hmem
  have hget := get?_of_mem hi h hmem
  rw [hname] at hget
  unfold schemaDeclarations at hschema
  rw [hget] at hschema
  exact expect_eq_nil.1 (List.flatMap_eq_nil_iff.1 hschema p hp)

/-! ## Both formats -/

/-- What becomes of a value that a text holds: the outcome of its members, if it has members. -/
def ofTree (file : Option Path) (outcome : Table Json → Except (List Problem) α) (tree : Json) :
    Except (List Problem) α :=
  match members tree with
  | .error c => .error [.ofCause file c]
  | .ok root => outcome root

/-- What is found in a value that a text holds. -/
def problemsOfTree (file : Option Path) (checks : Table Json → List Problem) (tree : Json) : List Problem :=
  match members tree with
  | .error c => [.ofCause file c]
  | .ok root => checks root

/-- **The strict format narrows the lenient one**: what it accepts the lenient one accepts as the same, and where
the lenient checks have problems the strict ones have the same and perhaps more. -/
structure Narrows (checks : Format → List Problem) (outcome : Format → Except (List Problem) α) : Prop where
  accepted : ∀ a, outcome .json = .ok a → outcome .yaml = .ok a
  refused : checks .yaml ≠ [] →
    outcome .yaml = .error (checks .yaml) ∧ ∃ more, outcome .json = .error (checks .yaml ++ more)

/-- The strict format narrows the lenient one if it adds some checks, and a document that passes them has no
shorthand. -/
theorem Narrows.of_more {decode : Decoder α} {checks : Format → Table Json → List Problem}
    {outcome : Format → Table Json → Except (List Problem) α} {more : List Problem}
    (hjudges : ∀ format, Judges format file decode (checks format) (outcome format))
    (hchecks : checks .json root = checks .yaml root ++ more)
    (hplain : ∀ a, more = [] → decode (.obj root) = .ok a → expandShorthand root = root) :
    Narrows (checks · root) (outcome · root) where
  accepted a h := by
    obtain ⟨hnone, hdecode⟩ := (hjudges .json).accepted.1 h
    rw [hchecks, List.append_eq_nil_iff] at hnone
    refine (hjudges .yaml).accepted.2 ⟨hnone.1, ?_⟩
    have hroot := hplain a hnone.2 hdecode
    change decode (.obj (expandShorthand root)) = .ok a
    rw [hroot]
    exact hdecode
  refused h := by
    have hstrict : checks .json root ≠ [] := by
      rw [hchecks]
      exact List.append_ne_nil_of_left_ne_nil h more
    exact ⟨(hjudges .yaml).found root h, more, hchecks ▸ (hjudges .json).found root hstrict⟩

/-- A value that is no document is refused in both formats alike. -/
theorem Narrows.ofTree {checks : Format → Table Json → List Problem}
    {outcome : Format → Table Json → Except (List Problem) α}
    (h : ∀ root, Narrows (checks · root) (outcome · root)) (file : Option Path) (tree : Json) :
    Narrows (fun format => problemsOfTree file (checks format) tree)
      (fun format => Document.ofTree file (outcome format) tree) := by
  unfold problemsOfTree Document.ofTree
  cases members tree with
  | error c => exact ⟨fun a ha => (nomatch ha), fun _ => ⟨rfl, [], rfl⟩⟩
  | ok root => exact h root

end Document

open Document

namespace Trait

variable {text : String} {format : Format} {file : Option Path} {root : Table Json}

theorem structureProblems_json : structureProblems .json file root =
    structureProblems .yaml file root ++ strictProblems file root := by
  simp [structureProblems, Format.isStrict]

theorem narrows (file : Option Path) (root : Table Json) :
    Narrows (structureProblems · file root) (ofMembers · file root) := by
  refine .of_more (judges · file) structureProblems_json fun t hstrict hdecode => ?_
  simp only [strictProblems, List.append_eq_nil_iff] at hstrict
  exact expandShorthand_of_decode (r := record) (i := 2) ⟨rfl, rfl, rfl⟩ rfl hstrict.1.2 hdecode

end Trait

namespace Object

variable {format : Format} {file : Option Path} {root : Table Json}

theorem structureProblems_json : structureProblems .json file root =
    structureProblems .yaml file root ++ strictProblems file root := by
  simp [structureProblems, Format.isStrict]

theorem narrows (file : Option Path) (root : Table Json) :
    Narrows (structureProblems · file root) (ofMembers · file root) := by
  refine .of_more (judges · file) structureProblems_json fun o hstrict hdecode => ?_
  simp only [strictProblems, List.append_eq_nil_iff] at hstrict
  exact expandShorthand_of_decode (r := record) (i := 2) ⟨rfl, rfl, rfl⟩ rfl hstrict.2 hdecode

end Object

namespace Document

/-- What becomes of a text is what becomes of the value that it holds. -/
theorem parse_eq (text : String) (format : Format) (file : Option Path) :
    Trait.parse text format file = (match decodeText text format with
      | .error c => .error [.ofCause file c]
      | .ok tree => ofTree file (Trait.ofMembers format file) tree) ∧
    Object.parse text format file = (match decodeText text format with
      | .error c => .error [.ofCause file c]
      | .ok tree => ofTree file (Object.ofMembers format file) tree) := by
  unfold Trait.parse Object.parse Document.read ofTree
  cases decodeText text format with
  | error c => exact ⟨rfl, rfl⟩
  | ok tree =>
    dsimp only
    cases members tree <;> exact ⟨rfl, rfl⟩

/-- A definition in the strict format can be written in the lenient one by any text that holds the same value. -/
theorem parse_lenient {strict lenient : String} {tree : Json} (hstrict : decodeText strict .json = .ok tree)
    (hlenient : decodeText lenient .yaml = .ok tree) (file : Option Path) :
    (∀ t, Trait.parse strict .json file = .ok t → Trait.parse lenient .yaml file = .ok t) ∧
    (∀ o, Object.parse strict .json file = .ok o → Object.parse lenient .yaml file = .ok o) := by
  rw [(parse_eq strict .json file).1, (parse_eq strict .json file).2, (parse_eq lenient .yaml file).1,
    (parse_eq lenient .yaml file).2, hstrict, hlenient]
  exact ⟨(Narrows.ofTree (Trait.narrows file) file tree).accepted,
    (Narrows.ofTree (Object.narrows file) file tree).accepted⟩

/-- **The strict format is part of the lenient one.** Whatever value a text holds, read as a trait or as an
object: if it is accepted under the strict rules it is accepted under the lenient ones, as the same definition; and
if the lenient checks have problems, these are the first that the strict rules report. -/
theorem strict_within_lenient (file : Option Path) (tree : Json) :
    Narrows (fun format => problemsOfTree file (Trait.structureProblems format file) tree)
      (fun format => ofTree file (Trait.ofMembers format file) tree) ∧
    Narrows (fun format => problemsOfTree file (Object.structureProblems format file) tree)
      (fun format => ofTree file (Object.ofMembers format file) tree) :=
  ⟨.ofTree (Trait.narrows file) file tree, .ofTree (Object.narrows file) file tree⟩

/-- A short form is accepted under the lenient rules only. -/
example :
    let tree := Json.obj [("object", .obj [("name", .str "Page")]), ("schema", .obj [("id", .str "uuid")])]
    (ofTree none (Object.ofMembers .yaml none) tree).isOk = true ∧
      ofTree none (Object.ofMembers .json none) tree =
        .error [.ofField none "schema.id" (.wrongShape .object .str)] :=
  ⟨by decide, rfl⟩

end Document

end TraitWeave
