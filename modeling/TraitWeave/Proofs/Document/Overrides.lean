import TraitWeave.Proofs.Compose.Overrides
import TraitWeave.Proofs.Document.Distinct
import TraitWeave.Proofs.Document.RoundTrip

/-!
# The overrides of a document take effect

The override of a field is checked in the document, where it must be a declaration, and is decoded again much later,
when an object is composed. In between it is kept as the value that it was, under the key that it had. So every
override of a document that was accepted is a declaration when it is put over the layers.

* `Object.at?_override`: the override of a field, in the object and in the document.
* `Object.field_of_override`: what the document has for an override is a declaration.
* `Object.parse_overridden`: **no override of an accepted document is passed over.**
-/

namespace TraitWeave

open Decode Decode.Record Document

namespace Object

variable {text : String} {format : Format} {file : Option Path} {root : Table Json} {o : Object}

/-! ## The resolutions of an object -/

/-- The resolutions of the fields are for different fields. -/
theorem nodup_fields (h : ofMembers format file root = .ok o) (hroot : (Json.obj root).Distinct) :
    o.resolutions.fields.keys.Nodup := by
  rcases fields_decoded h with ⟨-, hnil⟩ | ⟨ms, hms, hdecode⟩
  · rw [hnil]
    exact List.nodup_nil
  · rw [keys_of_eachMember hdecode]
    exact hroot _ ms hms

theorem at?_override_eq (root : Table Json) (key : String) :
    (Json.obj root).at? ["resolutions", "fields", key, "override"] =
      ((Json.obj root).at? ["resolutions", "fields"]).bind (Json.at? · [key, "override"]) :=
  Json.at?_append (Json.obj root) ["resolutions", "fields"] [key, "override"]

/-- The override of a field stands in the document as it is in the object. -/
theorem at?_override (h : ofMembers format file root = .ok o) (key : String) (v : Json) :
    (∃ r, o.resolutions.fields.get? key = some r ∧ r.override = some v) ↔
      (Json.obj root).at? ["resolutions", "fields", key, "override"] = some v ∧ v ≠ .null := by
  rw [at?_override_eq]
  rcases fields_decoded h with ⟨hnone, hnil⟩ | ⟨ms, hms, hdecode⟩
  · simp [hnone, hnil]
  · have hrel := rel_of_eachMember hdecode key
    rw [hms, Option.bind_some, Json.at?_cons, Json.member?_obj]
    generalize Table.get? ms key = x, o.resolutions.fields.get? key = y at hrel ⊢
    cases hrel with
    | none => simp
    | some hresolution => simpa [Json.at?_cons] using Resolution.override_eq_some hresolution v

/-- An override without problems is a declaration. -/
theorem field_of_overrideProblems {key : String} {v w : Json} (h : overrideProblems file key v = [])
    (hw : v.member? "override" = some w) : w ≠ .null ∧ ∃ f, Field.decode w = .ok f := by
  unfold overrideProblems at h
  rw [hw] at h
  obtain ⟨hfits, hfield⟩ := andThen_eq_nil.1 h
  constructor
  · rintro rfl
    cases expect_eq_nil.1 hfits
  · cases hdecode : Field.decode w with
    | ok f => exact ⟨f, rfl⟩
    | error e => rw [hdecode] at hfield; cases hfield

/-- **What the document has as an override** is a declaration. -/
theorem field_of_override (h : ofMembers format file root = .ok o) {key : String} {w : Json}
    (hw : (Json.obj root).at? ["resolutions", "fields", key, "override"] = some w) :
    w ≠ .null ∧ ∃ f, Field.decode w = .ok f := by
  obtain ⟨fields, hfields, hpath⟩ := Option.bind_eq_some_iff.1 ((at?_override_eq root key).symm.trans hw)
  obtain ⟨v, hv, hpath⟩ := Option.bind_eq_some_iff.1 hpath
  obtain ⟨w', hw', hnil⟩ := Option.bind_eq_some_iff.1 hpath
  obtain rfl := Option.some.inj hnil
  cases fields with
  | obj ms =>
    exact field_of_overrideProblems (overrideProblems_eq_nil h hfields (key, v) (Table.mem_of_get? hv)) hw'
  | _ => cases hv

/-! ## Accepted documents -/

/-- **No override of an accepted document is passed over.** What its object has as the override of a field is what
the document has. It is a declaration, and takes effect whatever the object is composed with: it is merged over what
the field is without it, or is all that the field is where no other layer declares it; it counts as the source of the
field; and one entry notes that it took effect. -/
theorem parse_overridden (h : parse text format file = .ok o) :
    ∃ root, Document.read text format file = .ok root ∧
      (∀ key v, (∃ r, o.resolutions.fields.get? key = some r ∧ r.override = some v) ↔
        (Json.obj root).at? ["resolutions", "fields", key, "override"] = some v) ∧
      ∀ key v, (Json.obj root).at? ["resolutions", "fields", key, "override"] = some v →
        ∃ r f, o.resolutions.fields.get? key = some r ∧ Field.decode v = .ok f ∧
          ∀ foundation resolved base, Overridden foundation o resolved base key r.strategy f := by
  obtain ⟨tree, root, htree, hmembers, hobject⟩ := parse_eq_ok.1 h
  have hread := (read_eq_ok file).2 ⟨tree, htree, hmembers⟩
  have hsame (key : String) (v : Json) :
      (∃ r, o.resolutions.fields.get? key = some r ∧ r.override = some v) ↔
        (Json.obj root).at? ["resolutions", "fields", key, "override"] = some v := by
    rw [at?_override hobject, and_iff_left_iff_imp]
    exact fun hv => (field_of_override hobject hv).1
  refine ⟨root, hread, hsame, fun key v hv => ?_⟩
  obtain ⟨r, hr, hoverride⟩ := (hsame key v).2 hv
  obtain ⟨-, f, hf⟩ := field_of_override hobject hv
  have hfield : fieldOverride? r = some f := by
    rw [fieldOverride?, hoverride, Option.bind_some, hf]
    rfl
  exact ⟨r, f, hr, hf, overridden (nodup_fields hobject (distinct_read hread)) hr hfield⟩

/-- An object with an override for a field that its foundation has, and one for a field of its own. -/
def stamped : String :=
  "object: \x7bname: Page\x7d\nresolutions:\n  fields:\n" ++
    "    id: \x7bstrategy: merge, override: \x7btype: uuid\x7d\x7d\n" ++
    "    seal: \x7boverride: \x7btype: string\x7d\x7d\n"

theorem parse_overridden_stamped :
    ∃ o, parse stamped .yaml none = .ok o ∧
      ∃ root, Document.read stamped .yaml none = .ok root ∧
        ∀ key ∈ ["id", "seal"], ∃ v r f,
          (Json.obj root).at? ["resolutions", "fields", key, "override"] = some v ∧
          o.resolutions.fields.get? key = some r ∧ Field.decode v = .ok f ∧
          ∀ foundation resolved base, Overridden foundation o resolved base key r.strategy f := by
  have hobject : (parse stamped .yaml none).isOk = true := by decide +kernel
  have hoverrides : ∀ key ∈ ["id", "seal"],
      ((Document.read stamped .yaml none).toOption.bind fun root =>
        (Json.obj root).at? ["resolutions", "fields", key, "override"]).isSome = true := by decide +kernel
  cases ho : parse stamped .yaml none with
  | error ps => rw [ho] at hobject; cases hobject
  | ok o =>
    obtain ⟨root, hread, -, hall⟩ := parse_overridden ho
    refine ⟨o, rfl, root, hread, fun key hkey => ?_⟩
    have hsome := hoverrides key hkey
    rw [hread] at hsome
    obtain ⟨v, hv⟩ := Option.isSome_iff_exists.1 hsome
    obtain ⟨r, f, hr, hf, hoverridden⟩ := hall key v hv
    exact ⟨v, r, f, hv, hr, hf, hoverridden⟩

end Object

end TraitWeave
