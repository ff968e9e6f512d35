import TraitWeave.Proofs.Registry.Queries
import TraitWeave.Proofs.Trait.Segments

/-!
# Finding objects by what they load

For a reference the file of a trait is sought under the leaf of its name. The index keeps the object under the text
after the last slash. An object is found by the leaf of a reference where the two are the same, and else only by chance.

* `Record.leaf_mem_referenceKeys`: when the keys of a reference have its leaf.
* `Index.findByTrait_leaf`: which records are found by the leaf of one of their references.
-/

namespace TraitWeave

open Text (IsSegment)

/-- The leaf of a reference is among its keys if the text after the last slash is one segment, or if the nickname is
like the leaf. -/
theorem Record.leaf_mem_referenceKeys {s : Reference} (h : Request.splitSegments s.name ≠ []) :
    Name.normalize s.request.leaf ∈ referenceKeys s ↔
      IsSegment (Name.lastSegment s.name).toList ∨
        ∃ nickname, s.nickname = some nickname ∧ Name.normalize nickname = Name.normalize s.request.leaf := by
  have hlast := Request.normalize_leaf_iff (r := s.request) h
  have hwhole := Request.lastSegment_of_normalize_leaf (r := s.request) h
  unfold referenceKeys
  simp only [List.mem_append, List.mem_cons, List.not_mem_nil, or_false, Option.mem_toList, Option.map_eq_some_iff]
  refine or_congr_left ⟨?_, fun hsegment => .inr (hlast.2 hsegment)⟩
  rintro (hname | hafter)
  · -- a name like its leaf has no slash, so the text after the last one is the whole name
    exact hlast.1 (hname.trans (congrArg Name.normalize (hwhole hname)).symm)
  · exact hlast.1 hafter

namespace Index

/-- **Which records are found by the leaf of one of their references**, after any use of an index: those where the text
after the last slash is one segment. Of the others only those are found that have a nickname or another reference
that is like the leaf. -/
theorem findByTrait_leaf (steps : List Step) (mode : MatchMode) {r : Record} (hr : r ∈ (run steps).list)
    {s : Reference} (hs : s ∈ r.definition.activeTraits) (hname : Request.splitSegments s.name ≠ []) :
    r ∈ (run steps).findByTrait [s.request.leaf] mode ↔
      IsSegment (Name.lastSegment s.name).toList ∨
        (∃ nickname, s.nickname = some nickname ∧ Name.normalize nickname = Name.normalize s.request.leaf) ∨
        ∃ other ∈ r.definition.activeTraits, other ≠ s ∧
          Name.normalize s.request.leaf ∈ Record.referenceKeys other := by
  have hselects : mode.selects [s.request.leaf] r.hasTrait = r.hasTrait s.request.leaf := by
    cases mode <;> simp [MatchMode.selects]
  rw [(run_scans steps).findByTrait, List.mem_filter, hselects, Record.hasTrait_iff, ← or_assoc,
    ← Record.leaf_mem_referenceKeys hname]
  unfold Record.traitKeys
  rw [List.mem_flatMap]
  constructor
  · rintro ⟨-, other, hother, hkey⟩
    obtain rfl | hother' := eq_or_ne other s
    · exact .inl hkey
    · exact .inr ⟨other, hother, hother', hkey⟩
  · rintro (hkey | ⟨other, hother, -, hkey⟩)
    · exact ⟨hr, s, hs, hkey⟩
    · exact ⟨hr, other, hother, hkey⟩

/-- The record of an object with one reference. -/
def referring (name : String) : Record :=
  Record.of ⟨⟨"Doc", none, none, none, [], []⟩, [Reference.named name], [], [], [], [], [], Resolutions.empty, []⟩
    ⟨"Doc.object.yaml"⟩ ⟨0, 0⟩

theorem findByTrait_leaf_slash :
    referring "audit/Auditable" ∈ (run [.insert (referring "audit/Auditable")]).findByTrait ["Auditable"] .any := by
  have hleaf : (Reference.named "audit/Auditable").request.leaf = "Auditable" := by decide +kernel
  have hlast : Name.lastSegment "audit/Auditable" = "Auditable" := by decide +kernel
  have hsegment : IsSegment "Auditable".toList :=
    ⟨⟨'A', by decide, by decide⟩, by decide, by decide, by decide⟩
  rw [← hleaf]
  exact (findByTrait_leaf [.insert (referring "audit/Auditable")] .any List.mem_cons_self
    (s := .named "audit/Auditable") List.mem_cons_self (by decide +kernel)).2 (.inl (hlast ▸ hsegment))

/-- **Not every record is found by what it loads**: a double colon, a backslash and a slash at the end lead to the file
of the trait, and hide the object. -/
theorem not_findByTrait_leaf :
    (¬ ∀ steps : List Step, ∀ r ∈ (run steps).list, ∀ s ∈ r.definition.activeTraits,
      Request.splitSegments s.name ≠ [] → r ∈ (run steps).findByTrait [s.request.leaf] .any) ∧
    ∀ name ∈ ["audit::Auditable", "audit\\Auditable", "audit/Auditable/"],
      (Reference.named name).request.leaf = "Auditable" ∧
        (run [.insert (referring name)]).findByTrait ["Auditable"] .any = [] := by
  have hhidden : ∀ name ∈ ["audit::Auditable", "audit\\Auditable", "audit/Auditable/"],
      (Reference.named name).request.leaf = "Auditable" ∧
        (run [.insert (referring name)]).findByTrait ["Auditable"] .any = [] := by
    simp only [← List.isEmpty_iff]
    decide +kernel
  refine ⟨fun h => ?_, hhidden⟩
  obtain ⟨hleaf, hnone⟩ := hhidden "audit::Auditable" List.mem_cons_self
  have hfound := h [.insert (referring "audit::Auditable")] _ List.mem_cons_self (.named "audit::Auditable")
    List.mem_cons_self (by decide +kernel)
  rw [hleaf, hnone] at hfound
  cases hfound

end Index

end TraitWeave
