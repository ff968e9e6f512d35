import TraitWeave.Proofs.Name
import TraitWeave.Proofs.Table
import TraitWeave.Registry.Index

/-!
# What the index does to its records

The index normalizes every name that it is given, so a name that is normalized already is its own key.

* `Index.get?_eq`, `Index.has_eq`: what is found under a key.
* `Index.remove_records`, `Index.insert_records`: how the records change.
-/

namespace TraitWeave

namespace Record

@[simp] theorem normalize_key (r : Record) : Name.normalize r.key = r.key :=
  Name.normalize_normalize _

@[simp] theorem of_key (o : Object) (p : Path) (s : Stamp) :
    (Record.of o p s).key = Name.normalize o.name :=
  Name.normalize_trim _

end Record

namespace Index

variable {k : String}

theorem get?_eq (ix : Index) (hk : Name.normalize k = k) : ix.get? k = ix.records.get? k := by
  rw [get?, hk]

theorem has_eq (ix : Index) (hk : Name.normalize k = k) : ix.has k = (ix.records.get? k).isSome := by
  rw [has, hk, Table.has_eq]

/-- Removing a name leaves the other records, and tells which one it was. -/
theorem remove_records (ix : Index) (hk : Name.normalize k = k) :
    (ix.remove k).1.records = ix.records.erase k ∧ (ix.remove k).2 = ix.records.get? k := by
  unfold remove
  simp only [hk]
  cases h : ix.records.get? k with
  | none => exact ⟨(Table.erase_of_get?_none h).symm, rfl⟩
  | some r => exact ⟨rfl, rfl⟩

/-- Inserting a record puts it in the place of the one of its name, and tells which one that was. -/
theorem insert_records {ix : Index} (h : ix.records.Rising) (r : Record) :
    (ix.insert r).1.records = ix.records.place r.key r ∧
      (ix.insert r).2 = ix.records.get? r.key := by
  obtain ⟨hrest, hprevious⟩ := remove_records ix r.normalize_key
  refine ⟨?_, hprevious⟩
  calc (ix.insert r).1.records = (ix.remove r.key).1.records.place r.key r := rfl
    _ = (ix.records.erase r.key).place r.key r := by rw [hrest]
    _ = ix.records.place r.key r := h.place_erase _ _

end Index

end TraitWeave
