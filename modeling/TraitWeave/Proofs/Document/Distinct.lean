import TraitWeave.Proofs.Decode.Stable
import TraitWeave.Proofs.Json.Merge
import TraitWeave.Proofs.Object.Document

/-!
# Documents have no name twice

Both readers put the members of an object into a table one after the other, so a name that comes again takes the
place of the earlier one. No object in what they give has a name twice.

* `Json.distinct_ofPairs`: members that are put one after the other.
* `Json.distinct_parse`, `Yaml.distinct_parse`: the values that texts hold.
* `Document.distinct_read`: the members of a document.
-/

namespace TraitWeave

open Decode

namespace Json

/-- **Members that are put one after the other** have different names. -/
theorem distinct_ofPairs {ms : List (String × Json)} (h : ∀ p ∈ ms, p.2.Distinct) :
    (obj (Table.ofPairs ms)).Distinct :=
  distinct_obj (Table.nodup_ofPairs ms) fun p hp => h p (Table.mem_of_mem_ofPairs hp)

/-! ## Reading JSON -/

theorem readWord_eq_ok {word cs rest : List Char} {v w : Json} (h : readWord word v cs = .ok (w, rest)) :
    w = v := by
  induction word generalizing cs with
  | nil => cases h; rfl
  | cons c word ih =>
    cases cs with
    | nil => cases h
    | cons d cs =>
      rw [readWord] at h
      split at h
      · exact ih h
      · cases h

/-- What is made of a reading that gives no objects has no members. -/
theorem distinct_of_map {α : Type} {read : Read α} {f : α × List Char → Json × List Char} {v : Json}
    {rest : List Char} (hf : ∀ p, (f p).1.asObj? = none) (h : read.map f = .ok (v, rest)) : v.Distinct := by
  obtain ⟨p, -, hp⟩ := map_eq_ok.1 h
  have hv := hf p
  rw [hp] at hv
  exact distinct_of_asObj?_eq_none hv

/-- No object in a value that is read with this fuel has a name twice. -/
def ValueDistinct (fuel : Nat) : Prop :=
  ∀ depth cs v rest, readValue depth cs fuel = .ok (v, rest) → v.Distinct

/-- The members that are read with this fuel have such values, if those have that were read before. -/
def MembersDistinct (fuel : Nat) : Prop :=
  ∀ depth first acc cs ms rest, (∀ p ∈ acc, p.2.Distinct) →
    readMembers depth first acc cs fuel = .ok (ms, rest) → ∀ p ∈ ms, p.2.Distinct

/-- Only an object has members, and it puts those that are read one after the other. -/
theorem valueDistinct_succ {fuel : Nat} (hmembers : MembersDistinct fuel) : ValueDistinct (fuel + 1) := by
  intro depth cs v rest h
  unfold readValue at h
  dsimp only at h
  split at h
  · cases h
  · exact readWord_eq_ok h ▸ distinct_of_asObj?_eq_none rfl
  · exact readWord_eq_ok h ▸ distinct_of_asObj?_eq_none rfl
  · exact readWord_eq_ok h ▸ distinct_of_asObj?_eq_none rfl
  · exact distinct_of_map (fun _ => rfl) h
  · exact distinct_of_map (fun _ => rfl) h
  · split at h
    · cases h
    · exact distinct_of_map (fun _ => rfl) h
  · split at h
    · cases h
    · obtain ⟨⟨ms, r⟩, hms, ha⟩ := map_eq_ok.1 h
      cases ha
      exact distinct_ofPairs (hmembers _ _ _ _ _ _ (by simp) hms)
  · split at h
    · exact distinct_of_map (fun _ => rfl) h
    · cases h

/-- Members are read one by one: each is a value, and what was read before it is kept. -/
theorem membersDistinct_succ {fuel : Nat} (hvalue : ValueDistinct fuel) (hmembers : MembersDistinct fuel) :
    MembersDistinct (fuel + 1) := by
  intro depth first acc cs ms rest hacc h
  unfold readMembers at h
  extract_lets entry cs' at h
  -- one more member is read, and then the rest
  have hentry : ∀ cs, entry cs = .ok (ms, rest) → ∀ p ∈ ms, p.2.Distinct := by
    intro cs hcs
    unfold entry at hcs
    split at hcs
    · cases hcs
    · split at hcs
      · cases hcs
      · split at hcs
        · rename_i v _ hv
          have hnext : v.Distinct := hvalue _ _ _ _ hv
          exact hmembers _ _ _ _ _ _ (List.forall_mem_cons.2 ⟨hnext, hacc⟩) hcs
        · cases hcs
      · cases hcs
  clear_value cs'
  split at h
  · cases h
  · -- the end of the object: what was read so far, turned around
    cases h
    intro p hp
    exact hacc p (List.mem_reverse.1 hp)
  · split at h
    · cases h
    · split at h
      · cases h
      · exact hentry _ h
      · cases h
      · cases h
  · split at h
    · exact hentry _ h
    · cases h
  · split at h <;> cases h

/-- **A reader of JSON** gives values in which no object has a name twice, and members with such values. The two
readers call each other with less fuel, so both are followed by induction on it. -/
theorem distinct_readValue_readMembers (fuel : Nat) : ValueDistinct fuel ∧ MembersDistinct fuel := by
  induction fuel with
  | zero => exact ⟨fun _ _ _ _ h => (nomatch h), fun _ _ _ _ _ _ _ h => (nomatch h)⟩
  | succ fuel ih => exact ⟨valueDistinct_succ ih.2, membersDistinct_succ ih.1 ih.2⟩

theorem distinct_parse {text : String} {v : Json} (h : parse text = .ok v) : v.Distinct := by
  unfold parse at h
  dsimp only at h
  split at h
  · rename_i v' hv
    cases h
    split at hv
    · cases hv
    · rename_i hread
      split at hv
      · cases hv
        exact (distinct_readValue_readMembers _).1 _ _ _ _ hread
      · cases hv
  · cases h

end Json

/-! ## Reading YAML -/

namespace Yaml

open Json (distinct_of_asObj?_eq_none)

variable {d : Document} {fuel : Nat}

/-- No object in the value of a node, found with this fuel, has a name twice. -/
def ValueDistinct (d : Document) (fuel : Nat) : Prop :=
  ∀ depth t links n v links', d.value depth t links n fuel = .ok (v, links') → v.Distinct

/-- The entries of a mapping, found with this fuel, have such values. -/
def EntriesDistinct (d : Document) (fuel : Nat) : Prop :=
  ∀ depth t m links first parts ms links', d.entries depth t m links first parts fuel = .ok (ms, links') →
    ∀ p ∈ ms, p.2.Distinct

/-- A link has the value of what it leads to, and only a mapping has members. -/
theorem valueDistinct_succ (hvalue : ValueDistinct d fuel) (hentries : EntriesDistinct d fuel) :
    ValueDistinct d (fuel + 1) := by
  intro depth t links n v links' h
  unfold Document.value at h
  split at h
  · cases h
  · cases h; exact distinct_of_asObj?_eq_none rfl
  · split at h
    · cases h
    · exact hvalue _ _ _ _ _ _ h
  · split at h
    · cases h
    · split at h <;> cases h <;> exact distinct_of_asObj?_eq_none rfl
  · split at h
    · cases h
    · split at h
      · cases h
      · split at h
        · cases h
        · cases h; exact distinct_of_asObj?_eq_none rfl
  · -- a mapping
    split at h
    · cases h
    · split at h
      · cases h
      · split at h
        · cases h
        · rename_i hms
          cases h
          exact Json.distinct_ofPairs (hentries _ _ _ _ _ _ _ _ hms)

/-- Entries are a key and a value in turn. -/
theorem entriesDistinct_succ (hvalue : ValueDistinct d fuel) (hentries : EntriesDistinct d fuel) :
    EntriesDistinct d (fuel + 1) := by
  intro depth t m links first parts ms links' h
  unfold Document.entries at h
  split at h
  · cases h; simp
  · split at h
    · cases h
    · split at h
      · cases h
      · split at h
        · cases h
        · rename_i hv
          split at h
          · cases h
          · rename_i hms
            cases h
            exact List.forall_mem_cons.2 ⟨hvalue _ _ _ _ _ _ hv, hentries _ _ _ _ _ _ _ _ hms⟩

/-- **The values of a document** have no name twice in an object, and neither have those in the entries of a
mapping. Here too the two are found with less fuel from each other. -/
theorem distinct_value_entries (d : Document) (fuel : Nat) : ValueDistinct d fuel ∧ EntriesDistinct d fuel := by
  induction fuel with
  | zero => exact ⟨fun _ _ _ _ _ _ h => (nomatch h), fun _ _ _ _ _ _ _ _ h => (nomatch h)⟩
  | succ fuel ih => exact ⟨valueDistinct_succ ih.1 ih.2, entriesDistinct_succ ih.1 ih.2⟩

theorem distinct_parse {text : String} {v : Json} (h : parse text = .ok v) : v.Distinct := by
  unfold parse parseWith at h
  dsimp only at h
  split at h
  · cases h
  · rename_i hread
    split at h
    · cases h
    · split at h
      · cases h
        exact (distinct_value_entries _ _).1 _ _ _ _ _ _ hread
      · cases h

end Yaml

namespace Document

/-- **The members of a document** have different names, and so have the members of every object in it. -/
theorem distinct_read {text : String} {format : Format} {file : Option Path} {root : Table Json}
    (h : Document.read text format file = .ok root) : (Json.obj root).Distinct := by
  obtain ⟨v, hv, hmembers⟩ := (read_eq_ok file).1 h
  have hdistinct : v.Distinct := by
    unfold decodeText at hv
    split at hv
    · split at hv
      · rename_i hparse
        cases hv
        exact Json.distinct_parse hparse
      · cases hv
    · split at hv
      · rename_i hparse
        cases hv
        exact Yaml.distinct_parse hparse
      · cases hv
  cases v with
  | obj ms => cases hmembers; exact hdistinct
  | _ => cases hmembers

end Document

end TraitWeave
