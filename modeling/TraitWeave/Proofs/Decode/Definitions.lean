import TraitWeave.Proofs.Decode.Stable
import TraitWeave.Object.Basic
import TraitWeave.Trait.Basic

/-!
# Definitions can be written and decoded again

Each part of a trait or an object that was decoded is the same when what is written of it is decoded: the
short forms of references, dependencies and resolutions, the sections that are left out where they are empty,
and the further attributes of fields and metadata in their order.

* `Field.stable`, `Trait.stable`, `Object.stable`: the whole definitions, from their parts.
-/

namespace TraitWeave

open Decode Decode.Record

/-! ## Fields -/

theorem Rules.stable : Stable Rules.decode Rules.encode :=
  Record.stable
    (Keeps.start (fun _ _ _ _ _ _ _ => rfl)
      |>.field stable_values.some? rfl
      |>.field stable_text.some? rfl
      |>.field stable_real.some? rfl
      |>.field stable_real.some? rfl
      |>.field stable_natural.some? rfl
      |>.field stable_natural.some? rfl
      |>.field stable_text.some? rfl) _

/-- Rules are left out where there are none. -/
theorem Rules.fieldStable :
    FieldStable "validation" Rules.decode (some Rules.empty) Rules.encodeMember := by
  intro x r hr
  unfold encodeMember
  split
  · rename_i hempty
    have hnone : r = Rules.empty := by
      cases r
      simp_all [isEmpty, Rules.empty]
    exact ⟨by simp, by rw [hnone]; rfl⟩
  · rename_i hempty
    refine ⟨by simp, ?_⟩
    cases x with
    | none => cases hr; exact absurd rfl hempty
    | some v => exact Rules.stable.again v r hr

theorem Field.stable : Stable Field.decode Field.encode :=
  Record.stableOpen
    (Keeps.start (fun _ _ _ _ _ _ _ _ => rfl)
      |>.field stable_text.some? rfl
      |>.field stable_flag.some? rfl
      |>.field stable_value.some? rfl
      |>.field stable_text.some? rfl
      |>.field stable_value.some? rfl
      |>.field stable_values.some? rfl
      |>.field Rules.fieldStable rfl) _

/-! ## Traits -/

theorem Trait.Info.stable : Stable Trait.Info.decode Trait.Info.encode :=
  Record.stable
    (Keeps.start (fun _ _ _ _ _ _ => rfl)
      |>.field stable_text.required rfl
      |>.field stable_text.required rfl
      |>.field stable_text.some? rfl
      |>.field stable_text.some? rfl
      |>.field stable_text.some? rfl
      |>.field stable_text.list.nonEmpty rfl) _

theorem Parameter.stable : Stable Parameter.decode Parameter.encode :=
  Record.stable
    (Keeps.start (fun _ _ _ _ _ _ _ _ => rfl)
      |>.field stable_text.required rfl
      |>.field (stable_text.always (by rfl)) rfl
      |>.field (stable_flag.always (by rfl)) rfl
      |>.field stable_value.some? rfl
      |>.field stable_text.some? rfl
      |>.field stable_values.some? rfl
      |>.field fieldStable_whenTrue rfl
      |>.field Rules.fieldStable rfl) _

/-- The long form of a dependency. -/
theorem Dependency.stable_long :
    Stable (Dependency.record.decodeNamed "struct variant") Dependency.encode :=
  Record.stableNamed
    (Keeps.start (fun _ _ => rfl)
      |>.field stable_text.required rfl
      |>.field stable_text.some? rfl) _

theorem Dependency.stable : Stable Dependency.decode Dependency.encode := by
  refine stable_firstOf (fun v a h => ?_) stable_long (fun v a h => ?_) fun a => ?_
  · obtain ⟨n, -, rfl⟩ := map_eq_ok.1 h
    rfl
  · obtain ⟨slots, h⟩ := decode_eq_ok (decodeNamed_eq_decode h)
    obtain ⟨f, version, hf, -, rfl⟩ := build_field_eq_ok.1 h
    obtain ⟨g, name, hg, -, rfl⟩ := build_field_eq_ok.1 hf
    cases hg
    exact ⟨_, rfl⟩
  · cases a <;> simp [encode, Encode.record]

theorem StateMachine.stable : Stable StateMachine.decode StateMachine.encode :=
  Record.stable
    (Keeps.start (fun _ _ _ => rfl)
      |>.field stable_values.required rfl
      |>.field stable_text.required rfl
      |>.field (stable_values.always (by rfl)) rfl) _

theorem Trait.Metadata.stable : Stable Trait.Metadata.decode Trait.Metadata.encode :=
  Record.stableOpen
    (Keeps.start (fun _ _ => rfl)
      |>.field stable_text.list.nonEmpty rfl) _

/-- **What was decoded of a trait** is decoded from what is written of it. -/
theorem Trait.stable : Stable Trait.decode Trait.encode :=
  Record.stable
    (Keeps.start (fun _ _ _ _ _ _ _ _ _ _ => rfl)
      |>.field Trait.Info.stable.required rfl
      |>.field Parameter.stable.list.nonEmpty rfl
      |>.field Field.stable.table.required rfl
      |>.field stable_members.nonEmpty rfl
      |>.field stable_members.nonEmpty rfl
      |>.field stable_members.nonEmpty rfl
      |>.field Dependency.stable.list.nonEmpty rfl
      |>.field stable_values.nonEmpty rfl
      |>.field StateMachine.stable.some? rfl
      |>.field (Trait.Metadata.stable.always (by rfl)) rfl) _

/-! ## Objects -/

theorem Strategy.stable : Stable Strategy.decode fun s => .str s.name :=
  stable_variant fun s => by cases s <;> rfl

theorem Depth.stable : Stable Depth.decode fun d => .str d.name :=
  stable_variant fun d => by cases d <;> rfl

theorem Object.Info.stable : Stable Object.Info.decode Object.Info.encode :=
  Record.stable
    (Keeps.start (fun _ _ _ _ _ _ => rfl)
      |>.field stable_text.required rfl
      |>.field stable_text.some? rfl
      |>.field stable_text.some? rfl
      |>.field stable_text.some? rfl
      |>.field stable_text.list.nonEmpty rfl
      |>.field stable_text.list.nonEmpty rfl) _

/-- The long form of a reference. -/
theorem Reference.stable_long :
    Stable (Reference.record.decodeNamed "struct variant") Reference.encode :=
  Record.stableNamed
    (Keeps.start (fun _ _ _ _ _ _ _ => rfl)
      |>.field stable_text.required rfl
      |>.field stable_text.some? rfl
      |>.field stable_text.some? rfl
      |>.field stable_text.some? rfl
      |>.field stable_members.nonEmpty rfl
      |>.field fieldStable_whenTrue rfl
      |>.field fieldStable_whenTrue rfl) _

theorem Reference.stable : Stable Reference.decode Reference.encode := by
  refine stable_firstOf (fun v a h => ?_) stable_long (fun _ _ _ => ⟨_, rfl⟩)
    (fun _ => by simp [encode, Encode.record])
  obtain ⟨n, -, rfl⟩ := map_eq_ok.1 h
  rfl

/-- The long form of a resolution. -/
theorem Resolution.stable_long :
    Stable (Resolution.record.decodeNamed "struct variant") Resolution.encode :=
  Record.stableNamed
    (Keeps.start (fun _ _ => rfl)
      |>.field Strategy.stable.some? rfl
      |>.field stable_value.some? rfl) _

theorem Resolution.stable : Stable Resolution.decode Resolution.encode := by
  refine stable_firstOf (fun v a h => ?_) stable_long (fun _ a _ => ?_)
    (fun _ => by simp [encode, Encode.record])
  · obtain ⟨s, -, rfl⟩ := map_eq_ok.1 h
    cases s <;> rfl
  · -- no strategy has the name of one of the two members
    obtain ⟨strategy, override⟩ := a
    cases strategy <;> cases override <;> exact ⟨_, rfl⟩

theorem Resolutions.stable : Stable Resolutions.decode Resolutions.encode :=
  Record.stable
    (Keeps.start (fun _ _ _ _ _ => rfl)
      |>.field Resolution.stable.table.nonEmpty rfl
      |>.field Resolution.stable.table.nonEmpty rfl
      |>.field Resolution.stable.table.nonEmpty rfl
      |>.field Resolution.stable.table.nonEmpty rfl
      |>.field (Depth.stable.always (by rfl)) rfl) _

/-- **What was decoded of an object** is decoded from what is written of it. -/
theorem Object.stable : Stable Object.decode Object.encode :=
  Record.stable
    (Keeps.start (fun _ _ _ _ _ _ _ _ _ => rfl)
      |>.field Object.Info.stable.required rfl
      |>.field Reference.stable.list.nonEmpty rfl
      |>.field Field.stable.table.nonEmpty rfl
      |>.field stable_members.nonEmpty rfl
      |>.field stable_members.nonEmpty rfl
      |>.field stable_members.nonEmpty rfl
      |>.field stable_values.nonEmpty rfl
      |>.field (Resolutions.stable.always (by rfl)) rfl
      |>.field stable_members.nonEmpty rfl) _

end TraitWeave
