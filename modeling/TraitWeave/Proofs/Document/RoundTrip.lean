import TraitWeave.Proofs.Decode.Definitions
import TraitWeave.Proofs.Json.Merge
import TraitWeave.Proofs.Object.Document
import TraitWeave.Proofs.Table
import TraitWeave.Trait.Document

/-!
# Accepted documents are written in the strict format

A definition that some document gave is written as members that pass all checks of the strict format and
give the same definition, whatever format the document had and whatever short forms it used.

* `Resolution.override_eq_some`, `Object.fields_decoded`: where the resolutions of fields come from.
* `Trait.structureProblems_members`, `Object.structureProblems_members`: what is written passes the checks.
* `Document.parse_encode`: every definition that a document gave is given again.
-/

namespace TraitWeave

open Decode Decode.Record Document

/-! ## Members that are written -/

namespace Encode

/-- The members that are not left out. -/
def written (ms : List (Option (String × Json))) : Table Json := ms.filterMap id

/-- What a member holds, if it has this name. -/
def under (key : String) (m : Option (String × Json)) : Option Json :=
  m.bind fun p => if p.1 = key then some p.2 else none

variable {α : Type} (key k : String)

@[simp] theorem get?_written_nil : (written []).get? key = none := rfl

@[simp] theorem get?_written_cons (m : Option (String × Json)) (ms : List (Option (String × Json))) :
    (written (m :: ms)).get? key = (under key m).or ((written ms).get? key) := by
  cases m with
  | none => rfl
  | some p =>
    change Table.get? (p :: written ms) key = _
    by_cases hp : p.1 = key <;> simp [Table.get?_cons, under, hp]

@[simp] theorem under_always (v : Json) : under key (always k v) = if k = key then some v else none := rfl

@[simp] theorem under_some? (encode : α → Json) (o : Option α) :
    under key (some? k encode o) = if k = key then o.map encode else none := by
  cases o <;> simp [under, some?]

@[simp] theorem under_nonEmpty (encode : List α → Json) (as : List α) :
    under key (nonEmpty k encode as) = if k = key ∧ as ≠ [] then some (encode as) else none := by
  cases as <;> simp [under, nonEmpty]

@[simp] theorem under_whenTrue (b : Bool) :
    under key (whenTrue k b) = if k = key ∧ b = true then some (.bool true) else none := by
  cases b <;> simp [under, whenTrue]

theorem keys_written {ms : List (Option (String × Json))} {names : List String}
    (h : ∀ m ∈ ms, ∀ p ∈ m, p.1 ∈ names) : ∀ k ∈ (written ms).keys, k ∈ names := by
  intro k hk
  obtain ⟨p, hp, rfl⟩ := List.mem_map.1 hk
  obtain ⟨m, hm, hmp⟩ := List.mem_filterMap.1 hp
  exact h m hm p hmp

variable {key k} {names : List String}

theorem named_always {v : Json} (h : k ∈ names) : ∀ p ∈ always k v, p.1 ∈ names := by
  simpa [always] using h

theorem named_some? {encode : α → Json} {o : Option α} (h : k ∈ names) :
    ∀ p ∈ some? k encode o, p.1 ∈ names := by
  cases o <;> simp [some?, h]

theorem named_nonEmpty {encode : List α → Json} {as : List α} (h : k ∈ names) :
    ∀ p ∈ nonEmpty k encode as, p.1 ∈ names := by
  cases as <;> simp [nonEmpty, h]

end Encode

namespace Document

@[simp] theorem Shape.fits_str (s : String) : Shape.string.fits (.str s) = true := rfl

@[simp] theorem Shape.fits_arr (vs : List Json) : Shape.array.fits (.arr vs) = true := rfl

@[simp] theorem Shape.fits_obj (ms : Table Json) : Shape.object.fits (.obj ms) = true := rfl

variable {file : Option Path} {ms : Table Json} {key field : String} {shape : Shape}

theorem expect_eq_nil {v : Json} : expect file v field shape = [] ↔ shape.fits v = true := by
  unfold expect; split <;> simp_all

theorem require_eq_nil :
    require file ms key field shape = [] ↔ ∃ v, ms.get? key = some v ∧ shape.fits v = true := by
  unfold require
  cases ms.get? key with
  | none => simp
  | some v => cases v <;> simp [expect_eq_nil, Shape.fits]

theorem allow_eq_nil : allow file ms key field shape = [] ↔
    ∀ v, ms.get? key = some v → v = .null ∨ shape.fits v = true := by
  unfold allow
  cases ms.get? key with
  | none => simp
  | some v => cases v <;> simp [expect_eq_nil, Shape.fits]

theorem andThen_eq_nil {found more : List Problem} :
    andThen found more = [] ↔ found = [] ∧ more = [] := by
  unfold andThen; cases found <;> simp

theorem unknownSections_eq_nil {known : List String} (h : ∀ k ∈ ms.keys, k ∈ known) :
    unknownSections file known ms = [] := by
  simpa [unknownSections] using h

/-- Fields are written as objects. -/
theorem schemaDeclarations_eq_nil
    (h : ∀ v, ms.get? "schema" = some v → ∃ fields, v = Field.encodeTable fields) :
    schemaDeclarations file ms = [] := by
  unfold schemaDeclarations
  split
  · rename_i fields hfields
    obtain ⟨t, ht⟩ := h _ hfields
    obtain rfl := Json.obj.inj ht
    simp only [List.flatMap_eq_nil_iff, Table.mapValues, List.forall_mem_map]
    intro p _
    exact expect_eq_nil.2 rfl
  · rfl

theorem get?_expandShorthand (hkey : key ≠ "schema") :
    (expandShorthand ms).get? key = ms.get? key := by
  induction ms with
  | nil => rfl
  | cons p ms ih =>
    obtain ⟨k, v⟩ := p
    unfold expandShorthand at ih ⊢
    rw [List.map_cons, Table.get?_cons, Table.get?_cons, ih]
    split
    · rename_i fields heq
      obtain ⟨rfl, rfl⟩ := Prod.mk.inj heq
      rw [if_neg (Ne.symm hkey), if_neg (Ne.symm hkey)]
    · rfl

/-- The sections of a document that are not its schema stand as they are in both formats. -/
theorem get?_formatted {format : Format} (hkey : key ≠ "schema") :
    Table.get? (if format.isStrict then ms else expandShorthand ms) key = ms.get? key := by
  split
  · rfl
  · exact get?_expandShorthand hkey

end Document

/-! ## Traits -/

theorem StateMachine.builds : StateMachine.record.Builds fun slots m =>
    Reads (list value) none (slots 0) m.states ∧ Reads text none (slots 1) m.initial :=
  .field <| .field <| .field <| .start fun _ _ hstates _ hinitial _ _ => ⟨hstates, hinitial⟩

theorem Trait.builds : Trait.record.Builds fun slots t =>
    Reads (option StateMachine.decode) (some none) (slots 8) t.stateMachine :=
  .field <| .field <| .field <| .field <| .field <| .field <| .field <| .field <| .field <| .field <|
    .start fun _ _ _ _ _ _ _ _ _ _ _ _ _ _ _ _ _ _ h _ _ => h

namespace Trait

variable {file : Option Path} {ms root : Table Json}

/-- What is written of a state machine has the problems of what it was decoded from, which are none. -/
theorem machineProblems_encode {m : StateMachine} (hm : StateMachine.decode (.obj ms) = .ok m)
    (h : machineProblems file ms = []) :
    ∃ ws, m.encode = .obj ws ∧ machineProblems file ws = [] := by
  obtain ⟨slots, hslots, hstates, hinitial⟩ := StateMachine.builds.of_members hm
  rw [hslots 0 _ ⟨rfl, rfl, rfl⟩, reads_none] at hstates
  rw [hslots 1 _ ⟨rfl, rfl, rfl⟩, reads_none] at hinitial
  obtain ⟨_, hstates, hlist⟩ := hstates
  obtain ⟨_, hinitial, htext⟩ := hinitial
  obtain rfl := list_value_eq_ok.1 hlist
  obtain rfl := text_eq_ok.1 htext
  refine ⟨Encode.written _, rfl, ?_⟩
  have hproblems : stateProblems file ms = [] := by
    simp only [machineProblems, List.append_eq_nil_iff] at h
    exact h.1.1
  simp only [machineProblems, stateProblems] at hproblems ⊢
  rw [hstates, hinitial] at hproblems
  simpa using hproblems

/-- Parameters are written as objects with a name. -/
theorem parameterProblems_encode (index : Nat) (ps : List Parameter) :
    parameterProblems file index (ps.map Parameter.encode) = [] := by
  induction ps generalizing index with
  | nil => rfl
  | cons p ps ih =>
    have hobj : ∃ ms, p.encode = .obj ms ∧ Table.get? ms "name" = some (.str p.name) := ⟨_, rfl, rfl⟩
    obtain ⟨ms, hms, hname⟩ := hobj
    rw [List.map_cons, hms, parameterProblems, ih, List.append_nil]
    exact require_eq_nil.2 ⟨_, hname, rfl⟩

variable (t : Trait)

/-- The members that are written of a trait. -/
def members : Table Json :=
  match t.encode with
  | .obj ms => ms
  | _ => []

theorem encode_eq : t.encode = .obj t.members := rfl

theorem members_eq : t.members = Encode.written [
    Encode.always "trait" t.info.encode,
    Encode.nonEmpty "parameters" (fun ps => .arr (ps.map Parameter.encode)) t.parameters,
    Encode.always "schema" (Field.encodeTable t.schema),
    Encode.nonEmpty "semantics" .obj t.semantics,
    Encode.nonEmpty "view_extensions" .obj t.viewExtensions,
    Encode.nonEmpty "tokens" .obj t.tokens,
    Encode.nonEmpty "dependencies" (fun ds => .arr (ds.map Dependency.encode)) t.dependencies,
    Encode.nonEmpty "actions" .arr t.actions,
    Encode.some? "state_machine" StateMachine.encode t.stateMachine,
    Encode.always "metadata" t.metadata.encode] := rfl

theorem infoProblems_members : infoProblems file t.members = [] := by
  have hinfo : t.members.get? "trait" = some t.info.encode := rfl
  have hshape : Shape.object.fits t.info.encode = true := rfl
  refine andThen_eq_nil.2 ⟨require_eq_nil.2 ⟨_, hinfo, hshape⟩, ?_⟩
  rw [hinfo]
  refine List.append_eq_nil_iff.2 ⟨require_eq_nil.2 ⟨.str t.info.name, rfl, rfl⟩,
    require_eq_nil.2 ⟨.str t.info.version, rfl, rfl⟩⟩

theorem keys_members : ∀ k ∈ t.members.keys, k ∈ sections := by
  refine members_eq t ▸ Encode.keys_written ?_
  simp only [List.forall_mem_cons, List.not_mem_nil, false_imp_iff, implies_true, and_true]
  exact ⟨Encode.named_always (by decide), Encode.named_nonEmpty (by decide), Encode.named_always (by decide),
    Encode.named_nonEmpty (by decide), Encode.named_nonEmpty (by decide), Encode.named_nonEmpty (by decide),
    Encode.named_nonEmpty (by decide), Encode.named_nonEmpty (by decide), Encode.named_some? (by decide),
    Encode.named_always (by decide)⟩

theorem strictProblems_members : strictProblems file t.members = [] := by
  have hschema : t.members.get? "schema" = some (Field.encodeTable t.schema) := by
    simp [members_eq]
  have hparameters : ∀ v, t.members.get? "parameters" = some v →
      v = .arr (t.parameters.map Parameter.encode) := by
    simp [members_eq, eq_comm]
  simp only [strictProblems, unknownSections_eq_nil t.keys_members, List.nil_append,
    schemaDeclarations_eq_nil fun v hv => ⟨t.schema, (hschema.symm.trans hv |> Option.some.inj).symm⟩]
  split
  · rename_i ps hps
    rw [Json.arr.inj (hparameters _ hps)]
    exact parameterProblems_encode 0 t.parameters
  · rfl

/-- **What is written of a trait passes the strict checks** if its state machine does. -/
theorem structureProblems_members
    (h : ∀ m, t.stateMachine = some m → ∃ ms, m.encode = .obj ms ∧ machineProblems file ms = []) :
    structureProblems .json file t.members = [] := by
  have hmachine : machineSectionProblems file t.members = [] := by
    have hget : t.members.get? "state_machine" = t.stateMachine.map StateMachine.encode := by
      simp [members_eq]
    simp only [machineSectionProblems, andThen_eq_nil, allow_eq_nil, hget]
    cases hm : t.stateMachine with
    | none => simp
    | some m =>
      obtain ⟨ms, hms, hproblems⟩ := h m hm
      simp [hms, hproblems]
  simp only [structureProblems, infoProblems_members, hmachine, strictProblems_members,
    List.nil_append, List.append_nil, Format.isStrict, if_true]
  simp only [List.append_eq_nil_iff, List.flatMap_eq_nil_iff, List.forall_mem_cons, require_eq_nil,
    allow_eq_nil, members_eq]
  simp [Field.encodeTable, Metadata.encode]

variable {t} {format : Format}

theorem judges (format : Format) (file : Option Path) :
    Judges format file decode (structureProblems format file) (ofMembers format file) where
  found root h := by
    unfold ofMembers
    split
    · exact absurd ‹_› h
    · rfl
  passed root h := by
    unfold ofMembers conform
    rw [h]
    dsimp only
    cases decode (.obj (if format.isStrict then root else expandShorthand root)) <;> rfl

theorem ofMembers_eq_ok : ofMembers format file root = .ok t ↔
    structureProblems format file root = [] ∧
      decode (.obj (if format.isStrict then root else expandShorthand root)) = .ok t :=
  (judges format file).accepted

/-- **A trait that a document gave** is given again by what is written of it, under the strict checks. -/
theorem ofMembers_members (h : ofMembers format file root = .ok t) :
    structureProblems .json file t.members = [] ∧ ofMembers .json file t.members = .ok t := by
  obtain ⟨hproblems, hdecode⟩ := ofMembers_eq_ok.1 h
  have hsection : machineSectionProblems file root = [] := by
    simp only [structureProblems, List.append_eq_nil_iff] at hproblems
    exact hproblems.1.2
  have hmachine : ∀ m, t.stateMachine = some m →
      ∃ ms, m.encode = .obj ms ∧ machineProblems file ms = [] := by
    intro m hm
    obtain ⟨slots, hslots, hreads⟩ := Trait.builds.of_members hdecode
    rw [hslots 8 _ ⟨rfl, rfl, rfl⟩, get?_formatted (by decide), hm] at hreads
    obtain ⟨v, hv, hnull, hdecode⟩ := reads_some hreads
    obtain ⟨hshape, hproblems⟩ := andThen_eq_nil.1 hsection
    -- null would have been read as no state machine
    rcases allow_eq_nil.1 hshape v hv with rfl | hfits
    · exact absurd rfl hnull
    · cases v with
      | obj ms =>
        rw [hv] at hproblems
        exact machineProblems_encode hdecode hproblems
      | _ => cases hfits
  have hnone := t.structureProblems_members hmachine
  refine ⟨hnone, ofMembers_eq_ok.2 ⟨hnone, ?_⟩⟩
  exact Trait.stable.again _ t hdecode

end Trait

/-! ## Objects -/

theorem Object.Info.builds : Object.Info.record.Builds fun slots i =>
    Reads text none (slots 0) i.name :=
  .field <| .field <| .field <| .field <| .field <| .field <|
    .start fun _ _ h _ _ _ _ _ _ _ _ _ _ => h

theorem Resolution.builds : Resolution.record.Builds fun slots r =>
    Reads (option value) (some none) (slots 1) r.override :=
  .field <| .field <| .start fun _ _ _ _ h => h

theorem Resolutions.builds : Resolutions.record.Builds fun slots r =>
    Reads (table Resolution.decode) (some []) (slots 0) r.fields :=
  .field <| .field <| .field <| .field <| .field <| .start fun _ _ h _ _ _ _ _ _ _ _ => h

theorem Object.builds : Object.record.Builds fun slots o =>
    Reads Object.Info.decode none (slots 0) o.info ∧
      Reads Resolutions.decode (some Resolutions.empty) (slots 7) o.resolutions :=
  .field <| .field <| .field <| .field <| .field <| .field <| .field <| .field <| .field <|
    .start fun _ _ hinfo _ _ _ _ _ _ _ _ _ _ _ _ _ hresolutions _ _ => ⟨hinfo, hresolutions⟩

/-- A strategy that stands alone is no object with an override. -/
theorem Strategy.member?_override {v : Json} {s : Strategy} (h : Strategy.decode v = .ok s) :
    v.member? "override" = none := by
  unfold Strategy.decode variant at h
  split at h
  · rfl
  · rename_i name w
    rw [Json.member?_obj, Table.get?_cons, if_neg]
    · rfl
    · rintro rfl
      cases h
  · cases h
  · cases h

/-- **What a resolution has as its override** is what it was decoded from has, unless that is null. -/
theorem Resolution.override_eq_some {v : Json} {r : Resolution} (h : Resolution.decode v = .ok r) (w : Json) :
    r.override = some w ↔ v.member? "override" = some w ∧ w ≠ .null := by
  rcases firstOf_eq_ok.1 h with hshort | ⟨-, hlong⟩
  · obtain ⟨s, hs, rfl⟩ := map_eq_ok.1 hshort
    simp [Strategy.member?_override hs]
  · cases v with
    | obj ms =>
      obtain ⟨slots, hslots, hreads⟩ := Resolution.builds.of_members (decodeNamed_eq_decode hlong)
      rw [hslots 1 _ ⟨rfl, rfl, rfl⟩] at hreads
      exact eq_some_of_reads hreads w
    | _ => cases hlong

namespace Object

variable {file : Option Path} {ms root : Table Json}

/-- References are written as objects with a name. -/
theorem referenceProblems_encode (index : Nat) (rs : List Reference) :
    referenceProblems file index (rs.map Reference.encode) = [] := by
  induction rs generalizing index with
  | nil => rfl
  | cons r rs ih =>
    have hobj : ∃ ms, r.encode = .obj ms ∧ Table.get? ms "name" = some (.str r.name) ∧
        ∀ v, Table.get? ms "parameters" = some v → v = .obj r.parameters := by
      refine ⟨Encode.written _, rfl, by simp, fun v hv => ?_⟩
      simp only [Encode.get?_written_cons] at hv
      simp at hv
      exact hv.2.symm
    obtain ⟨ms, hms, hname, hparameters⟩ := hobj
    rw [List.map_cons, hms, referenceProblems, ih, List.append_nil]
    have hhas : Table.has ms "name" = true := by rw [Table.has_eq, hname]; rfl
    rw [hhas, if_pos rfl, List.append_eq_nil_iff]
    exact ⟨require_eq_nil.2 ⟨_, hname, rfl⟩,
      allow_eq_nil.2 fun v hv => .inr (by rw [hparameters v hv]; rfl)⟩

theorem member?_encode (r : Resolution) : r.encode.member? "override" = r.override := by
  change (Encode.written _).get? "override" = _
  simp

/-- A resolution says of its override what was said where it was decoded from. -/
theorem overrideProblems_encode {v : Json} {r : Resolution} (hv : Resolution.decode v = .ok r)
    {key : String} (h : overrideProblems file key v = []) : overrideProblems file key r.encode = [] := by
  cases hr : r.override with
  | none => simp only [overrideProblems, member?_encode, hr]
  | some w =>
    have hw := ((Resolution.override_eq_some hv w).1 hr).1
    simp only [overrideProblems, member?_encode, hr, hw] at h ⊢
    exact h

/-- The name of an identity that has no problems is not blank. -/
theorem name_of_infoProblems {i : Object.Info} (hi : Object.Info.decode (.obj ms) = .ok i)
    (h : nameProblems file ms = []) : Text.isAllBlank i.name = false := by
  obtain ⟨slots, hslots, hname⟩ := Object.Info.builds.of_members hi
  rw [hslots 0 _ ⟨rfl, rfl, rfl⟩, reads_none] at hname
  obtain ⟨_, hname, htext⟩ := hname
  obtain rfl := text_eq_ok.1 htext
  have hblank := (andThen_eq_nil.1 h).2
  rw [hname] at hblank
  simpa [Json.asStr?] using hblank

variable (o : Object)

/-- The members that are written of an object. -/
def members : Table Json :=
  match o.encode with
  | .obj ms => ms
  | _ => []

theorem encode_eq : o.encode = .obj o.members := rfl

theorem members_eq : o.members = Encode.written [
    Encode.always "object" o.info.encode,
    Encode.nonEmpty "traits" (fun rs => .arr (rs.map Reference.encode)) o.traits,
    Encode.nonEmpty "schema" Field.encodeTable o.schema,
    Encode.nonEmpty "semantics" .obj o.semantics,
    Encode.nonEmpty "tokens" .obj o.tokens,
    Encode.nonEmpty "views" .obj o.views,
    Encode.nonEmpty "actions" .arr o.actions,
    Encode.always "resolutions" o.resolutions.encode,
    Encode.nonEmpty "metadata" .obj o.metadata] := rfl

theorem keys_members : ∀ k ∈ o.members.keys, k ∈ sections := by
  refine members_eq o ▸ Encode.keys_written ?_
  simp only [List.forall_mem_cons, List.not_mem_nil, false_imp_iff, implies_true, and_true]
  exact ⟨Encode.named_always (by decide), Encode.named_nonEmpty (by decide), Encode.named_nonEmpty (by decide),
    Encode.named_nonEmpty (by decide), Encode.named_nonEmpty (by decide), Encode.named_nonEmpty (by decide),
    Encode.named_nonEmpty (by decide), Encode.named_always (by decide), Encode.named_nonEmpty (by decide)⟩

theorem traitsProblems_members : traitsProblems file o.members = [] := by
  have htraits : ∀ v, o.members.get? "traits" = some v → v = .arr (o.traits.map Reference.encode) := by
    simp [members_eq, eq_comm]
  refine andThen_eq_nil.2 ⟨allow_eq_nil.2 fun v hv => .inr (by rw [htraits v hv]; rfl), ?_⟩
  split
  · rename_i rs hrs
    rw [Json.arr.inj (htraits _ hrs)]
    exact referenceProblems_encode 0 o.traits
  · rfl

theorem strictProblems_members : strictProblems file o.members = [] := by
  have hschema : ∀ v, o.members.get? "schema" = some v → v = Field.encodeTable o.schema := by
    simp [members_eq, eq_comm]
  rw [strictProblems, unknownSections_eq_nil o.keys_members,
    schemaDeclarations_eq_nil fun v hv => ⟨_, hschema v hv⟩]
  rfl

/-- The identity has no problems if its name is not blank. -/
theorem infoProblems_members (h : Text.isAllBlank o.info.name = false) :
    infoProblems file o.members = [] := by
  have hobj : ∃ ms, o.info.encode = .obj ms ∧ Table.get? ms "name" = some (.str o.info.name) ∧
      allow file ms "extends" "object.extends" .string = [] ∧
      allow file ms "tags" "object.tags" .array = [] ∧
      allow file ms "domains" "object.domains" .array = [] := by
    refine ⟨Encode.written _, rfl, by simp, ?_⟩
    simp only [allow_eq_nil]
    simp [Encode.texts]
  obtain ⟨ms, hms, hname, hextends, htags, hdomains⟩ := hobj
  have hget : o.members.get? "object" = some (.obj ms) := hms ▸ rfl
  refine andThen_eq_nil.2 ⟨require_eq_nil.2 ⟨_, hget, rfl⟩, ?_⟩
  rw [hget]
  simp only [nameProblems, hname, hextends, htags, hdomains, List.append_nil]
  refine andThen_eq_nil.2 ⟨require_eq_nil.2 ⟨_, hname, rfl⟩, ?_⟩
  simp [Json.asStr?, h]

theorem resolutionProblems_members
    (h : ∀ p ∈ o.resolutions.fields, overrideProblems file p.1 p.2.encode = []) :
    resolutionProblems file o.members = [] := by
  have hget : (o.members.get? "resolutions").bind (Json.member? · "fields") =
      if o.resolutions.fields = [] then none
      else some (Resolution.encodeTable o.resolutions.fields) := by
    have hsection : o.members.get? "resolutions" = some o.resolutions.encode := by simp [members_eq]
    rw [hsection, Option.bind_some]
    change (Encode.written _).get? "fields" = _
    simp
  rw [resolutionProblems, hget]
  split
  · rename_i fields hfields
    split at hfields
    · cases hfields
    · obtain rfl := Json.obj.inj (Option.some.inj hfields)
      simp only [List.flatMap_eq_nil_iff, Table.mapValues, List.forall_mem_map]
      exact h
  · rfl

/-- **What is written of an object passes the strict checks** if its name and the overrides of its fields do. -/
theorem structureProblems_members (hname : Text.isAllBlank o.info.name = false)
    (hoverrides : ∀ p ∈ o.resolutions.fields, overrideProblems file p.1 p.2.encode = []) :
    structureProblems .json file o.members = [] := by
  simp only [structureProblems, o.infoProblems_members hname, traitsProblems_members,
    o.resolutionProblems_members hoverrides, strictProblems_members, List.nil_append, List.append_nil,
    Format.isStrict, if_true]
  simp only [List.append_eq_nil_iff, List.flatMap_eq_nil_iff, List.forall_mem_cons,
    allow_eq_nil, members_eq]
  simp [Field.encodeTable, Resolutions.encode, Encode.record]

variable {o} {format : Format}

/-- **The resolutions of the fields** are decoded one by one from members of the document, if it has any. -/
theorem fields_decoded (h : ofMembers format file root = .ok o) :
    ((Json.obj root).at? ["resolutions", "fields"] = none ∧ o.resolutions.fields = []) ∨
      ∃ ms, (Json.obj root).at? ["resolutions", "fields"] = some (.obj ms) ∧
        eachMember Resolution.decode ms = .ok o.resolutions.fields := by
  obtain ⟨hproblems, hdecode⟩ := ofMembers_eq_ok.1 h
  obtain ⟨slots, hslots, -, hresolutions⟩ := Object.builds.of_members hdecode
  rw [hslots 7 _ ⟨rfl, rfl, rfl⟩, get?_formatted (by decide)] at hresolutions
  rw [Json.at?_cons, Json.member?_obj]
  change Reads Resolutions.decode (some Resolutions.empty) (root.get? "resolutions") o.resolutions at hresolutions
  cases hv : root.get? "resolutions" with
  | none =>
    rw [hv] at hresolutions
    have hempty : o.resolutions = Resolutions.empty := (Option.some.inj hresolutions).symm
    exact .inl ⟨rfl, by rw [hempty]; rfl⟩
  | some v =>
    rw [hv] at hresolutions
    have hsection : allow file root "resolutions" "resolutions" .object = [] := by
      simp only [structureProblems, List.append_eq_nil_iff, List.flatMap_eq_nil_iff] at hproblems
      exact hproblems.1.1.1.2 "resolutions" (by simp)
    -- the list form of the section does not pass the checks
    rcases allow_eq_nil.1 hsection v hv with rfl | hfits
    · cases hresolutions
    · cases v with
      | obj ms =>
        obtain ⟨slots, hslots, hfields⟩ := Resolutions.builds.of_members hresolutions
        rw [hslots 0 _ ⟨rfl, rfl, rfl⟩] at hfields
        change Reads (table Resolution.decode) (some []) (Table.get? ms "fields") o.resolutions.fields at hfields
        rw [Option.bind_some, Json.at?_cons, Json.member?_obj]
        cases hw : Table.get? ms "fields" with
        | none =>
          rw [hw] at hfields
          exact .inl ⟨rfl, (Option.some.inj hfields).symm⟩
        | some w =>
          rw [hw] at hfields
          cases w with
          | obj fields => exact .inr ⟨fields, rfl, hfields⟩
          | _ => cases hfields
      | _ => cases hfits

/-- The overrides of a document that was accepted have no problems. -/
theorem overrideProblems_eq_nil (h : ofMembers format file root = .ok o)
    (hms : (Json.obj root).at? ["resolutions", "fields"] = some (.obj ms)) :
    ∀ p ∈ ms, overrideProblems file p.1 p.2 = [] := by
  have hproblems : resolutionProblems file root = [] := by
    have hnone := (ofMembers_eq_ok.1 h).1
    simp only [structureProblems, List.append_eq_nil_iff] at hnone
    exact hnone.1.2
  obtain ⟨v, hv, hfields⟩ := Option.bind_eq_some_iff.1 hms
  obtain ⟨w, hw, hnil⟩ := Option.bind_eq_some_iff.1 hfields
  obtain rfl := Option.some.inj hnil
  rw [Json.member?_obj] at hv
  unfold resolutionProblems at hproblems
  rw [hv, Option.bind_some, hw] at hproblems
  exact List.flatMap_eq_nil_iff.1 hproblems

/-- **An object that a document gave** is given again by what is written of it, under the strict checks. -/
theorem ofMembers_members (h : ofMembers format file root = .ok o) :
    structureProblems .json file o.members = [] ∧ ofMembers .json file o.members = .ok o := by
  obtain ⟨hproblems, hdecode⟩ := ofMembers_eq_ok.1 h
  obtain ⟨slots, hslots, hinfo, -⟩ := Object.builds.of_members hdecode
  rw [hslots 0 _ ⟨rfl, rfl, rfl⟩, get?_formatted (by decide), reads_none] at hinfo
  simp only [structureProblems, List.append_eq_nil_iff] at hproblems
  have hidentity := hproblems.1.1.1.1.1
  -- the checks of the document say that the name is not blank, and so of the name that was decoded
  have hname : Text.isAllBlank o.info.name = false := by
    obtain ⟨v, hv, hinfo⟩ := hinfo
    obtain ⟨hobject, hidentity⟩ := andThen_eq_nil.1 hidentity
    obtain ⟨w, hw, hfits⟩ := require_eq_nil.1 hobject
    obtain rfl := Option.some.inj (hw.symm.trans hv)
    cases w with
    | obj ms =>
      rw [hv] at hidentity
      simp only [List.append_eq_nil_iff] at hidentity
      exact name_of_infoProblems hinfo hidentity.1.1.1
    | _ => cases hfits
  have hoverrides : ∀ p ∈ o.resolutions.fields, overrideProblems file p.1 p.2.encode = [] := by
    rcases fields_decoded h with ⟨-, hnil⟩ | ⟨ms, hms, hdecode⟩
    · simp [hnil]
    · intro p hp
      obtain ⟨v, hv, hresolution⟩ := mem_of_eachMember hdecode p hp
      exact overrideProblems_encode hresolution (overrideProblems_eq_nil h hms _ hv)
  have hnone := o.structureProblems_members hname hoverrides
  exact ⟨hnone, ofMembers_eq_ok.2 ⟨hnone, Object.stable.again _ o hdecode⟩⟩

end Object

/-! ## Documents -/

namespace Document

theorem trait_parse_eq_ok {text : String} {format : Format} {file : Option Path} {t : Trait}
    (h : Trait.parse text format file = .ok t) :
    ∃ root, Trait.ofMembers format file root = .ok t := by
  unfold Trait.parse at h
  split at h
  · cases h
  · exact ⟨_, h⟩

/-- **Every definition that is accepted can be written and read again.** Whatever the format of its document
and whatever short forms it used, what is written of it passes all checks of the strict format and gives the
same definition: with the same sections, references, dependencies and resolutions, and with the further
attributes of its fields and its metadata in their order. -/
theorem parse_encode (text : String) (format : Format) (file : Option Path) :
    (∀ t, Trait.parse text format file = .ok t →
      ∃ root, t.encode = .obj root ∧ Trait.structureProblems .json file root = [] ∧
        Trait.decode (.obj root) = .ok t) ∧
    (∀ o, Object.parse text format file = .ok o →
      ∃ root, o.encode = .obj root ∧ Object.structureProblems .json file root = [] ∧
        Object.decode (.obj root) = .ok o) := by
  constructor
  · intro t ht
    obtain ⟨root, hroot⟩ := trait_parse_eq_ok ht
    obtain ⟨hproblems, hagain⟩ := Trait.ofMembers_members hroot
    exact ⟨t.members, t.encode_eq, hproblems, (Trait.ofMembers_eq_ok.1 hagain).2⟩
  · intro o ho
    obtain ⟨_, root, -, -, hroot⟩ := Object.parse_eq_ok.1 ho
    obtain ⟨hproblems, hagain⟩ := Object.ofMembers_members hroot
    exact ⟨o.members, o.encode_eq, hproblems, (Object.ofMembers_eq_ok.1 hagain).2⟩

/-- A trait in short forms. -/
def ledger : String :=
  "trait: \x7bname: Ledger, version: 1.0.0\x7d\nschema: \x7bid: string\x7d\ndependencies: [Log]\n"

/-- An object in short forms. -/
def invoice : String :=
  "object: \x7bname: Bill\x7d\ntraits: [Ledger]\nresolutions: \x7bfields: \x7bid: merge\x7d\x7d\n"

theorem parse_encode_ledger :
    (∃ t, Trait.parse ledger .yaml none = .ok t ∧
      ∃ root, t.encode = .obj root ∧ Trait.structureProblems .json none root = [] ∧
        Trait.decode (.obj root) = .ok t) ∧
    (∃ o, Object.parse invoice .yaml none = .ok o ∧
      ∃ root, o.encode = .obj root ∧ Object.structureProblems .json none root = [] ∧
        Object.decode (.obj root) = .ok o) := by
  have htrait : (Trait.parse ledger .yaml none).isOk = true := by decide +kernel
  have hobject : (Object.parse invoice .yaml none).isOk = true := by decide +kernel
  constructor
  · cases ht : Trait.parse ledger .yaml none with
    | error ps => rw [ht] at htrait; cases htrait
    | ok t => exact ⟨t, rfl, (parse_encode ledger .yaml none).1 t ht⟩
  · cases ho : Object.parse invoice .yaml none with
    | error ps => rw [ho] at hobject; cases hobject
    | ok o => exact ⟨o, rfl, (parse_encode invoice .yaml none).2 o ho⟩

end Document

end TraitWeave
