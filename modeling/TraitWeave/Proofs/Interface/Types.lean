import TraitWeave.Proofs.Decode.Stable
import TraitWeave.Proofs.Interface.Syntax
import TraitWeave.Proofs.Table

/-!
# The types of fields

The type of a field, however deep the declarations of its items are nested, is a type of the grammar, and what
unions there are hold the declared scalars in the order in which they come first.

* `written`: the scalars among values as they are written, each one once.
* `TypeExpr.Sound`: unions are not empty and have no scalar twice.
* `TypeExpr.form_literals`, `TypeExpr.sound_literals`: so are the unions of literals.
* `Declared`: the types that a declaration may have.
* `TypeExpr.declared_ofField`: the type of a field is one of these.
-/

namespace TraitWeave

namespace Script

/-- The scalars among values, as they are written, in the order in which they come first. -/
def written (vs : List Json) : List String := ((vs.filter TypeExpr.isScalar).map Json.compact).eraseDups

/-- The union of some literals; without any, nothing is known. -/
def TypeSyntax.ofLiterals : List String → TypeSyntax
  | [] => .unknown
  | ls => .union ls

end Script

open Script (TypeSyntax written)

/-! ## Values that are kept once -/

section Kept

variable {α β : Type} {r : α → α → Bool} {add : List α → α → List α}

/-- Adding what is not there yet keeps the first of values that are alike. -/
theorem foldl_add (hadd : ∀ kept v, add kept v = if kept.any (r v) then kept else kept ++ [v]) (vs : List α) :
    vs.foldl add [] = vs.eraseDupsBy r := by
  suffices hloop : ∀ kept, vs.foldl add kept = List.eraseDupsBy.loop r vs kept.reverse from hloop []
  induction vs with
  | nil => intro kept; simp [List.eraseDupsBy.loop]
  | cons v vs ih =>
    intro kept
    rw [List.foldl_cons, ih, hadd, List.eraseDupsBy.loop, List.any_reverse]
    cases kept.any (r v) <;> simp

/-- Values with one image are kept as the image is. -/
theorem map_eraseDupsBy [BEq β] {f : α → β} (h : ∀ v w, r v w = (f v == f w)) (vs : List α) :
    (vs.eraseDupsBy r).map f = (vs.map f).eraseDups := by
  suffices hloop : ∀ kept, (List.eraseDupsBy.loop r vs kept).map f =
      List.eraseDupsBy.loop (· == ·) (vs.map f) (kept.map f) from hloop []
  induction vs with
  | nil => intro kept; simp [List.eraseDupsBy.loop]
  | cons v vs ih =>
    intro kept
    have hany : (kept.map f).any (f v == ·) = kept.any (r v) := by
      rw [List.any_map]
      exact congrArg _ (funext fun w => (h v w).symm)
    rw [List.map_cons, List.eraseDupsBy.loop, List.eraseDupsBy.loop, hany]
    cases kept.any (r v) <;> simp [ih]

theorem nodup_eraseDups [BEq β] [LawfulBEq β] : ∀ xs : List β, xs.eraseDups.Nodup
  | [] => List.nodup_nil
  | x :: xs => by
    rw [List.eraseDups_cons, List.nodup_cons]
    refine ⟨by simp, nodup_eraseDups (xs.filter fun y => !y == x)⟩
termination_by xs => xs.length
decreasing_by exact Nat.lt_succ_of_le (List.length_filter_le _ _)

theorem mem_of_mem_eraseDupsBy {vs : List α} {v : α} (h : v ∈ vs.eraseDupsBy r) : v ∈ vs := by
  suffices hloop : ∀ kept, v ∈ List.eraseDupsBy.loop r vs kept → v ∈ kept ∨ v ∈ vs by
    simpa using hloop [] h
  clear h
  induction vs with
  | nil => intro kept h; simpa [List.eraseDupsBy.loop] using h
  | cons w vs ih =>
    intro kept h
    rw [List.eraseDupsBy.loop] at h
    split at h
    · exact (ih _ h).imp_right (List.mem_cons_of_mem _)
    · rcases ih _ h with h | h
      · exact (List.mem_cons.1 h).elim (fun hv => .inr (hv ▸ List.mem_cons_self)) .inl
      · exact .inr (List.mem_cons_of_mem _ h)

end Kept

namespace TypeExpr

/-- A type expression as the grammar has it. -/
def form : TypeExpr → TypeSyntax
  | string => .string
  | number => .number
  | boolean => .boolean
  | unknown => .unknown
  | record => .record
  | array t => .array t.form
  | union scalars => .union (scalars.map Json.compact)

/-- A type expression that can be written: its unions hold scalars, some at least, and none twice. -/
def Sound : TypeExpr → Prop
  | array t => t.Sound
  | union scalars => scalars ≠ [] ∧ (∀ v ∈ scalars, isScalar v = true) ∧ (scalars.map Json.compact).Nodup
  | _ => True

theorem foldl_addWritten (vs : List Json) :
    vs.foldl addWritten [] = vs.eraseDupsBy fun v w => w.compact == v.compact :=
  foldl_add (fun _ _ => rfl) vs

/-- Values that are written alike are kept once, where the first of them stands. -/
theorem map_foldl_addWritten (vs : List Json) :
    (vs.foldl addWritten []).map Json.compact = (vs.map Json.compact).eraseDups := by
  rw [foldl_addWritten]
  exact map_eraseDupsBy (fun _ _ => Bool.beq_comm) vs

/-- **The union of the scalars among values**, each one once and where it comes first. -/
theorem form_literals (vs : List Json) : (literals vs).form = .ofLiterals (written vs) := by
  have hmap := map_foldl_addWritten (vs.filter isScalar)
  unfold literals written
  rw [← hmap]
  split
  · rename_i hnil
    rw [hnil]
    rfl
  · rename_i hcons
    cases hkept : (vs.filter isScalar).foldl addWritten [] with
    | nil => exact absurd hkept hcons
    | cons v rest => rfl

theorem sound_literals (vs : List Json) : (literals vs).Sound := by
  have hmap := map_foldl_addWritten (vs.filter isScalar)
  unfold literals
  split
  · trivial
  · rename_i hcons
    refine ⟨hcons, fun v hv => ?_, by rw [hmap]; exact nodup_eraseDups _⟩
    rw [foldl_addWritten] at hv
    exact (List.mem_filter.1 (mem_of_mem_eraseDupsBy hv)).2

theorem sound_ofKind {kind : Option String} {element : TypeExpr} (h : element.Sound) : (ofKind kind element).Sound := by
  unfold ofKind
  split
  · trivial
  · split_ifs <;> trivial

theorem sound_ofDeclaration (f : Field) {element : TypeExpr} (h : element.Sound) : (ofDeclaration f element).Sound := by
  unfold ofDeclaration
  split
  · exact sound_literals _
  · exact sound_ofKind h

mutual

theorem sound_ofItems : ∀ v, (ofItems v).Sound
  | .str kind => by
    rw [ofItems]
    exact sound_ofKind trivial
  | .obj ms => by
    rw [ofItems]
    split
    · exact sound_ofDeclaration _ (sound_ofItemsMember ms)
    · trivial
  | .null => by rw [ofItems]; exacts [trivial, nofun, nofun]
  | .bool _ => by rw [ofItems]; exacts [trivial, nofun, nofun]
  | .num _ => by rw [ofItems]; exacts [trivial, nofun, nofun]
  | .arr _ => by rw [ofItems]; exacts [trivial, nofun, nofun]

theorem sound_ofItemsMember : ∀ ms : List (String × Json), (ofItemsMember ms).Sound
  | [] => by rw [ofItemsMember]; trivial
  | (key, v) :: rest => by
    rw [ofItemsMember]
    split
    · exact sound_ofItems v
    · exact sound_ofItemsMember rest

end

/-- The type of a field can be written. -/
theorem sound_ofField (f : Field) : (ofField f).Sound := by
  unfold ofField
  refine sound_ofDeclaration f ?_
  split
  · exact sound_ofItems _
  · trivial

end TypeExpr

/-! ## Declarations inside of declarations -/

namespace Script

/-- The declaration of the elements of an array: a type name alone, or a declaration of its own. -/
def element? : Json → Option Field
  | .str kind => some (Field.ofKind kind)
  | .obj ms => (Field.decode (.obj ms)).toOption
  | _ => none

/-- **The types that a declaration may have.** Its literal values come first; without any, the type is a plain one,
or that of an array whose elements are declared in their turn. -/
inductive Declared : Field → TypeSyntax → Prop
  | literals {f : Field} {v : Json} {vs : List Json} (h : f.literals? = some (v :: vs)) :
    Declared f (.ofLiterals (written (v :: vs)))
  | plain {f : Field} {t : TypeSyntax} (h : f.literals?.getD [] = [])
    (ht : t ∈ [.string, .number, .boolean, .unknown, .record]) : Declared f t
  | array {f : Field} (h : f.literals?.getD [] = []) (hitems : f.items.bind element? = none) :
    Declared f (.array .unknown)
  | arrayOf {f g : Field} {t : TypeSyntax} (h : f.literals?.getD [] = []) (hitems : f.items.bind element? = some g)
    (ht : Declared g t) : Declared f (.array t)

end Script

open Script (Declared element?)

namespace TypeExpr

/-- The type of elements is the type of their declaration. -/
def ElementOf (items : Option Json) (element : TypeExpr) : Prop :=
  match items.bind element? with
  | some g => Declared g element.form
  | none => element = unknown

theorem declared_ofDeclaration (f : Field) {element : TypeExpr} (h : ElementOf f.items element) :
    Declared f (ofDeclaration f element).form := by
  unfold ofDeclaration
  split
  · rename_i v vs hliterals
    rw [form_literals]
    exact .literals hliterals
  · rename_i hnone
    -- an empty list of literal values counts as none
    have hempty : f.literals?.getD [] = [] := by
      cases hliterals : f.literals? with
      | none => rfl
      | some vs =>
        cases vs with
        | nil => rfl
        | cons v vs => exact absurd hliterals (hnone v vs)
    have harray : Declared f (TypeExpr.array element).form := by
      unfold ElementOf at h
      split at h
      · rename_i g hg
        exact .arrayOf hempty hg h
      · rename_i hg
        rw [h]
        exact .array hempty hg
    unfold ofKind
    split
    · exact .plain hempty (by simp [form])
    · split_ifs
      · exact .plain hempty (by simp [form])
      · exact .plain hempty (by simp [form])
      · exact .plain hempty (by simp [form])
      · exact harray
      · exact .plain hempty (by simp [form])
      · exact .plain hempty (by simp [form])

/-- The items of a decoded declaration are those of its member. -/
theorem items_of_decode {ms : Table Json} {f : Field} (h : Field.decode (.obj ms) = .ok f) :
    Decode.Reads (Decode.option Decode.value) (some none) (ms.get? "items") f.items := by
  have hbuilds : Field.record.Builds fun slots build => ∀ extra,
      Decode.Reads (Decode.option Decode.value) (some none) (slots 4) (build extra).items :=
    .field <| .field <| .field <| .field <| .field <| .field <| .field <| .start
      fun _ _ _ _ _ _ _ _ _ _ hitems _ _ _ _ _ => hitems
  obtain ⟨⟨build, extra⟩, hmembers, rfl⟩ := Decode.map_eq_ok.1 h
  obtain ⟨slots, hsort, hbuild⟩ := Decode.Record.ofMembers_eq_ok hmembers
  have hitems := hbuilds _ build hbuild extra
  rw [Decode.Record.sortMembers_slotOf (i := 4) ⟨rfl, rfl, rfl⟩ hsort] at hitems
  exact hitems

theorem ofItemsMember_eq (ms : Table Json) :
    ofItemsMember ms = ((ms.get? "items").map ofItems).getD unknown := by
  induction ms with
  | nil => rw [ofItemsMember]; rfl
  | cons m ms ih =>
    obtain ⟨key, v⟩ := m
    rw [ofItemsMember, ih, Table.get?_cons]
    split <;> rfl

/-- The elements of a decoded declaration, given those that its member declares. -/
theorem elementOf_decoded {ms : Table Json} {f : Field} (h : Field.decode (.obj ms) = .ok f)
    (hmember : ∀ v, ms.get? "items" = some v → ElementOf (some v) (ofItems v)) :
    ElementOf f.items (ofItemsMember ms) := by
  have hitems := items_of_decode h
  rw [ofItemsMember_eq]
  cases hget : ms.get? "items" with
  | none =>
    rw [hget] at hitems
    have hnone : f.items = none := (Option.some.inj hitems).symm
    rw [hnone]
    rfl
  | some v =>
    rw [hget] at hitems
    have hv := hmember v hget
    -- null is read as no items
    have hread : f.items = some v ∨ v = .null ∧ f.items = none := by
      cases v with
      | null => exact .inr ⟨rfl, (Except.ok.inj hitems).symm⟩
      | _ => exact .inl (Except.ok.inj hitems).symm
    rcases hread with hsome | ⟨rfl, hnone⟩
    · rw [hsome]
      exact hv
    · rw [hnone]
      exact hv

mutual

theorem elementOf_ofItems : ∀ v, ElementOf (some v) (ofItems v)
  | .str kind => by
    rw [ofItems]
    have hnone : ElementOf (Field.ofKind kind).items unknown := rfl
    exact declared_ofDeclaration (Field.ofKind kind) hnone
  | .obj ms => by
    rw [ofItems]
    show match (Field.decode (.obj ms)).toOption with
      | some g => Declared g _
      | none => _
    cases hdecode : Field.decode (.obj ms) with
    | error e => rfl
    | ok f =>
      exact declared_ofDeclaration f (elementOf_decoded hdecode (elementOf_member ms))
  | .null => by rw [ofItems]; exacts [rfl, nofun, nofun]
  | .bool _ => by rw [ofItems]; exacts [rfl, nofun, nofun]
  | .num _ => by rw [ofItems]; exacts [rfl, nofun, nofun]
  | .arr _ => by rw [ofItems]; exacts [rfl, nofun, nofun]

theorem elementOf_member : ∀ (ms : List (String × Json)) (v : Json), Table.get? ms "items" = some v →
    ElementOf (some v) (ofItems v)
  | [], _, h => nomatch h
  | (key, w) :: rest, v, h => by
    rw [Table.get?_cons] at h
    split at h
    · obtain rfl := Option.some.inj h
      exact elementOf_ofItems w
    · exact elementOf_member rest v h

end

/-- **The type of a field is one that its declaration may have.** -/
theorem declared_ofField (f : Field) : Declared f (ofField f).form := by
  refine declared_ofDeclaration f ?_
  cases f.items with
  | none => rfl
  | some v => exact elementOf_ofItems v

end TypeExpr

end TraitWeave
