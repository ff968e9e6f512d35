import TraitWeave.Compose.Merge
import TraitWeave.Proofs.Table

/-!
# Merged values, path by path

A path of names leads from a value into its members, their members and so on. What a merge has at a path
depends on what the two values have there, and on nothing else but whether the later one ends above it.

* `at?`: what a value has at a path; `Distinct`: no object at a path has a name twice.
* `get?_mergeMembers`, `keys_mergeMembers`: the members of two objects merged, and their order.
* `Joins`, `Replaces`: what is at a path of a deep merge, and of a shallow one.
* `merge_at?`: **every merge is as these say, at every path.**
* `Distinct.merge`: a merge has no name twice either.
-/

namespace TraitWeave.Json

variable {depth : Depth} {a b v w : Json} {key : String} {path : List String}

/-! ## Paths -/

/-- What a value has at a path of names. -/
def at? : Json → List String → Option Json
  | v, [] => some v
  | v, k :: p => (v.member? k).bind fun w => w.at? p

@[simp] theorem at?_nil (v : Json) : v.at? [] = some v := rfl

theorem at?_cons (v : Json) (k : String) (p : List String) :
    v.at? (k :: p) = (v.member? k).bind fun w => w.at? p := rfl

/-- A path in two parts. -/
theorem at?_append (v : Json) (p q : List String) : v.at? (p ++ q) = (v.at? p).bind (at? · q) := by
  induction p generalizing v with
  | nil => rfl
  | cons k p ih =>
    rw [List.cons_append, at?_cons, at?_cons, Option.bind_assoc]
    exact Option.bind_congr fun w _ => ih w

@[simp] theorem member?_obj (ms : Table Json) (k : String) : (obj ms).member? k = ms.get? k := rfl

theorem member?_eq_none (h : v.asObj? = none) (k : String) : v.member? k = none := by
  rw [member?, h, Option.bind_none]

theorem at?_eq_none (h : v.asObj? = none) (k : String) (p : List String) : v.at? (k :: p) = none := by
  rw [at?_cons, member?_eq_none h, Option.bind_none]

theorem asObj?_eq_some {ms : Table Json} : v.asObj? = some ms ↔ v = obj ms := by
  cases v <;> simp [asObj?]

/-- Somewhere above the path, short of it, the value has something that is no object. -/
def CutAbove (v : Json) (path : List String) : Prop :=
  ∃ q w, q <+: path ∧ q ≠ path ∧ v.at? q = some w ∧ w.asObj? = none

theorem not_cutAbove_nil (v : Json) : ¬ v.CutAbove [] := by
  rintro ⟨q, w, hq, hne, -⟩
  exact hne (List.prefix_nil.1 hq)

/-- A path is cut at its first step, or where the rest of it goes on. -/
theorem cutAbove_cons : v.CutAbove (key :: path) ↔
    v.asObj? = none ∨ ∃ w, v.member? key = some w ∧ w.CutAbove path := by
  constructor
  · rintro ⟨q, u, hq, hne, hu, hobj⟩
    rcases List.prefix_cons_iff.1 hq with rfl | ⟨p, rfl, hp⟩
    · cases hu
      exact .inl hobj
    · obtain ⟨w, hw, hu⟩ := Option.bind_eq_some_iff.1 hu
      exact .inr ⟨w, hw, p, u, hp, fun h => hne (h ▸ rfl), hu, hobj⟩
  · rintro (hobj | ⟨w, hw, p, u, hp, hne, hu, hobj⟩)
    · exact ⟨[], v, List.nil_prefix, List.cons_ne_nil _ _ |>.symm, rfl, hobj⟩
    · refine ⟨key :: p, u, List.cons_prefix_cons.2 ⟨rfl, hp⟩, fun h => hne (List.cons.inj h).2, ?_, hobj⟩
      rw [at?_cons, hw, Option.bind_some, hu]

/-! ## Names that come once -/

/-- No object to which a path leads has a name twice. -/
def Distinct (v : Json) : Prop :=
  ∀ path ms, v.at? path = some (obj ms) → (Table.keys ms).Nodup

theorem Distinct.nodup {ms : Table Json} (h : (obj ms).Distinct) : ms.keys.Nodup := h [] ms rfl

theorem Distinct.member (h : v.Distinct) (hw : v.member? key = some w) : w.Distinct := by
  intro path ms hms
  refine h (key :: path) ms ?_
  rw [at?_cons, hw, Option.bind_some, hms]

theorem distinct_of_asObj?_eq_none (h : v.asObj? = none) : v.Distinct := by
  intro path ms hms
  cases path with
  | nil =>
    have hv : v = obj ms := Option.some.inj hms
    rw [hv] at h
    cases h
  | cons k p =>
    rw [at?_eq_none h] at hms
    cases hms

theorem distinct_obj {ms : Table Json} (hms : ms.keys.Nodup) (h : ∀ p ∈ ms, p.2.Distinct) :
    (obj ms).Distinct := by
  intro path ns hns
  cases path with
  | nil =>
    cases hns
    exact hms
  | cons k p =>
    obtain ⟨w, hw, hns⟩ := Option.bind_eq_some_iff.1 hns
    exact h (k, w) (Table.mem_of_get? hw) p ns hns

/-! ## The members of two objects merged -/

/-- What becomes of a member that is put over what the earlier object has under its name. -/
def laidOver (depth : Depth) (earlier : Option Json) (later : Json) : Json :=
  match depth, earlier with
  | .deep, some w => merge .deep w later
  | _, _ => later

@[simp] theorem laidOver_none (depth : Depth) (v : Json) : laidOver depth none v = v := by
  cases depth <;> rfl

@[simp] theorem laidOver_shallow (earlier : Option Json) (v : Json) : laidOver .shallow earlier v = v := rfl

/-- What becomes of a member that is put over another. -/
def overMember : Depth → Json → Json → Json
  | .deep => merge .deep
  | .shallow => fun _ later => later

theorem mergeMembers_eq (earlier later : Table Json) :
    mergeMembers depth earlier later = Table.lay (overMember depth) earlier later := by
  induction later generalizing earlier with
  | nil => rw [mergeMembers]; rfl
  | cons p rest ih =>
    obtain ⟨k, v⟩ := p
    simp only [mergeMembers.eq_def depth earlier ((k, v) :: rest), ih, Table.lay_cons]
    cases depth <;> cases earlier.get? k <;> rfl

/-- Under each name there is the later member, put over the earlier one, or else the earlier one. -/
theorem get?_mergeMembers (earlier : Table Json) {later : Table Json} (h : later.keys.Nodup) (k : String) :
    Table.get? (mergeMembers depth earlier later) k =
      ((later.get? k).map (laidOver depth (earlier.get? k))).or (earlier.get? k) := by
  rw [mergeMembers_eq, Table.get?_lay _ _ h]
  cases depth <;> cases earlier.get? k <;> cases later.get? k <;> rfl

/-- The earlier names keep their places, the new ones follow in their order. -/
theorem keys_mergeMembers (earlier : Table Json) {later : Table Json} (h : later.keys.Nodup) :
    Table.keys (mergeMembers depth earlier later) =
      earlier.keys ++ later.keys.filter fun k => k ∉ earlier.keys := by
  rw [mergeMembers_eq, Table.keys_lay _ _ h]

/-! ## One merge -/

theorem merge_obj (depth : Depth) (ms ns : Table Json) :
    (obj ms).merge depth (obj ns) = obj (mergeMembers depth ms ns) := by rw [merge]

/-- Unless both are objects, the later value is all there is. -/
theorem merge_of_no_obj (h : a.asObj? = none ∨ b.asObj? = none) : a.merge depth b = b := by
  cases a <;> cases b <;> simp_all [merge, asObj?]

/-- A member of a merge: the later one, put over the earlier one, or else what the earlier object has. -/
theorem member?_merge (depth : Depth) (a : Json) {ns : Table Json} (h : ns.keys.Nodup) (k : String) :
    (a.merge depth (obj ns)).member? k =
      ((ns.get? k).map (laidOver depth (a.member? k))).or (a.member? k) := by
  cases ha : a.asObj? with
  | none =>
    rw [merge_of_no_obj (.inl ha), member?_eq_none ha, member?_obj, Option.or_none]
    cases ns.get? k <;> simp
  | some ms =>
    rw [asObj?_eq_some.1 ha, merge_obj]
    exact get?_mergeMembers ms h k

/-- A path into a name that the later object does not have leads on in the earlier value. -/
theorem at?_merge_old (depth : Depth) (a : Json) {ns : Table Json} (h : ns.keys.Nodup)
    (hk : ns.get? key = none) : (a.merge depth (obj ns)).at? (key :: path) = a.at? (key :: path) := by
  rw [at?_cons, at?_cons, member?_merge depth a h, hk]
  rfl

/-- A path into a name of the later object leads on in what becomes of its member. -/
theorem at?_merge_new (depth : Depth) (a : Json) {ns : Table Json} (h : ns.keys.Nodup)
    (hk : ns.get? key = some w) :
    (a.merge depth (obj ns)).at? (key :: path) = (laidOver depth (a.member? key) w).at? path := by
  rw [at?_cons, member?_merge depth a h, hk]
  rfl

/-- **A merge has no name twice** where the values have none. -/
theorem Distinct.merge (depth : Depth) (ha : a.Distinct) (hb : b.Distinct) : (a.merge depth b).Distinct := by
  intro path os hos
  induction path generalizing a b with
  | nil =>
    by_cases hobj : a.asObj? = none ∨ b.asObj? = none
    · rw [merge_of_no_obj hobj] at hos
      exact hb [] os hos
    · obtain ⟨ha', hb'⟩ := not_or.1 hobj
      obtain ⟨ms, hms⟩ := Option.ne_none_iff_exists'.1 ha'
      obtain ⟨ns, hns⟩ := Option.ne_none_iff_exists'.1 hb'
      obtain rfl := asObj?_eq_some.1 hms
      obtain rfl := asObj?_eq_some.1 hns
      rw [merge_obj] at hos
      cases hos
      rw [mergeMembers_eq]
      exact Table.nodup_lay _ ha.nodup hb.nodup
  | cons k p ih =>
    cases hobj : b.asObj? with
    | none =>
      rw [merge_of_no_obj (.inr hobj)] at hos
      exact hb _ os hos
    | some ns =>
      obtain rfl := asObj?_eq_some.1 hobj
      cases hw : ns.get? k with
      | none =>
        -- the way leads on in the earlier value alone
        rw [at?_merge_old depth a hb.nodup hw] at hos
        exact ha (k :: p) os hos
      | some w =>
        -- the way leads on in what becomes of the two members
        have hwd : w.Distinct := hb.member hw
        rw [at?_merge_new depth a hb.nodup hw] at hos
        cases depth with
        | shallow => exact hwd p os hos
        | deep =>
          cases hv : a.member? k with
          | none =>
            rw [hv, laidOver_none] at hos
            exact hwd p os hos
          | some v =>
            rw [hv] at hos
            exact ih (ha.member hv) hwd hos

/-! ## What is at a path -/

/-- Where the later value has nothing, the merge has what the earlier one has, unless the later value
cuts the path off. -/
structure Leaves (cut : Prop) (earlier later merged : Option Json) : Prop where
  kept : later = none → ¬ cut → merged = earlier
  lost : later = none → cut → merged = none

/-- What is at a path where objects are merged into each other. -/
structure Joins (cut : Prop) (earlier later merged : Option Json) : Prop
    extends Leaves cut earlier later merged where
  /-- What is no object stands as it is. -/
  replaced : ∀ v, later = some v → v.asObj? = none → merged = some v
  /-- An object stands as it is where there was none. -/
  added : ∀ ns, later = some (obj ns) → (∀ ms, earlier ≠ some (obj ms)) → merged = some (obj ns)
  /-- Of two objects there is one that has the names of the earlier one, then the new ones. -/
  joined : ∀ ms ns, earlier = some (obj ms) → later = some (obj ns) →
    ∃ os, merged = some (obj os) ∧
      Table.keys os = Table.keys ms ++ (Table.keys ns).filter fun k => k ∉ Table.keys ms

/-- What is at a path where a later value takes the whole place. -/
structure Replaces (cut : Prop) (earlier later merged : Option Json) : Prop
    extends Leaves cut earlier later merged where
  whole : ∀ v, later = some v → merged = some v

/-- The later value stands where the earlier one has nothing. -/
theorem Joins.of_new (cut : Prop) (later : Option Json) : Joins cut none later later where
  kept := fun h _ => h
  lost := fun h _ => h
  replaced := fun _ h _ => h
  added := fun _ h _ => h
  joined := fun _ _ h _ => nomatch h

/-- The earlier value stands where the later one has nothing and cuts nothing off. -/
theorem Joins.of_old {cut : Prop} (hcut : ¬ cut) (earlier : Option Json) :
    Joins cut earlier none earlier where
  kept := fun _ _ => rfl
  lost := fun _ h => absurd h hcut
  replaced := fun _ h _ => nomatch h
  added := fun _ h _ => nomatch h
  joined := fun _ _ _ h => nomatch h

/-- Under a cut there is nothing. -/
theorem Leaves.of_cut {cut : Prop} (hcut : cut) (earlier : Option Json) : Leaves cut earlier none none where
  kept := fun _ h => absurd hcut h
  lost := fun _ _ => rfl

theorem Joins.of_cut {cut : Prop} (hcut : cut) (earlier : Option Json) : Joins cut earlier none none where
  toLeaves := .of_cut hcut earlier
  replaced := fun _ h _ => nomatch h
  added := fun _ h _ => nomatch h
  joined := fun _ _ _ h => nomatch h

/-- The values themselves, before any step into them. -/
theorem joins_nil (a : Json) (hb : b.Distinct) {cut : Prop} :
    Joins cut (some a) (some b) (some (a.merge .deep b)) where
  kept := fun h => nomatch h
  lost := fun h => nomatch h
  replaced := by
    rintro v ⟨⟩ hv
    rw [merge_of_no_obj (.inr hv)]
  added := by
    rintro ns ⟨⟩ ha
    have hobj : a.asObj? = none := Option.eq_none_iff_forall_ne_some.2 fun ms hms =>
      ha ms (congrArg some (asObj?_eq_some.1 hms))
    rw [merge_of_no_obj (.inl hobj)]
  joined := by
    rintro ms ns ⟨⟩ ⟨⟩
    exact ⟨_, congrArg some (merge_obj .deep ms ns), keys_mergeMembers ms hb.nodup⟩

/-- **A deep merge at every path.** -/
theorem joins_at? (a : Json) (hb : b.Distinct) (path : List String) :
    Joins (b.CutAbove path) (a.at? path) (b.at? path) ((a.merge .deep b).at? path) := by
  induction path generalizing a b with
  | nil => exact joins_nil a hb
  | cons k p ih =>
    cases hobj : b.asObj? with
    | none =>
      -- the later value ends here
      rw [merge_of_no_obj (.inr hobj), at?_eq_none hobj]
      exact .of_cut (cutAbove_cons.2 (.inl hobj)) _
    | some ns =>
      obtain rfl := asObj?_eq_some.1 hobj
      have hcut : (obj ns).CutAbove (k :: p) ↔ ∃ w, ns.get? k = some w ∧ w.CutAbove p :=
        cutAbove_cons.trans (or_iff_right (by simp [asObj?]))
      rw [hcut, at?_cons (obj ns), member?_obj]
      cases hw : ns.get? k with
      | none =>
        rw [at?_merge_old .deep a hb.nodup hw]
        exact .of_old (by simp) _
      | some w =>
        have hcut : (∃ u, some w = some u ∧ u.CutAbove p) ↔ w.CutAbove p := by simp
        rw [hcut, at?_merge_new .deep a hb.nodup hw, at?_cons]
        cases a.member? k with
        | none => exact .of_new _ _
        | some v => exact ih v (hb.member hw)

/-- **A shallow merge at every path of one name.** -/
theorem replaces_at? (a : Json) (hb : b.Distinct) (key : String) :
    Replaces (b.CutAbove [key]) (a.at? [key]) (b.at? [key]) ((a.merge .shallow b).at? [key]) := by
  cases hobj : b.asObj? with
  | none =>
    rw [merge_of_no_obj (.inr hobj), at?_eq_none hobj]
    exact ⟨.of_cut (cutAbove_cons.2 (.inl hobj)) _, fun v h => nomatch h⟩
  | some ns =>
    obtain rfl := asObj?_eq_some.1 hobj
    have hcut : ¬ (obj ns).CutAbove [key] := by
      rw [cutAbove_cons]
      rintro (h | ⟨w, -, hw⟩)
      · cases h
      · exact not_cutAbove_nil w hw
    have hat : (obj ns).at? [key] = ns.get? key := Option.bind_fun_some _
    rw [hat]
    refine ⟨⟨fun h _ => at?_merge_old .shallow a hb.nodup h, fun _ h => absurd h hcut⟩, fun v h => ?_⟩
    rw [at?_merge_new .shallow a hb.nodup h, laidOver_shallow, at?_nil]

/-- **A merge, path by path.** At every path of a deep merge there is the later value if it is no object,
or if the earlier one is none; two objects are one with the names of both, the earlier ones first; where
the later value has nothing there is what the earlier one has, but nothing below a later value that is no
object. A shallow merge has the later value whole under each name. -/
theorem merge_at? (a : Json) (hb : b.Distinct) :
    (∀ path, Joins (b.CutAbove path) (a.at? path) (b.at? path) ((a.merge .deep b).at? path)) ∧
      ∀ key, Replaces (b.CutAbove [key]) (a.at? [key]) (b.at? [key]) ((a.merge .shallow b).at? [key]) :=
  ⟨joins_at? a hb, replaces_at? a hb⟩

/-- The names of a nested object, where both values have one. -/
theorem merge_at?_nested :
    let earlier := obj [("a", obj [("x", str "1"), ("y", str "2")]), ("b", str "1")]
    let later := obj [("a", obj [("z", null), ("y", arr [])])]
    later.Distinct ∧ ∃ os, (earlier.merge .deep later).at? ["a"] = some (obj os) ∧
      Table.keys os = ["x", "y", "z"] := by
  intro earlier later
  have hlater : later.Distinct := by
    refine distinct_obj (by decide) (List.forall_mem_singleton.2 (distinct_obj (by decide) ?_))
    exact List.forall_mem_cons.2 ⟨distinct_of_asObj?_eq_none rfl,
      List.forall_mem_singleton.2 (distinct_of_asObj?_eq_none rfl)⟩
  obtain ⟨os, hos, hkeys⟩ := ((merge_at? earlier hlater).1 ["a"]).joined _ _ rfl rfl
  exact ⟨hlater, os, hos, hkeys.trans (by decide)⟩

end TraitWeave.Json
