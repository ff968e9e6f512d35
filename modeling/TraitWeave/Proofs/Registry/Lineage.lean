import TraitWeave.Proofs.Registry.Changelog
import Mathlib.Data.List.Perm.Subperm

/-!
# Composing along a line of objects

An object may extend another one, which may extend a third. The line of a name is read from one record to
the next, and ends at an object that extends nothing, at a name without a record, or where a record is met
again.

* `Index.Lineage`: the line of a name, with `Index.exists_lineage` and `Index.Lineage.unique`.
* `Registry.descend`: composing from the root of a line down, each object on the one before, with
  `Registry.descend_eq_error` for where it fails.
* `Registry.composeChain_lineage`: the recursion that keeps a stack of names says what the line says.
* `Registry.Recounts`, `Registry.resolve_lineage`: what a registry answers for a name.
-/

namespace TraitWeave

/-- Where a line of objects ends. -/
inductive Ending where
  /-- At an object that extends nothing. -/
  | root
  /-- At a name without a record. -/
  | missing (name : String)
  /-- At a name whose record was met before. -/
  | repeated (name : String)

namespace Index

/-- **The line of a name**: its record, the record that this one extends, and so on. `met` are the records
that were met on the way to the name. -/
inductive Lineage (ix : Index) : List Record → String → List Record → Ending → Prop
  | missing {met name} (h : ix.get? name = none) : Lineage ix met name [] (.missing name)
  | repeated {met name r} (h : ix.get? name = some r) (hmet : r ∈ met) :
      Lineage ix met name [] (.repeated name)
  | root {met name r} (h : ix.get? name = some r) (hmet : r ∉ met) (hbase : r.definition.base? = none) :
      Lineage ix met name [r] .root
  | extends {met name r parent line e} (h : ix.get? name = some r) (hmet : r ∉ met)
      (hbase : r.definition.base? = some parent) (hline : Lineage ix (met ++ [r]) parent line e) :
      Lineage ix met name (r :: line) e

/-- Each record stands under its own key. -/
def Keyed (ix : Index) : Prop := ∀ k r, ix.records.get? k = some r → r.key = k

/-- Records of the index, none of them twice. -/
structure Met (ix : Index) (met : List Record) : Prop where
  stands : ∀ r ∈ met, ix.records.get? r.key = some r
  distinct : (met.map Record.key).Nodup

variable {ix : Index} {met line : List Record} {name : String} {r : Record} {e : Ending}

namespace Met

theorem nil (ix : Index) : Met ix [] := ⟨by simp, List.nodup_nil⟩

theorem concat (h : Met ix met) (hix : ix.Keyed) (hr : ix.get? name = some r) (hnew : r ∉ met) :
    Met ix (met ++ [r]) where
  stands s hs := by
    rcases List.mem_append.1 hs with hs | hs
    · exact h.stands s hs
    · rw [List.mem_singleton.1 hs, hix _ _ hr]
      exact hr
  distinct := by
    rw [List.map_append]
    refine List.nodup_append.2 ⟨h.distinct, List.nodup_singleton _, ?_⟩
    rintro k hk l hl rfl
    obtain ⟨s, hs, hkey⟩ := List.mem_map.1 hk
    rw [List.map_singleton, List.mem_singleton] at hl
    -- two records under one key are the same
    have hsame := h.stands s hs
    rw [hkey, hl, hix _ _ hr] at hsame
    exact hnew (Option.some.inj (hsame.symm.trans hr) ▸ hs)

theorem length_le (h : Met ix met) : met.length ≤ ix.size := by
  have hsubset : met.map Record.key ⊆ ix.records.keys := by
    intro k hk
    obtain ⟨s, hs, rfl⟩ := List.mem_map.1 hk
    exact Table.mem_keys.2 ⟨s, h.stands s hs⟩
  -- the keys tell the records apart, so there are no more of them than the index has
  have hlength := (List.subperm_of_subset h.distinct hsubset).length_le
  simpa [Table.keys, Index.size] using hlength

/-- A name was met when its record was. -/
theorem any_names (h : Met ix met) (hix : ix.Keyed) :
    ((met.map Record.name).any fun n => Name.normalize n == Name.normalize name) = true ↔
      ∃ r ∈ met, ix.get? name = some r := by
  simp only [List.any_eq_true, List.mem_map, exists_exists_and_eq_and, beq_iff_eq]
  constructor
  · rintro ⟨r, hr, hname⟩
    refine ⟨r, hr, ?_⟩
    rw [Index.get?, ← hname]
    exact h.stands r hr
  · rintro ⟨r, hr, hget⟩
    exact ⟨r, hr, hix _ _ hget⟩

/-- No name that was met is the name of a record that was not. -/
theorem not_any_names (h : Met ix met) (hix : ix.Keyed) (hr : ix.get? name = some r) (hnew : r ∉ met) :
    ¬ ((met.map Record.name).any fun n => Name.normalize n == Name.normalize name) = true := by
  rw [any_names h hix]
  rintro ⟨s, hs, hget⟩
  exact hnew (Option.some.inj (hr.symm.trans hget) ▸ hs)

end Met

/-- **A name has one line.** -/
theorem Lineage.unique (h : Lineage ix met name line e) {line' : List Record} {e' : Ending}
    (h' : Lineage ix met name line' e') : line' = line ∧ e' = e := by
  induction h generalizing line' e' with
  | missing h => cases h' <;> simp_all
  | repeated h hmet => cases h' <;> simp_all
  | root h hmet hbase => cases h' <;> simp_all
  | «extends» h hmet hbase hline ih =>
    cases h' with
    | missing h' => simp_all
    | repeated h' hmet' => simp_all
    | root h' hmet' hbase' => simp_all
    | «extends» h' hmet' hbase' hline' =>
      obtain rfl := Option.some.inj (h.symm.trans h')
      obtain rfl := Option.some.inj (hbase.symm.trans hbase')
      obtain ⟨rfl, rfl⟩ := ih hline'
      exact ⟨rfl, rfl⟩

/-- The records of a line were not met before, and none is met twice. -/
theorem Lineage.met_append (h : Lineage ix met name line e) (hix : ix.Keyed) (hmet : Met ix met) :
    Met ix (met ++ line) := by
  induction h with
  | missing => simpa using hmet
  | repeated => simpa using hmet
  | root h hnew hbase => exact hmet.concat hix h hnew
  | «extends» h hnew hbase hline ih => simpa using ih (hmet.concat hix h hnew)

/-- **Every name has a line**: with each step one record less is left that was not met. -/
theorem exists_lineage (hix : ix.Keyed) (left : Nat) (hmet : Met ix met) (hleft : ix.size ≤ left + met.length)
    (name : String) : ∃ line e, Lineage ix met name line e := by
  induction left generalizing met name with
  | zero =>
    cases hr : ix.get? name with
    | none => exact ⟨_, _, .missing hr⟩
    | some r =>
      by_cases hnew : r ∈ met
      · exact ⟨_, _, .repeated hr hnew⟩
      · -- with all records met no other one can come
        have hlength := (hmet.concat hix hr hnew).length_le
        rw [List.length_append, List.length_singleton] at hlength
        omega
  | succ left ih =>
    cases hr : ix.get? name with
    | none => exact ⟨_, _, .missing hr⟩
    | some r =>
      by_cases hnew : r ∈ met
      · exact ⟨_, _, .repeated hr hnew⟩
      · cases hbase : r.definition.base? with
        | none => exact ⟨_, _, .root hr hnew hbase⟩
        | some parent =>
          have hleft' : ix.size ≤ left + (met ++ [r]).length := by
            rw [List.length_append, List.length_singleton]
            omega
          obtain ⟨line, e, hline⟩ := ih (hmet.concat hix hr hnew) hleft' parent
          exact ⟨_, _, .extends hr hnew hbase hline⟩

end Index

theorem Contents.Coherent.index_keyed {c : Contents} (h : c.Coherent) : c.index.Keyed := h.keyed

namespace Registry

open Index (Lineage Met)

/-- Compose one object on its base. -/
def composeOn (files : Files) (rg : Registry) (known : Learned) (r : Record) (base : Option Composed) :
    Learned × Except RegistryError Composed :=
  match rg.resolver.resolve files known r.definition.traits ⟨some r.name, some r.path⟩ with
  | (known, .error e) => (known, .error (.resolution e))
  | (known, .ok resolved) => (known, .ok (r.definition.compose rg.foundation resolved base))

/-- Compose objects one after the other, each on the one before; the first that fails ends it. -/
def descend (files : Files) (rg : Registry) (known : Learned) (base : Option Composed) :
    List Record → Learned × Except RegistryError (Option Composed)
  | [] => (known, .ok base)
  | r :: younger =>
    match rg.composeOn files known r base with
    | (known, .error e) => (known, .error e)
    | (known, .ok c) => descend files rg known (some c) younger

variable {files : Files} {rg : Registry} {known : Learned} {base : Option Composed}

theorem descend_append (older younger : List Record) :
    rg.descend files known base (older ++ younger) =
      match rg.descend files known base older with
      | (known, .error e) => (known, .error e)
      | (known, .ok base) => rg.descend files known base younger := by
  induction older generalizing known base with
  | nil => rfl
  | cons s older ih =>
    simp only [List.cons_append, descend]
    rcases rg.composeOn files known s base with ⟨known, e | c⟩
    · rfl
    · exact ih

theorem descend_singleton (r : Record) :
    rg.descend files known base [r] =
      Prod.map id (Except.map some) (rg.composeOn files known r base) := by
  rw [descend]
  rcases rg.composeOn files known r base with ⟨known, e | c⟩ <;> rfl

theorem composeOn_eq_error {r : Record} {x : RegistryError} :
    (rg.composeOn files known r base).2 = .error x ↔
      ∃ failure, (rg.resolver.resolve files known r.definition.traits ⟨some r.name, some r.path⟩).2 =
        .error failure ∧ x = .resolution failure := by
  unfold composeOn
  rcases rg.resolver.resolve files known r.definition.traits ⟨some r.name, some r.path⟩ with
    ⟨known, failure | resolved⟩
  · simp [eq_comm]
  · simp

/-- In a line told from the root down, the traits of `r` are the first that cannot be resolved: all objects
before it were composed. -/
def FailsAt (files : Files) (rg : Registry) (known : Learned) (base : Option Composed) (line : List Record)
    (r : Record) (failure : ResolveError) : Prop :=
  ∃ older younger known' base', line = older ++ r :: younger ∧
    rg.descend files known base older = (known', .ok base') ∧
    (rg.resolver.resolve files known' r.definition.traits ⟨some r.name, some r.path⟩).2 = .error failure

/-- **A line fails where its first object does.** -/
theorem descend_eq_error {line : List Record} {x : RegistryError} :
    (rg.descend files known base line).2 = .error x ↔
      ∃ r failure, rg.FailsAt files known base line r failure ∧ x = .resolution failure := by
  constructor
  · intro h
    induction line generalizing known base with
    | nil => simp [descend] at h
    | cons s line ih =>
      rw [descend] at h
      cases hone : rg.composeOn files known s base with
      | mk known' answer =>
        rw [hone] at h
        cases answer with
        | error e =>
          -- the first object fails
          obtain rfl : e = x := by simpa using h
          obtain ⟨failure, hfailure, rfl⟩ := composeOn_eq_error.1 (congrArg Prod.snd hone)
          exact ⟨s, failure, ⟨[], line, known, base, rfl, rfl, hfailure⟩, rfl⟩
        | ok c =>
          -- it is composed, so the failure is further on
          obtain ⟨r, failure, ⟨older, younger, k, b, rfl, hdescend, hfailure⟩, rfl⟩ := ih h
          refine ⟨r, failure, ⟨s :: older, younger, k, b, rfl, ?_, hfailure⟩, rfl⟩
          rw [descend, hone]
          exact hdescend
  · rintro ⟨r, failure, ⟨older, younger, k, b, rfl, hdescend, hfailure⟩, rfl⟩
    have hone : (rg.composeOn files k r b).2 = .error (.resolution failure) :=
      composeOn_eq_error.2 ⟨failure, hfailure, rfl⟩
    rw [descend_append, hdescend]
    simp only [descend]
    rcases hanswer : rg.composeOn files k r b with ⟨k', e | c⟩
    · rw [hanswer] at hone
      cases hone
      rfl
    · rw [hanswer] at hone
      cases hone

/-- What a line comes to when the names of `stack` were met before it. -/
def recount (files : Files) (rg : Registry) (known : Learned) (stack : List String) (line : List Record) :
    Ending → Learned × Except RegistryError (Option Composed)
  | .root => rg.descend files known none line.reverse
  | .missing name => (known, .error (.notFound name))
  | .repeated name => (known, .error (.circularExtends (stack ++ line.map Record.name ++ [name])))

section Steps

variable {stack : List String} {name parent : String} {r : Record} (fuel : Nat)

theorem composeChain_repeated (h : (stack.any fun n => Name.normalize n == Name.normalize name) = true) :
    rg.composeChain files fuel known stack name = (known, .error (.circularExtends (stack ++ [name]))) := by
  unfold composeChain
  rw [if_pos h]

theorem composeChain_missing (h : ¬ (stack.any fun n => Name.normalize n == Name.normalize name) = true)
    (hr : rg.contents.index.get? name = none) :
    rg.composeChain files fuel known stack name = (known, .error (.notFound name)) := by
  unfold composeChain
  rw [if_neg h, hr]

theorem composeChain_root (h : ¬ (stack.any fun n => Name.normalize n == Name.normalize name) = true)
    (hr : rg.contents.index.get? name = some r) (hbase : r.definition.base? = none) :
    rg.composeChain files fuel known stack name = rg.composeOn files known r none := by
  unfold composeChain
  rw [if_neg h, hr]
  dsimp only
  rw [hbase]
  rfl

theorem composeChain_extends (h : ¬ (stack.any fun n => Name.normalize n == Name.normalize name) = true)
    (hr : rg.contents.index.get? name = some r) (hbase : r.definition.base? = some parent) :
    rg.composeChain files (fuel + 1) known stack name =
      match rg.composeChain files fuel known (stack ++ [r.name]) parent with
      | (known, .error e) => (known, .error e)
      | (known, .ok base) => rg.composeOn files known r (some base) := by
  rw [composeChain, if_neg h, hr]
  dsimp only
  rw [hbase]
  rfl

end Steps

/-- **The recursion says what the line says**, as long as there is fuel for the records of the line. -/
theorem composeChain_lineage (files : Files) (known : Learned) {met line : List Record} {name : String}
    {e : Ending} {fuel : Nat} (hix : rg.contents.index.Keyed) (hmet : Met rg.contents.index met)
    (h : Lineage rg.contents.index met name line e) (hfuel : line.length ≤ fuel) :
    Prod.map id (Except.map some) (rg.composeChain files fuel known (met.map Record.name) name) =
      rg.recount files known (met.map Record.name) line e := by
  induction h generalizing fuel with
  | missing hr =>
    rw [composeChain_missing _ ?_ hr]
    · rfl
    · rw [hmet.any_names hix, hr]
      simp
  | repeated hr hold =>
    rw [composeChain_repeated _ ((hmet.any_names hix).2 ⟨_, hold, hr⟩)]
    simp [recount, Except.map]
  | root hr hnew hbase =>
    rw [composeChain_root _ (hmet.not_any_names hix hr hnew) hr hbase]
    exact (descend_singleton _).symm
  | @«extends» met name r parent line e hr hnew hbase hline ih =>
    -- the line of the parent goes on from one record more, and the object is composed on what it comes to
    obtain ⟨fuel, rfl⟩ : ∃ f, fuel = f + 1 := ⟨fuel - 1, by rw [List.length_cons] at hfuel; omega⟩
    have ih := ih (hmet.concat hix hr hnew) (Nat.le_of_succ_le_succ hfuel)
    rw [List.map_append, List.map_singleton] at ih
    rw [composeChain_extends _ (hmet.not_any_names hix hr hnew) hr hbase]
    cases hchain : rg.composeChain files fuel known (met.map Record.name ++ [r.name]) parent with
    | mk known' answer =>
      rw [hchain] at ih
      cases e with
      | root =>
        simp only [recount] at ih ⊢
        rw [List.reverse_cons, descend_append, ← ih]
        cases answer with
        | error x => rfl
        | ok base => exact (descend_singleton r).symm
      | missing n =>
        cases answer with
        | error x => exact ih
        | ok c => simp [recount, Except.map] at ih
      | repeated n =>
        cases answer with
        | error x => simpa [recount, Except.map] using ih
        | ok c => simp [recount, Except.map] at ih

/-! ## What a registry answers -/

/-- The registry filled, if that was not done. -/
def filled (t : Tree) (rg : Registry) : Registry :=
  if rg.ready then rg else (rg.follow (.of t rg.options.rules rg.options.roots)).registry

theorem filled_coherent (t : Tree) (h : rg.contents.Coherent) : (rg.filled t).contents.Coherent := by
  unfold filled
  split
  · exact h
  · rw [follow_contents]
    exact Contents.refresh_coherent h _ _

theorem resolve_of_filled (t : Tree) (name : String) (h : rg.ready = true ∨ rg.closed = false) :
    rg.resolve t name =
      let answer := (rg.filled t).composeChain t.files (rg.filled t).contents.index.size
        (rg.filled t).learned [] name
      ({ rg.filled t with learned := answer.1 }, answer.2) := by
  unfold resolve filled
  by_cases hready : rg.ready = true
  · simp [hready]
  · have hclosed : rg.closed = false := h.resolve_left hready
    simp [hready, refresh_of_open rg t hclosed, Except.map]

/-- **The answer for a name with a line.** Where the line has no root nothing is learned, so that no trait
was loaded. Otherwise the objects are composed from the root down. -/
def Recounts (files : Files) (rg : Registry) (line : List Record) (x : Registry × Except RegistryError Composed) :
    Ending → Prop
  | .missing name => x = (rg, .error (.notFound name))
  | .repeated name => x = (rg, .error (.circularExtends (line.map Record.name ++ [name])))
  | .root =>
    x.1 = { rg with learned := (rg.descend files rg.learned none line.reverse).1 } ∧
      x.2.map some = (rg.descend files rg.learned none line.reverse).2 ∧
      ∀ y, x.2 = .error y ↔
        ∃ r failure, rg.FailsAt files rg.learned none line.reverse r failure ∧ y = .resolution failure

theorem recounts_of_chain {line : List Record} {e : Ending} {answer : Learned × Except RegistryError Composed}
    (h : Prod.map id (Except.map some) answer = rg.recount files rg.learned [] line e) :
    rg.Recounts files line ({ rg with learned := answer.1 }, answer.2) e := by
  obtain ⟨known, answer⟩ := answer
  cases e with
  | missing n =>
    cases answer with
    | error x =>
      obtain ⟨rfl, rfl⟩ : known = rg.learned ∧ x = .notFound n := by simpa [recount, Except.map] using h
      rfl
    | ok c => simp [recount, Except.map] at h
  | repeated n =>
    cases answer with
    | error x =>
      obtain ⟨rfl, rfl⟩ : known = rg.learned ∧ x = .circularExtends (line.map Record.name ++ [n]) := by
        simpa [recount, Except.map] using h
      rfl
    | ok c => simp [recount, Except.map] at h
  | root =>
    have hknown : known = (rg.descend files rg.learned none line.reverse).1 := congrArg Prod.fst h
    have hanswer : answer.map some = (rg.descend files rg.learned none line.reverse).2 := congrArg Prod.snd h
    refine ⟨by rw [hknown], hanswer, fun y => ?_⟩
    rw [← descend_eq_error, ← hanswer]
    cases answer <;> simp [Except.map]

/-- **A registry answers for a name what the name's line says**, and every name has one line, which is no
longer than there are records. A registry that was closed before it was filled answers for no name. -/
theorem resolve_lineage (t : Tree) (name : String) (h : rg.contents.Coherent) :
    (rg.ready = false → rg.closed = true → rg.resolve t name = (rg, .error .closed)) ∧
      (rg.ready = true ∨ rg.closed = false →
        ∃ line e, Lineage (rg.filled t).contents.index [] name line e ∧
          (∀ line' e', Lineage (rg.filled t).contents.index [] name line' e' → line' = line ∧ e' = e) ∧
          line.length ≤ (rg.filled t).contents.index.size ∧
          Recounts t.files (rg.filled t) line (rg.resolve t name) e) := by
  refine ⟨fun hready hclosed => ?_, fun hopen => ?_⟩
  · simp [resolve, refresh, hready, hclosed, Except.map]
  · have hix := (filled_coherent t h).index_keyed
    obtain ⟨line, e, hline⟩ := Index.exists_lineage hix _ (Met.nil _) (Nat.le_add_right _ _) name
    have hlength : line.length ≤ (rg.filled t).contents.index.size :=
      (hline.met_append hix (Met.nil _)).length_le
    refine ⟨line, e, hline, fun line' e' => hline.unique, hlength, ?_⟩
    have hchain := composeChain_lineage t.files (rg.filled t).learned hix (Met.nil _) hline hlength
    rw [resolve_of_filled t name hopen]
    exact recounts_of_chain hchain

/-- A registry of two objects that extend each other. -/
def circle : Registry :=
  (start (.ofRoots [⟨"objects"⟩]) ⟨none⟩ [⟨"traits"⟩] []).followAll [{
    files := ⟨fun _ => true, fun p => .ok <|
      if p.text = "objects/a.object.json" then
        "\x7b\"object\": \x7b\"name\": \"Draft\", \"extends\": \"page\"\x7d\x7d"
      else "\x7b\"object\": \x7b\"name\": \"Page\", \"extends\": \" DRAFT \"\x7d\x7d"⟩
    scan := ⟨[(⟨"objects/a.object.json"⟩, ⟨1, 47⟩), (⟨"objects/b.object.json"⟩, ⟨1, 49⟩)], []⟩ }]

theorem resolve_lineage_circle :
    circle.contents.Coherent ∧ circle.ready = true ∧
      circle.resolve ⟨.directory [], []⟩ "draft" =
        (circle, .error (.circularExtends ["Draft", "Page", " DRAFT "])) := by
  have hcoherent : circle.contents.Coherent := followAll_coherent _ _ _ _ _
  have hready : circle.ready = true := followAll_ready _ _
  refine ⟨hcoherent, hready, ?_⟩
  obtain ⟨line, e, -, hunique, -, hanswer⟩ :=
    (resolve_lineage ⟨.directory [], []⟩ "draft" hcoherent).2 (.inl hready)
  rw [filled, if_pos hready] at hunique hanswer
  have hread : (circle.contents.index.get? "draft").map (fun r => (r.name, r.definition.base?)) =
        some ("Draft", some "page") ∧
      (circle.contents.index.get? "page").map (fun r => (r.name, r.definition.base?)) =
        some ("Page", some " DRAFT ") := by decide +kernel
  obtain ⟨draft, hdraft, hnamed⟩ := Option.map_eq_some_iff.1 hread.1
  obtain ⟨page, hpage, hnamed'⟩ := Option.map_eq_some_iff.1 hread.2
  rw [Prod.mk.injEq] at hnamed hnamed'
  have hagain : circle.contents.index.get? " DRAFT " = some draft := by
    rw [Index.get?, show Name.normalize " DRAFT " = Name.normalize "draft" by decide +kernel]
    exact hdraft
  have hnew : page ∉ [] ++ [draft] := by
    intro hmem
    rw [List.mem_singleton.1 hmem] at hnamed'
    exact absurd (hnamed'.1.symm.trans hnamed.1) (by decide)
  -- the line is followed by hand; as there is but one, the answer is that of this line
  have hline : Lineage circle.contents.index [] "draft" [draft, page] (.repeated " DRAFT ") :=
    .extends hdraft (by simp) hnamed.2 (.extends hpage hnew hnamed'.2 (.repeated hagain (by simp)))
  obtain ⟨rfl, rfl⟩ := hunique _ _ hline
  rw [Recounts, List.map_cons, List.map_singleton, hnamed.1, hnamed'.1] at hanswer
  exact hanswer

end Registry

end TraitWeave
