import TraitWeave.Proofs.Trait.Discovery
import TraitWeave.Proofs.Tree.Writing
import Mathlib.Data.List.Find

/-!
# Finding a trait under its own name

A library tells its traits apart by their qualified names, but a look for a name also goes by the plain names, and
takes the first trait that it meets. So a trait is not always found under its own qualified name: one that was kept
before it may have that for its plain name.

* `Library.shadow?`: the first of some traits whose plain name is the qualified name of another.
* `Library.Distinct.get?_own`: what is found under the qualified name of a trait.
* `Library.get?_qualifiedName`: when it is the trait itself.
-/

namespace TraitWeave.Library

variable {l : Library} {before after : List Trait} {t u : Trait}

/-- The first of some traits whose plain name is the qualified name of another, as names are compared. -/
def shadow? (before : List Trait) (t : Trait) : Option Trait := before.find? fun u => u.plainKey == keyOf t

theorem shadow?_eq_none : shadow? before t = none ↔ ∀ u ∈ before, u.plainKey ≠ keyOf t := by
  simp [shadow?]

theorem of_shadow? (h : shadow? before t = some u) : u ∈ before ∧ u.plainKey = keyOf t :=
  ⟨List.mem_of_find?_eq_some h, beq_iff_eq.1 (List.find?_eq_some_iff_append.1 h).1⟩

/-- A trait whose names differ is in a namespace. -/
theorem exists_scope (h : t.plainKey ≠ keyOf t) : ∃ ns, t.info.scope = some ns ∧ ns ≠ "" := by
  unfold keyOf Trait.qualifiedName at h
  cases hscope : t.info.scope with
  | none => exact absurd rfl (hscope ▸ h)
  | some ns =>
    refine ⟨ns, rfl, ?_⟩
    rintro rfl
    exact absurd rfl (hscope ▸ h)

theorem Distinct.ne_of_mem_before (h : l.Distinct) (hl : l.definitions = before ++ t :: after) (hu : u ∈ before) :
    keyOf u ≠ keyOf t := by
  unfold Distinct at h
  rw [hl, List.map_append, List.map_cons] at h
  exact (List.nodup_append.1 h).2.2 _ (List.mem_map_of_mem hu) _ List.mem_cons_self

/-- **Under the qualified name of a trait** the first of those before it is found that has it for its plain name, and
the trait itself where there is none. -/
theorem Distinct.get?_own (h : l.Distinct) (hl : l.definitions = before ++ t :: after) :
    l.get? t.qualifiedName = (shadow? before t).or (some t) := by
  have hbefore : before.find? (fun u => u.plainKey == keyOf t || keyOf u == keyOf t) = shadow? before t := by
    refine List.find?_congr fun u hu => ?_
    rw [beq_eq_false_iff_ne.2 (h.ne_of_mem_before hl hu), Bool.or_false]
  have hself : (t :: after).find? (fun u => u.plainKey == keyOf t || keyOf u == keyOf t) = some t := by
    simp
  rw [← hbefore, ← hself, ← List.find?_append, ← hl]
  rfl

/-- **A trait is found under its own qualified name** just if no trait kept before it has that for its plain name. If
one has, the first such is found, which is another trait and in a namespace. -/
theorem get?_qualifiedName (tree : Tree) (roots : List Path) {before after : List Trait} {t : Trait}
    (h : (load tree roots).definitions = before ++ t :: after) :
    ((load tree roots).get? t.qualifiedName = some t ↔ ∀ u ∈ before, u.plainKey ≠ keyOf t) ∧
      ∀ u, shadow? before t = some u →
        (load tree roots).get? t.qualifiedName = some u ∧ keyOf u ≠ keyOf t ∧
          ∃ ns, u.info.scope = some ns ∧ ns ≠ "" := by
  have hdistinct : (load tree roots).Distinct := distinct_ofFiles _ _
  rw [hdistinct.get?_own h, ← shadow?_eq_none]
  have hother : ∀ u, shadow? before t = some u → keyOf u ≠ keyOf t :=
    fun u hu => hdistinct.ne_of_mem_before h (of_shadow? hu).1
  constructor
  · cases hshadow : shadow? before t with
    | none => simp
    | some u =>
      refine iff_of_false (fun hself => ?_) (Option.some_ne_none u)
      obtain rfl : u = t := Option.some.inj hself
      exact hother u hshadow rfl
  · intro u hu
    refine ⟨by rw [hu]; rfl, hother u hu, exists_scope ?_⟩
    rw [(of_shadow? hu).2]
    exact (hother u hu).symm

/-! ## A trait that is not found -/

/-- A file with a trait in a namespace. -/
def auditLog : StoredFile where
  text := some ("\x7b\"trait\":\x7b\"name\":\"Log\",\"version\":\"1\",\"namespace\":\"audit\"\x7d," ++
    "\"schema\":\x7b\x7d\x7d")
  size := 70
  time := 0

/-- A file with a trait of the same plain name. -/
def plainLog : StoredFile where
  text := some "\x7b\"trait\":\x7b\"name\":\"Log\",\"version\":\"1\"\x7d,\"schema\":\x7b\x7d\x7d"
  size := 50
  time := 0

/-- A directory with the two. -/
def shelf : Tree where
  root := .directory [("traits", .directory [
    ("Audit.trait.json", .file auditLog), ("Log.trait.json", .file plainLog)])]
  here := []

theorem resolveWith_shelf (last : Bool) : shelf.resolveWith last ⟨"traits"⟩ =
    .ok (["traits"], .directory [("Audit.trait.json", .file auditLog), ("Log.trait.json", .file plainLog)]) := by
  have hsteps : Tree.stepsOf "traits" = [.down "traits"] := by decide +kernel
  have hshort : ¬"traits".utf8ByteSize > 255 := by decide +kernel
  simp [Tree.resolveWith, hsteps, Tree.startOf, shelf, Tree.follow, Entry.at?, Table.get?, hshort]

theorem discover_shelf :
    discover shelf ⟨"traits"⟩ = [⟨"traits/Audit.trait.json"⟩, ⟨"traits/Log.trait.json"⟩] := by
  have hfound : ((Walk.mk false isSearched).below shelf ⟨"traits"⟩).filterMap traitFile? =
      [⟨"traits/Audit.trait.json"⟩, ⟨"traits/Log.trait.json"⟩] := by
    unfold Walk.below
    rw [resolveWith_shelf]
    decide +kernel
  have hhas : shelf.has ⟨"traits"⟩ = true := by
    unfold Tree.has Tree.resolve
    rw [resolveWith_shelf]
    rfl
  unfold discover
  rw [if_pos hhas, hfound]
  exact List.mergeSort_of_pairwise (by decide +kernel)

theorem readText_shelf :
    shelf.readText ⟨"traits/Audit.trait.json"⟩ = .ok (auditLog.text.getD "") ∧
      shelf.readText ⟨"traits/Log.trait.json"⟩ = .ok (plainLog.text.getD "") := by
  have hshort : ¬"traits".utf8ByteSize > 255 ∧ ¬"Audit.trait.json".utf8ByteSize > 255 ∧
      ¬"Log.trait.json".utf8ByteSize > 255 := by decide +kernel
  have haudit : Tree.stepsOf "traits/Audit.trait.json" = [.down "traits", .down "Audit.trait.json"] := by
    decide +kernel
  have hlog : Tree.stepsOf "traits/Log.trait.json" = [.down "traits", .down "Log.trait.json"] := by decide +kernel
  constructor <;>
    simp [Tree.readText, Tree.resolve, Tree.resolveWith, haudit, hlog, Tree.startOf, shelf, Tree.follow, Entry.at?,
      Table.get?, hshort, auditLog, plainLog]

/-- Both traits are kept, and the first has the qualified name of the second for its plain name. -/
theorem definitions_shelf : ∃ audit log, (load shelf [⟨"traits"⟩]).definitions = [audit, log] ∧
    audit.qualifiedName = "audit/Log" ∧ log.qualifiedName = "Log" ∧ shadow? [audit] log = some audit := by
  have hfiles : (load shelf [⟨"traits"⟩]).definitions =
      ((empty.take ⟨"traits/Audit.trait.json"⟩
          (Trait.ofFile ⟨"traits/Audit.trait.json"⟩ (.ok (auditLog.text.getD "")))).take ⟨"traits/Log.trait.json"⟩
        (Trait.ofFile ⟨"traits/Log.trait.json"⟩ (.ok (plainLog.text.getD "")))).definitions := by
    unfold load
    rw [List.flatMap_singleton, discover_shelf]
    simp only [ofFiles, sorted, definitions, List.foldl_cons, List.foldl_nil, Tree.files, readText_shelf,
      Except.mapError]
  have hnames : (load shelf [⟨"traits"⟩]).definitions.map (fun t => (t.qualifiedName, t.plainKey, keyOf t)) =
      [("audit/Log", "log", "audit/log"), ("Log", "log", "log")] := by
    rw [hfiles]
    decide +kernel
  obtain ⟨audit, rest, hdefinitions, haudit, hrest⟩ := List.map_eq_cons_iff.1 hnames
  obtain ⟨log, none, rfl, hlog, hnone⟩ := List.map_eq_cons_iff.1 hrest
  obtain rfl := List.map_eq_nil_iff.1 hnone
  simp only [Prod.mk.injEq] at haudit hlog
  refine ⟨audit, log, hdefinitions, haudit.1, hlog.1, ?_⟩
  simp [shadow?, haudit.2.1, hlog.2.2]

/-- The first of the two is found under both names. -/
theorem get?_qualifiedName_shelf : ∃ audit log, (load shelf [⟨"traits"⟩]).definitions = [audit] ++ log :: [] ∧
    (load shelf [⟨"traits"⟩]).get? log.qualifiedName = some audit ∧ keyOf audit ≠ keyOf log := by
  obtain ⟨audit, log, hdefinitions, -, -, hshadow⟩ := definitions_shelf
  obtain ⟨hfound, hother, -⟩ := (get?_qualifiedName shelf [⟨"traits"⟩] hdefinitions).2 audit hshadow
  exact ⟨audit, log, hdefinitions, hfound, hother⟩

/-- **Not every trait is found under its own qualified name**: below one directory `audit/Log` hides `Log`. -/
theorem shelf_hides :
    (¬ ∀ (tree : Tree) (roots : List Path), ∀ t ∈ (load tree roots).definitions,
      (load tree roots).get? t.qualifiedName = some t) ∧
    ∃ audit ∈ (load shelf [⟨"traits"⟩]).definitions, ∃ log ∈ (load shelf [⟨"traits"⟩]).definitions,
      audit.qualifiedName = "audit/Log" ∧ log.qualifiedName = "Log" ∧
        (load shelf [⟨"traits"⟩]).get? log.qualifiedName = some audit := by
  obtain ⟨audit, log, hdefinitions, haudit, hlog, hshadow⟩ := definitions_shelf
  have hdistinct : (load shelf [⟨"traits"⟩]).Distinct := distinct_ofFiles _ _
  have hsplit : (load shelf [⟨"traits"⟩]).definitions = [audit] ++ log :: [] := hdefinitions
  have hfound : (load shelf [⟨"traits"⟩]).get? log.qualifiedName = some audit := by
    rw [hdistinct.get?_own hsplit, hshadow]
    rfl
  have hmem : audit ∈ (load shelf [⟨"traits"⟩]).definitions ∧ log ∈ (load shelf [⟨"traits"⟩]).definitions := by
    simp [hdefinitions]
  refine ⟨fun h => ?_, audit, hmem.1, log, hmem.2, haudit, hlog, hfound⟩
  have hself := h shelf [⟨"traits"⟩] log hmem.2
  rw [hfound, Option.some.injEq] at hself
  rw [hself, hlog] at haudit
  exact absurd haudit (by decide)

end TraitWeave.Library
