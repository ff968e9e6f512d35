import TraitWeave.Interface.Basic
import TraitWeave.Proofs.Name
import Mathlib.Data.List.Nodup

/-!
# The file that exports all modules

* `Interface.lines_barrel`: its lines are those of the modules in order, each once.
* `Interface.lines_barrel_perm`: where the modules differ, there is a line for each, and no other.
-/

namespace TraitWeave

open Std

namespace Text

/-! ## Lines -/

/-- Cut at the ends of the lines, with nothing behind the last one. -/
theorem pieces_joined {ls : List String} (h : ∀ l ∈ ls, '\n' ∉ l.toList) :
    pieces (· == '\n') (joined "" (ls.map (· ++ "\n"))).toList = ls.map String.toList ++ [[]] := by
  induction ls with
  | nil => rfl
  | cons l ls ih =>
    rw [List.forall_mem_cons] at h
    have hl : l.toList.splitOnP (· == '\n') = [l.toList] :=
      List.splitOnP_eq_singleton fun c hc => beq_eq_false_iff_ne.2 fun hn => h.1 (hn ▸ hc)
    have hcons : (joined "" ((l :: ls).map (· ++ "\n"))).toList =
        l.toList ++ '\n' :: (joined "" (ls.map (· ++ "\n"))).toList := by
      unfold joined
      cases ls <;> simp [String.toList_intercalate, List.intercalate]
    rw [hcons, pieces_eq, List.splitOnP_append_cons _ _ (by simp), hl, ← pieces_eq, ih h.2]
    rfl

/-- Lines with their ends, one after the other. -/
theorem lines_joined {ls : List String} (h : ∀ l ∈ ls, '\n' ∉ l.toList ∧ l.toList.getLast? ≠ some '\r') :
    lines (joined "" (ls.map (· ++ "\n"))) = ls := by
  have hpieces := pieces_joined fun l hl => (h l hl).1
  unfold lines
  simp only [hpieces, List.dropLast_concat, List.getLast?_concat, Option.getD_some, List.isEmpty_nil, if_true,
    List.append_nil, List.map_map]
  refine (List.map_congr_left fun l hl => ?_).trans (List.map_id ls)
  rw [Function.comp_apply, if_neg (h l hl).2, String.ofList_toList, id]

end Text

namespace Interface

variable {ms : List String} {a : String}

/-! ## Modules in order -/

theorem moduleLe_eq (a b : String) : moduleLe a b = (compareLex (compareOn Text.lower) compare a b).isLE := by
  unfold moduleLe compareLex compareOn
  cases compare (Text.lower a) (Text.lower b) <;> cases compare a b <;> simp

theorem moduleLe_antisymm {a b : String} (h : moduleLe a b = true) (h' : moduleLe b a = true) : a = b := by
  rw [moduleLe_eq] at h h'
  have heq := OrientedCmp.isLE_antisymm h h'
  rw [compareLex_eq_eq] at heq
  exact LawfulEqOrd.eq_of_compare heq.2

/-- Modules in order. -/
theorem sorted_modules (ms : List String) : (ms.mergeSort moduleLe).Pairwise fun a b => moduleLe a b = true := by
  refine List.pairwise_mergeSort (fun a b c h h' => ?_) (fun a b => ?_) ms
  · rw [moduleLe_eq] at *
    exact TransCmp.isLE_trans h h'
  · have hswap : compareLex (compareOn Text.lower) compare b a =
        (compareLex (compareOn Text.lower) compare a b).swap := OrientedCmp.eq_swap
    rw [moduleLe_eq, moduleLe_eq, hswap]
    cases compareLex (compareOn Text.lower) compare a b <;> rfl

theorem mem_withoutRepeats : a ∈ withoutRepeats ms ↔ a ∈ ms := by
  fun_induction withoutRepeats ms with
  | case1 => rfl
  | case2 => rfl
  | case3 b rest ih => rw [ih]; simp
  | case4 b c rest hbc ih => rw [List.mem_cons, ih, List.mem_cons (b := b)]

/-- In a list in order, repetitions stand side by side. -/
theorem nodup_withoutRepeats (h : ms.Pairwise fun a b => moduleLe a b = true) : (withoutRepeats ms).Nodup := by
  fun_induction withoutRepeats ms with
  | case1 => exact List.nodup_nil
  | case2 => exact List.pairwise_singleton _ _
  | case3 b rest ih => exact ih h.of_cons
  | case4 b c rest hbc ih =>
    refine List.nodup_cons.2 ⟨fun hb => ?_, ih h.of_cons⟩
    rw [mem_withoutRepeats] at hb
    have hle := List.pairwise_cons.1 h
    rcases List.mem_cons.1 hb with rfl | hb
    · exact hbc rfl
    · exact hbc (moduleLe_antisymm (hle.1 c List.mem_cons_self) ((List.pairwise_cons.1 hle.2).1 b hb))

/-! ## The text -/

/-- The line that exports a module. -/
def exportLine (m : String) : String := "export * from './" ++ m ++ "';"

theorem toList_exportLine (m : String) :
    (exportLine m).toList = "export * from './".toList ++ (m.toList ++ "';".toList) := by
  unfold exportLine
  rw [String.toList_append, String.toList_append]
  exact List.append_assoc _ _ _

theorem exportLine_injective : Function.Injective exportLine := fun a b h => by
  have h := congrArg String.toList h
  rw [toList_exportLine, toList_exportLine] at h
  exact String.toList_injective (List.append_cancel_right (List.append_cancel_left h))

/-- The line of a module is one line. -/
theorem exportLine_isLine (h : '\n' ∉ a.toList) :
    '\n' ∉ (exportLine a).toList ∧ (exportLine a).toList.getLast? ≠ some '\r' := by
  rw [toList_exportLine]
  constructor
  · rw [List.mem_append, List.mem_append, not_or, not_or]
    exact ⟨by decide, h, by decide⟩
  · have hlast : "';".toList.getLast? = some ';' := rfl
    rw [← List.append_assoc, List.getLast?_append, hlast, Option.some_or]
    decide

theorem barrel_eq (files : List String) :
    barrel files = Text.joined ""
      (((withoutRepeats ((files.map moduleOf).mergeSort moduleLe)).map exportLine).map (· ++ "\n")) := by
  unfold barrel
  rw [List.map_map]
  refine congrArg (Text.joined "") (List.map_congr_left fun m _ => ?_)
  have hend : "';\n" = "';" ++ "\n" := rfl
  rw [Function.comp_apply, hend, ← String.append_assoc]
  rfl

/-- The lines are those of the modules, in order and without repetitions. -/
theorem lines_barrel {files : List String} (h : ∀ m ∈ files.map moduleOf, '\n' ∉ m.toList) :
    Text.lines (barrel files) = (withoutRepeats ((files.map moduleOf).mergeSort moduleLe)).map exportLine := by
  rw [barrel_eq]
  refine Text.lines_joined fun l hl => ?_
  obtain ⟨m, hm, rfl⟩ := List.mem_map.1 hl
  rw [mem_withoutRepeats, List.mem_mergeSort] at hm
  exact exportLine_isLine (h m hm)

theorem mem_lines_barrel {files : List String} (h : ∀ m ∈ files.map moduleOf, '\n' ∉ m.toList) {l : String} :
    l ∈ Text.lines (barrel files) ↔ ∃ f ∈ files, l = exportLine (moduleOf f) := by
  rw [lines_barrel h, List.mem_map]
  simp only [mem_withoutRepeats, List.mem_mergeSort, List.mem_map]
  exact ⟨fun ⟨_, ⟨f, hf, hm⟩, hl⟩ => ⟨f, hf, by rw [hm, hl]⟩, fun ⟨f, hf, hl⟩ => ⟨_, ⟨f, hf, rfl⟩, hl.symm⟩⟩

theorem nodup_lines_barrel {files : List String} (h : ∀ m ∈ files.map moduleOf, '\n' ∉ m.toList) :
    (Text.lines (barrel files)).Nodup := by
  rw [lines_barrel h]
  exact List.Nodup.map exportLine_injective (nodup_withoutRepeats (sorted_modules _))

/-- Where the modules differ, there is a line for each. -/
theorem lines_barrel_perm {files : List String} (h : ∀ m ∈ files.map moduleOf, '\n' ∉ m.toList)
    (hnodup : (files.map moduleOf).Nodup) :
    (Text.lines (barrel files)).Perm (files.map fun f => exportLine (moduleOf f)) := by
  have hlines : (files.map fun f => exportLine (moduleOf f)) = (files.map moduleOf).map exportLine := by
    rw [List.map_map]; rfl
  rw [hlines, List.perm_ext_iff_of_nodup (nodup_lines_barrel h) (List.Nodup.map exportLine_injective hnodup)]
  intro l
  rw [mem_lines_barrel h, List.map_map, List.mem_map]
  exact exists_congr fun f => and_congr_right fun _ => eq_comm

end Interface

end TraitWeave
