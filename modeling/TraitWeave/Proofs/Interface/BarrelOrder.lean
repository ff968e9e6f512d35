import TraitWeave.Proofs.Interface.Barrel
import TraitWeave.Proofs.Text.ByteOrder

/-!
# The order of exported modules

The file that exports all modules depends only on which modules there are. The order of modules is total, and only equal
names tie in it, so that sorting brings equal names together and dropping repetitions leaves each name once.

* `Interface.ModuleLt`: the order of modules by their bytes.
* `Interface.modules`: the modules of files, in order and each once.
* `Interface.modules_congr`: files with the same modules.
* `Interface.barrel_modules`: the file that exports all modules.
-/

namespace TraitWeave.Interface

variable {ms ns files files' : List String} {a b : String}

/-- One module comes before another: by the bytes of the lower-cased names, and of names that agree in these by their own
bytes. -/
def ModuleLt (a b : String) : Prop :=
  Text.bytes (Text.lower a) < Text.bytes (Text.lower b) ∨
    Text.lower a = Text.lower b ∧ Text.bytes a < Text.bytes b

/-- Of two modules that differ, the one that is sorted first comes before the other. -/
theorem moduleLt_of_moduleLe (h : moduleLe a b = true) (hne : a ≠ b) : ModuleLt a b := by
  unfold moduleLe at h
  split at h
  · rename_i hlower
    exact .inl (Text.compare_eq_lt_iff.1 hlower)
  · rename_i hlower
    refine .inr ⟨Std.LawfulEqOrd.eq_of_compare hlower, Text.compare_eq_lt_iff.1 ?_⟩
    cases hname : compare a b with
    | lt => rfl
    | eq => exact absurd (Std.LawfulEqOrd.eq_of_compare hname) hne
    | gt => rw [hname] at h; cases h
  · cases h

/-- The modules of files, in order and each once. -/
def modules (files : List String) : List String := withoutRepeats ((files.map moduleOf).mergeSort moduleLe)

theorem mem_modules : a ∈ modules files ↔ ∃ f ∈ files, moduleOf f = a := by
  unfold modules
  rw [mem_withoutRepeats, List.mem_mergeSort, List.mem_map]

theorem withoutRepeats_sublist (ms : List String) : (withoutRepeats ms).Sublist ms := by
  fun_induction withoutRepeats ms with
  | case1 => exact List.Sublist.slnil
  | case2 b => exact List.Sublist.refl [b]
  | case3 b rest ih => exact ih.trans (List.sublist_cons_self b (b :: rest))
  | case4 b c rest hbc ih => exact ih.cons_cons b

theorem nodup_modules (files : List String) : (modules files).Nodup := nodup_withoutRepeats (sorted_modules _)

theorem pairwise_modules (files : List String) : (modules files).Pairwise fun a b => moduleLe a b = true :=
  (sorted_modules _).sublist (withoutRepeats_sublist _)

/-- **Each module comes before all that stand behind it.** -/
theorem increasing_modules (files : List String) : (modules files).Pairwise ModuleLt :=
  ((pairwise_modules files).and (nodup_modules files)).imp fun h => moduleLt_of_moduleLe h.1 h.2

/-- **Files with the same modules** give the same list of modules: a list in order is told by its members. -/
theorem modules_congr (h : ∀ m, m ∈ files.map moduleOf ↔ m ∈ files'.map moduleOf) : modules files = modules files' := by
  have hperm : (modules files).Perm (modules files') := by
    rw [List.perm_ext_iff_of_nodup (nodup_modules files) (nodup_modules files')]
    intro m
    simpa only [mem_modules, List.mem_map] using h m
  exact List.Perm.eq_of_pairwise (fun _ _ _ _ => moduleLe_antisymm) (pairwise_modules files) (pairwise_modules files')
    hperm

/-- **The file that exports all modules** depends on the set of modules only. It consists of one line for each module, in
the order of the modules; these are its lines where no module has a line feed in its name. -/
theorem barrel_modules (h : ∀ m, m ∈ files.map moduleOf ↔ m ∈ files'.map moduleOf) :
    barrel files = barrel files' ∧
    ∃ ms : List String, (∀ m, m ∈ ms ↔ ∃ f ∈ files, moduleOf f = m) ∧ ms.Pairwise ModuleLt ∧
      barrel files = Text.joined "" (ms.map fun m => exportLine m ++ "\n") ∧
      ((∀ m ∈ ms, '\n' ∉ m.toList) → Text.lines (barrel files) = ms.map exportLine) := by
  have htext (files : List String) :
      barrel files = Text.joined "" ((modules files).map fun m => exportLine m ++ "\n") := by
    rw [barrel_eq, List.map_map]
    rfl
  refine ⟨by rw [htext, htext, modules_congr h], modules files, fun m => mem_modules, increasing_modules files,
    htext files, fun hbreak => ?_⟩
  refine lines_barrel fun m hm => hbreak m (mem_modules.2 ?_)
  exact List.mem_map.1 hm

/-- Three modules, given twice in different orders, one of them with a file name that has no ending. -/
theorem barrel_modules_three :
    barrel ["Beta.ts", "alpha.ts", "Beta", "Alpha.ts"] = barrel ["Alpha.ts", "alpha.ts", "Beta.ts"] ∧
      barrel ["Beta.ts", "alpha.ts", "Beta", "Alpha.ts"] =
        "export * from './Alpha';\nexport * from './alpha';\nexport * from './Beta';\n" := by
  have hfirst : ["Beta.ts", "alpha.ts", "Beta", "Alpha.ts"].map moduleOf = ["Beta", "alpha", "Beta", "Alpha"] := by
    decide +kernel
  have hsecond : ["Alpha.ts", "alpha.ts", "Beta.ts"].map moduleOf = ["Alpha", "alpha", "Beta"] := by decide +kernel
  have hsorted : ["Alpha", "alpha", "Beta"].mergeSort moduleLe = ["Alpha", "alpha", "Beta"] :=
    List.mergeSort_of_pairwise (by decide +kernel)
  have hsame : barrel ["Beta.ts", "alpha.ts", "Beta", "Alpha.ts"] = barrel ["Alpha.ts", "alpha.ts", "Beta.ts"] := by
    refine (barrel_modules fun m => ?_).1
    rw [hfirst, hsecond]
    simp only [List.mem_cons, List.not_mem_nil, or_false]
    tauto
  refine ⟨hsame, hsame.trans ?_⟩
  unfold barrel
  rw [hsecond, hsorted]
  decide +kernel

end TraitWeave.Interface
