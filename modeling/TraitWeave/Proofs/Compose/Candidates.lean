import TraitWeave.Compose.Layer
import TraitWeave.Proofs.Table
import Mathlib.Data.List.Induction

/-!
# Declarations sorted by key

* `Candidate.gather_eq`: declarations sorted by key are grouped as any values.
* `Candidate.mergeAll?_attribute`: of an attribute that the later one gives, all declarations merged have the last.
* `Candidate.settle?_eq`: the declarations below the context, with the context on top.
* `Candidate.settle?_isSome`: some declaration always stands.
-/

namespace TraitWeave.Candidate

variable {α : Type} {cs : List (Candidate α)}

/-! ## Sorting -/

theorem gather_eq (entries : List (String × Candidate α)) : gather entries = Table.grouped entries := rfl

/-- The declarations of a table in one layer: one for each of its keys. -/
theorem filter_ofTable {t : Table α} (ht : t.keys.Nodup) (layer : Layer) (source key : String) :
    ((ofTable layer source t).filter fun e => e.1 == key).map Prod.snd =
      ((t.get? key).map fun v => ⟨⟨layer, source⟩, v⟩).toList := by
  have hfilter := congrArg (List.map fun v => (⟨⟨layer, source⟩, v⟩ : Candidate α)) (t.filter_key ht key)
  rw [Option.toList_map, ← hfilter, ofTable, List.filter_map, List.map_map, List.map_map]
  rfl

/-! ## Merging -/

variable {merge : α → α → α} {resolution : Option Resolution}

theorem mergeAll?_concat (merge : α → α → α) (cs : List (Candidate α)) (c : Candidate α) :
    mergeAll? merge (cs ++ [c]) = putOver merge (mergeAll? merge cs) c := by
  cases cs with
  | nil => rfl
  | cons d ds => simp [mergeAll?, putOver]

/-- Where a merge has the later attribute, or else the earlier one, all declarations merged have the last
one that there is. -/
theorem mergeAll?_attribute {β : Type} (attr : α → Option β)
    (h : ∀ a b, attr (merge a b) = (attr b).or (attr a)) (cs : List (Candidate α)) :
    (mergeAll? merge cs).bind (fun c => attr c.value) = cs.reverse.findSome? fun c => attr c.value := by
  induction cs using List.reverseRecOn with
  | nil => rfl
  | append_singleton cs c ih =>
    rw [mergeAll?_concat, List.reverse_concat, List.findSome?_cons, ← ih]
    cases mergeAll? merge cs with
    | none =>
      change attr c.value = _
      cases attr c.value <;> rfl
    | some b =>
      change attr (merge b.value c.value) = _
      rw [h]
      cases attr c.value <;> rfl

/-! ## Settling -/


/-- The context stands on top of what is chosen below it. -/
theorem settle?_eq {below above : List (Candidate α)} (hbelow : ∀ c ∈ below, c.layer ≠ .context)
    (habove : ∀ c ∈ above, c.layer = .context) :
    settle? merge resolution (below ++ above) =
      above.foldl (putOver merge) (choose? merge (resolution.bind Resolution.strategy) below) := by
  -- the partition finds the two parts again
  have hcontext : (below ++ above).filter (fun c => c.layer == .context) = above := by
    rw [List.filter_append, List.filter_eq_nil_iff.2 fun c hc => by simpa using hbelow c hc,
      List.filter_eq_self.2 fun c hc => by simpa using habove c hc, List.nil_append]
  have hlayered : (below ++ above).filter (fun c => !(c.layer == .context)) = below := by
    rw [List.filter_append, List.filter_eq_self.2 fun c hc => by simpa using hbelow c hc,
      List.filter_eq_nil_iff.2 fun c hc => by simpa using habove c hc, List.append_nil]
  unfold settle?
  rw [List.partition_eq_filter_filter]
  simp only [Function.comp_def, hcontext, hlayered]

@[simp] theorem settle?_nil (merge : α → α → α) (resolution : Option Resolution) :
    settle? merge resolution [] = none := by
  unfold settle? choose?
  cases resolution.bind Resolution.strategy with
  | none => rfl
  | some strategy => cases strategy <;> rfl

theorem choose?_isSome (strategy : Option Strategy) (h : cs ≠ []) :
    (choose? merge strategy cs).isSome = true := by
  have hlast : cs.getLast?.isSome = true := by simpa using h
  unfold choose?
  split
  · simp [hlast]
  · simp [hlast]
  · cases cs with
    | nil => exact absurd rfl h
    | cons c cs => rfl
  · exact hlast

theorem foldl_putOver_isSome {current : Option (Candidate α)} (h : current.isSome = true ∨ cs ≠ []) :
    (cs.foldl (putOver merge) current).isSome = true := by
  induction cs generalizing current with
  | nil => simpa using h
  | cons c cs ih =>
    refine ih (.inl ?_)
    unfold putOver
    split <;> rfl

/-- **Some declaration stands** wherever there is one. -/
theorem settle?_isSome (merge : α → α → α) (resolution : Option Resolution) (h : cs ≠ []) :
    (settle? merge resolution cs).isSome = true := by
  unfold settle?
  rw [List.partition_eq_filter_filter]
  by_cases hcontext : cs.filter (fun c => c.layer == .context) = []
  · -- then some declaration lies below the context, and one of these is chosen
    refine foldl_putOver_isSome (.inl (choose?_isSome _ ?_))
    obtain ⟨c, hc⟩ := List.exists_mem_of_ne_nil cs h
    have hlayer : (c.layer == Layer.context) = false := by
      simpa using List.filter_eq_nil_iff.1 hcontext c hc
    exact List.ne_nil_of_mem (List.mem_filter.2 ⟨hc, by simp [hlayer]⟩)
  · exact foldl_putOver_isSome (.inr hcontext)

end TraitWeave.Candidate
