import TraitWeave.Registry.Basic
import Mathlib.Data.List.Induction

/-!
# Runs of refreshes

A run follows one survey after the other. Nothing is asked of the surveys: between two of them files may
come, go and change as they like.

* `Registry.followAll`, `Registry.story`: a registry after a run, and all that was told on the way.
* `Registry.refreshAll_start`: refreshing on one tree after the other is such a run.
-/

namespace TraitWeave.Registry

variable (rg : Registry) (w : Survey) (ws : List Survey)

/-- A registry after it followed some surveys. -/
def followAll : Registry := ws.foldl (fun rg w => (rg.follow w).registry) rg

@[simp] theorem followAll_nil : rg.followAll [] = rg := rfl

@[simp] theorem followAll_concat :
    rg.followAll (ws ++ [w]) = ((rg.followAll ws).follow w).registry := by
  simp [followAll]

/-- All that is told while the registry follows some surveys. -/
def story (rg : Registry) : List Survey → List Event
  | [] => []
  | w :: ws => (rg.follow w).events ++ (rg.follow w).registry.story ws

theorem story_concat :
    rg.story (ws ++ [w]) = rg.story ws ++ ((rg.followAll ws).follow w).events := by
  induction ws generalizing rg with
  | nil => simp [story]
  | cons v ws ih => simp [story, followAll, ih (rg.follow v).registry]

@[simp] theorem tell_contents (es : List Event) : (rg.tell es).contents = rg.contents := by
  unfold tell; split <;> rfl

@[simp] theorem follow_contents :
    (rg.follow w).registry.contents = (rg.contents.refresh w.files w.scan).contents :=
  tell_contents _ _

@[simp] theorem follow_ready : (rg.follow w).registry.ready = true := by
  unfold follow tell; dsimp only; split <;> rfl

@[simp] theorem follow_closed : (rg.follow w).registry.closed = rg.closed := by
  unfold follow tell; dsimp only; split <;> rfl

@[simp] theorem follow_options : (rg.follow w).registry.options = rg.options := by
  unfold follow tell; dsimp only; split <;> rfl

@[simp] theorem follow_listening : (rg.follow w).registry.listening = rg.listening := by
  unfold follow tell; dsimp only; split <;> rfl

/-- A listener is told the whole story. -/
theorem followAll_inbox (h : rg.listening = true) :
    (rg.followAll ws).inbox = rg.inbox ++ rg.story ws := by
  induction ws generalizing rg with
  | nil => simp [story]
  | cons w ws ih =>
    have hone : (rg.follow w).registry.inbox = rg.inbox ++ (rg.follow w).events := by
      simp [follow, tell, h]
    have hrest := ih (rg.follow w).registry (by simpa using h)
    rw [hone, List.append_assoc] at hrest
    exact hrest

/-- A registry is ready after its first survey. -/
theorem followAll_ready : (rg.followAll ws).ready = (rg.ready || !ws.isEmpty) := by
  induction ws using List.reverseRecOn with
  | nil => simp
  | append_singleton ws w _ => simp

theorem refresh_of_open (t : Tree) (h : rg.closed = false) :
    rg.refresh t = .ok ((rg.follow (.of t rg.options.rules rg.options.roots)).registry,
      (rg.follow (.of t rg.options.rules rg.options.roots)).tally) := by
  simp [refresh, h]

variable (options : RegistryOptions) (resolver : Resolver) (traitRoots : List Path)
  (foundation : Table Field)

/-- Refresh on one tree after the other. -/
def refreshAll (ts : List Tree) : Except RegistryError Registry :=
  ts.foldlM (fun rg t => (rg.refresh t).map Prod.fst) rg

/-- **Refreshing a new registry is a run** over the surveys of its roots. -/
theorem refreshAll_start (ts : List Tree) :
    (start options resolver traitRoots foundation).refreshAll ts =
      .ok ((start options resolver traitRoots foundation).followAll
        (ts.map fun t => .of t options.rules options.roots)) := by
  suffices h : ∀ rg : Registry, rg.closed = false → rg.options = options →
      rg.refreshAll ts = .ok (rg.followAll (ts.map fun t => .of t options.rules options.roots)) from
    h _ rfl rfl
  induction ts with
  | nil => intro rg _ _; rfl
  | cons t ts ih =>
    intro rg hclosed hoptions
    have ih := ih (rg.follow (.of t options.rules options.roots)).registry
      (by simp [hclosed]) (by simp [hoptions])
    simp only [refreshAll, followAll, List.foldlM_cons, List.map_cons, List.foldl_cons] at ih ⊢
    rw [refresh_of_open rg t hclosed, hoptions]
    exact ih

/-- A registry that is filled when it is opened has followed one survey. -/
theorem open?_eq (t : Tree) (hroots : options.roots ≠ []) (hload : options.autoLoad = true) :
    open? t options resolver traitRoots foundation =
      .ok ((start options resolver traitRoots foundation).followAll
        [.of t options.rules options.roots]) := by
  have hroots : options.roots.isEmpty = false := by simpa using hroots
  simp only [open?, hroots, hload, if_true]
  rw [refresh_of_open _ t rfl]
  rfl

end TraitWeave.Registry
