import TraitWeave.Trait.Resolution
import TraitWeave.Proofs.Table
import Mathlib.Data.List.Forall2
import Mathlib.Data.List.Induction
import Mathlib.Data.List.Nodup

/-!
# When references can be resolved

The references of an object are resolved whatever it is that loads them: by a function from requests to
answers, or by something that changes with each request. Either all of them are, in order, or the failure is
that of the first one that goes wrong, and what that means is said here without the program's tables of names.

* `InTurn`, `FirstFault`: a list of which each item is sound after those before it, or the first that is not.
* `Reference.Repeats`, `Resolver.Fault`: what can go wrong with one reference.
* `Resolver.Resolvable`: the conditions under which all are resolved.
* `Resolver.Settled`: what a resolved reference holds.
* `Resolver.settle_account`: what settling says, after any part of the work.
* `Resolver.resolveWith_spec`: success, the resolved references, and the failure.
-/

namespace TraitWeave

/-! ## One after the other -/

section

variable {α β : Type} {P Q : List α → α → Prop} {xs : List α} {x : α}

/-- Each item of a list is as it should be after those before it. -/
def InTurn (P : List α → α → Prop) (xs : List α) : Prop :=
  ∀ before x after, xs = before ++ x :: after → P before x

/-- The first item of a list at which something goes wrong, and what it is. -/
def FirstFault (F : List α → α → β → Prop) (xs : List α) (x : α) (c : β) : Prop :=
  ∃ before after, xs = before ++ x :: after ∧ InTurn (fun earlier y => ∀ d, ¬ F earlier y d) before ∧
    F before x c

@[simp] theorem inTurn_nil : InTurn P [] := by
  intro before x after h
  simp at h

theorem inTurn_concat : InTurn P (xs ++ [x]) ↔ InTurn P xs ∧ P xs x := by
  constructor
  · intro h
    exact ⟨fun before y after hxs => h before y (after ++ [x]) (by simp [hxs]), h xs x [] rfl⟩
  · rintro ⟨hxs, hx⟩ before y after h
    rcases List.eq_nil_or_concat' after with rfl | ⟨after, z, rfl⟩
    · obtain ⟨rfl, rfl⟩ := List.append_singleton_inj.1 h
      exact hx
    · rw [← List.cons_append, ← List.append_assoc] at h
      exact hxs before y after (List.append_singleton_inj.1 h).1

theorem inTurn_singleton : InTurn P [x] ↔ P [] x :=
  (inTurn_concat : InTurn P ([] ++ [x]) ↔ _).trans (and_iff_right inTurn_nil)

theorem FirstFault.not_inTurn {F : List α → α → β → Prop} {c : β} (h : FirstFault F xs x c) :
    ¬ InTurn (fun before y => ∀ d, ¬ F before y d) xs := by
  obtain ⟨before, after, hxs, -, hx⟩ := h
  exact fun hsound => hsound before x after hxs c hx

theorem InTurn.imp (h : InTurn P xs) (hPQ : ∀ before x, P before x → Q before x) : InTurn Q xs :=
  fun before x after hxs => hPQ before x (h before x after hxs)

theorem inTurn_and : InTurn (fun before x => P before x ∧ Q before x) xs ↔ InTurn P xs ∧ InTurn Q xs :=
  ⟨fun h => ⟨h.imp fun _ _ => And.left, h.imp fun _ _ => And.right⟩,
    fun h before x after hxs => ⟨h.1 before x after hxs, h.2 before x after hxs⟩⟩

theorem inTurn_iff_forall {p : α → Prop} : InTurn (fun _ x => p x) xs ↔ ∀ x ∈ xs, p x := by
  constructor
  · intro h x hx
    obtain ⟨before, after, rfl⟩ := List.append_of_mem hx
    exact h before x after rfl
  · rintro h before x after rfl
    exact h x (by simp)

/-- Names are distinct if each is new when it comes. -/
theorem inTurn_iff_nodup {κ : Type} (key : α → κ) :
    InTurn (fun before x => ∀ y ∈ before, key y ≠ key x) xs ↔ (xs.map key).Nodup := by
  induction xs using List.reverseRecOn with
  | nil => simp
  | append_singleton xs x ih =>
    rw [inTurn_concat, ih, List.map_append, List.map_singleton, ← List.concat_eq_append,
      List.nodup_concat, and_comm]
    simp

end

/-! ## What can go wrong -/

/-- The declared defaults, in their order. -/
def Trait.declaredDefaults (t : Trait) : List (String × Json) :=
  t.parameters.filterMap fun p => p.default.map (p.name, ·)

namespace Reference

/-- The name that no other reference may go by. -/
def key (r : Reference) : String := Name.normalize r.effectiveName

/-- The reference goes by a name used before, which was spelled `previous` then. -/
def Repeats (before : List Reference) (r : Reference) (previous : String) : Prop :=
  ∃ q ∈ before, q.key = r.key ∧ previous = q.effectiveName

/-- The references that are not disabled. -/
def active (references : List Reference) : List Reference := references.filter fun r => !r.disabled

end Reference

/-- A reference and the answer to its request. -/
abbrev Attempt := Reference × LoadOutcome

/-- A reference and what was loaded for it. -/
abbrev Arrival := Reference × Loaded

namespace Arrival

/-- The name that no other loaded reference may go by. -/
def key (a : Arrival) : String := Name.normalize (a.1.nameOf a.2.trait)

/-- The values of the parameters. -/
def parameters (a : Arrival) : Table Json := a.2.trait.parametersWith a.1.parameters

/-- The arrival as a resolved reference. -/
def resolved (a : Arrival) : Resolved := ⟨a.1, a.2.trait, a.parameters, a.2.path⟩

end Arrival

/-- The references that were loaded, in order. -/
def arrivals (attempts : List Attempt) : List Arrival :=
  attempts.filterMap fun a => a.2.toOption.map (a.1, ·)

namespace Resolver

variable {σ : Type} (desk : SchemaDesk σ)

/-- What asking for the schemas of some arrivals leaves behind. -/
def consulted (st : σ × Validator) (as : List Arrival) : σ × Validator :=
  as.foldl (fun st a => (Validator.obtain desk st (Inquiry.of a.1.request)).1) st

/-- The errors in the values of an arrival's parameters: those its schema finds, and those of values taken
from other parameters. -/
def faults (st : σ × Validator) (a : Arrival) : List Issue :=
  let q := Inquiry.of a.1.request
  (Validator.issues desk q.label (.obj a.parameters) (Validator.obtain desk st q).2 ++
    a.2.trait.enumFromIssues a.parameters).filter fun i => i.severity == .error

/-- What can go wrong with an attempt, when the arrivals before it were checked in the state `st`. -/
inductive Fault (validating : Bool) (st : σ × Validator) (before : List Attempt) :
    Attempt → ResolveCause → Prop
  | load {r : Reference} {e : LoadError} (h : ¬ (r.optional = true ∧ e.isNotFound = true)) :
      Fault validating st before (r, .error e) (.load e)
  | duplicate {r : Reference} {l : Loaded} {a : Arrival} (ha : a ∈ arrivals before)
      (hkey : a.key = Arrival.key (r, l)) :
      Fault validating st before (r, .ok l) (.duplicate (r.nameOf l.trait) a.1.name)
  | invalid {r : Reference} {l : Loaded} (hv : validating = true)
      (hkey : ∀ a ∈ arrivals before, a.key ≠ Arrival.key (r, l))
      (h : faults desk (consulted desk st (arrivals before)) (r, l) ≠ []) :
      Fault validating st before (r, .ok l)
        (.invalid (faults desk (consulted desk st (arrivals before)) (r, l)))

/-- Nothing goes wrong with an attempt. -/
def Sound (validating : Bool) (st : σ × Validator) (before : List Attempt) (a : Attempt) : Prop :=
  ∀ c, ¬ Fault desk validating st before a c

/-- The answers to the requests of the references that are not disabled. -/
def attempts (load : σ → Request → σ × LoadOutcome) (known : σ × Validator)
    (references : List Reference) : List Attempt :=
  (loadAll load known.1 (Reference.active references)).2

/-- What is known once they are all loaded. -/
def supplied (load : σ → Request → σ × LoadOutcome) (known : σ × Validator)
    (references : List Reference) : σ × Validator :=
  ((loadAll load known.1 (Reference.active references)).1, known.2)

/-- The conditions under which references are resolved. -/
structure Resolvable (load : σ → Request → σ × LoadOutcome) (validating : Bool) (known : σ × Validator)
    (references : List Reference) : Prop where
  /-- No two go by one name. -/
  names : ((Reference.active references).map Reference.key).Nodup
  /-- Each is loaded, or need not be and was not found. -/
  loaded : ∀ a ∈ attempts load known references, (∃ l, a.2 = .ok l) ∨
    a.1.optional = true ∧ ∃ name searched, a.2 = .error (.notFound name searched)
  /-- No two of the loaded ones go by one name. -/
  finalNames : ((arrivals (attempts load known references)).map Arrival.key).Nodup
  /-- The values of the parameters hold no error, where that is asked for. -/
  values : validating = true →
    InTurn (fun before a => faults desk (consulted desk (supplied load known references) before) a = [])
      (arrivals (attempts load known references))

/-- A resolved reference holds what was loaded for it. The declared defaults come first, in their order; a
value that the reference gives replaces a default, and stands at the end if there is none. -/
structure Settled (a : Arrival) (x : Resolved) : Prop where
  reference : x.reference = a.1
  trait : x.trait = a.2.trait
  path : x.path = a.2.path
  order : x.parameters.keys = ((a.2.trait.declaredDefaults ++ a.1.parameters).map Prod.fst).eraseDups
  value (key : String) : x.parameters.get? key =
    (Table.get? a.1.parameters.reverse key).or (Table.get? a.2.trait.declaredDefaults.reverse key)

end Resolver

/-! ## The proofs -/

section

variable {r : Reference} {l : Loaded} {e : LoadError} {before rest : List Attempt}

@[simp] theorem arrivals_append (xs ys : List Attempt) : arrivals (xs ++ ys) = arrivals xs ++ arrivals ys :=
  List.filterMap_append

@[simp] theorem arrivals_error : arrivals ((r, .error e) :: rest) = arrivals rest := rfl

@[simp] theorem arrivals_ok : arrivals ((r, .ok l) :: rest) = (r, l) :: arrivals rest := rfl

@[simp] theorem arrivals_nil : arrivals [] = [] := rfl

theorem LoadError.isNotFound_iff : e.isNotFound = true ↔ ∃ name searched, e = .notFound name searched := by
  cases e <;> simp [isNotFound]

theorem inTurn_arrivals {P : List Arrival → Arrival → Prop} {xs : List Attempt} :
    InTurn (fun before a => ∀ l, a.2 = .ok l → P (arrivals before) (a.1, l)) xs ↔
      InTurn P (arrivals xs) := by
  induction xs using List.reverseRecOn with
  | nil => simp
  | append_singleton xs a ih =>
    rw [inTurn_concat, ih, arrivals_append]
    obtain ⟨r, e | l⟩ := a
    · simp
    · rw [arrivals_ok, arrivals_nil, inTurn_concat]
      simp

end

namespace Reference

theorem sound_iff {before : List Reference} {r : Reference} :
    (∀ previous, ¬ Repeats before r previous) ↔ ∀ q ∈ before, q.key ≠ r.key := by
  simp only [Repeats, not_exists, not_and]
  exact ⟨fun h q hq hkey => h _ q hq hkey rfl, fun h _ q hq hkey => absurd hkey (h q hq)⟩

theorem distinct_iff {rs : List Reference} :
    InTurn (fun earlier r => ∀ previous, ¬ Repeats earlier r previous) rs ↔ (rs.map key).Nodup := by
  rw [← inTurn_iff_nodup]
  exact ⟨fun h => h.imp fun _ _ => sound_iff.1, fun h => h.imp fun _ _ => sound_iff.2⟩

/-- **The search for a repeated name** finds the first one, or none is repeated. -/
theorem firstRepeated?_account (before : List Reference)
    (hbefore : (before.map key).Nodup) (rs : List Reference) :
    match firstRepeated? (before.map effectiveName) rs with
    | none => ((before ++ rs).map key).Nodup
    | some (r, previous) => FirstFault Repeats (before ++ rs) r previous := by
  induction rs generalizing before with
  | nil =>
    rw [firstRepeated?, List.append_nil]
    exact hbefore
  | cons r rs ih =>
    rw [firstRepeated?]
    cases hfind : (before.map effectiveName).find? fun n =>
        Name.normalize n == Name.normalize r.effectiveName with
    | some previous =>
      obtain ⟨q, hq, rfl⟩ := List.mem_map.1 (List.mem_of_find?_eq_some hfind)
      exact ⟨before, rs, rfl, distinct_iff.2 hbefore, q, hq, by simpa [key] using List.find?_some hfind, rfl⟩
    | none =>
      have hnew : ∀ q ∈ before, q.key ≠ r.key := by
        simpa [List.find?_eq_none, key] using hfind
      have h := ih _ (distinct_iff.1 (inTurn_concat.2 ⟨distinct_iff.2 hbefore, sound_iff.2 hnew⟩))
      rw [List.map_append, List.append_assoc] at h
      exact h

theorem firstRepeated?_eq_none {rs : List Reference} : firstRepeated? [] rs = none ↔ (rs.map key).Nodup := by
  have hsearch := firstRepeated?_account [] List.nodup_nil rs
  rw [List.map_nil] at hsearch
  cases hfirst : firstRepeated? [] rs with
  | none =>
    rw [hfirst] at hsearch
    exact iff_of_true rfl hsearch
  | some found =>
    rw [hfirst] at hsearch
    exact iff_of_false (Option.some_ne_none found) fun hnames => hsearch.not_inTurn (distinct_iff.2 hnames)

end Reference

/-- The list of a report has all errors, whatever else it has. -/
theorem Report.errors_ofIssues (issues : List Issue) (options : ReportOptions) :
    (ofIssues issues options).errors = issues.filter fun i => i.severity == .error := by
  unfold errors ofIssues
  rw [List.filter_filter]
  refine List.filter_congr fun i _ => ?_
  cases i.severity <;> rfl

namespace Resolver

variable {σ : Type} {desk : SchemaDesk σ} {validating : Bool} {st st₀ : σ × Validator}

theorem sound_iff {before : List Attempt} {a : Attempt} :
    Sound desk validating st before a ↔
      (∀ e, a.2 = .error e → a.1.optional = true ∧ e.isNotFound = true) ∧
      (∀ l, a.2 = .ok l → ∀ b ∈ arrivals before, b.key ≠ Arrival.key (a.1, l)) ∧
      ∀ l, a.2 = .ok l → validating = true →
        faults desk (consulted desk st (arrivals before)) (a.1, l) = [] := by
  obtain ⟨r, e | l⟩ := a
  · constructor
    · intro h
      refine ⟨?_, by simp, by simp⟩
      rintro _ ⟨⟩
      -- a load that fails is a fault, unless the reference is optional and the trait missing
      by_contra hload
      exact h _ (.load hload)
    · rintro ⟨h, -, -⟩ c hc
      cases hc with
      | load hload => exact hload (h e rfl)
  · constructor
    · intro h
      have hkey : ∀ b ∈ arrivals before, b.key ≠ Arrival.key (r, l) :=
        fun b hb hkey => h _ (.duplicate hb hkey)
      refine ⟨by simp, ?_, ?_⟩
      · rintro _ ⟨⟩
        exact hkey
      · rintro _ ⟨⟩ hv
        by_contra hfaults
        exact h _ (.invalid hv hkey hfaults)
    · rintro ⟨-, hkey, hvalues⟩ c hc
      cases hc with
      | duplicate hb hsame => exact hkey l rfl _ hb hsame
      | invalid hv _ hfaults => exact hfaults (hvalues l rfl hv)

/-- Nothing goes wrong with any attempt exactly if all is loaded or may be missing, no name is used twice, and
the values hold no errors. -/
theorem inTurn_sound_iff {xs : List Attempt} :
    InTurn (Sound desk validating st) xs ↔
      (∀ a ∈ xs, ∀ e, a.2 = .error e → a.1.optional = true ∧ e.isNotFound = true) ∧
      ((arrivals xs).map Arrival.key).Nodup ∧
      (validating = true →
        InTurn (fun before a => faults desk (consulted desk st before) a = []) (arrivals xs)) := by
  have hsound : InTurn (Sound desk validating st) xs ↔ InTurn _ xs :=
    ⟨fun h => h.imp fun _ _ => sound_iff.1, fun h => h.imp fun _ _ => sound_iff.2⟩
  rw [hsound, inTurn_and, inTurn_and, inTurn_iff_forall,
    inTurn_arrivals (P := fun before a => ∀ b ∈ before, b.key ≠ a.key), inTurn_iff_nodup,
    inTurn_arrivals (P := fun before a => validating = true → faults desk (consulted desk st before) a = [])]
  cases validating <;> simp [InTurn]

/-- The errors that a resolver meets do not depend on what its reports list. -/
theorem parameterErrors_eq (desk : SchemaDesk σ) (st : σ × Validator) (options : ReportOptions) (a : Arrival) :
    parameterErrors desk options st a.1 a.2.trait a.parameters =
      ((Validator.obtain desk st (Inquiry.of a.1.request)).1, faults desk st a) := by
  unfold parameterErrors Validator.check faults
  simp only [Report.errors_ofIssues, List.filter_append]

theorem apply_none (a : Arrival) : apply desk none st a.1 a.2 = (st, .ok a.resolved) := rfl

theorem apply_some (options : ReportOptions) (a : Arrival) :
    apply desk (some options) st a.1 a.2 =
      ((Validator.obtain desk st (Inquiry.of a.1.request)).1,
        if faults desk st a = [] then .ok a.resolved else .error (.invalid (faults desk st a))) := by
  have h := parameterErrors_eq desk st options a
  unfold apply
  simp only [Arrival.parameters] at h
  simp only [h]
  cases faults desk st a <;> rfl

variable {checking : Option ReportOptions} {seen : List (String × String)} {before : List Attempt}

/-- Where settling stands after some attempts of which none went wrong: the names in use, and the schemas that
were asked for. -/
structure Standing (desk : SchemaDesk σ) (checking : Option ReportOptions) (st₀ : σ × Validator)
    (before : List Attempt) (st : σ × Validator) (seen : List (String × String)) : Prop where
  sound : InTurn (Sound desk checking.isSome st₀) before
  seen_eq : seen = (arrivals before).map fun a => (a.key, a.1.name)
  state_eq : checking.isSome = true → st = consulted desk st₀ (arrivals before)

namespace Standing

variable {r : Reference} {l : Loaded} {e : LoadError}

theorem start : Standing desk checking st [] st [] := ⟨inTurn_nil, rfl, fun _ => rfl⟩

theorem passOver (h : Standing desk checking st₀ before st seen)
    (hskip : r.optional = true ∧ e.isNotFound = true) :
    Standing desk checking st₀ (before ++ [(r, .error e)]) st seen where
  sound := by
    refine inTurn_concat.2 ⟨h.sound, sound_iff.2 ⟨?_, by simp, by simp⟩⟩
    rintro _ ⟨⟩
    exact hskip
  seen_eq := by simpa using h.seen_eq
  state_eq := by simpa using h.state_eq

theorem find?_eq_none (h : Standing desk checking st₀ before st seen) {key : String} :
    (seen.find? fun p => p.1 == key) = none ↔ ∀ a ∈ arrivals before, a.key ≠ key := by
  rw [h.seen_eq, List.find?_eq_none, List.forall_mem_map]
  simp

theorem of_find?_eq_some (h : Standing desk checking st₀ before st seen) {key k previous : String}
    (hfind : (seen.find? fun p => p.1 == key) = some (k, previous)) :
    ∃ a ∈ arrivals before, a.key = key ∧ previous = a.1.name := by
  have hmem := List.mem_of_find?_eq_some hfind
  rw [h.seen_eq] at hmem
  obtain ⟨a, ha, heq⟩ := List.mem_map.1 hmem
  obtain ⟨rfl, rfl⟩ := Prod.mk.inj heq
  exact ⟨a, ha, by simpa using List.find?_some hfind, rfl⟩

theorem add (h : Standing desk checking st₀ before st seen)
    (hkey : ∀ a ∈ arrivals before, a.key ≠ Arrival.key (r, l)) {st' : σ × Validator} {x : Resolved}
    (happly : apply desk checking st r l = (st', .ok x)) :
    x = Arrival.resolved (r, l) ∧
      Standing desk checking st₀ (before ++ [(r, .ok l)]) st' (seen ++ [(Arrival.key (r, l), r.name)]) := by
  have hseen : seen ++ [(Arrival.key (r, l), r.name)] =
      (arrivals (before ++ [(r, .ok l)])).map fun a => (a.key, a.1.name) := by
    simp [h.seen_eq]
  have hnew : ∀ l', (Except.ok l : LoadOutcome) = .ok l' → ∀ b ∈ arrivals before, b.key ≠ Arrival.key (r, l') := by
    rintro _ ⟨⟩
    exact hkey
  cases checking with
  | none =>
    obtain ⟨rfl, hx⟩ := Prod.mk.inj ((apply_none (r, l)).symm.trans happly)
    exact ⟨(Except.ok.inj hx).symm,
      inTurn_concat.2 ⟨h.sound, sound_iff.2 ⟨by simp, hnew, by simp⟩⟩, hseen, by simp⟩
  | some options =>
    have hst := h.state_eq rfl
    obtain ⟨hst', hx⟩ := Prod.mk.inj ((apply_some options (r, l)).symm.trans happly)
    by_cases hfaults : faults desk st (r, l) = []
    · rw [if_pos hfaults] at hx
      refine ⟨(Except.ok.inj hx).symm,
        inTurn_concat.2 ⟨h.sound, sound_iff.2 ⟨by simp, hnew, ?_⟩⟩, hseen, ?_⟩
      · rintro _ ⟨⟩ -
        rwa [hst] at hfaults
      · intro _
        rw [← hst', hst, arrivals_append, arrivals_ok, arrivals_nil, consulted, consulted, List.foldl_append]
        rfl
    -- values with errors are not applied
    · rw [if_neg hfaults] at hx
      cases hx

theorem refuse (h : Standing desk checking st₀ before st seen)
    (hkey : ∀ a ∈ arrivals before, a.key ≠ Arrival.key (r, l)) {st' : σ × Validator} {c : ResolveCause}
    (happly : apply desk checking st r l = (st', .error c)) :
    Fault desk checking.isSome st₀ before (r, .ok l) c := by
  cases checking with
  | none => cases (apply_none (r, l)).symm.trans happly
  | some options =>
    have hst := h.state_eq rfl
    obtain ⟨-, hx⟩ := Prod.mk.inj ((apply_some options (r, l)).symm.trans happly)
    by_cases hfaults : faults desk st (r, l) = []
    · rw [if_pos hfaults] at hx
      cases hx
    · rw [if_neg hfaults] at hx
      cases hx
      rw [hst] at hfaults ⊢
      exact .invalid rfl hkey hfaults

end Standing

/-- What a result of settling says about the attempts, some of which went well before. -/
def Account (desk : SchemaDesk σ) (validating : Bool) (st₀ : σ × Validator) (before attempts : List Attempt) :
    Except (Reference × ResolveCause) (List Resolved) → Prop
  | .ok rs =>
    InTurn (Sound desk validating st₀) (before ++ attempts) ∧ rs = (arrivals attempts).map Arrival.resolved
  | .error (r, c) => ∃ answer, FirstFault (Fault desk validating st₀) (before ++ attempts) (r, answer) c

theorem settle_goes_on {r : Reference} {l : Loaded} {rest : List Attempt} {st' : σ × Validator} {x : Resolved}
    (hfind : (seen.find? fun p => p.1 == Arrival.key (r, l)) = none)
    (happly : apply desk checking st r l = (st', .ok x)) :
    (settle desk checking st seen ((r, .ok l) :: rest)).2 =
      (settle desk checking st' (seen ++ [(Arrival.key (r, l), r.name)]) rest).2.map (x :: ·) := by
  simp only [Arrival.key] at hfind ⊢
  simp only [settle, hfind, happly]
  rcases settle desk checking st' (seen ++ [(Name.normalize (r.nameOf l.trait), r.name)]) rest with
    ⟨st', e | more⟩ <;> rfl

/-- **Settling** goes on to the first fault. -/
theorem settle_account (h : Standing desk checking st₀ before st seen) (attempts : List Attempt) :
    Account desk checking.isSome st₀ before attempts (settle desk checking st seen attempts).2 := by
  induction attempts generalizing before st seen with
  | nil => exact ⟨by simpa using h.sound, rfl⟩
  | cons a rest ih =>
    -- what is said of the rest after `before ++ [a]` is said of `a :: rest` after `before`
    have hsplit : before ++ [a] ++ rest = before ++ a :: rest := (List.append_cons before a rest).symm
    obtain ⟨r, e | l⟩ := a
    · rw [settle]
      by_cases hskip : r.optional = true ∧ e.isNotFound = true
      · rw [if_pos (by simpa using hskip)]
        have hrest := ih (h.passOver hskip)
        unfold Account at hrest ⊢
        rwa [hsplit] at hrest
      · rw [if_neg (by simpa using hskip)]
        exact ⟨_, before, rest, rfl, h.sound, .load hskip⟩
    · cases hfind : seen.find? fun p => p.1 == Arrival.key (r, l) with
      | some p =>
        obtain ⟨a, ha, hkey, hprevious⟩ := h.of_find?_eq_some hfind
        simp only [Arrival.key] at hfind
        simp only [settle, hfind, hprevious]
        exact ⟨_, before, rest, rfl, h.sound, .duplicate ha hkey⟩
      | none =>
        have hkey := h.find?_eq_none.1 hfind
        rcases happly : apply desk checking st r l with ⟨st', c | x⟩
        · simp only [Arrival.key] at hfind
          simp only [settle, hfind, happly]
          exact ⟨_, before, rest, rfl, h.sound, h.refuse hkey happly⟩
        · obtain ⟨rfl, hnext⟩ := h.add hkey happly
          have hrest := ih hnext
          rw [settle_goes_on hfind happly]
          rcases hmore : (settle desk checking st' (seen ++ [(Arrival.key (r, l), r.name)]) rest).2 with
            ⟨q, c⟩ | more
          · rw [hmore, Account, hsplit] at hrest
            exact hrest
          · rw [hmore, Account, hsplit] at hrest
            exact ⟨hrest.1, congrArg _ hrest.2⟩

theorem settled_resolved (a : Arrival) : Settled a a.resolved where
  reference := rfl
  trait := rfl
  path := rfl
  order := by
    have hpairs : a.parameters = Table.ofPairs (a.2.trait.declaredDefaults ++ a.1.parameters) := by
      rw [Table.ofPairs, Table.putAll, List.foldl_append]
      rfl
    rw [← Table.keys_ofPairs, ← hpairs]
    rfl
  value key := by
    refine (Table.get?_putAll _ _ key).trans (congrArg _ ?_)
    rw [Trait.defaults, Table.ofPairs, Table.get?_putAll, Table.get?_nil, Option.or_none]
    rfl

variable {load : σ → Request → σ × LoadOutcome} {known : σ × Validator} {references : List Reference}
  {origin : Origin}

theorem loadAll_references (s : σ) (rs : List Reference) : (loadAll load s rs).2.map Prod.fst = rs := by
  induction rs generalizing s with
  | nil => rfl
  | cons r rs ih => exact congrArg (r :: ·) (ih _)

theorem loadAll_answers {answer : Request → LoadOutcome} (h : ∀ s r, (load s r).2 = answer r) (s : σ)
    (rs : List Reference) : (loadAll load s rs).2 = rs.map fun r => (r, answer r.request) := by
  induction rs generalizing s with
  | nil => rfl
  | cons r rs ih =>
    rw [List.map_cons, ← h s r.request, ← ih (load s r.request).1]
    rfl

theorem resolvable_iff : Resolvable desk load validating known references ↔
    ((Reference.active references).map Reference.key).Nodup ∧
      InTurn (Sound desk validating (supplied load known references)) (attempts load known references) := by
  have hloaded : (∀ a ∈ attempts load known references, (∃ l, a.2 = .ok l) ∨
        a.1.optional = true ∧ ∃ name searched, a.2 = .error (.notFound name searched)) ↔
      ∀ a ∈ attempts load known references, ∀ e, a.2 = .error e →
        a.1.optional = true ∧ e.isNotFound = true := by
    refine forall₂_congr fun a _ => ?_
    obtain ⟨r, e | l⟩ := a <;> simp [LoadError.isNotFound_iff]
  rw [inTurn_sound_iff, ← hloaded]
  exact ⟨fun h => ⟨h.names, h.loaded, h.finalNames, h.values⟩, fun h => ⟨h.1, h.2.1, h.2.2.1, h.2.2.2⟩⟩

theorem resolveWith_of_repeated {r : Reference} {previous : String}
    (h : Reference.firstRepeated? [] (Reference.active references) = some (r, previous)) :
    resolveWith load desk checking known references origin =
      (known, .error ⟨r, origin, .duplicate r.effectiveName previous⟩) := by
  unfold Reference.active at h
  simp only [resolveWith, h]

theorem resolveWith_of_distinct (h : Reference.firstRepeated? [] (Reference.active references) = none) :
    (resolveWith load desk checking known references origin).2 =
      (settle desk checking (supplied load known references) [] (attempts load known references)).2.mapError
        fun (r, cause) => ⟨r, origin, cause⟩ := by
  unfold Reference.active at h
  simp only [resolveWith, h]
  rfl

/-- The failure is that of the first reference that goes by a name used before, and then nothing was loaded;
or it is that of the first reference with which something goes wrong once all are loaded. -/
def Explains (desk : SchemaDesk σ) (load : σ → Request → σ × LoadOutcome) (validating : Bool)
    (known : σ × Validator) (references : List Reference) (answer : σ × Validator) (failure : ResolveError) :
    Prop :=
  (∃ previous, FirstFault Reference.Repeats (Reference.active references) failure.reference previous ∧
    failure.cause = .duplicate failure.reference.effectiveName previous ∧ answer = known) ∨
  ((Reference.active references).map Reference.key).Nodup ∧
    ∃ outcome, FirstFault (Fault desk validating (supplied load known references))
      (attempts load known references) (failure.reference, outcome) failure.cause

theorem Explains.not_resolvable {answer : σ × Validator} {failure : ResolveError}
    (h : Explains desk load validating known references answer failure) :
    ¬ Resolvable desk load validating known references := by
  rw [resolvable_iff]
  rintro ⟨hnames, hsound⟩
  rcases h with ⟨previous, hfirst, -⟩ | ⟨-, outcome, hfirst⟩
  · exact hfirst.not_inTurn (Reference.distinct_iff.2 hnames)
  · exact hfirst.not_inTurn hsound

/-- What a result of resolving says. -/
theorem resolveWith_account (load : σ → Request → σ × LoadOutcome) (desk : SchemaDesk σ)
    (checking : Option ReportOptions) (known : σ × Validator) (references : List Reference) (origin : Origin) :
    match (resolveWith load desk checking known references origin).2 with
    | .ok rs => Resolvable desk load checking.isSome known references ∧
        rs = (arrivals (attempts load known references)).map Arrival.resolved
    | .error failure => failure.origin = origin ∧ Explains desk load checking.isSome known references
        (resolveWith load desk checking known references origin).1 failure := by
  have hsearch := Reference.firstRepeated?_account [] List.nodup_nil (Reference.active references)
  cases hfirst : Reference.firstRepeated? [] (Reference.active references) with
  | some found =>
    obtain ⟨r, previous⟩ := found
    rw [resolveWith_of_repeated hfirst]
    rw [List.map_nil, hfirst] at hsearch
    exact ⟨rfl, .inl ⟨previous, hsearch, rfl, rfl⟩⟩
  | none =>
    have hstart : Standing desk checking (supplied load known references) []
        (supplied load known references) [] := .start
    have hsettle := settle_account hstart (attempts load known references)
    rw [List.map_nil, hfirst] at hsearch
    rw [resolveWith_of_distinct hfirst]
    rcases hresult : (settle desk checking (supplied load known references) []
        (attempts load known references)).2 with ⟨r, cause⟩ | rs
    · rw [hresult] at hsettle
      exact ⟨rfl, .inr ⟨hsearch, hsettle⟩⟩
    · rw [hresult] at hsettle
      exact ⟨resolvable_iff.2 ⟨hsearch, hsettle.1⟩, hsettle.2⟩

/-- **When references are resolved.** They are exactly under the stated conditions; each loaded one is then
listed, in order, with its values. Otherwise the failure is that of the first reference that repeats a name,
before anything is loaded, or else of the first one with which something goes wrong. Disabled references do
not count: without them all is the same, also for a loader that takes notes of what it is asked. -/
theorem resolveWith_spec (load : σ → Request → σ × LoadOutcome) (desk : SchemaDesk σ)
    (checking : Option ReportOptions) (known : σ × Validator) (references : List Reference) (origin : Origin) :
    (attempts load known references).map Prod.fst = Reference.active references ∧
    (∀ answer : Request → LoadOutcome, (∀ s r, (load s r).2 = answer r) →
      attempts load known references = (Reference.active references).map fun r => (r, answer r.request)) ∧
    ((∃ rs, (resolveWith load desk checking known references origin).2 = .ok rs) ↔
      Resolvable desk load checking.isSome known references) ∧
    (∀ rs, (resolveWith load desk checking known references origin).2 = .ok rs →
      List.Forall₂ Settled (arrivals (attempts load known references)) rs) ∧
    (∀ failure, (resolveWith load desk checking known references origin).2 = .error failure →
      failure.origin = origin ∧ Explains desk load checking.isSome known references
        (resolveWith load desk checking known references origin).1 failure) ∧
    resolveWith load desk checking known (Reference.active references) origin =
      resolveWith load desk checking known references origin := by
  have haccount := resolveWith_account load desk checking known references origin
  refine ⟨loadAll_references _ _, fun answer h => loadAll_answers h _ _, ?_, ?_, ?_, ?_⟩
  · constructor
    · rintro ⟨rs, hrs⟩
      rw [hrs] at haccount
      exact haccount.1
    · intro hresolvable
      cases hresult : (resolveWith load desk checking known references origin).2 with
      | ok rs => exact ⟨rs, rfl⟩
      | error failure =>
        rw [hresult] at haccount
        -- it failed, and the failure says why the conditions do not hold
        exact absurd hresolvable haccount.2.not_resolvable
  · intro rs hrs
    rw [hrs] at haccount
    rw [haccount.2, List.forall₂_map_right_iff, List.forall₂_same]
    exact fun a _ => settled_resolved a
  · intro failure hfailure
    rw [hfailure] at haccount
    exact haccount
  · simp [resolveWith, Reference.active, List.filter_filter]

/-- A trait with one parameter that has a default. -/
def audited : Trait where
  info := ⟨"Audited", "1.0.0", none, none, none, []⟩
  parameters := [⟨"level", "string", false, some (.str "full"), none, none, false, Rules.empty⟩]
  schema := []
  semantics := []
  viewExtensions := []
  tokens := []
  dependencies := []
  actions := []
  stateMachine := none
  metadata := ⟨[], []⟩

/-- The trait is found under two names. Requests are noted. -/
def noted (asked : List Request) (r : Request) : List Request × LoadOutcome :=
  (asked ++ [r],
    if r.name = "Audited" ∨ r.name = "core/Audited" then .ok (.of audited ⟨"traits/Audited.trait.yaml"⟩)
    else .error (.notFound r.name []))

/-- A desk at which no schema is to be had. -/
def closed : SchemaDesk (List Request) := ⟨fun asked _ => (asked, .error "closed"), id⟩

/-- The schema of the trait was asked for before; it allows everything. -/
def kept : Validator := ⟨[("audited", .ready ⟨.obj [], 2179, .rules []⟩)]⟩

/-- References of which one is disabled, one gives a value and one is optional. -/
def plain : List Reference :=
  [{ Reference.named "Retired" with disabled := true },
    { Reference.named "Audited" with parameters := [("level", .str "brief")] },
    { Reference.named "Ghost" with optional := true }]

/-- References that turn out to mean one trait. -/
def twice : List Reference := [.named "Audited", .named "core/Audited", .named "Ghost"]

theorem attempts_plain : attempts noted ([], kept) plain =
    [({ Reference.named "Audited" with parameters := [("level", .str "brief")] },
        .ok (.of audited ⟨"traits/Audited.trait.yaml"⟩)),
      ({ Reference.named "Ghost" with optional := true }, .error (.notFound "Ghost" []))] := by
  simp [attempts, plain, Reference.active, loadAll, noted, Reference.request, Reference.named]

theorem resolvable_plain : Resolvable closed noted true ([], kept) plain := by
  refine ⟨by decide +kernel, by simp [attempts_plain], by simp [attempts_plain], fun _ => ?_⟩
  rw [attempts_plain, arrivals_ok, arrivals_error, arrivals_nil, inTurn_singleton]
  decide +kernel

/-- References of both kinds: some that are resolved, and some that are not. -/
theorem resolveWith_plain_twice :
    (∃ rs, (resolveWith noted closed (some .standard) ([], kept) plain ⟨none, none⟩).2 = .ok rs ∧
      List.Forall₂ Settled (arrivals (attempts noted ([], kept) plain)) rs) ∧
    ∃ failure, (resolveWith noted closed none ([], kept) twice ⟨none, none⟩).2 = .error failure ∧
      Explains closed noted false ([], kept) twice
        (resolveWith noted closed none ([], kept) twice ⟨none, none⟩).1 failure := by
  constructor
  · obtain ⟨-, -, hiff, hok, -⟩ :=
      resolveWith_spec noted closed (some .standard) ([], kept) plain ⟨none, none⟩
    obtain ⟨rs, hrs⟩ := hiff.2 resolvable_plain
    exact ⟨rs, hrs, hok rs hrs⟩
  · obtain ⟨-, -, -, -, herror, -⟩ :=
      resolveWith_spec noted closed none ([], kept) twice ⟨none, none⟩
    have hfails : (resolveWith noted closed none ([], kept) twice ⟨none, none⟩).2.isOk = false := by
      decide +kernel
    cases hresult : (resolveWith noted closed none ([], kept) twice ⟨none, none⟩).2 with
    | ok rs =>
      rw [hresult] at hfails
      cases hfails
    | error failure => exact ⟨failure, rfl, (herror failure hresult).2⟩

end Resolver

end TraitWeave
