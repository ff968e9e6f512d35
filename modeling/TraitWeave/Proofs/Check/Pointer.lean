import TraitWeave.Check.Issue
import TraitWeave.Proofs.Text.Pieces
import Mathlib.Data.List.Basic
import Mathlib.Data.List.Induction
import Mathlib.Data.Nat.Digits.Defs

/-!
# Pointers are read back

A pointer is written with the tildes of its steps first and the slashes then, and read the other way round, so that a
tilde and a digit that stand side by side in a step are never taken for a written slash. No written step has a slash in
it, and the slashes of the pointer are those between steps.

* `Pointer.escape_eq`: the two rounds in which a step is written.
* `Pointer.unescape_escape`, `Pointer.steps_text`: steps and pointers are read back.
* `Pointer.IsPosition`, `Pointer.fieldName`: which steps are positions, and how a field is named by its steps.
* `Pointer.text_reads_back`: a pointer names the field of its steps.
-/

namespace TraitWeave.Pointer

variable {c : Char} {cs : List Char} {field step first : String} {rest : List String}

/-! ## One step -/

/-- A tilde as it is written; other characters stand for themselves. -/
def writeTilde (c : Char) : List Char := if c = '~' then ['~', '0'] else [c]

/-- A slash as it is written; other characters stand for themselves. -/
def writeSlash (c : Char) : List Char := if c = '/' then ['~', '1'] else [c]

theorem replaceMark_mark (mark sign : Char) (cs : List Char) :
    replaceMark mark sign ('~' :: mark :: cs) = sign :: replaceMark mark sign cs := by simp [replaceMark]

theorem replaceMark_other {mark d : Char} (hd : d ≠ mark) (sign : Char) (cs : List Char) :
    replaceMark mark sign ('~' :: d :: cs) = '~' :: replaceMark mark sign (d :: cs) := by simp [replaceMark, hd]

theorem replaceMark_cons (hc : c ≠ '~') (mark sign : Char) (cs : List Char) :
    replaceMark mark sign (c :: cs) = c :: replaceMark mark sign cs := by
  cases cs with
  | nil => rfl
  | cons d cs => simp [replaceMark, hc]

theorem toList_escape (step : String) :
    (escape step).toList = step.toList.flatMap fun c => (writeTilde c).flatMap writeSlash := by
  rw [escape, String.toList_ofList]
  refine List.flatMap_congr fun c _ => ?_
  unfold writeTilde
  by_cases htilde : c = '~'
  · simp [htilde, writeSlash]
  · simp [htilde, writeSlash]

/-- **A step is written in two rounds**, the tildes in the first and the slashes in the second. -/
theorem escape_eq (step : String) :
    (escape step).toList = (step.toList.flatMap writeTilde).flatMap writeSlash := by
  rw [toList_escape, List.flatMap_assoc]

/-- The first round of reading takes back the slashes. A tilde of the step is followed by a zero by then, and is left. -/
theorem replaceMark_slashes (cs : List Char) :
    replaceMark '1' '/' (cs.flatMap fun c => (writeTilde c).flatMap writeSlash) = cs.flatMap writeTilde := by
  induction cs with
  | nil => rfl
  | cons c cs ih =>
    rw [List.flatMap_cons, List.flatMap_cons]
    by_cases htilde : c = '~'
    · have hwritten : (writeTilde c).flatMap writeSlash = ['~', '0'] := by simp [htilde, writeTilde, writeSlash]
      -- the zero behind the tilde keeps it from being read as a slash
      rw [hwritten, List.cons_append, List.cons_append, List.nil_append, replaceMark_other (by decide),
        replaceMark_cons (by decide), ih, htilde]
      rfl
    · have hkept : writeTilde c = [c] := if_neg htilde
      rw [hkept, List.flatMap_singleton]
      by_cases hslash : c = '/'
      · have hwritten : writeSlash c = ['~', '1'] := if_pos hslash
        rw [hwritten, List.cons_append, List.cons_append, List.nil_append, replaceMark_mark, ih, hslash]
        rfl
      · have hkept : writeSlash c = [c] := if_neg hslash
        rw [hkept, List.singleton_append, replaceMark_cons htilde, ih]
        rfl

/-- The second round takes back the tildes. -/
theorem replaceMark_tildes (cs : List Char) : replaceMark '0' '~' (cs.flatMap writeTilde) = cs := by
  induction cs with
  | nil => rfl
  | cons c cs ih =>
    rw [List.flatMap_cons]
    by_cases htilde : c = '~'
    · have hwritten : writeTilde c = ['~', '0'] := if_pos htilde
      rw [hwritten, List.cons_append, List.cons_append, List.nil_append, replaceMark_mark, ih, htilde]
    · have hkept : writeTilde c = [c] := if_neg htilde
      rw [hkept, List.singleton_append, replaceMark_cons htilde, ih]

/-- **A written step is read back**, whatever stands in it. -/
theorem unescape_escape (step : String) : unescape (escape step) = step := by
  rw [unescape, toList_escape, replaceMark_slashes, replaceMark_tildes, String.ofList_toList]

theorem slash_not_mem_escape (step : String) : '/' ∉ (escape step).toList := by
  rw [escape_eq]
  intro hmem
  obtain ⟨c, -, hc⟩ := List.mem_flatMap.1 hmem
  unfold writeSlash at hc
  split at hc
  · exact absurd hc (by decide)
  · rename_i hne
    exact hne (List.mem_singleton.1 hc).symm

/-! ## All steps -/

theorem toList_text (steps : List String) :
    (text steps).toList = (steps.map fun s => (escape s).toList).flatMap fun p => '/' :: p := by
  rw [text, Text.toList_joined, List.flatMap_map, List.flatMap_map]
  refine List.flatMap_congr fun s _ => ?_
  rw [String.toList_append]
  rfl

/-- **A pointer is read back**: its steps are those of which it was made. -/
theorem steps_text (ts : List String) : steps (text ts) = ts := by
  have hparts : ∀ p ∈ ts.map fun s => (escape s).toList, ∀ c ∈ p, (c == '/') = false := by
    intro p hp c hc
    obtain ⟨s, -, rfl⟩ := List.mem_map.1 hp
    exact beq_eq_false_iff_ne.2 fun he => slash_not_mem_escape s (he ▸ hc)
  have hpieces : Text.pieces (· == '/') (text ts).toList = [] :: ts.map fun s => (escape s).toList := by
    have hslash : ('/' == '/') = true := rfl
    have hmarked := Text.pieces_marked (· == '/') hslash (List.forall_mem_nil _) hparts
    rwa [List.nil_append, ← toList_text] at hmarked
  rw [steps, hpieces, List.drop_one, List.tail_cons, List.map_map]
  refine (List.map_congr_left fun s _ => ?_).trans (List.map_id ts)
  rw [Function.comp_apply, String.ofList_toList, unescape_escape, id]

/-! ## The names of fields -/

/-- Digits that write a number of 64 bits. -/
def IsNumber (ds : List Char) : Prop :=
  ds ≠ [] ∧ (∀ d ∈ ds, d.isDigit = true) ∧
    Nat.ofDigits 10 (ds.reverse.map fun d => d.toNat - '0'.toNat) < 2 ^ 64

/-- **A step that is a position**: it writes a number, with a plus sign in front or none. -/
def IsPosition (step : String) : Prop :=
  IsNumber step.toList ∨ ∃ ds, step.toList = '+' :: ds ∧ IsNumber ds

theorem foldl_digits (ds : List Char) :
    ds.foldl (fun n d => 10 * n + (d.toNat - 48)) 0 = Nat.ofDigits 10 (ds.reverse.map fun d => d.toNat - '0'.toNat) := by
  induction ds using List.reverseRecOn with
  | nil => rfl
  | append_singleton ds d ih =>
    rw [List.foldl_append, ih, List.reverse_append, List.reverse_singleton, List.singleton_append, List.map_cons,
      Nat.ofDigits_cons, Nat.add_comm]
    rfl

theorem isSome_position?_iff (step : String) : (position? step).isSome = true ↔ IsPosition step := by
  have hnumber (ds : List Char) :
      (if ds.isEmpty || !ds.all Char.isDigit then none
        else
          let n := ds.foldl (fun n d => 10 * n + (d.toNat - 48)) 0
          if n < UInt64.size then some n else none).isSome = true ↔ IsNumber ds := by
    rw [foldl_digits, IsNumber, ← List.all_eq_true]
    cases ds with
    | nil => simp
    | cons d ds => cases hall : (d :: ds).all Char.isDigit <;> simp [UInt64.size]
  unfold position? IsPosition
  split
  · rename_i ds hstep
    -- a plus sign is no digit, so the step is no number without it
    have hplus : ¬ IsNumber step.toList := fun h => by
      have hdigit := h.2.1 '+' (hstep ▸ List.mem_cons_self)
      cases hdigit
    rw [hnumber, or_iff_right hplus]
    exact ⟨fun h => ⟨ds, hstep, h⟩, fun ⟨ds', hstep', h⟩ => (List.cons.inj (hstep.symm.trans hstep')).2 ▸ h⟩
  · rename_i hplus
    rw [hnumber]
    exact (or_iff_left fun ⟨ds, hstep, _⟩ => hplus ds hstep).symm

instance (step : String) : Decidable (IsPosition step) := decidable_of_iff _ (isSome_position?_iff step)

/-- A step behind the first: a position in brackets, or a name after a dot. -/
def furtherStep (step : String) : String :=
  if (position? step).isSome then "[" ++ step ++ "]" else "." ++ step

/-- **How a field is named by its steps**: names have dots between them, and positions stand in brackets. -/
def fieldName (first : String) (rest : List String) : String :=
  (if (position? first).isSome then "[" ++ first ++ "]" else first) ++ Text.joined "" (rest.map furtherStep)

theorem addToField_of_ne_empty (h : field ≠ "") (step : String) : addToField field step = field ++ furtherStep step := by
  have hempty : field.isEmpty = false := by simpa using h
  unfold addToField furtherStep
  rw [hempty]
  split
  · simp only [String.append_assoc]
  · rw [if_neg Bool.false_ne_true, String.append_assoc]

theorem foldl_addToField (h : field ≠ "") (rest : List String) :
    rest.foldl addToField field = field ++ Text.joined "" (rest.map furtherStep) := by
  induction rest generalizing field with
  | nil => exact String.append_empty.symm
  | cons step rest ih =>
    have hne : field ++ furtherStep step ≠ "" := fun he => h (String.append_eq_empty_iff.1 he).1
    rw [List.foldl_cons, addToField_of_ne_empty h, ih hne, List.map_cons, Text.joined_empty_cons, String.append_assoc]

/-- The name that the first step gives is not empty, if the step is not. -/
theorem addToField_empty (h : first ≠ "") :
    addToField "" first = (if (position? first).isSome then "[" ++ first ++ "]" else first) ∧
      addToField "" first ≠ "" := by
  unfold addToField
  split
  · rw [String.empty_append]
    exact ⟨rfl, fun he => by simp at he⟩
  · exact ⟨String.empty_append, fun he => h (String.append_eq_empty_iff.1 he).2⟩

theorem field?_text (h : first ≠ "") (rest : List String) :
    field? (text (first :: rest)) = some (fieldName first rest) := by
  obtain ⟨hfirst, hne⟩ := addToField_empty h
  have hname : (steps (text (first :: rest))).foldl addToField "" = fieldName first rest := by
    rw [steps_text, List.foldl_cons, foldl_addToField hne, hfirst]
    rfl
  have hempty : (fieldName first rest).isEmpty = false := by
    rw [← hname, steps_text, List.foldl_cons, foldl_addToField hne]
    simp [hne]
  rw [field?, hname]
  simp [hempty]

/-- **A pointer names the field of its steps**, whatever characters stand in them: names after dots, positions in
brackets. So the location of an issue of a field leads back to the field, where that is no position. -/
theorem text_reads_back :
    (∀ ts, steps (text ts) = ts) ∧
      (∀ step, (position? step).isSome = true ↔ IsPosition step) ∧
      (∀ first rest, first ≠ "" → field? (text (first :: rest)) = some (fieldName first rest)) ∧
      ∀ severity code message field hint, field ≠ "" → ¬ IsPosition field →
        field? (Issue.ofField severity code message field hint).location = some field := by
  refine ⟨steps_text, isSome_position?_iff, fun first rest h => field?_text h rest, ?_⟩
  intro severity code message field hint hne hposition
  have hname : fieldName field [] = field := by
    rw [fieldName, if_neg (mt (isSome_position?_iff field).1 hposition)]
    exact String.append_empty
  exact (field?_text hne []).trans (congrArg some hname)

/-- Steps that look like written ones, a position among them, and a field with both marks. -/
theorem text_reads_back_marks :
    field? "/~001/0/a~1b" = some "~01[0].a/b" ∧ steps "/~001/0/a~1b" = ["~01", "0", "a/b"] ∧
      ¬ IsPosition "~1/" ∧ field? (Issue.ofField .info "" "" "~1/" none).location = some "~1/" := by
  have htext : text ["~01", "0", "a/b"] = "/~001/0/a~1b" := by decide
  have hname : fieldName "~01" ["0", "a/b"] = "~01[0].a/b" := by decide
  have hposition : ¬ IsPosition "~1/" := by decide
  obtain ⟨hsteps, -, hfield, hissue⟩ := text_reads_back
  refine ⟨?_, ?_, hposition, hissue _ _ _ _ _ (by decide) hposition⟩
  · rw [← htext, hfield _ _ (by decide), hname]
  · rw [← htext, hsteps]

end TraitWeave.Pointer
