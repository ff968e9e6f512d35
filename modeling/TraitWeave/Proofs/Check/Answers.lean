import TraitWeave.Proofs.Check.Validator
import Mathlib.Data.Finset.Card

/-!
# What a validator keeps while the source changes

A source may answer otherwise each time, or fail. Until the validator is cleared, the first answer under a key is
used for every check with that key, and the source is not asked again; a failure is reported and forgotten.

* `SchemaDesk.noting`, `Validator.Consultation`: a desk that notes what the source is asked and answers.
* `Validator.Event`, `Validator.watch`: checks and clearings, each check at a desk of its own, and the notes
  since the last clearing.
* `Validator.Keeps`: a validator holds what became of the answers noted, one for each key.
* `Validator.first_answer_kept`: what is asked, reported and kept, over every run.
-/

namespace TraitWeave

namespace Validator

/-- The source was asked: for what, where the schema was expected then, and what came of it. -/
structure Consultation where
  request : Request
  location : String
  answer : SchemaAnswer

namespace Consultation

/-- The key under which the answer is kept. -/
def key (n : Consultation) : String := (Inquiry.of n.request).key

/-- What is kept of it; nothing of a failure. -/
def kept? (n : Consultation) : Option (String × Prepared) :=
  n.answer.toOption.map fun a => (n.key, prepare n.location a)

variable {n : Consultation}

theorem kept?_ok {a : Option Json} (h : n.answer = .ok a) : n.kept? = some (n.key, prepare n.location a) := by
  rw [kept?, h]
  rfl

theorem kept?_error {e : String} (h : n.answer = .error e) : n.kept? = none := by
  rw [kept?, h]
  rfl

end Consultation

end Validator

/-- The same desk with notes of what the source is asked. -/
def SchemaDesk.noting {σ : Type} (desk : SchemaDesk σ) : SchemaDesk (σ × List Validator.Consultation) where
  load s r :=
    let (source, answer) := desk.load s.1 r
    ((source, s.2 ++ [⟨r, desk.location r.schemaKey, answer⟩]), answer)
  location := desk.location

namespace Validator

variable {σ : Type}

/-- A source, the notes of what it was asked since the last clearing, and a validator. -/
structure Watched (σ : Type) where
  source : σ
  notes : List Consultation
  validator : Validator

/-- What happens: a check, at a desk that may be another one each time, or a clearing. -/
inductive Event (σ : Type) where
  | check (desk : SchemaDesk σ) (c : Call)
  | clear

namespace Watched

/-- The report of a check, and what the source and the validator are then. -/
def reply (w : Watched σ) (desk : SchemaDesk σ) (c : Call) : (σ × Validator) × Report :=
  Validator.check desk (w.source, w.validator) c.inquiry c.payload c.options

/-- The same check with notes. -/
def noted (w : Watched σ) (desk : SchemaDesk σ) (c : Call) :
    ((σ × List Consultation) × Validator) × Report :=
  Validator.check desk.noting ((w.source, []), w.validator) c.inquiry c.payload c.options

/-- What the source is asked during a check. -/
def asked (w : Watched σ) (desk : SchemaDesk σ) (c : Call) : List Consultation := (w.noted desk c).1.1.2

/-- What comes of an event. -/
def step (w : Watched σ) : Event σ → Watched σ
  | .check desk c =>
    ⟨(w.reply desk c).1.1, w.notes ++ w.asked desk c, (w.reply desk c).1.2⟩
  | .clear => ⟨w.source, [], w.validator.clear⟩

/-- The source has not answered for a key: all that was asked of it failed. -/
def Unanswered (w : Watched σ) (key : String) : Prop := ∀ n ∈ w.notes, n.key = key → n.answer.isOk = false

/-- The keys for which the source has answered. -/
def answeredKeys (w : Watched σ) : List String := (w.notes.filter fun n => n.answer.isOk).map Consultation.key

end Watched

/-- A new validator after some events. -/
def watch (source : σ) (events : List (Event σ)) : Watched σ := events.foldl Watched.step ⟨source, [], empty⟩

variable {desk : SchemaDesk σ} {s : σ} {v : Validator} {q : Inquiry} {payload : Json} {options : ReportOptions}

/-! ## One check -/

/-- The validator with one answer more, or the same after a failure. -/
def taking (v : Validator) (key location : String) : SchemaAnswer → Validator
  | .error _ => v
  | .ok a => ⟨v.cache.put key (prepare location a)⟩

/-- With something kept the source is left alone. -/
theorem check_of_kept {p : Prepared} (h : v.cache.get? q.key = some p) :
    check desk (s, v) q payload options =
      ((s, v), Report.ofIssues (issues desk q.label payload (.ok p)) options) := by
  simp only [check, obtain, h]

/-- With nothing kept the source is asked, and its answer is kept. -/
theorem check_of_new (h : v.cache.get? q.key = none) :
    check desk (s, v) q payload options =
      (((desk.load s q.request).1, v.taking q.key (desk.location q.label) (desk.load s q.request).2),
        Report.ofIssues (issues desk q.label payload
          ((desk.load s q.request).2.map (prepare (desk.location q.label)))) options) := by
  rcases hload : desk.load s q.request with ⟨t, e | a⟩ <;>
    simp only [check, obtain, h, hload, taking, Except.map]

namespace Watched

variable {w : Watched σ} {c : Call} {p : Prepared}

@[simp] theorem step_notes (w : Watched σ) (desk : SchemaDesk σ) (c : Call) :
    (w.step (.check desk c)).notes = w.notes ++ w.asked desk c := rfl

@[simp] theorem step_validator (w : Watched σ) (desk : SchemaDesk σ) (c : Call) :
    (w.step (.check desk c)).validator = (w.reply desk c).1.2 := rfl

theorem reply_of_kept (h : w.validator.cache.get? c.inquiry.key = some p) :
    w.reply desk c = ((w.source, w.validator),
      Report.ofIssues (issues desk c.request.schemaKey c.payload (.ok p)) c.options) := by
  rw [reply, check_of_kept h, c.inquiry_eq]
  rfl

theorem asked_of_kept (h : w.validator.cache.get? c.inquiry.key = some p) : w.asked desk c = [] := by
  rw [asked, noted, check_of_kept h]

theorem reply_of_new (h : w.validator.cache.get? c.inquiry.key = none) :
    w.reply desk c =
      (((desk.load w.source c.request).1,
          w.validator.taking c.inquiry.key (desk.location c.request.schemaKey) (desk.load w.source c.request).2),
        Report.ofIssues (issues desk c.request.schemaKey c.payload
          ((desk.load w.source c.request).2.map (prepare (desk.location c.request.schemaKey)))) c.options) := by
  rw [reply, check_of_new h, c.inquiry_eq]
  rfl

theorem asked_of_new (h : w.validator.cache.get? c.inquiry.key = none) :
    w.asked desk c =
      [⟨c.request, desk.location c.request.schemaKey, (desk.load w.source c.request).2⟩] := by
  rw [asked, noted, check_of_new h, c.inquiry_eq]
  rfl

/-- The notes change nothing. -/
theorem noted_reply (w : Watched σ) (desk : SchemaDesk σ) (c : Call) :
    (((w.noted desk c).1.1.1, (w.noted desk c).1.2), (w.noted desk c).2) = w.reply desk c := by
  cases h : w.validator.cache.get? c.inquiry.key with
  | some p => rw [noted, reply, check_of_kept h, check_of_kept h]; rfl
  | none => rw [noted, reply, check_of_new h, check_of_new h]; rfl

end Watched

/-! ## A run -/

/-- **What is kept**: what became of the answers noted, in their order, and one for each key. -/
structure Keeps (notes : List Consultation) (v : Validator) : Prop where
  cache_eq : v.cache = notes.filterMap Consultation.kept?
  nodup : v.cache.keys.Nodup

namespace Keeps

variable {w : Watched σ} {c : Call} {notes : List Consultation} {n : Consultation} {a : Option Json}
  {key location : String}

theorem nil : Keeps [] empty := ⟨rfl, List.nodup_nil⟩

theorem get?_of_answer (h : Keeps notes v) (hn : n ∈ notes) (ha : n.answer = .ok a) :
    v.cache.get? n.key = some (prepare n.location a) := by
  refine Table.get?_of_mem h.nodup ?_
  rw [h.cache_eq, List.mem_filterMap]
  exact ⟨n, hn, Consultation.kept?_ok ha⟩

theorem get?_eq_none (h : Keeps w.notes w.validator) :
    w.validator.cache.get? key = none ↔ w.Unanswered key := by
  constructor
  · intro hnone n hn hkey
    cases ha : n.answer with
    | error e => rfl
    | ok a =>
      -- an answer under the key would be found
      rw [← hkey, h.get?_of_answer hn ha] at hnone
      cases hnone
  · intro hfailed
    rw [Table.get?_eq_none, h.cache_eq]
    intro p hp hkey
    obtain ⟨n, hn, hentry⟩ := List.mem_filterMap.1 hp
    cases ha : n.answer with
    | error e =>
      rw [Consultation.kept?_error ha] at hentry
      exact Option.some_ne_none p hentry.symm
    | ok a =>
      rw [Consultation.kept?_ok ha] at hentry
      rw [← Option.some.inj hentry] at hkey
      dsimp only at hkey
      have hisOk := hfailed n hn hkey
      rw [ha] at hisOk
      cases hisOk

/-- One more answer under a new key. -/
theorem concat (h : Keeps notes v) (n : Consultation) (hnew : v.cache.get? n.key = none) :
    Keeps (notes ++ [n]) (v.taking n.key n.location n.answer) := by
  cases ha : n.answer with
  | error e =>
    -- the note of a failure is passed over
    refine ⟨?_, h.nodup⟩
    rw [taking, h.cache_eq, List.filterMap_append]
    simp [Consultation.kept?_error ha]
  | ok a =>
    -- under a new key the answer goes to the end of the table, as its note does
    have hput := Table.nodup_put h.nodup n.key (prepare n.location a)
    refine ⟨?_, hput⟩
    have hkeys : n.key ∉ v.cache.keys := by simp [Table.mem_keys, hnew]
    rw [taking, Table.put_of_not_mem hkeys, h.cache_eq, List.filterMap_append]
    simp [Consultation.kept?_ok ha]

/-- What is kept after a check is what became of the answers noted by then. -/
theorem check (h : Keeps w.notes w.validator) (desk : SchemaDesk σ) (c : Call) :
    Keeps (w.step (.check desk c)).notes (w.step (.check desk c)).validator := by
  rw [Watched.step_notes, Watched.step_validator]
  cases hget : w.validator.cache.get? c.inquiry.key with
  | some p =>
    rw [Watched.reply_of_kept hget, Watched.asked_of_kept hget, List.append_nil]
    exact h
  | none =>
    rw [Watched.reply_of_new hget, Watched.asked_of_new hget]
    -- the key of the check is that of the note
    rw [c.inquiry_eq] at hget ⊢
    exact h.concat ⟨c.request, desk.location c.request.schemaKey, (desk.load w.source c.request).2⟩ hget

/-- What is kept of notes is under the keys of those with an answer. -/
theorem keys_kept (notes : List Consultation) :
    Table.keys (notes.filterMap Consultation.kept?) = (notes.filter fun n => n.answer.isOk).map Consultation.key := by
  induction notes with
  | nil => rfl
  | cons n notes ih =>
    rw [Table.keys] at ih ⊢
    cases ha : n.answer <;> simp [Consultation.kept?, ha, Except.toOption, Except.isOk, Except.toBool, ih]

/-- As many schemas are kept as there are keys with an answer. -/
theorem cachedCount_eq (h : Keeps w.notes w.validator) :
    w.validator.cachedCount = w.answeredKeys.toFinset.card := by
  have hkeys : w.validator.cache.keys = w.answeredKeys := by
    rw [h.cache_eq, keys_kept, Watched.answeredKeys]
  rw [← hkeys, List.toFinset_card_of_nodup h.nodup, cachedCount, Table.keys, List.length_map]

end Keeps

variable {source : σ} {before later events : List (Event σ)} {n : Consultation} {c : Call} {a : Option Json}

@[simp] theorem watch_concat (source : σ) (events : List (Event σ)) (e : Event σ) :
    watch source (events ++ [e]) = (watch source events).step e := by
  simp [watch]

/-- What is kept is what became of the answers noted, after every run. -/
theorem keeps_watch (source : σ) (events : List (Event σ)) :
    Keeps (watch source events).notes (watch source events).validator := by
  induction events using List.reverseRecOn with
  | nil => exact .nil
  | append_singleton events e ih =>
    rw [watch_concat]
    cases e with
    | check desk c => exact ih.check desk c
    | clear => exact .nil

/-- Notes stay until the validator is cleared. -/
theorem notes_kept (h : Event.clear ∉ later) (hn : n ∈ (watch source before).notes) :
    n ∈ (watch source (before ++ later)).notes := by
  induction later using List.reverseRecOn with
  | nil => rwa [List.append_nil]
  | append_singleton later e ih =>
    rw [List.mem_append, not_or] at h
    rw [← List.append_assoc, watch_concat]
    cases e with
    | check desk c => exact List.mem_append_left _ (ih h.1)
    | clear => exact absurd (List.mem_singleton_self _) h.2

/-- A failure to load is an error, whatever the report lists besides. -/
theorem ofIssues_load_failed (desk : SchemaDesk σ) (label message : String) (payload : Json)
    (options : ReportOptions) :
    (Report.ofIssues (issues desk label payload (.error message)) options).valid = false ∧
      (Report.ofIssues (issues desk label payload (.error message)) options).errors =
        [.general .error "schema_load_failed" message (some ("Check " ++ desk.location label))] := by
  constructor <;> rfl

/-- What the source answered under a key is what is reported from then on. -/
theorem reply_of_answer (hn : n ∈ (watch source before).notes) (ha : n.answer = .ok a)
    (h : Event.clear ∉ later) (hkey : c.inquiry.key = n.key) (desk : SchemaDesk σ) :
    (watch source (before ++ later)).asked desk c = [] ∧
    (watch source (before ++ later)).reply desk c =
      (((watch source (before ++ later)).source, (watch source (before ++ later)).validator),
        Report.ofIssues (issues desk c.request.schemaKey c.payload (.ok (prepare n.location a))) c.options) := by
  have hkept := (keeps_watch source (before ++ later)).get?_of_answer (notes_kept h hn) ha
  rw [← hkey] at hkept
  exact ⟨Watched.asked_of_kept hkept, Watched.reply_of_kept hkept⟩

/-- **The first answer is kept until the validator is cleared.** The notes change nothing. Once the source has
answered under a key, that answer is used for every check with the key, however the check is asked for, and the
source is left alone. Until then it is asked once in each check, and its answer of that moment is used; if it fails,
the failure is reported as an error, and what is kept stays as it is. As many schemas are kept as there are keys
with an answer since the last clearing. -/
theorem first_answer_kept (source : σ) :
    (∀ (w : Watched σ) desk c,
      (((w.noted desk c).1.1.1, (w.noted desk c).1.2), (w.noted desk c).2) = w.reply desk c) ∧
    (∀ before later desk c n a, n ∈ (watch source before).notes → n.answer = .ok a →
      Event.clear ∉ later → c.inquiry.key = n.key →
      (watch source (before ++ later)).asked desk c = [] ∧
      (watch source (before ++ later)).reply desk c =
        (((watch source (before ++ later)).source, (watch source (before ++ later)).validator),
          Report.ofIssues (issues desk c.request.schemaKey c.payload (.ok (prepare n.location a))) c.options)) ∧
    (∀ events desk c, (watch source events).Unanswered c.inquiry.key →
      (watch source events).asked desk c = [⟨c.request, desk.location c.request.schemaKey,
        (desk.load (watch source events).source c.request).2⟩] ∧
      ((watch source events).reply desk c).2 = Report.ofIssues (issues desk c.request.schemaKey c.payload
        ((desk.load (watch source events).source c.request).2.map
          (prepare (desk.location c.request.schemaKey)))) c.options) ∧
    (∀ events desk c message, (watch source events).Unanswered c.inquiry.key →
      (desk.load (watch source events).source c.request).2 = .error message →
      ((watch source events).reply desk c).1.2 = (watch source events).validator ∧
      ((watch source events).reply desk c).2.valid = false ∧
      ((watch source events).reply desk c).2.errors = [.general .error "schema_load_failed" message
        (some ("Check " ++ desk.location c.request.schemaKey))]) ∧
    (∀ events, (watch source events).validator.cachedCount =
      (watch source events).answeredKeys.toFinset.card) := by
  refine ⟨Watched.noted_reply, fun before later desk c n a hn ha h hkey => reply_of_answer hn ha h hkey desk,
    ?_, ?_, fun events => (keeps_watch source events).cachedCount_eq⟩
  · intro events desk c hunanswered
    have hnew := (keeps_watch source events).get?_eq_none.2 hunanswered
    exact ⟨Watched.asked_of_new hnew, congrArg Prod.snd (Watched.reply_of_new hnew)⟩
  · intro events desk c message hunanswered hfailed
    have hnew := (keeps_watch source events).get?_eq_none.2 hunanswered
    rw [Watched.reply_of_new hnew, hfailed]
    exact ⟨rfl, ofIssues_load_failed desk c.request.schemaKey message c.payload c.options⟩

/-- A source that gives the answers of a list one after the other, and fails when there are no more. -/
def scripted : SchemaDesk (List SchemaAnswer) where
  load
    | [], _ => ([], .error "exhausted")
    | answer :: rest, _ => (rest, answer)
  location name := name

/-- The source has no schema, and then it fails. -/
theorem first_answer_kept_throttled :
    (watch [.ok none] ([.check scripted (callFor "Throttled")] ++ [.check scripted (callFor "Ghost")])).asked
      scripted (callFor " THROTTLED") = [] ∧
    ((watch [] []).reply scripted (callFor "Throttled")).2.valid = false := by
  obtain ⟨-, hanswered, -, -, -⟩ := first_answer_kept [Except.ok none]
  obtain ⟨-, -, -, hfailed, -⟩ := first_answer_kept ([] : List SchemaAnswer)
  constructor
  · refine (hanswered _ _ scripted _ ⟨.named "Throttled", "Throttled", .ok none⟩ none ?_ rfl ?_ ?_).1
    · exact List.mem_singleton_self _
    · simp
    · decide +kernel
  · exact (hfailed [] scripted (callFor "Throttled") "exhausted" nofun rfl).2.1

end Validator

end TraitWeave
