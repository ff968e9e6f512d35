import TraitWeave.Proofs.Interface.Syntax
import TraitWeave.Proofs.Text.Pieces

/-!
# Reading pieces of a file

What the two machines make of a text is told piece by piece: where they stand before and after a piece, and which
tokens come of it.

* `Goes`, `Goes.append`: the machines go through a piece.
* `Reads`: a piece of code that is read on its own, where a last word may still go on.
* `run_unbroken`, `run_unmarked`: what stays in a comment.
* `goes_lineComment`, `goes_blockComment`: comments are no code.
* `goes_quote`, `reads_word`: texts and words are one token.
* `statements_flatMap`: statements one after the other.
-/

namespace TraitWeave.Script

open Text (joined_empty_cons)

variable {isBreak : Char → Bool}

/-- What counts as the break of a line: the line feed does, and no printable character of ASCII does. -/
structure Breaks (isBreak : Char → Bool) : Prop where
  feed : isBreak '\n' = true
  printable : ∀ c : Char, 0x20 ≤ c.toNat → c.toNat < 0x7f → isBreak c = false

/-- The characters that end a line of TypeScript. -/
def isLineBreak (c : Char) : Bool := ['\n', '\r', '\u2028', '\u2029'].contains c

theorem breaks_isLineBreak : Breaks isLineBreak where
  feed := rfl
  printable c hlow hhigh := by
    by_contra hbreak
    rw [Bool.not_eq_false] at hbreak
    have hall : ['\n', '\r', '\u2028', '\u2029'].all (fun d => !(0x20 ≤ d.toNat && d.toNat < 0x7f)) = true := by decide
    have hc := List.all_eq_true.1 hall c (List.contains_iff_mem.1 hbreak)
    simp [hlow, hhigh] at hc

/-- A text in one line. -/
def Unbroken (isBreak : Char → Bool) (s : String) : Prop := ∀ c ∈ s.toList, isBreak c = false

instance (s : String) : Decidable (Unbroken isBreak s) :=
  List.decidableBAll (fun c => isBreak c = false) s.toList

theorem Breaks.unbroken (h : Breaks isBreak) {s : String}
    (hs : (s.toList.all fun c => decide (0x20 ≤ c.toNat) && decide (c.toNat < 0x7f)) = true) : Unbroken isBreak s := by
  intro c hc
  obtain ⟨hlow, hhigh⟩ := Bool.and_eq_true_iff.1 (List.all_eq_true.1 hs c hc)
  exact h.printable c (of_decide_eq_true hlow) (of_decide_eq_true hhigh)

theorem unbroken_append {s t : String} : Unbroken isBreak (s ++ t) ↔ Unbroken isBreak s ∧ Unbroken isBreak t := by
  unfold Unbroken
  rw [String.toList_append, List.forall_mem_append]

/-! ## Pieces -/

/-- Dropping comments and cutting into tokens at once. -/
def reader (isBreak : Char → Bool) : Zone × Place → Char → (Zone × Place) × List Token :=
  after (Zone.step isBreak) Place.step

/-- The reader goes through a piece of text from one state to another, and gives tokens. -/
def Goes (isBreak : Char → Bool) (s : String) (a b : Zone × Place) (ts : List Token) : Prop :=
  run (reader isBreak) a s.toList = (b, ts)

variable {s t : String} {a b d : Zone × Place} {ts us : List Token} {p : Place}

theorem Goes.append (h : Goes isBreak s a b ts) (h' : Goes isBreak t b d us) : Goes isBreak (s ++ t) a d (ts ++ us) := by
  unfold Goes at h h' ⊢
  rw [String.toList_append, run_append, h, h']

/-- A text that the reader goes through to its end is its tokens. -/
theorem Goes.tokens_eq (h : Goes isBreak s (.code, .between) (.code, .between) ts) :
    tokens (withoutComments isBreak s.toList) = ts := by
  unfold Goes reader at h
  rw [run_after] at h
  obtain ⟨hstate, hts⟩ := Prod.mk.inj h
  obtain ⟨hzone, hplace⟩ := Prod.mk.inj hstate
  have hcode : withoutComments isBreak s.toList = (run (Zone.step isBreak) .code s.toList).2 := by
    show _ ++ Zone.rest _ = _
    rw [hzone]
    exact List.append_nil _
  rw [hcode]
  show _ ++ Place.rest _ = _
  rw [hplace, hts]
  exact List.append_nil _

/-- Pieces one after the other. -/
theorem goes_joined {α : Type} {f : α → String} {g : α → List Token} {xs : List α}
    (h : ∀ x ∈ xs, Goes isBreak (f x) a a (g x)) : Goes isBreak (Text.joined "" (xs.map f)) a a (xs.flatMap g) := by
  induction xs with
  | nil => rfl
  | cons x xs ih =>
    rw [List.forall_mem_cons] at h
    rw [List.map_cons, joined_empty_cons, List.flatMap_cons]
    exact h.1.append (ih h.2)

/-! ## Comments -/

/-- Where nothing is left of a text without comments, no token is read. -/
theorem run_reader_of_nil {zone zone' : Zone} {cs : List Char} (h : run (Zone.step isBreak) zone cs = (zone', [])) :
    run (reader isBreak) (zone, p) cs = ((zone', p), []) := by
  unfold reader
  rw [run_after, h]
  rfl

/-- A text in one line leaves the reader in the comment. -/
theorem run_unbroken (h : Unbroken isBreak s) : run (Zone.step isBreak) .line s.toList = (.line, []) := by
  unfold Unbroken at h
  generalize s.toList = cs at h ⊢
  induction cs with
  | nil => rfl
  | cons c cs ih =>
    rw [List.forall_mem_cons] at h
    have hstep : Zone.step isBreak .line c = (.line, []) := by simp [Zone.step, h.1]
    rw [run, hstep, ih h.2]
    rfl

theorem goes_of_unbroken (h : Unbroken isBreak s) : Goes isBreak s (.line, p) (.line, p) [] :=
  run_reader_of_nil (run_unbroken h)

/-- The start of a comment that ends with its line. -/
theorem goes_lineComment (h : Unbroken isBreak s) : Goes isBreak ("//" ++ s) (.code, p) (.line, p) [] := by
  have hopen : Goes isBreak "//" (.code, p) (.line, p) [] := rfl
  exact hopen.append (goes_of_unbroken h)

theorem goes_feed (h : Breaks isBreak) : Goes isBreak "\n" (.line, .between) (.code, .between) [] := by
  have hstep : reader isBreak (.line, .between) '\n' = ((.code, .between), []) := by
    simp only [reader, after, Zone.step, h.feed, if_true]
    rfl
  show run (reader isBreak) (.line, .between) ['\n'] = _
  rw [run, hstep]
  rfl

/-- In a comment that ends with a mark, the mark may not be near. -/
def Unmarked : Zone → List Char → Prop
  | .block, cs => ¬ ['*', '/'] <:+: cs
  | .star, cs => ¬ ['*', '/'] <:+: '*' :: cs
  | _, _ => False

theorem Unmarked.zone {zone : Zone} {cs : List Char} (h : Unmarked zone cs) : zone = .block ∨ zone = .star := by
  cases zone with
  | block => exact .inl rfl
  | star => exact .inr rfl
  | _ => exact h.elim

/-- What was read of the mark is in the state of the reader. -/
theorem unmarked_cons {zone : Zone} (hzone : zone = .block ∨ zone = .star) {c : Char} {cs : List Char} :
    Unmarked zone (c :: cs) ↔ Unmarked (Zone.step isBreak zone c).1 cs := by
  have hcons (d : Char) (ds : List Char) : ['*', '/'] <:+: d :: ds ↔ ('*' = d ∧ ['/'] <+: ds) ∨ ['*', '/'] <:+: ds := by
    rw [List.infix_cons_iff, List.cons_prefix_cons]
  have hstar : Unmarked .block ('*' :: cs) ↔ Unmarked .star cs := Iff.rfl
  obtain rfl | rfl := hzone
  · by_cases hc : c = '*'
    · subst hc; exact hstar
    · simp [Unmarked, Zone.step, hc, hcons c, Ne.symm hc]
  · by_cases hslash : c = '/'
    · subst hslash
      exact iff_of_false (fun h => h ⟨[], cs, rfl⟩) id
    · have hprefix : ¬ ['/'] <+: c :: cs := fun h => hslash (List.cons_prefix_cons.1 h).1.symm
      have hbehind : Unmarked .star (c :: cs) ↔ Unmarked .block (c :: cs) := by
        simp [Unmarked, hcons '*', hprefix]
      rw [hbehind]
      by_cases hc : c = '*'
      · subst hc; exact hstar
      · simp [Unmarked, Zone.step, hc, hslash, hcons c, Ne.symm hc]

/-- A text without the mark leaves the reader in the comment. -/
theorem run_unmarked {zone : Zone} {cs : List Char} (h : Unmarked zone cs) :
    ∃ zone', (zone' = .block ∨ zone' = .star) ∧ run (Zone.step isBreak) zone cs = (zone', []) := by
  induction cs generalizing zone with
  | nil => exact ⟨zone, h.zone, rfl⟩
  | cons c cs ih =>
    have hrest : Unmarked (Zone.step isBreak zone c).1 cs := (unmarked_cons h.zone).1 h
    have hnothing : (Zone.step isBreak zone c).2 = [] := by
      obtain rfl | rfl := h.zone
      · rfl
      · have hslash : c ≠ '/' := by
          rintro rfl
          exact hrest
        simp [Zone.step, hslash]
    obtain ⟨zone', hzone', hrun⟩ := ih hrest
    exact ⟨zone', hzone', by rw [run, hrun, hnothing]; rfl⟩

/-- A comment that ends with a mark, and its line. -/
theorem goes_blockComment (h : ¬ ['*', '/'] <:+: s.toList) :
    Goes isBreak ("/** " ++ s ++ " */\n") (.code, .between) (.code, .between) [] := by
  have hopen : Goes isBreak "/** " (.code, .between) (.block, .between) [] := rfl
  have hinside : Unmarked .block s.toList := h
  obtain ⟨zone, hzone, hrun⟩ := run_unmarked hinside
  have hclose : Goes isBreak " */\n" (zone, .between) (.code, .between) [] := by
    rcases hzone with rfl | rfl <;> rfl
  exact (hopen.append (t := s) (run_reader_of_nil hrun)).append hclose

/-! ## Texts and words -/

/-- What may stand between quotes goes through as it is. -/
theorem run_quotable {cs : List Char} (h : Json.Quotable cs) (seen : List Char) :
    run (reader isBreak) (.text '"', .text seen) cs = ((.text '"', .text (cs.reverse ++ seen)), []) := by
  induction h generalizing seen with
  | nil => rfl
  | @plain c cs hquote hslash _ ih =>
    have hstep : reader isBreak (.text '"', .text seen) c = ((.text '"', .text (c :: seen)), []) := by
      simp [reader, after, Zone.step, Place.step, hquote, hslash, run]
    rw [run, hstep, ih, List.reverse_cons, List.append_assoc]
    rfl
  | @escape c cs _ ih =>
    have hslash : reader isBreak (.text '"', .text seen) '\\' = ((.escape '"', .escape ('\\' :: seen)), []) := rfl
    have hstep : reader isBreak (.escape '"', .escape ('\\' :: seen)) c =
        ((.text '"', .text (c :: '\\' :: seen)), []) := rfl
    rw [run, hslash, run, hstep, ih]
    simp

/-- A written string is one token. -/
theorem goes_quote (s : String) :
    Goes isBreak (Json.quote s) (.code, .between) (.code, .between) [.text (Json.quote s)] := by
  have hbody : run (reader isBreak) (.text '"', .text ['"']) (Json.escaped s) =
      ((.text '"', .text ((Json.escaped s).reverse ++ ['"'])), []) := run_quotable (Json.quotable_escaped s) ['"']
  have htext : String.ofList ('"' :: ((Json.escaped s).reverse ++ ['"'])).reverse = Json.quote s := by
    apply String.toList_inj.1
    rw [String.toList_ofList, Json.toList_quote]
    simp
  unfold Goes
  rw [Json.toList_quote, run]
  show ((run (reader isBreak) (.text '"', .text ['"']) _).1, (run (reader isBreak) (.text '"', .text ['"']) _).2) = _
  rw [run_append, hbody, ← htext]
  rfl

/-- A piece of code that the reader goes through on its own; a last word may still go on. -/
def Reads (isBreak : Char → Bool) (s : String) (ts : List Token) : Prop :=
  ∃ p us, Goes isBreak s (.code, .between) (.code, p) us ∧ us ++ p.rest = ts ∧
    (p = .between ∨ ∃ seen, p = .word seen)

theorem Goes.reads (h : Goes isBreak s (.code, .between) (.code, .between) ts) : Reads isBreak s ts :=
  ⟨.between, ts, h, List.append_nil ts, .inl rfl⟩

theorem Goes.append_reads (h : Goes isBreak s (.code, .between) (.code, .between) ts) (h' : Reads isBreak t us) :
    Reads isBreak (s ++ t) (ts ++ us) := by
  obtain ⟨p, vs, hgoes, hvs, hp⟩ := h'
  exact ⟨p, ts ++ vs, h.append hgoes, by rw [List.append_assoc, hvs], hp⟩

/-- A character that ends a word and starts no comment. -/
def endsWord (c : Char) : Bool := !inWord c && c != '/'

/-- A piece that ends the word before it. -/
theorem Reads.append (h : Reads isBreak s ts) {c : Char} {cs : List Char} (ht : t.toList = c :: cs)
    (hc : endsWord c = true) (h' : Goes isBreak t (.code, .between) b us) :
    Goes isBreak (s ++ t) (.code, .between) b (ts ++ us) := by
  obtain ⟨p, vs, hgoes, hvs, hp⟩ := h
  obtain ⟨hword, hslash⟩ : inWord c = false ∧ c ≠ '/' := by simpa [endsWord] using hc
  rw [← hvs, List.append_assoc]
  refine hgoes.append ?_
  have hstep : reader isBreak (.code, p) c = ((reader isBreak (.code, .between) c).1,
      p.rest ++ (reader isBreak (.code, .between) c).2) := by
    rcases hp with rfl | ⟨seen, rfl⟩ <;>
      simp [reader, after, Zone.step, Place.step, Place.rest, hword, hslash, run]
  unfold Goes at h' ⊢
  rw [ht, run] at h' ⊢
  obtain ⟨rfl, rfl⟩ := Prod.mk.inj h'
  rw [hstep, List.append_assoc]

theorem zoneStep_inWord {c : Char} (h : inWord c = true) : Zone.step isBreak .code c = (.code, [c]) := by
  have hslash : c ≠ '/' := by rintro rfl; cases h
  have hquote : isQuote c = false := by
    by_contra hquote
    rw [Bool.not_eq_false] at hquote
    simp only [isQuote, Bool.or_eq_true, beq_iff_eq] at hquote
    rcases hquote with (rfl | rfl) | rfl <;> cases h
  simp [Zone.step, hslash, hquote]

theorem run_inWord {cs : List Char} (h : ∀ c ∈ cs, inWord c = true) (seen : List Char) :
    run (reader isBreak) (.code, .word seen) cs = ((.code, .word (cs.reverse ++ seen)), []) := by
  induction cs generalizing seen with
  | nil => rfl
  | cons c cs ih =>
    rw [List.forall_mem_cons] at h
    have hstep : reader isBreak (.code, .word seen) c = ((.code, .word (c :: seen)), []) := by
      simp [reader, after, zoneStep_inWord h.1, Place.step, h.1, run]
    rw [run, hstep, ih h.2, List.reverse_cons, List.append_assoc]
    rfl

/-- A word is one token. -/
theorem reads_word (hs : s ≠ "") (h : s.toList.all inWord = true) : Reads isBreak s [.word s] := by
  cases hcs : s.toList with
  | nil => exact absurd (String.toList_inj.1 hcs) hs
  | cons c cs =>
    rw [hcs, List.all_eq_true, List.forall_mem_cons] at h
    -- the first character is a letter of a word, and so no mark of its own
    have hsingle : single c = [] := by
      have hmark : isMark c = false := by
        by_contra hmark
        rw [Bool.not_eq_false] at hmark
        have hall : ∀ d, isMark d = true → inWord d = false := by
          simp [isMark, inWord, Interface.inIdentifier]
        rw [hall c hmark] at h
        cases h.1
      simp [single, hmark, h.1]
    have hstep : reader isBreak (.code, .between) c = ((.code, .word [c]), []) := by
      simp [reader, after, zoneStep_inWord h.1, Place.step, Place.first, hsingle, h.1, run]
    have htext : String.ofList (cs.reverse ++ [c]).reverse = s := by
      apply String.toList_inj.1
      rw [String.toList_ofList, hcs]
      simp
    refine ⟨.word (cs.reverse ++ [c]), [], ?_, by rw [Place.rest, htext]; rfl, .inr ⟨_, rfl⟩⟩
    unfold Goes
    rw [hcs, run, hstep, run_inWord h.2]
    rfl

/-! ## Pieces of the grammar -/

/-- A statement is found in front of others. -/
theorem statements_append {s ts : List Token} {rest : List (List Token)} (hs : .mark ';' ∉ s)
    (hts : statements ts = some rest) : statements (s ++ .mark ';' :: ts) = some (s :: rest) := by
  induction s with
  | nil => simp [statements, hts]
  | cons t s ih =>
    rw [List.mem_cons, not_or] at hs
    rw [List.cons_append, statements, ih hs.2]
    simp [Ne.symm hs.1]

/-- Statements are found again behind each other. -/
theorem statements_flatMap {α : Type} {g : α → List Token} {xs : List α} (h : ∀ x ∈ xs, .mark ';' ∉ g x) :
    statements (xs.flatMap fun x => g x ++ [.mark ';']) = some (xs.map g) := by
  induction xs with
  | nil => rfl
  | cons x xs ih =>
    rw [List.forall_mem_cons] at h
    rw [List.flatMap_cons, List.append_assoc, List.map_cons]
    exact statements_append h.1 (ih h.2)

/-- Things that are read one by one. -/
theorem mapM_map {α β γ : Type} {f : β → Option γ} {g : α → β} {k : α → γ} {xs : List α}
    (h : ∀ x ∈ xs, f (g x) = some (k x)) : (xs.map g).mapM f = some (xs.map k) := by
  induction xs with
  | nil => rfl
  | cons x xs ih =>
    rw [List.forall_mem_cons] at h
    rw [List.map_cons, List.mapM_cons, h.1, ih h.2]
    rfl

end TraitWeave.Script
