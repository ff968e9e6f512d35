import TraitWeave.Proofs.Interface.Identifier
import TraitWeave.Proofs.Interface.Reading
import TraitWeave.Proofs.Interface.Types

/-!
# Interfaces are well formed

What is written for a composed object is a file of the grammar: one interface with a property for each field, and
a type for each parameter to which two traits or more give literal values.

* `TypeExpr.reads_text`, `TypeExpr.readType_tokens`: written types are read back.
* `Interface.Property.goes_text`, `Interface.Property.member?_tokens`: so are properties.
* `Interface.read_content`: so is an interface that can be written.
* `Composed.content_wellFormed`: that of a composed object can, and what is read has what the object has.
-/

namespace TraitWeave

open Script
open Text (joined_singleton joined_cons_cons)

variable {isBreak : Char → Bool}

/-! ## Types -/

/-- The token of a scalar. -/
def Json.token : Json → Token
  | .str s => .text (Json.quote s)
  | v => .word v.compact

/-- The tokens of scalars, with bars between them. -/
def Json.tokens : List Json → List Token
  | [] => []
  | [v] => [v.token]
  | v :: w :: rest => v.token :: .mark '|' :: Json.tokens (w :: rest)

namespace TypeExpr

/-- The tokens of a type. -/
def tokens : TypeExpr → List Token
  | string => [.word "string"]
  | number => [.word "number"]
  | boolean => [.word "boolean"]
  | unknown => [.word "unknown"]
  | record => .word "Record" :: .mark '<' :: recordTail
  | array t => .word "Array" :: .mark '<' :: (t.tokens ++ [.mark '>'])
  | union scalars => Json.tokens scalars

theorem inWord_of_isDigit {c : Char} (h : c.isDigit = true) : inWord c = true := by
  simp [inWord, Interface.inIdentifier, Char.isAlphanum, h]

theorem inWord_of_isDigits {cs : List Char} (h : Json.isDigits cs = true) : ∀ c ∈ cs, inWord c = true := by
  unfold Json.isDigits at h
  exact fun c hc => inWord_of_isDigit (List.all_eq_true.1 (Bool.and_eq_true_iff.1 h).2 c hc)

/-- Digits at the start, and what follows them. -/
theorem inWord_of_digits_of_rest {cs : List Char} (h : ∀ c ∈ cs.dropWhile Char.isDigit, inWord c = true) :
    ∀ c ∈ cs, inWord c = true := by
  intro c hc
  rw [← List.takeWhile_append_dropWhile (p := Char.isDigit) (l := cs)] at hc
  exact (List.mem_append.1 hc).elim (fun hc => inWord_of_isDigit (List.mem_takeWhile_imp hc)) (h c)

theorem inWord_of_isExponentText {cs : List Char} (h : Json.isExponentText cs = true) : ∀ c ∈ cs, inWord c = true := by
  unfold Json.isExponentText at h
  split at h
  · exact List.forall_mem_nil _
  · rename_i c cs
    rw [Bool.and_eq_true_iff] at h
    obtain ⟨hc, hrest⟩ := h
    have hmark : inWord c = true := by
      rcases Bool.or_eq_true_iff.1 hc with hc | hc <;> rw [beq_iff_eq.1 hc] <;> rfl
    rw [List.forall_mem_cons]
    refine ⟨hmark, ?_⟩
    split at hrest
    · exact List.forall_mem_cons.2 ⟨rfl, inWord_of_isDigits hrest⟩
    · exact List.forall_mem_cons.2 ⟨rfl, inWord_of_isDigits hrest⟩
    · exact inWord_of_isDigits hrest

theorem inWord_of_isFractionText {cs : List Char} (h : Json.isFractionText cs = true) : ∀ c ∈ cs, inWord c = true := by
  unfold Json.isFractionText at h
  split at h
  · exact List.forall_mem_cons.2 ⟨rfl,
      inWord_of_digits_of_rest (inWord_of_isExponentText (Bool.and_eq_true_iff.1 h).2)⟩
  · exact inWord_of_isExponentText h

theorem inWord_of_isUnsignedText {cs : List Char} (h : Json.isUnsignedText cs = true) : ∀ c ∈ cs, inWord c = true :=
  inWord_of_digits_of_rest (inWord_of_isFractionText (Bool.and_eq_true_iff.1 h).2)

/-- A number has characters of words only, some at least. -/
theorem inWord_of_isNumberText {cs : List Char} (h : Json.isNumberText cs = true) :
    cs ≠ [] ∧ ∀ c ∈ cs, inWord c = true := by
  refine ⟨fun hnil => by rw [hnil] at h; exact absurd h (by decide), ?_⟩
  unfold Json.isNumberText at h
  split at h
  · exact List.forall_mem_cons.2 ⟨rfl, inWord_of_isUnsignedText h⟩
  · exact inWord_of_isUnsignedText h

theorem reads_scalar {v : Json} (h : isScalar v = true) : Reads isBreak v.compact [v.token] := by
  cases v with
  | null => exact reads_word (by decide) (by decide)
  | bool b => cases b <;> exact reads_word (by decide) (by decide)
  | num n =>
    obtain ⟨hne, hword⟩ := inWord_of_isNumberText n.isNumberText_text
    exact reads_word (s := n.text) (fun hempty => hne (by rw [hempty]; rfl)) (List.all_eq_true.2 hword)
  | str s => exact (goes_quote s).reads
  | arr _ => cases h
  | obj _ => cases h

theorem reads_scalars {vs : List Json} (hne : vs ≠ []) (h : ∀ v ∈ vs, isScalar v = true) :
    Reads isBreak (Text.joined " | " (vs.map Json.compact)) (Json.tokens vs) := by
  induction vs with
  | nil => exact absurd rfl hne
  | cons v vs ih =>
    rw [List.forall_mem_cons] at h
    cases vs with
    | nil =>
      rw [List.map_singleton, joined_singleton]
      exact reads_scalar h.1
    | cons w rest =>
      rw [List.map_cons, List.map_cons, joined_cons_cons]
      have hbar : Goes isBreak " | " (.code, .between) (.code, .between) [.mark '|'] := rfl
      exact ((reads_scalar h.1).append rfl rfl hbar).append_reads (ih (List.cons_ne_nil _ _) h.2)

/-- A type is read as its tokens. -/
theorem reads_text {t : TypeExpr} (h : t.Sound) : Reads isBreak t.text t.tokens := by
  induction t with
  | string => exact reads_word (by decide) (by decide)
  | number => exact reads_word (by decide) (by decide)
  | boolean => exact reads_word (by decide) (by decide)
  | unknown => exact reads_word (by decide) (by decide)
  | record =>
    have hrecord : Goes isBreak "Record<string, unknown>" (.code, .between) (.code, .between) (tokens .record) := rfl
    exact hrecord.reads
  | array t ih =>
    have hopen : Goes isBreak "Array<" (.code, .between) (.code, .between) [.word "Array", .mark '<'] := rfl
    have hclose : Goes isBreak ">" (.code, .between) (.code, .between) [.mark '>'] := rfl
    exact ((hopen.append_reads (ih h)).append rfl rfl hclose).reads
  | union scalars => exact reads_scalars h.1 h.2.1

/-- Between the tokens of values there are bars, and no other mark. -/
theorem not_mem_tokens_scalars {c : Char} (hc : c ≠ '|') (vs : List Json) : Token.mark c ∉ Json.tokens vs := by
  have hone (v : Json) : Token.mark c ≠ v.token := by cases v <;> exact nofun
  induction vs with
  | nil => exact nofun
  | cons v vs ih => cases vs with
    | nil => simpa [Json.tokens] using hone v
    | cons w rest => simpa [Json.tokens, hone v, hc] using ih

/-- The tokens of a type hold no mark of a statement or of an interface. -/
theorem not_mem_tokens {t : TypeExpr} {c : Char} (hc : c = ';' ∨ c = '\x7d') : Token.mark c ∉ t.tokens := by
  induction t with
  | array t ih => rcases hc with rfl | rfl <;> simpa [tokens] using ih
  | union scalars => exact not_mem_tokens_scalars (by rcases hc with rfl | rfl <;> decide) scalars
  | _ => rcases hc with rfl | rfl <;> decide

theorem stringOf?_quote (s : String) : stringOf? (Json.quote s) = some s := by
  unfold stringOf?
  rw [Json.parse_quote]

theorem literal?_token {v : Json} (h : isScalar v = true) : literal? v.token = some v.compact := by
  cases v with
  | null => rfl
  | bool b => cases b <;> rfl
  | num n =>
    show (if ["true", "false", "null"].contains n.text || Json.isNumberText n.text.toList then some n.text else none) = _
    rw [n.isNumberText_text, Bool.or_true, if_pos rfl]
    rfl
  | str s =>
    show (if (stringOf? (Json.quote s)).isSome then some (Json.quote s) else none) = _
    rw [stringOf?_quote]
    rfl
  | arr _ => cases h
  | obj _ => cases h

/-- What may stand behind a type: nothing, or the end of an array's type. -/
def EndsType (ts : List Token) : Prop := ts = [] ∨ ∃ rest, ts = .mark '>' :: rest

theorem readLiterals_tokens {vs : List Json} (hne : vs ≠ []) (h : ∀ v ∈ vs, isScalar v = true) {rest : List Token}
    (hrest : EndsType rest) : readLiterals (Json.tokens vs ++ rest) = some (vs.map Json.compact, rest) := by
  induction vs with
  | nil => exact absurd rfl hne
  | cons v vs ih =>
    rw [List.forall_mem_cons] at h
    cases vs with
    | nil =>
      show readLiterals (v.token :: rest) = _
      rcases hrest with rfl | ⟨rest, rfl⟩ <;> simp [readLiterals, literal?_token h.1]
    | cons w vs =>
      show readLiterals (v.token :: .mark '|' :: (Json.tokens (w :: vs) ++ rest)) = _
      rw [readLiterals, literal?_token h.1, ih (List.cons_ne_nil _ _) h.2]
      rfl

/-- What starts with a literal is a union. -/
theorem readType_literal {t : Token} {ts : List Token} (ht : (literal? t).isSome = true)
    (hts : ∀ us, ts ≠ .mark '<' :: us) : readType (t :: ts) = readUnion (t :: ts) := by
  have hnamed : ∀ p ∈ namedTypes, literal? (.word p.1) = none := by decide
  cases t with
  | word name =>
    have hlookup : namedTypes.lookup name = none := by
      refine List.lookup_eq_none_iff.2 fun p hp => bne_iff_ne.2 ?_
      rintro rfl
      rw [hnamed p hp] at ht
      cases ht
    cases ts with
    | nil => rw [readType, hlookup]; exact nofun
    | cons u us =>
      rw [readType, hlookup]
      exact fun vs hvs => hts vs hvs
  | text s => rfl
  | mark c => cases ht
  | stray c => cases ht

/-- **A written type is read back.** -/
theorem readType_tokens {t : TypeExpr} (h : t.Sound) {rest : List Token} (hrest : EndsType rest) :
    readType (t.tokens ++ rest) = some (t.form, rest) := by
  induction t generalizing rest with
  | array t ih =>
    have hclose : EndsType (.mark '>' :: rest) := .inr ⟨rest, rfl⟩
    have hinner := ih h hclose
    have htokens : (array t).tokens ++ rest = .word "Array" :: .mark '<' :: (t.tokens ++ .mark '>' :: rest) := by
      simp [tokens]
    rw [htokens, readType, if_pos rfl, hinner]
    rfl
  | union scalars =>
    obtain ⟨hne, hscalars, hnodup⟩ := h
    have hunion : readUnion (Json.tokens scalars ++ rest) = some (.union (scalars.map Json.compact), rest) := by
      unfold readUnion
      rw [readLiterals_tokens hne hscalars hrest]
      exact if_pos hnodup
    obtain ⟨v, vs, rfl⟩ := List.exists_cons_of_ne_nil hne
    have hv : literal? v.token = some v.compact := literal?_token (hscalars v List.mem_cons_self)
    -- a literal comes first, and no angle bracket behind it, so a union is read
    have hhead : ∃ us, (union (v :: vs)).tokens ++ rest = v.token :: us ∧ ∀ ws, us ≠ .mark '<' :: ws := by
      cases vs with
      | nil => exact ⟨rest, rfl, by rcases hrest with rfl | ⟨rest, rfl⟩ <;> exact nofun⟩
      | cons w vs => exact ⟨_, rfl, nofun⟩
    obtain ⟨us, hus, hbehind⟩ := hhead
    have hread := readType_literal (by rw [hv]; rfl) hbehind
    rw [← hus] at hread
    exact hread.trans hunion
  | _ => rcases hrest with rfl | ⟨rest, rfl⟩ <;> rfl

theorem wholeType?_tokens {t : TypeExpr} (h : t.Sound) : wholeType? t.tokens = some t.form := by
  have hnothing : EndsType [] := .inl rfl
  have hread := readType_tokens h hnothing
  rw [List.append_nil] at hread
  unfold wholeType?
  rw [hread]

end TypeExpr

namespace Interface

/-! ## Identifiers -/

theorem inIdentifier_of_starts {c : Char} (h : startsIdentifier c = true) : inIdentifier c = true := by
  simp only [startsIdentifier, inIdentifier, Char.isAlphanum, Bool.or_eq_true] at h ⊢
  tauto

theorem isIdentifier_iff {s : String} : isIdentifier s = true ↔
    ∃ c cs, s.toList = c :: cs ∧ startsIdentifier c = true ∧ ∀ d ∈ cs, inIdentifier d = true := by
  unfold isIdentifier
  split
  · rename_i hnil
    simp [hnil]
  · rename_i c cs hcons
    simp [hcons, List.all_eq_true]

theorem isIdentifier_typeName (name : String) : isIdentifier (typeName name) = true := by
  obtain ⟨c, cs, hname, hc, hcs⟩ := typeName_shape name
  refine isIdentifier_iff.2 ⟨c, cs, hname, ?_, fun d hd => by simp [inIdentifier, hcs d hd]⟩
  rcases hc with hc | rfl
  · simp [startsIdentifier, isAlpha_eq, hc]
  · rfl

theorem isIdentifier_append {s t : String} (hs : isIdentifier s = true) (ht : isIdentifier t = true) :
    isIdentifier (s ++ t) = true := by
  obtain ⟨c, cs, hs, hc, hcs⟩ := isIdentifier_iff.1 hs
  obtain ⟨d, ds, ht, hd, hds⟩ := isIdentifier_iff.1 ht
  refine isIdentifier_iff.2 ⟨c, cs ++ d :: ds, by rw [String.toList_append, hs, ht]; rfl, hc, ?_⟩
  rw [List.forall_mem_append, List.forall_mem_cons]
  exact ⟨hcs, inIdentifier_of_starts hd, hds⟩

theorem reads_identifier {s : String} (h : isIdentifier s = true) : Reads isBreak s [.word s] := by
  obtain ⟨c, cs, hs, hc, hcs⟩ := isIdentifier_iff.1 h
  refine reads_word (by rintro rfl; cases hs) ?_
  rw [hs, List.all_eq_true, List.forall_mem_cons]
  have hword {d : Char} (hd : inIdentifier d = true) : inWord d = true := by simp [inWord, hd]
  exact ⟨hword (inIdentifier_of_starts hc), fun d hd => hword (hcs d hd)⟩

/-! ## Documentation -/

theorem toList_trim_isInfix (s : String) : (Text.trim s).toList <:+: s.toList := by
  unfold Text.trim
  rw [String.toList_ofList]
  exact Text.trimChars_isInfix s.toList

/-- What documents an interface or a property is no code. -/
theorem goes_docComment {indent : String} {description : Option String}
    (hindent : Goes isBreak indent (.code, .between) (.code, .between) [])
    (h : ∀ d, description = some d → ¬ ['*', '/'] <:+: d.toList) :
    Goes isBreak (docComment indent description) (.code, .between) (.code, .between) [] := by
  cases description with
  | none => rfl
  | some d =>
    have hcomment : Goes isBreak ("/** " ++ Text.trim d ++ " */\n") (.code, .between) (.code, .between) [] :=
      goes_blockComment fun hin => h d rfl (hin.trans (toList_trim_isInfix d))
    have hall := hindent.append hcomment
    rw [← String.append_assoc, ← String.append_assoc] at hall
    exact hall

/-! ## Properties -/

namespace Property

/-- The token of a key. -/
def keyToken (key : String) : Token := if isIdentifier key then .word key else .text (Json.quote key)

/-- The mark of a property that may be missing. -/
def optionMark (required : Bool) : List Token := if required then [] else [.mark '?']

/-- The tokens of a property without its end. -/
def tokens (p : Property) : List Token := keyToken p.key :: (optionMark p.required ++ .mark ':' :: p.type.tokens)

/-- A property as the grammar has it. -/
def member (p : Property) : Member := ⟨p.key, !p.required, p.type.form⟩

/-- A property that can be written. -/
structure Sound (isBreak : Char → Bool) (p : Property) : Prop where
  type : p.type.Sound
  description : ∀ d, p.description = some d → ¬ ['*', '/'] <:+: d.toList
  source : ∀ o, p.provenance = some o → Unbroken isBreak o.source

theorem reads_propertyKey (key : String) : Reads isBreak (propertyKey key) [keyToken key] := by
  unfold propertyKey keyToken
  split
  · rename_i h
    exact reads_identifier h
  · exact (goes_quote key).reads

/-- **A key is read back**, quoted or not. -/
theorem key?_keyToken (key : String) : key? (keyToken key) = some key := by
  unfold keyToken
  split
  · rename_i h
    exact if_pos h
  · show stringOf? (Json.quote key) = some key
    exact TypeExpr.stringOf?_quote key

/-- The start of the line that tells where a property comes from. -/
theorem goes_layer (hbreaks : Breaks isBreak) (o : Provenance) :
    Goes isBreak ("  // " ++ o.layer.name ++ ": ") (.code, .between) (.line, .between) [] := by
  have hmarks : Goes isBreak "  //" (.code, .between) (.line, .between) [] := rfl
  have hspace : Unbroken isBreak " " := hbreaks.unbroken (by decide)
  have hlayer : Unbroken isBreak o.layer.name := hbreaks.unbroken (by cases o.layer <;> decide)
  have hcolon : Unbroken isBreak ": " := hbreaks.unbroken (by decide)
  have hsplit : "  // " = "  //" ++ " " := rfl
  rw [hsplit]
  exact hmarks.append (goes_of_unbroken hspace) |>.append (goes_of_unbroken hlayer)
    |>.append (goes_of_unbroken hcolon)

/-- The line that tells where a property comes from is no code. -/
theorem goes_provenance (hbreaks : Breaks isBreak) {o : Provenance} (h : Unbroken isBreak o.source) :
    Goes isBreak ("  // " ++ o.layer.name ++ ": " ++ o.source ++ "\n") (.code, .between) (.code, .between) [] :=
  (goes_layer hbreaks o).append (goes_of_unbroken h) |>.append (goes_feed hbreaks)

/-- **A property is read as its tokens.** -/
theorem goes_text (hbreaks : Breaks isBreak) {p : Property} (h : p.Sound isBreak) :
    Goes isBreak p.text (.code, .between) (.code, .between) (p.tokens ++ [.mark ';']) := by
  have htext : p.text = docComment "  " p.description ++
      (p.provenance.elim "" fun o => "  // " ++ o.layer.name ++ ": " ++ o.source ++ "\n") ++
      "  " ++ propertyKey p.key ++ (if p.required then "" else "?") ++ ": " ++ p.type.text ++ ";\n" := by
    unfold text
    cases p.provenance <;> rfl
  have hindent : Goes isBreak "  " (.code, .between) (.code, .between) [] := rfl
  have hdoc := goes_docComment hindent h.description
  have hprovenance : Goes isBreak
      (p.provenance.elim "" fun o => "  // " ++ o.layer.name ++ ": " ++ o.source ++ "\n")
      (.code, .between) (.code, .between) [] := by
    cases ho : p.provenance with
    | none => rfl
    | some o => exact goes_provenance hbreaks (h.source o ho)
  have hkey := ((hdoc.append hprovenance).append hindent).append_reads (reads_propertyKey p.key)
  -- what stands behind the key ends the word, with a question mark or without
  have hmark : ∃ c cs, ((if p.required then "" else "?") ++ ": ").toList = c :: cs ∧ endsWord c = true ∧
      Goes isBreak ((if p.required then "" else "?") ++ ": ") (.code, .between) (.code, .between)
        (optionMark p.required ++ [.mark ':']) := by
    cases p.required <;> exact ⟨_, _, rfl, rfl, rfl⟩
  obtain ⟨c, cs, hcons, hends, hmark⟩ := hmark
  have htype := (hkey.append hcons hends hmark).append_reads (TypeExpr.reads_text h.type)
  have hend : Goes isBreak ";\n" (.code, .between) (.code, .between) [.mark ';'] := rfl
  have hall := htype.append rfl rfl hend
  rw [← String.append_assoc] at hall
  have htokens : [] ++ [] ++ [] ++ [keyToken p.key] ++ (optionMark p.required ++ [.mark ':']) ++ p.type.tokens ++
      [.mark ';'] = p.tokens ++ [.mark ';'] := by
    simp [tokens]
  rw [htokens] at hall
  rw [htext]
  exact hall

/-- No token of a property is a mark at which a file is cut. -/
theorem not_mem_tokens {p : Property} {c : Char} (hc : c = ';' ∨ c = '\x7d') : Token.mark c ∉ p.tokens := by
  have hkey : Token.mark c ≠ keyToken p.key := by
    unfold keyToken
    split <;> exact nofun
  have hmark : Token.mark c ∉ optionMark p.required ++ [.mark ':'] := by
    rcases hc with rfl | rfl <;> cases p.required <;> decide
  have htype := TypeExpr.not_mem_tokens (t := p.type) hc
  unfold tokens
  rw [List.mem_append, not_or] at hmark
  simp only [List.mem_cons, List.mem_append, not_or] at hmark ⊢
  exact ⟨hkey, hmark.1, hmark.2.1, htype⟩

/-- **A property is read back.** -/
theorem member?_tokens {p : Property} (h : p.Sound isBreak) : member? p.tokens = some p.member := by
  have hkey := key?_keyToken p.key
  have htype := TypeExpr.wholeType?_tokens h.type
  unfold tokens member
  cases p.required
  · show member? (keyToken p.key :: .mark '?' :: .mark ':' :: p.type.tokens) = _
    rw [member?, hkey, htype]
    rfl
  · show member? (keyToken p.key :: .mark ':' :: p.type.tokens) = _
    rw [member?, hkey, htype]
    rfl

end Property

/-! ## Named types -/

/-- The tokens of a named type without its end. -/
def unionTokens (name : String) (t : TypeExpr) : List Token :=
  [.word "export", .word "type", .word name, .mark '='] ++ t.tokens

theorem goes_union {name : String} {t : TypeExpr} (hname : isIdentifier name = true) (ht : t.Sound) :
    Goes isBreak ("\nexport type " ++ name ++ " = " ++ t.text ++ ";\n") (.code, .between) (.code, .between)
      (unionTokens name t ++ [.mark ';']) := by
  have hopen : Goes isBreak "\nexport type " (.code, .between) (.code, .between) [.word "export", .word "type"] := rfl
  have hequal : Goes isBreak " = " (.code, .between) (.code, .between) [.mark '='] := rfl
  have hend : Goes isBreak ";\n" (.code, .between) (.code, .between) [.mark ';'] := rfl
  have hnamed := (hopen.append_reads (reads_identifier hname)).append rfl rfl hequal
  exact (hnamed.append_reads (TypeExpr.reads_text ht)).append rfl rfl hend

theorem not_mem_unionTokens (name : String) (t : TypeExpr) : Token.mark ';' ∉ unionTokens name t := by
  unfold unionTokens
  rw [List.mem_append, not_or]
  exact ⟨by simp, TypeExpr.not_mem_tokens (.inl rfl)⟩

theorem namedType?_tokens {name : String} {t : TypeExpr} (hname : isIdentifier name = true) (ht : t.Sound) :
    namedType? (unionTokens name t) = some (name, t.form) := by
  show namedType? (.word "export" :: .word "type" :: .word name :: .mark '=' :: t.tokens) = _
  have hidentifier : identifier? (.word name) = some name := if_pos hname
  rw [namedType?, hidentifier, TypeExpr.wholeType?_tokens ht]

/-! ## Files -/

/-- An interface that can be written. -/
structure Sound (isBreak : Char → Bool) (i : Interface) : Prop where
  name : isIdentifier i.name = true
  objectName : Unbroken isBreak i.objectName
  traitNames : ∀ s ∈ i.traitNames, Unbroken isBreak s
  description : ∀ d, i.description = some d → ¬ ['*', '/'] <:+: d.toList
  properties : ∀ p ∈ i.properties, p.Sound isBreak
  unions : ∀ u ∈ i.unions, isIdentifier u.1 = true ∧ u.2.Sound

/-- An interface whose code can be written, whatever its comments tell. -/
structure SoundCode (i : Interface) : Prop where
  name : isIdentifier i.name = true
  types : ∀ p ∈ i.properties, p.type.Sound
  unions : ∀ u ∈ i.unions, isIdentifier u.1 = true ∧ u.2.Sound

/-- The tokens of an interface. -/
def tokens (i : Interface) : List Token :=
  [.word "export", .word "interface", .word i.name, .mark '\x7b'] ++
    i.properties.flatMap (fun p => p.tokens ++ [.mark ';']) ++ [.mark '\x7d'] ++
    i.unions.flatMap fun u => unionTokens u.1 u.2 ++ [.mark ';']

/-- An interface as the grammar has it. -/
def file (i : Interface) : File where
  name := i.name
  members := i.properties.map Property.member
  types := i.unions.map fun u => (u.1, u.2.form)

theorem unbroken_joined (hbreaks : Breaks isBreak) {names : List String} :
    Unbroken isBreak (Text.joined ", " names) ↔ ∀ s ∈ names, Unbroken isBreak s := by
  have hsep : Unbroken isBreak ", " := hbreaks.unbroken (by decide)
  induction names with
  | nil => exact iff_of_true nofun nofun
  | cons s names ih =>
    cases names with
    | nil => rw [joined_singleton, List.forall_mem_singleton]
    | cons t rest =>
      rw [joined_cons_cons, unbroken_append, unbroken_append, and_iff_left hsep, List.forall_mem_cons]
      exact and_congr_right fun _ => ih

/-- The comment at the top is no code. -/
theorem goes_header (hbreaks : Breaks isBreak) {i : Interface} (h : i.Sound isBreak) :
    Goes isBreak i.header (.code, .between) (.code, .between) [] := by
  have hnotice : Goes isBreak "// Generated by traitsmith. Do not edit." (.code, .between) (.line, .between) [] :=
    goes_lineComment (s := " Generated by traitsmith. Do not edit.") (hbreaks.unbroken (by decide))
  have hobject : Goes isBreak "// Object: " (.code, .between) (.line, .between) [] :=
    goes_lineComment (s := " Object: ") (hbreaks.unbroken (by decide))
  have htraits : Goes isBreak "// Traits: " (.code, .between) (.line, .between) [] :=
    goes_lineComment (s := " Traits: ") (hbreaks.unbroken (by decide))
  have hnames : Unbroken isBreak (if i.traitNames.isEmpty then "(none)" else Text.joined ", " i.traitNames) := by
    split
    · exact hbreaks.unbroken (by decide)
    · exact (unbroken_joined hbreaks).2 h.traitNames
  have hfeed := goes_feed hbreaks
  have hfeeds : Goes isBreak "\n" (.code, .between) (.code, .between) [] := rfl
  have hfirst : "// Generated by traitsmith. Do not edit.\n" = "// Generated by traitsmith. Do not edit." ++ "\n" := rfl
  have hlast : "\n\n" = "\n" ++ "\n" := rfl
  unfold header
  rw [hfirst, hlast]
  exact hnotice.append hfeed |>.append hobject |>.append (goes_of_unbroken h.objectName) |>.append hfeed
    |>.append htraits |>.append (goes_of_unbroken hnames) |>.append (hfeed.append hfeeds)

/-- The line with which an interface starts. -/
theorem goes_open {name : String} (h : isIdentifier name = true) :
    Goes isBreak ("export interface " ++ name ++ " \x7b\n") (.code, .between) (.code, .between)
      [.word "export", .word "interface", .word name, .mark '\x7b'] := by
  have hopen : Goes isBreak "export interface " (.code, .between) (.code, .between)
    [.word "export", .word "interface"] := rfl
  have hbrace : Goes isBreak " \x7b\n" (.code, .between) (.code, .between) [.mark '\x7b'] := rfl
  exact (hopen.append_reads (reads_identifier h)).append rfl rfl hbrace

/-- **An interface is read as its tokens.** -/
theorem goes_content (hbreaks : Breaks isBreak) {i : Interface} (h : i.Sound isBreak) :
    Goes isBreak i.content (.code, .between) (.code, .between) i.tokens := by
  have hclose : Goes isBreak "\x7d\n" (.code, .between) (.code, .between) [.mark '\x7d'] := rfl
  have hindent : Goes isBreak "" (.code, .between) (.code, .between) [] := rfl
  have hdoc := goes_docComment hindent h.description
  have hnamed := ((goes_header hbreaks h).append hdoc).append (goes_open h.name)
  rw [← String.append_assoc, ← String.append_assoc] at hnamed
  have hproperties := goes_joined fun p hp => Property.goes_text hbreaks (h.properties p hp)
  have hunion : ∀ u ∈ i.unions, Goes isBreak ("\nexport type " ++ u.1 ++ " = " ++ u.2.text ++ ";\n")
      (.code, .between) (.code, .between) (unionTokens u.1 u.2 ++ [.mark ';']) := fun u hu =>
    goes_union (h.unions u hu).1 (h.unions u hu).2
  exact hnamed.append hproperties |>.append hclose |>.append (goes_joined hunion)

/-- **An interface is read back.** -/
theorem read_content (hbreaks : Breaks isBreak) {i : Interface} (h : i.Sound isBreak) :
    File.read isBreak i.content = some i.file := by
  have htokens : i.tokens = .word "export" :: .word "interface" :: .word i.name :: .mark '\x7b' ::
      (i.properties.flatMap (fun p => p.tokens ++ [.mark ';']) ++ .mark '\x7d' ::
        i.unions.flatMap fun u => unionTokens u.1 u.2 ++ [.mark ';']) := by
    simp [tokens]
  -- the brace that closes the interface is the first one, so the reader cuts there
  have hinside : ∀ t ∈ i.properties.flatMap fun p => p.tokens ++ [.mark ';'], decide (t ≠ .mark '\x7d') = true := by
    intro t ht
    obtain ⟨p, -, ht⟩ := List.mem_flatMap.1 ht
    refine decide_eq_true ?_
    rintro rfl
    rcases List.mem_append.1 ht with ht | ht
    · exact Property.not_mem_tokens (.inr rfl) ht
    · exact absurd ht (by decide)
  have hname : identifier? (.word i.name) = some i.name := if_pos h.name
  have hmembers := statements_flatMap fun p (_ : p ∈ i.properties) => Property.not_mem_tokens (p := p) (.inl rfl)
  have htypes := statements_flatMap fun u (_ : u ∈ i.unions) => not_mem_unionTokens u.1 u.2
  have hmember := mapM_map fun p hp => Property.member?_tokens (h.properties p hp)
  have htype := mapM_map fun u hu => namedType?_tokens (h.unions u hu).1 (h.unions u hu).2
  unfold File.read
  rw [(goes_content hbreaks h).tokens_eq, htokens, File.ofTokens, List.dropWhile_append_of_pos hinside,
    List.takeWhile_append_of_pos hinside]
  simp [hname, hmembers, htypes, hmember, htype, file]

end Interface

/-! ## Composed objects -/

/-- The lists of literal values that traits give to a parameter. -/
def Contribution.given (cs : List Contribution) : List (List Json) := cs.filterMap Contribution.values

/-- Values without those that equal one before them. -/
def Json.distinct (vs : List Json) : List Json := vs.eraseDupsBy fun v w => w.same v

namespace Composed

variable (c : Composed)

/-- A parameter has a type when two traits or more give literal values to it, which are those of all of them. -/
theorem parameterUnions_eq : c.parameterUnions =
    (c.parameters.filter fun p => decide (2 ≤ (Contribution.given p.2).length)).map fun p =>
      (p.1, Json.distinct (Contribution.given p.2).flatten) := by
  have hvalues (vs : List Json) : vs.foldl addValue [] = Json.distinct vs := foldl_add (fun _ _ => rfl) vs
  unfold parameterUnions
  rw [← List.filterMap_eq_map, List.filterMap_filter]
  refine List.filterMap_congr fun p _ => ?_
  show (if (Contribution.given p.2).length < 2 then none else
    some (p.1, (Contribution.given p.2).flatten.foldl addValue [])) = _
  rw [hvalues]
  by_cases htwo : (Contribution.given p.2).length < 2
  · simp [htwo, Nat.not_le.2 htwo]
  · simp [htwo, Nat.not_lt.1 htwo]

/-- The names of an object and its sources have no breaks, and its descriptions do not end a comment. -/
structure FitsComments (isBreak : Char → Bool) : Prop where
  name : Unbroken isBreak c.name
  traits : ∀ s ∈ c.traitOrder, Unbroken isBreak s
  sources : ∀ p ∈ c.schema, ∀ o, c.provenance.get? p.1 = some o → Unbroken isBreak o.source
  description : ∀ d, c.description = some d → ¬ ['*', '/'] <:+: d.toList
  descriptions : ∀ p ∈ c.schema, ∀ d, p.2.description = some d → ¬ ['*', '/'] <:+: d.toList

/-- The code for a composed object can be written. -/
theorem soundCode_interface : c.interface.SoundCode where
  name := Interface.isIdentifier_typeName c.name
  types p hp := by
    obtain ⟨⟨key, f⟩, -, rfl⟩ := List.mem_map.1 hp
    exact TypeExpr.sound_ofField f
  unions u hu := by
    obtain ⟨⟨name, vs⟩, -, rfl⟩ := List.mem_map.1 hu
    exact ⟨Interface.isIdentifier_append (Interface.isIdentifier_typeName _) (Interface.isIdentifier_typeName _),
      TypeExpr.sound_literals vs⟩

theorem sound_interface {c : Composed} (h : c.FitsComments isBreak) : c.interface.Sound isBreak where
  name := c.soundCode_interface.name
  objectName := h.name
  traitNames := h.traits
  description := h.description
  properties p hp := by
    have htype := c.soundCode_interface.types p hp
    obtain ⟨⟨key, f⟩, hf, rfl⟩ := List.mem_map.1 hp
    exact {
      type := htype
      description := h.descriptions _ hf
      source := h.sources _ hf }
  unions := c.soundCode_interface.unions

/-- **What is written for a composed object is well formed**: without its comments it is one interface with a property
for each field, in the order of the fields, each of a type that its declaration may have, and then a type for each
parameter to which two traits or more give literal values, which is the union of these. -/
theorem content_wellFormed (hbreaks : Breaks isBreak) (c : Composed) (h : c.FitsComments isBreak) :
    ∃ file, File.read isBreak c.interface.content = some file ∧
      file.name = Interface.typeName c.name ∧
      List.Forall₂ (fun p m => m.key = p.1 ∧ m.optional = !p.2.isRequired ∧ Declared p.2 m.type)
        c.schema file.members ∧
      file.types = (c.parameters.filter fun p => decide (2 ≤ (Contribution.given p.2).length)).map fun p =>
        (Interface.typeName c.name ++ Interface.typeName p.1,
          .ofLiterals (written (Json.distinct (Contribution.given p.2).flatten))) := by
  refine ⟨c.interface.file, Interface.read_content hbreaks (sound_interface h), rfl, ?_, ?_⟩
  · show List.Forall₂ _ c.schema ((c.schema.map fun p => c.property p.1 p.2).map Interface.Property.member)
    rw [List.map_map, List.forall₂_map_right_iff, List.forall₂_same]
    exact fun p _ => ⟨rfl, rfl, TypeExpr.declared_ofField p.2⟩
  · show ((c.parameterUnions.map fun p => (Interface.typeName c.name ++ Interface.typeName p.1,
      TypeExpr.literals p.2)).map fun u => (u.1, u.2.form)) = _
    rw [parameterUnions_eq, List.map_map, List.map_map]
    exact List.map_congr_left fun p _ => Prod.ext rfl (TypeExpr.form_literals _)

/-- An order with a key that must be quoted, a literal that looks like a comment, and a parameter of two traits. -/
def purchase : Composed :=
  { empty "purchase order" with
    description := some "What a customer orders."
    schema := [
      ("id", { Field.ofKind "uuid" with required := some true }),
      ("line-items", { Field.ofKind "array" with
        description := some "By product, * marks gifts / samples."
        items := some (.obj [("type", .str "array"), ("items", .str "number")]) }),
      ("state", { Field.empty with allowed := some [.str "open // or not", .null, .str "open // or not"] })]
    parameters := [
      ("level", [⟨"audited", "enum", some [.str "low", .str "high"], none⟩,
        ⟨"traced", "enum", some [.str "high", .num (.int 3)], none⟩]),
      ("window", [⟨"traced", "number", some [.num (.int 5)], none⟩])]
    traitOrder := ["audited", "traced"]
    provenance := [("id", ⟨.trait, "audited"⟩)] }

/-- What is written for an order has its fields and a type for the level, but none for the window. -/
theorem content_wellFormed_purchase : purchase.FitsComments isLineBreak ∧
    ∃ file, File.read isLineBreak purchase.interface.content = some file ∧ file.name = "PurchaseOrder" ∧
      file.members.map (fun m => (m.key, m.optional)) = [("id", false), ("line-items", true), ("state", true)] ∧
      file.types = [("PurchaseOrderLevel", .union ["\"low\"", "\"high\"", "3"])] := by
  have hsource : purchase.provenance.get? "id" = some ⟨.trait, "audited"⟩ := by decide
  have hfits : purchase.FitsComments isLineBreak :=
    { name := by decide
      traits := by decide
      sources := by
        rw [purchase, List.forall_mem_cons, List.forall_mem_cons, List.forall_mem_singleton]
        refine ⟨fun o ho => ?_, nofun, nofun⟩
        obtain rfl := Option.some.inj (hsource.symm.trans ho)
        decide
      description := fun d hd => by
        obtain rfl := Option.some.inj hd
        decide +kernel
      descriptions := by
        rw [purchase, List.forall_mem_cons, List.forall_mem_cons, List.forall_mem_singleton]
        refine ⟨nofun, fun d hd => ?_, nofun⟩
        obtain rfl := Option.some.inj hd
        decide +kernel }
  obtain ⟨file, hread, hname, hmembers, htypes⟩ := content_wellFormed breaks_isLineBreak purchase hfits
  -- the members are not read from the text, but follow from the schema
  have hkeys : file.members.map (fun m => (m.key, m.optional)) =
      purchase.schema.map fun p => (p.1, !p.2.isRequired) := by
    refine List.forall₂_eq_eq_eq ▸ List.forall₂_map_left_iff.2 (List.forall₂_map_right_iff.2 ?_)
    exact hmembers.flip.imp fun m p h => Prod.ext h.1 h.2.1
  exact ⟨hfits, file, hread, by rw [hname]; decide +kernel, by rw [hkeys]; rfl, by rw [htypes]; decide +kernel⟩

end Composed

end TraitWeave
