import TraitWeave.Proofs.Interface.WellFormed
import TraitWeave.Proofs.Table
import TraitWeave.Proofs.Text.Marks

/-!
# What stands in comments

The names in the header, the descriptions and the sources are written as they are, each in a comment of its own. Nothing
in them is quoted, so a comment ends where its text ends it.

* `Script.Piece`: a comment with its text, or what stands between comments.
* `Script.Within`, `Script.Contained`: no text of a comment leaves it.
* `Script.contained_iff`, `Script.run_pieces`: which texts these are, and that then the code is without them.
* `Interface.pieces`, `Interface.toList_content`: an interface is written piece by piece.
* `Composed.content_contained`: the texts of a composed object stay in their comments just if none has what ends its
  comment, and then the code does not depend on them.
-/

namespace TraitWeave

namespace Script

variable {isBreak : Char → Bool} {zone : Zone} {cs : List Char} {s : String}

/-! ## Within a comment -/

/-- Whether a reader stands in a comment. -/
def Zone.inComment : Zone → Bool
  | line | block | star => true
  | _ => false

/-- The reader stands in a comment before a text and behind each of its characters. -/
def Within (isBreak : Char → Bool) (zone : Zone) : List Char → Prop
  | [] => zone.inComment = true
  | c :: cs => zone.inComment = true ∧ Within isBreak (Zone.step isBreak zone c).1 cs

theorem not_within_code : ¬ Within isBreak .code cs := by
  cases cs with
  | nil => exact Bool.false_ne_true
  | cons c cs => exact fun h => Bool.false_ne_true h.1

/-- A comment to the end of its line is left at a break. -/
theorem within_line : Within isBreak .line cs ↔ ∀ c ∈ cs, isBreak c = false := by
  induction cs with
  | nil => exact iff_of_true rfl (List.forall_mem_nil _)
  | cons c cs ih =>
    rw [Within, List.forall_mem_cons, ← ih]
    cases hc : isBreak c
    · simp [Zone.step, Zone.inComment, hc]
    · simp [Zone.step, hc, not_within_code]

/-- Any other comment is left behind the mark. -/
theorem within_iff_unmarked (hzone : zone = .block ∨ zone = .star) : Within isBreak zone cs ↔ Unmarked zone cs := by
  have hcomment : zone.inComment = true := by obtain rfl | rfl := hzone <;> rfl
  induction cs generalizing zone with
  | nil =>
    have hshort : ¬ ['*', '/'] <:+: ['*'] := by decide
    obtain rfl | rfl := hzone
    · exact iff_of_true rfl (by simp [Unmarked])
    · exact iff_of_true rfl hshort
  | cons c cs ih =>
    have hcons : Within isBreak zone (c :: cs) ↔ Within isBreak (Zone.step isBreak zone c).1 cs :=
      and_iff_right hcomment
    have hunmarked : Unmarked zone (c :: cs) ↔ Unmarked (Zone.step isBreak zone c).1 cs := unmarked_cons hzone
    -- a step goes on in the comment, or out of it behind the mark
    have hnext : (Zone.step isBreak zone c).1 = .code ∨ (Zone.step isBreak zone c).1 = .block ∨
        (Zone.step isBreak zone c).1 = .star := by
      obtain rfl | rfl := hzone <;> simp only [Zone.step] <;> grind
    rw [hcons, hunmarked]
    obtain hcode | hnext := hnext
    · rw [hcode]
      exact iff_of_false not_within_code id
    · refine ih hnext ?_
      obtain hnext | hnext := hnext <;> rw [hnext] <;> rfl

/-! ## Pieces -/

/-- A piece of a file: what stands between comments, or a comment with the text in it. -/
inductive Piece where
  | plain (text : String)
  /-- A comment that ends with its line, from its start on. -/
  | line (start text : String)
  /-- A comment that ends with a mark, and its line. -/
  | block (indent text : String)

namespace Piece

/-- How a piece is written. -/
def written : Piece → String
  | plain s => s
  | line start s => start ++ s ++ "\n"
  | block indent s => indent ++ "/** " ++ s ++ " */\n"

/-- The reader comes from code to code between comments, and into a comment before each text. -/
def Sound (isBreak : Char → Bool) : Piece → Prop
  | plain s => (run (Zone.step isBreak) .code s.toList).1 = .code
  | line start _ => (run (Zone.step isBreak) .code start.toList).1 = .line
  | block indent _ => (run (Zone.step isBreak) .code indent.toList).1 = .code

/-- The text in a comment does not have what ends the comment. -/
def Fits (isBreak : Char → Bool) : Piece → Prop
  | plain _ => True
  | line _ s => Unbroken isBreak s
  | block _ s => ¬ ['*', '/'] <:+: s.toList

/-- The reader does not leave the comment along the text in it. -/
def Held (isBreak : Char → Bool) (zone : Zone) : Piece → Prop
  | plain _ => True
  | line start s => Within isBreak (run (Zone.step isBreak) zone start.toList).1 s.toList
  | block indent s => Within isBreak (run (Zone.step isBreak) zone (indent ++ "/** ").toList).1 s.toList

/-- What is left of a piece without its comment, whatever the text is. -/
def code (isBreak : Char → Bool) : Piece → List Char
  | plain s => (run (Zone.step isBreak) .code s.toList).2
  | line start _ => (run (Zone.step isBreak) .code start.toList).2 ++ ['\n']
  | block indent _ => (run (Zone.step isBreak) .code indent.toList).2 ++ [' ', '\n']

variable {p : Piece}

theorem run_indent {indent : String} (h : (run (Zone.step isBreak) .code indent.toList).1 = .code) :
    run (Zone.step isBreak) .code (indent ++ "/** ").toList =
      (.block, (run (Zone.step isBreak) .code indent.toList).2) := by
  have hopen : run (Zone.step isBreak) .code "/** ".toList = (.block, []) := rfl
  rw [String.toList_append, run_append, h, hopen, List.append_nil]

/-- **A comment is not left along a text just if the text does not end it.** -/
theorem held_iff_fits (h : p.Sound isBreak) : p.Held isBreak .code ↔ p.Fits isBreak := by
  cases p with
  | plain s => exact Iff.rfl
  | line start s =>
    show Within isBreak (run (Zone.step isBreak) .code start.toList).1 s.toList ↔ _
    rw [show (run (Zone.step isBreak) .code start.toList).1 = .line from h]
    exact within_line
  | block indent s =>
    show Within isBreak (run (Zone.step isBreak) .code (indent ++ "/** ").toList).1 s.toList ↔ _
    rw [run_indent h]
    exact within_iff_unmarked (.inl rfl)

/-- **A text that does not end its comment leaves nothing.** -/
theorem run_written (hbreaks : Breaks isBreak) (h : p.Sound isBreak) (hfits : p.Fits isBreak) :
    run (Zone.step isBreak) .code p.written.toList = (.code, p.code isBreak) := by
  cases p with
  | plain s => exact Prod.ext h rfl
  | line start s =>
    have hline : (run (Zone.step isBreak) .code start.toList).1 = .line := h
    have hfeed : run (Zone.step isBreak) .line "\n".toList = (.code, ['\n']) := by
      show run (Zone.step isBreak) .line ['\n'] = _
      simp [run, Zone.step, hbreaks.feed]
    rw [written, String.toList_append, String.toList_append, run_append, run_append, hline, run_unbroken hfits, hfeed,
      List.append_nil]
    rfl
  | block indent s =>
    have hinside : Unmarked .block s.toList := hfits
    obtain ⟨zone, hzone, hrun⟩ : ∃ zone, (zone = .block ∨ zone = .star) ∧
        run (Zone.step isBreak) .block s.toList = (zone, []) := run_unmarked hinside
    have hclose : run (Zone.step isBreak) zone " */\n".toList = (.code, [' ', '\n']) := by
      obtain rfl | rfl := hzone <;> rfl
    rw [written, String.toList_append, String.toList_append, run_append, run_append, run_indent h, hrun, hclose,
      List.append_nil]
    rfl

end Piece

variable {ps : List Piece}

/-- The reader leaves no comment along the text in it, in one piece after the other. -/
def Contained (isBreak : Char → Bool) : Zone → List Piece → Prop
  | _, [] => True
  | zone, p :: ps =>
    p.Held isBreak zone ∧ Contained isBreak (run (Zone.step isBreak) zone p.written.toList).1 ps

/-- **No comment is left** just if no text ends its comment. -/
theorem contained_iff (hbreaks : Breaks isBreak) (h : ∀ p ∈ ps, p.Sound isBreak) :
    Contained isBreak .code ps ↔ ∀ p ∈ ps, p.Fits isBreak := by
  induction ps with
  | nil => exact iff_of_true trivial (List.forall_mem_nil _)
  | cons p ps ih =>
    rw [List.forall_mem_cons] at h
    rw [Contained, List.forall_mem_cons, Piece.held_iff_fits h.1]
    -- behind a text that fits the next piece starts in code
    refine and_congr_right fun hfits => ?_
    rw [Piece.run_written hbreaks h.1 hfits]
    exact ih h.2

/-- **Texts that stay in their comments leave nothing in the code.** -/
theorem run_pieces (hbreaks : Breaks isBreak) (h : ∀ p ∈ ps, p.Sound isBreak) (hfits : ∀ p ∈ ps, p.Fits isBreak) :
    run (Zone.step isBreak) .code (ps.flatMap fun p => p.written.toList) =
      (.code, ps.flatMap (Piece.code isBreak)) := by
  induction ps with
  | nil => rfl
  | cons p ps ih =>
    rw [List.forall_mem_cons] at h hfits
    rw [List.flatMap_cons, run_append, Piece.run_written hbreaks h.1 hfits.1, ih h.2 hfits.2]
    rfl

theorem withoutComments_pieces (hbreaks : Breaks isBreak) (h : ∀ p ∈ ps, p.Sound isBreak)
    (hfits : ∀ p ∈ ps, p.Fits isBreak) :
    withoutComments isBreak (ps.flatMap fun p => p.written.toList) = ps.flatMap (Piece.code isBreak) := by
  unfold withoutComments
  rw [run_pieces hbreaks h hfits]
  exact List.append_nil _

/-- What the reader of tokens goes through, the reader of comments goes through. -/
theorem Goes.zone_eq {a b : Zone × Place} {ts : List Token} (h : Goes isBreak s a b ts) :
    (run (Zone.step isBreak) a.1 s.toList).1 = b.1 := by
  unfold Goes reader at h
  rw [run_after] at h
  exact congrArg (fun r => r.1.1) h

end Script

open Script

variable {isBreak : Char → Bool}

namespace Interface

/-! ## An interface in pieces -/

/-- What documents an interface or a property. -/
def docPieces (indent : String) (description : Option String) : List Piece :=
  (description.map fun d => Piece.block indent (Text.trim d)).toList

/-- A property without its comments. -/
def Property.bare (p : Property) : Property := { p with description := none, provenance := none }

/-- The pieces of a property. -/
def Property.pieces (p : Property) : List Piece :=
  docPieces "  " p.description ++
    (p.provenance.map fun o => Piece.line ("  // " ++ o.layer.name ++ ": ") o.source).toList ++ [.plain p.bare.text]

/-- The names of the traits as the header has them. -/
def traitText (i : Interface) : String := if i.traitNames.isEmpty then "(none)" else Text.joined ", " i.traitNames

/-- The pieces of the header. -/
def headerPieces (i : Interface) : List Piece :=
  [.plain "// Generated by traitsmith. Do not edit.\n", .line "// Object: " i.objectName,
    .line "// Traits: " i.traitText, .plain "\n"]

/-- The pieces of an interface. -/
def pieces (i : Interface) : List Piece :=
  i.headerPieces ++ docPieces "" i.description ++ [.plain ("export interface " ++ i.name ++ " \x7b\n")] ++
    i.properties.flatMap Property.pieces ++ [.plain "\x7d\n"] ++
    i.unions.map fun u => .plain ("\nexport type " ++ u.1 ++ " = " ++ u.2.text ++ ";\n")

theorem toList_docComment (indent : String) (description : Option String) :
    (docComment indent description).toList = (docPieces indent description).flatMap fun p => p.written.toList := by
  cases description <;> simp [docComment, docPieces, Piece.written]

theorem Property.toList_text (p : Property) : p.text.toList = p.pieces.flatMap fun p => p.written.toList := by
  -- without its comments a property is its last line
  have hbare : p.bare.text = "" ++ "" ++ "  " ++ propertyKey p.key ++ (if p.required then "" else "?") ++ ": " ++
      p.type.text ++ ";\n" := rfl
  unfold text pieces
  cases p.provenance <;> simp [hbare, toList_docComment, Piece.written]

/-- **An interface is written piece by piece.** -/
theorem toList_content (i : Interface) : i.content.toList = i.pieces.flatMap fun p => p.written.toList := by
  unfold content header pieces headerPieces traitText
  simp [Text.toList_joined, toList_docComment, Property.toList_text, Piece.written, List.flatMap_map, List.flatMap_assoc]

/-! ## Between comments is code -/

theorem sound_docPieces {indent : String} (h : (run (Zone.step isBreak) .code indent.toList).1 = .code)
    (description : Option String) : ∀ q ∈ docPieces indent description, q.Sound isBreak := by
  cases description with
  | none => exact nofun
  | some d => exact List.forall_mem_singleton.2 h

theorem Property.sound_pieces (hbreaks : Breaks isBreak) {p : Property} (htype : p.type.Sound) :
    ∀ q ∈ p.pieces, q.Sound isBreak := by
  have hindent : (run (Zone.step isBreak) .code "  ".toList).1 = .code := rfl
  have hbare : p.bare.Sound isBreak := ⟨htype, nofun, nofun⟩
  have hsource : ∀ q ∈ (p.provenance.map fun o => Piece.line ("  // " ++ o.layer.name ++ ": ") o.source).toList,
      q.Sound isBreak := by
    cases p.provenance with
    | none => exact nofun
    | some o => exact List.forall_mem_singleton.2 (goes_layer hbreaks o).zone_eq
  unfold pieces
  rw [List.forall_mem_append, List.forall_mem_append, List.forall_mem_singleton]
  exact ⟨⟨sound_docPieces hindent p.description, hsource⟩, (goes_text hbreaks hbare).zone_eq⟩

/-- The start of a line of the header. -/
theorem sound_line (hbreaks : Breaks isBreak) {s : String}
    (h : (s.toList.all fun c => decide (0x20 ≤ c.toNat) && decide (c.toNat < 0x7f)) = true) (text : String) :
    (Piece.line ("//" ++ s) text).Sound isBreak := by
  have hgoes : Goes isBreak ("//" ++ s) (.code, .between) (.line, .between) [] := goes_lineComment (hbreaks.unbroken h)
  exact hgoes.zone_eq

theorem sound_headerPieces (hbreaks : Breaks isBreak) (i : Interface) : ∀ q ∈ i.headerPieces, q.Sound isBreak := by
  have hnotice : (Piece.plain "// Generated by traitsmith. Do not edit.\n").Sound isBreak := by
    have hline : Goes isBreak ("//" ++ " Generated by traitsmith. Do not edit.") (.code, .between) (.line, .between)
      [] := goes_lineComment (hbreaks.unbroken (by decide))
    exact (hline.append (goes_feed hbreaks)).zone_eq
  have hobject : (Piece.line "// Object: " i.objectName).Sound isBreak :=
    sound_line hbreaks (s := " Object: ") (by decide) i.objectName
  have htraits : (Piece.line "// Traits: " i.traitText).Sound isBreak :=
    sound_line hbreaks (s := " Traits: ") (by decide) i.traitText
  have hfeed : (Piece.plain "\n").Sound isBreak := rfl
  unfold headerPieces
  rw [List.forall_mem_cons, List.forall_mem_cons, List.forall_mem_cons, List.forall_mem_singleton]
  exact ⟨hnotice, hobject, htraits, hfeed⟩

/-- **The reader comes to each text in its comment**, and from one comment to the next through code. -/
theorem sound_pieces (hbreaks : Breaks isBreak) {i : Interface} (h : i.SoundCode) : ∀ q ∈ i.pieces, q.Sound isBreak := by
  have hindent : (run (Zone.step isBreak) .code "".toList).1 = .code := rfl
  have hopen : (Piece.plain ("export interface " ++ i.name ++ " \x7b\n")).Sound isBreak := (goes_open h.name).zone_eq
  have hclose : (Piece.plain "\x7d\n").Sound isBreak := rfl
  have hunion : ∀ u ∈ i.unions, (Piece.plain ("\nexport type " ++ u.1 ++ " = " ++ u.2.text ++ ";\n")).Sound isBreak :=
    fun u hu => (goes_union (h.unions u hu).1 (h.unions u hu).2).zone_eq
  unfold pieces
  simp only [List.forall_mem_append, List.forall_mem_singleton, List.forall_mem_flatMap, List.forall_mem_map]
  exact ⟨⟨⟨⟨⟨sound_headerPieces hbreaks i, sound_docPieces hindent i.description⟩, hopen⟩,
    fun p hp => Property.sound_pieces hbreaks (h.types p hp)⟩, hclose⟩, hunion⟩

/-! ## Texts that fit -/

theorem fits_docPieces {indent : String} {description : Option String} :
    (∀ q ∈ docPieces indent description, q.Fits isBreak) ↔
      ∀ d, description = some d → ¬ ['*', '/'] <:+: d.toList := by
  have hvisible : ∀ c ∈ ['*', '/'], Text.isBlank c = false :=
    List.forall_mem_cons.2 ⟨rfl, List.forall_mem_singleton.2 rfl⟩
  cases description with
  | none => exact iff_of_true nofun nofun
  | some d =>
    have htrim : ['*', '/'] <:+: (Text.trim d).toList ↔ ['*', '/'] <:+: d.toList := by
      unfold Text.trim
      rw [String.toList_ofList]
      exact Text.infix_trimChars (List.cons_ne_nil _ _) hvisible
    have hblock : (∀ q ∈ docPieces indent (some d), q.Fits isBreak) ↔ ¬ ['*', '/'] <:+: (Text.trim d).toList :=
      List.forall_mem_singleton
    rw [hblock, htrim]
    simp

/-- The texts of a property that stand in comments do not end them. -/
structure Property.FitsComments (isBreak : Char → Bool) (p : Property) : Prop where
  description : ∀ d, p.description = some d → ¬ ['*', '/'] <:+: d.toList
  source : ∀ o, p.provenance = some o → Unbroken isBreak o.source

theorem Property.fits_pieces {p : Property} : (∀ q ∈ p.pieces, q.Fits isBreak) ↔ p.FitsComments isBreak := by
  have hsource : (∀ q ∈ (p.provenance.map fun o => Piece.line ("  // " ++ o.layer.name ++ ": ") o.source).toList,
      q.Fits isBreak) ↔ ∀ o, p.provenance = some o → Unbroken isBreak o.source := by
    cases p.provenance <;> simp [Piece.Fits]
  have hbare : (Piece.plain p.bare.text).Fits isBreak := trivial
  unfold pieces
  rw [List.forall_mem_append, List.forall_mem_append, List.forall_mem_singleton, fits_docPieces, hsource]
  exact ⟨fun h => ⟨h.1.1, h.1.2⟩, fun h => ⟨⟨h.description, h.source⟩, hbare⟩⟩

theorem unbroken_traitText (hbreaks : Breaks isBreak) {i : Interface} :
    Unbroken isBreak i.traitText ↔ ∀ s ∈ i.traitNames, Unbroken isBreak s := by
  unfold traitText
  cases hnames : i.traitNames with
  | nil => exact iff_of_true (hbreaks.unbroken (by decide)) (List.forall_mem_nil _)
  | cons s names => exact unbroken_joined hbreaks

/-- The texts of an interface that stand in comments do not end them. -/
structure FitsComments (isBreak : Char → Bool) (i : Interface) : Prop where
  objectName : Unbroken isBreak i.objectName
  traitNames : ∀ s ∈ i.traitNames, Unbroken isBreak s
  description : ∀ d, i.description = some d → ¬ ['*', '/'] <:+: d.toList
  properties : ∀ p ∈ i.properties, p.FitsComments isBreak

theorem fits_pieces (hbreaks : Breaks isBreak) {i : Interface} :
    (∀ q ∈ i.pieces, q.Fits isBreak) ↔ i.FitsComments isBreak := by
  have hheader : (∀ q ∈ i.headerPieces, q.Fits isBreak) ↔
      Unbroken isBreak i.objectName ∧ ∀ s ∈ i.traitNames, Unbroken isBreak s := by
    rw [← unbroken_traitText hbreaks]
    simp [headerPieces, Piece.Fits]
  unfold pieces
  simp only [List.forall_mem_append, List.forall_mem_singleton, List.forall_mem_flatMap, List.forall_mem_map, hheader,
    fits_docPieces, Property.fits_pieces]
  constructor
  · rintro ⟨⟨⟨⟨⟨⟨hobject, htraits⟩, hdescription⟩, -⟩, hproperties⟩, -⟩, -⟩
    exact ⟨hobject, htraits, hdescription, hproperties⟩
  · intro h
    exact ⟨⟨⟨⟨⟨⟨h.objectName, h.traitNames⟩, h.description⟩, trivial⟩, h.properties⟩, trivial⟩, fun _ _ => trivial⟩

/-! ## Without the texts -/

/-- A description without its text. -/
def blankText (description : Option String) : Option String := description.map fun _ => ""

/-- A property without the texts in its comments. -/
def Property.blank (p : Property) : Property :=
  { p with
    description := blankText p.description
    provenance := p.provenance.map fun o => { o with source := "" } }

/-- An interface without the names in its header. -/
def blankHeader (i : Interface) : Interface :=
  { i with objectName := "", traitNames := i.traitNames.map fun _ => "" }

/-- An interface without the texts in its comments. -/
def blank (i : Interface) : Interface :=
  { i.blankHeader with
    description := blankText i.description
    properties := i.properties.map Property.blank }

theorem SoundCode.blank {i : Interface} (h : i.SoundCode) : i.blank.SoundCode where
  name := h.name
  types q hq := by
    obtain ⟨p, hp, rfl⟩ := List.mem_map.1 hq
    exact h.types p hp
  unions := h.unions

theorem blankText_fits {description : Option String} :
    ∀ d, blankText description = some d → ¬ ['*', '/'] <:+: d.toList := by
  cases description with
  | none => exact nofun
  | some d =>
    rintro _ ⟨⟩
    simp

theorem fitsComments_blank (i : Interface) : i.blank.FitsComments isBreak where
  objectName := nofun
  traitNames s hs := by
    obtain ⟨_, -, rfl⟩ := List.mem_map.1 hs
    exact nofun
  description := blankText_fits
  properties q hq := by
    obtain ⟨p, -, rfl⟩ := List.mem_map.1 hq
    refine ⟨blankText_fits, fun o ho => ?_⟩
    obtain ⟨_, -, rfl⟩ := Option.map_eq_some_iff.1 ho
    exact nofun

/-- What is left of the pieces is the same without the texts. -/
theorem code_blank (i : Interface) :
    i.blank.pieces.flatMap (Piece.code isBreak) = i.pieces.flatMap (Piece.code isBreak) := by
  have hdoc (indent : String) (description : Option String) :
      (docPieces indent (blankText description)).flatMap (Piece.code isBreak) =
        (docPieces indent description).flatMap (Piece.code isBreak) := by
    cases description <;> simp [docPieces, blankText, Piece.code]
  have hproperty (p : Property) :
      p.blank.pieces.flatMap (Piece.code isBreak) = p.pieces.flatMap (Piece.code isBreak) := by
    unfold Property.pieces Property.blank
    cases p.provenance <;> simp [hdoc, Property.bare, Piece.code]
  have hheader : i.blank.headerPieces.flatMap (Piece.code isBreak) = i.headerPieces.flatMap (Piece.code isBreak) := by
    simp only [headerPieces, List.flatMap_cons, List.flatMap_nil, Piece.code]
  -- what is left of the header does not depend on its names, so it is rewritten before these are left out
  unfold pieces
  simp only [List.flatMap_append, List.flatMap_assoc, hheader]
  simp only [blank, blankHeader, List.flatMap_map, hdoc, hproperty]

/-- **Texts that do not end their comments are no part of the code.** -/
theorem withoutComments_blank (hbreaks : Breaks isBreak) {i : Interface} (h : i.SoundCode)
    (hfits : i.FitsComments isBreak) :
    withoutComments isBreak i.content.toList = withoutComments isBreak i.blank.content.toList := by
  have htexts := (fits_pieces hbreaks).2 hfits
  have hblank := (fits_pieces hbreaks).2 i.fitsComments_blank
  rw [toList_content, toList_content, withoutComments_pieces hbreaks (sound_pieces hbreaks h) htexts,
    withoutComments_pieces hbreaks (sound_pieces hbreaks h.blank) hblank, code_blank]

end Interface

namespace Composed

/-! ## Composed objects -/

/-- A composed object with its descriptions and the sources of its fields emptied. -/
def emptied (c : Composed) : Composed :=
  { c with
    description := Interface.blankText c.description
    schema := c.schema.mapValues fun f => { f with description := Interface.blankText f.description }
    provenance := c.provenance.mapValues fun o => { o with source := "" } }

theorem interface_emptied (c : Composed) : c.emptied.interface.blankHeader = c.interface.blank := by
  have hproperty (p : String × Field) :
      c.emptied.property p.1 { p.2 with description := Interface.blankText p.2.description } =
        (c.property p.1 p.2).blank := by
    unfold property Interface.Property.blank emptied
    rw [Table.get?_mapValues]
    rfl
  have hproperties : c.emptied.interface.properties = c.interface.properties.map Interface.Property.blank := by
    unfold interface emptied
    rw [Table.mapValues, List.map_map, List.map_map]
    exact List.map_congr_left fun p _ => hproperty p
  unfold Interface.blank
  rw [← hproperties]
  rfl

theorem fitsComments_interface {c : Composed} : c.interface.FitsComments isBreak ↔ c.FitsComments isBreak := by
  constructor
  · intro h
    exact {
      name := h.objectName
      traits := h.traitNames
      sources := fun p hp => (h.properties _ (List.mem_map_of_mem hp)).source
      description := h.description
      descriptions := fun p hp => (h.properties _ (List.mem_map_of_mem hp)).description }
  · intro h
    refine ⟨h.name, h.traits, h.description, fun q hq => ?_⟩
    obtain ⟨p, hp, rfl⟩ := List.mem_map.1 hq
    exact ⟨h.descriptions p hp, h.sources p hp⟩

/-- **What the texts of definitions do to the code.** The reader stands in a comment all along each text that is written
in one just if the names and sources have no breaks of lines and the descriptions no mark that ends a comment. Then the
code is that of the object with its descriptions and sources emptied and the names in the header left out. -/
theorem content_contained (hbreaks : Breaks isBreak) (c : Composed) :
    (Contained isBreak .code c.interface.pieces ↔ c.FitsComments isBreak) ∧
      (c.FitsComments isBreak → withoutComments isBreak c.interface.content.toList =
        withoutComments isBreak c.emptied.interface.blankHeader.content.toList) := by
  have hsound := Interface.sound_pieces hbreaks c.soundCode_interface
  have hfits : (∀ q ∈ c.interface.pieces, q.Fits isBreak) ↔ c.FitsComments isBreak :=
    (Interface.fits_pieces hbreaks).trans fitsComments_interface
  refine ⟨(contained_iff hbreaks hsound).trans hfits, fun h => ?_⟩
  rw [interface_emptied]
  exact Interface.withoutComments_blank hbreaks c.soundCode_interface (fitsComments_interface.2 h)

/-- A memo whose texts look like code and like the ends of other comments. -/
def memo : Composed :=
  { empty "Memo" with
    description := some "export type X = 'x'; // no code\nin two lines"
    schema := [("id", { Field.ofKind "uuid" with description := some "* /" })]
    traitOrder := ["audited", "*/ let y"]
    provenance := [("id", ⟨.trait, "*/ let y"⟩)] }

/-- The texts of a memo stay in their comments. -/
theorem content_contained_memo : Breaks isLineBreak ∧ memo.FitsComments isLineBreak ∧
    Contained isLineBreak .code memo.interface.pieces ∧
    withoutComments isLineBreak memo.interface.content.toList =
      withoutComments isLineBreak memo.emptied.interface.blankHeader.content.toList := by
  have hsource : memo.provenance.get? "id" = some ⟨.trait, "*/ let y"⟩ := by decide
  have hfits : memo.FitsComments isLineBreak :=
    { name := by decide
      traits := by decide
      sources := by
        rw [memo, List.forall_mem_singleton]
        intro o ho
        obtain rfl := Option.some.inj (hsource.symm.trans ho)
        decide
      description := fun d hd => by
        obtain rfl := Option.some.inj hd
        decide +kernel
      descriptions := by
        rw [memo, List.forall_mem_singleton]
        intro d hd
        obtain rfl := Option.some.inj hd
        decide }
  obtain ⟨hcontained, hcode⟩ := content_contained breaks_isLineBreak memo
  exact ⟨breaks_isLineBreak, hfits, hcontained.2 hfits, hcode hfits⟩

/-- An object whose description has the mark that ends a comment. -/
def annotated : Composed := { empty "Doc" with description := some "a */ b" }

/-- What stands behind the mark in a description becomes code. -/
theorem content_not_contained : ¬ annotated.FitsComments isLineBreak ∧
    withoutComments isLineBreak annotated.interface.content.toList ≠
      withoutComments isLineBreak annotated.emptied.interface.blankHeader.content.toList := by
  have hmark : ¬ annotated.FitsComments isLineBreak := fun h => h.description "a */ b" rfl (by decide)
  refine ⟨hmark, ?_⟩
  rw [Interface.toList_content, Interface.toList_content]
  decide +kernel

end Composed

end TraitWeave
