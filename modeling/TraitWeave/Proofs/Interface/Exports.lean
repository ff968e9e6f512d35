import TraitWeave.Proofs.Interface.WellFormed

/-!
# Exported identifiers

The file of an interface exports the interface and a type for each parameter to which two traits or more give literal
values. The type never has the identifier of the interface; two types have one identifier just if the names of their
parameters have the same letters and digits of ASCII, but for capitals at the starts of words.

* `Interface.letters`: what an identifier keeps of a name.
* `Interface.typeName_eq_iff`: names with one identifier.
* `Composed.exports_nodup_iff`: when the exported identifiers differ.
* `Composed.exports_clash`: parameters of different names, and one identifier.
-/

namespace TraitWeave

open Script

namespace Interface

variable {a b : String} {cs : List Char}

/-! ## What identifiers keep of names -/

/-- The letters and digits of ASCII in a name, the first of each word as a capital; at the start of a word none stands
right before. -/
def letters (start : Bool) : List Char → List Char
  | [] => []
  | c :: cs =>
    if c.isAlphanum then (if start then c.toUpper else c) :: letters false cs else letters true cs

theorem exists_pieces_letters (cs : List Char) :
    ∃ p ps, Text.pieces (fun c => !c.isAlphanum) cs = p :: ps ∧
      p ++ ps.flatMap capitalize = letters false cs ∧ capitalize p ++ ps.flatMap capitalize = letters true cs := by
  induction cs with
  | nil => exact ⟨[], [], rfl, rfl, rfl⟩
  | cons c cs ih =>
    obtain ⟨p, ps, hpieces, hinside, hstart⟩ := ih
    by_cases hc : c.isAlphanum = true
    · refine ⟨c :: p, ps, by simp [Text.pieces, hc, hpieces], ?_, ?_⟩
      · simp [letters, hc, ← hinside]
      · simp [letters, hc, ← hinside, capitalize]
    · have hempty : Text.pieces (fun c => !c.isAlphanum) (c :: cs) = [] :: p :: ps := by
        simp [Text.pieces, hc, hpieces]
      refine ⟨[], p :: ps, hempty, ?_, ?_⟩ <;> simp [letters, hc, ← hstart, capitalize]

theorem flatMap_capitalize (cs : List Char) :
    (Text.pieces (fun c => !c.isAlphanum) cs).flatMap capitalize = letters true cs := by
  obtain ⟨p, ps, hpieces, -, hstart⟩ := exists_pieces_letters cs
  rw [hpieces, List.flatMap_cons, hstart]

theorem isAlphanum_of_mem_letters {c : Char} (h : c ∈ letters true cs) : c.isAlphanum = true :=
  isAlphanum_capitalized (flatMap_capitalize cs ▸ h)

/-- **What an identifier keeps of a name** is read back from it: all but the underscore. -/
theorem filter_typeName (name : String) : (typeName name).toList.filter (· ≠ '_') = letters true name.toList := by
  have hself : (letters true name.toList).filter (· ≠ '_') = letters true name.toList := by
    refine List.filter_eq_self.2 fun c hc => decide_eq_true ?_
    rintro rfl
    exact absurd (isAlphanum_of_mem_letters hc) (by decide)
  unfold typeName
  dsimp only
  split
  · rename_i hnil
    rw [← flatMap_capitalize, hnil]
    rfl
  · rw [String.toList_ofList, flatMap_capitalize]
    split
    · rw [List.filter_cons_of_neg (by simp), hself]
    · exact hself

/-- **Names with one identifier** have the same letters and digits, but for capitals at the starts of words. -/
theorem typeName_eq_iff : typeName a = typeName b ↔ letters true a.toList = letters true b.toList := by
  refine ⟨fun h => by rw [← filter_typeName, ← filter_typeName, h], fun h => ?_⟩
  unfold typeName
  simp only [flatMap_capitalize, h]

theorem typeName_ne_empty (name : String) : typeName name ≠ "" := by
  obtain ⟨c, cs, hname, -⟩ := typeName_shape name
  intro h
  rw [h] at hname
  cases hname

/-- The identifiers that the file of an interface exports. -/
def exports (i : Interface) : List String := i.name :: i.unions.map Prod.fst

end Interface

namespace Composed

variable {isBreak : Char → Bool}

/-- The parameters to which two traits or more give literal values. -/
def sharedParameters (c : Composed) : List String :=
  (c.parameters.filter fun p => decide (2 ≤ (Contribution.given p.2).length)).map Prod.fst

theorem exports_eq (c : Composed) : c.interface.exports =
    Interface.typeName c.name :: c.sharedParameters.map fun p => Interface.typeName c.name ++ Interface.typeName p := by
  show _ :: (c.parameterUnions.map _).map _ = _
  rw [parameterUnions_eq, sharedParameters, List.map_map, List.map_map, List.map_map]
  rfl

theorem name_not_mem_unions (c : Composed) : c.interface.name ∉ c.interface.unions.map Prod.fst := by
  rw [(List.cons.inj (exports_eq c)).2, List.mem_map]
  rintro ⟨p, -, hp⟩
  have hlist : (Interface.typeName c.name).toList ++ (Interface.typeName p).toList =
      (Interface.typeName c.name).toList := by rw [← String.toList_append]; exact congrArg String.toList hp
  exact Interface.typeName_ne_empty p (String.toList_eq_nil_iff.1 (List.append_right_eq_self.1 hlist))

theorem nodup_exports (c : Composed) :
    c.interface.exports.Nodup ↔ (c.sharedParameters.map fun p => Interface.letters true p.toList).Nodup := by
  have hname : Interface.typeName c.name ∉ c.sharedParameters.map fun p =>
      Interface.typeName c.name ++ Interface.typeName p := by
    have hown := name_not_mem_unions c
    rwa [(List.cons.inj (exports_eq c)).2] at hown
  have hsame (p q : String) : Interface.typeName c.name ++ Interface.typeName p =
      Interface.typeName c.name ++ Interface.typeName q ↔
        Interface.letters true p.toList = Interface.letters true q.toList := by
    rw [← Interface.typeName_eq_iff, String.append_right_inj]
  rw [exports_eq, List.nodup_cons, and_iff_right hname]
  unfold List.Nodup
  rw [List.pairwise_map, List.pairwise_map]
  simp only [ne_eq, hsame]

/-- **When the exported identifiers differ**: the interface has one of its own in any case, and the types of parameters
have different ones just if the parameters have different letters. These are the identifiers that are read in the text. -/
theorem exports_nodup_iff (c : Composed) :
    c.interface.name ∉ c.interface.unions.map Prod.fst ∧
    (c.interface.exports.Nodup ↔ (c.sharedParameters.map fun p => Interface.letters true p.toList).Nodup) ∧
    ∀ isBreak, Breaks isBreak → c.FitsComments isBreak →
      ∃ file, File.read isBreak c.interface.content = some file ∧
        file.name :: file.types.map Prod.fst = c.interface.exports := by
  refine ⟨name_not_mem_unions c, nodup_exports c, fun isBreak hbreaks hfits => ?_⟩
  refine ⟨c.interface.file, Interface.read_content hbreaks (sound_interface hfits), ?_⟩
  simp [Interface.file, Interface.exports, Function.comp_def]

/-- An order with the states of two traits, and with a window that only one of them gives. -/
def parcel : Composed :=
  { empty "parcel" with
    parameters := [
      ("state", [⟨"audited", "enum", some [.str "open"], none⟩, ⟨"traced", "enum", some [.str "lost"], none⟩]),
      ("window", [⟨"traced", "number", some [.num (.int 5)], none⟩])]
    traitOrder := ["audited", "traced"] }

/-- The file of a parcel exports two identifiers. -/
theorem exports_nodup_iff_parcel : Breaks isLineBreak ∧ parcel.FitsComments isLineBreak ∧
    ∃ file, File.read isLineBreak parcel.interface.content = some file ∧
      file.name :: file.types.map Prod.fst = ["Parcel", "ParcelState"] ∧ parcel.interface.exports.Nodup := by
  have hfits : parcel.FitsComments isLineBreak :=
    { name := by decide
      traits := by decide
      sources := by simp [parcel, empty]
      description := nofun
      descriptions := by simp [parcel, empty] }
  obtain ⟨-, hnodup, hread⟩ := exports_nodup_iff parcel
  obtain ⟨file, hfile, hexports⟩ := hread isLineBreak breaks_isLineBreak hfits
  have hlist : parcel.interface.exports = ["Parcel", "ParcelState"] := by decide +kernel
  exact ⟨breaks_isLineBreak, hfits, file, hfile, hexports.trans hlist, hnodup.2 (by decide +kernel)⟩

/-- Two parameters whose names differ only in what stands between the words. -/
def codes : Composed :=
  { empty "Doc" with
    parameters := [
      ("status code", [⟨"A", "enum", some [.str "a"], none⟩, ⟨"B", "enum", some [.str "b"], none⟩]),
      ("status-code", [⟨"A", "enum", some [.str "c"], none⟩, ⟨"B", "enum", some [.str "d"], none⟩])] }

/-- **Parameters of different names may have one identifier**: it is exported twice. -/
theorem exports_clash :
    (¬∀ c : Composed, (c.parameters.map Prod.fst).Nodup → c.interface.exports.Nodup) ∧
      (codes.parameters.map Prod.fst).Nodup ∧
      codes.interface.exports = ["Doc", "DocStatusCode", "DocStatusCode"] := by
  have hnames : (codes.parameters.map Prod.fst).Nodup := by decide
  have hexports : codes.interface.exports = ["Doc", "DocStatusCode", "DocStatusCode"] := by decide +kernel
  refine ⟨fun h => ?_, hnames, hexports⟩
  have hnodup := h codes hnames
  rw [hexports] at hnodup
  exact absurd hnodup (by decide)

end Composed

end TraitWeave
