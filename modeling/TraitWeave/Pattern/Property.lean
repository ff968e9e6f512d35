import TraitWeave.Pattern.CharSet
import TraitWeave.Pattern.Property.Binary
import TraitWeave.Pattern.Property.Category
import TraitWeave.Pattern.Property.Script

/-!
# Sets of characters by their properties

The general category, the script and further properties of characters have names, in which the case of
letters, blanks, hyphens and low lines do not count.

* `Property.ofName?`: the set of a category, a script or a property.
* `Property.ofValue?`: the set of a value of the category or of the script.
* `Property.wordSet`, `Property.digitSet`, `Property.blankSet`: the sets of short names.
-/

namespace TraitWeave.Property

/-! ### Reading tables -/

/-- The number that hexadecimal digits with small letters write. -/
def hexNumber (cs : List Char) : Nat :=
  cs.foldl (fun n c => 16 * n + if c.isDigit then c.toNat - 48 else c.toNat - 87) 0

/-- Every other number from one to another. -/
def everyOther (a b : Nat) : List (Nat × Nat) :=
  (List.range ((b - a) / 2 + 1)).map fun i => (a + 2 * i, a + 2 * i)

/-- The ranges that an entry of a table writes. -/
def rangesOf (entry : List Char) : List (Nat × Nat) :=
  let low := entry.takeWhile (· ≠ '-')
  match entry.drop low.length with
  | _ :: rest =>
    let high := rest.takeWhile (· ≠ '/')
    if high.length = rest.length then [(hexNumber low, hexNumber high)]
    else everyOther (hexNumber low) (hexNumber high)
  | [] => if low.isEmpty then [] else [(hexNumber low, hexNumber low)]

/-- The set that the lines of a table write. -/
def setOf (lines : List String) : CharSet :=
  .ofRanges ((lines.flatMap fun line => line.splitOn " ").flatMap fun entry => rangesOf entry.toList)

/-! ### Looking up -/

/-- The characters of a name that count, with small letters. -/
def countingChars (cs : List Char) : List Char :=
  (cs.filter fun c => c.toNat < 128 && c != ' ' && c != '_' && c != '-').map Char.toLower

/-- A name without what does not count in it; neither does an `is` in front, but for one name. -/
def plainName (name : String) : String :=
  match name.toList with
  | a :: b :: rest =>
    if a.toLower = 'i' ∧ b.toLower = 's' then
      let counting := countingChars rest
      if counting = ['c'] then "isc" else String.ofList counting
    else String.ofList (countingChars (a :: b :: rest))
  | cs => String.ofList (countingChars cs)

/-- The characters of some categories. -/
def ofCategories (codes : List String) : CharSet :=
  .ofRanges (codes.flatMap fun code =>
    ((categoryRanges.filter fun p => p.1 == code).flatMap fun p => (setOf p.2).ranges))

/-- The set of a category, or of a group of them. -/
def category? (name : String) : Option CharSet :=
  if name == "any" then some .all
  else if name == "ascii" then some (.range 0 0x7f)
  else if name == "assigned" then some (ofCategories ["cn"]).complement
  else (categoryNames.find? fun p => p.1.contains name).map fun p => ofCategories p.2

/-- The set of a script. -/
def script? (name : String) : Option CharSet :=
  (scriptRanges.find? fun p => p.1.contains name).map fun p => setOf p.2

/-- The set of the characters that are used with a script. -/
def scriptUse? (name : String) : Option CharSet :=
  (scriptRanges.find? fun p => p.1.contains name).map fun p =>
    match scriptUses.find? fun q => p.1.head? == some q.1 with
    | some q => setOf q.2
    | none => setOf p.2

/-- The set of a property that characters have or have not. -/
def binary? (name : String) : Option CharSet :=
  (binaryRanges.find? fun p => p.1.contains name).map fun p => setOf p.2

/-- The set of a category, a script or a property. -/
def ofName? (name : String) : Option CharSet :=
  let n := plainName name
  (binary? n).or ((category? n).or (script? n))

/-- The set of a value of the category or of the script. -/
def ofValue? (property value : String) : Option CharSet :=
  let v := plainName value
  match plainName property with
  | "gc" | "generalcategory" => category? v
  | "sc" | "script" => script? v
  | "scx" | "scriptextensions" => scriptUse? v
  | _ => none

/-! ### Sets of short names -/

/-- The digits of any script. -/
def digitSet (_ : Unit) : CharSet := ofCategories ["nd"]

/-- The blanks. -/
def blankSet (_ : Unit) : CharSet := (binary? "whitespace").getD .empty

/-- The letters of any script. -/
def letterSet (_ : Unit) : CharSet := (binary? "alphabetic").getD .empty

/-- The characters of numbers of any script. -/
def numberSet (_ : Unit) : CharSet := ofCategories ["nd", "nl", "no"]

/-- The characters of words of any script. -/
def wordSet (_ : Unit) : CharSet :=
  (ofCategories ["mc", "me", "mn", "nd", "pc"]).union
    ((letterSet ()).union ((binary? "joincontrol").getD .empty))

end TraitWeave.Property
