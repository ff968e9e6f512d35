import TraitWeave.Pattern.Plan
import TraitWeave.Pattern.Reader

/-!
# Patterns

A pattern describes texts. A text matches where some part of it does.

* `Pattern.read`: the pattern that a text writes, if it writes one.
* `Pattern.occursIn?`: whether some part of a text matches, where that can be found out.
-/

namespace TraitWeave

/-- A pattern, by the way in which it is matched. -/
inductive Pattern where
  /-- A simple one. -/
  | simple (s : Pattern.Simple)
  /-- One that needs second thoughts. -/
  | planned (plan : Pattern.Plan)

namespace Pattern

/-- The pattern of a term; `referred` are the groups to which something in it refers. -/
def ofTerm? (t : Term) (referred : List Nat) : Option Pattern :=
  if t.isHard referred then (t.plan? referred true).map .planned
  else if t.isSmall then some (.simple t.simple)
  else none

/-- The pattern that a text writes, if it writes one. -/
def read (text : String) : Option Pattern :=
  (accepted? text).bind fun (alphabet, cs) =>
    (Term.read? alphabet cs).bind fun (t, referred) => ofTerm? t referred

/-- Which of some characters belong to words. The set of these characters is large; most texts do without. -/
def wordsAmong (chars : List Char) : List Bool :=
  let isPlain := fun (c : Char) => c.isAlphanum || c == '_'
  if chars.all fun c => c.toNat < 128 then chars.map isPlain
  else
    let words := Property.wordSet ()
    chars.map fun c => if c.toNat < 128 then isPlain c else words.has c

/-- A text as something to be matched. -/
def Subject.ofString (text : String) : Subject :=
  ⟨text.toList.toArray, (wordsAmong text.toList).toArray⟩

/-- Whether some part of a text matches, where that can be found out. -/
def occursIn? (p : Pattern) (text : String) : Option Bool :=
  match p with
  | simple s => some (s.occursIn ⟨text.toList.toArray, #[]⟩)
  | planned plan => plan.occursIn? (.ofString text)

end Pattern

end TraitWeave
