import TraitWeave.Text.Blank
import TraitWeave.Text.Lower

/-!
# Names

Traits, objects, tags and domains are found by name without regard to letter case and to the blanks
around and between words.

* `normalize`: the form under which a name is kept and looked up.
* `lastSegment`: what a name is without the directories before it.
-/

namespace TraitWeave.Name

/-- The words of a name, one space between them, in lower case. -/
def normalize (name : String) : String :=
  Text.lower (" ".intercalate (Text.words name))

/-- The text after the last slash. -/
def lastSegment (name : String) : String :=
  String.ofList ((Text.pieces (· == '/') name.toList).getLast?.getD [])

end TraitWeave.Name
