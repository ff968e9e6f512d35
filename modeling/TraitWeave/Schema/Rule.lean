import TraitWeave.Schema.Check
import TraitWeave.Schema.Library

/-!
# Rules

A schema is made ready for use by turning its keywords into rules. Rules apply further schemas, which have
been made ready too; only where references lead back to a schema that is being made ready, that is put off.

* `Context`: what must be known to make a schema ready.
* `Node`, `Rule`: schemas that are ready, and their rules.
* `Cover`: which parts of a value a schema looks at.
-/

namespace TraitWeave.Schema

/-- What must be known to make a schema ready: where it stands, and which keywords mean something. -/
structure Context where
  scope : Scope
  draft : Draft
  vocabularies : List Draft.Vocabulary
  /-- The steps that lead to the schema. -/
  path : List String

namespace Context

/-- One step further. -/
def under (c : Context) (step : String) : Context := { c with path := c.path ++ [step] }

/-- Whether a keyword means something. -/
def knows (c : Context) (keyword : String) : Bool := c.draft.knows c.vocabularies keyword

end Context

mutual

/-- A schema that is ready for use. -/
inductive Node where
  | rules (rules : List Rule)
  /-- A schema that is made ready when it is asked. -/
  | later (context : Context) (schema : Json)

/-- What one keyword says. The path leads to the keyword. -/
inductive Rule where
  | check (path : List String) (check : Check)
  /-- Another schema. -/
  | apply (node : Node)
  | allOf (nodes : List Node)
  | anyOf (path : List String) (nodes : List Node)
  | oneOf (path : List String) (nodes : List Node)
  | not (path : List String) (schema : Json) (node : Node)
  /-- One schema or another, as a condition says. -/
  | branch (condition : Node) (yes no : Option Node)
  /-- Members by name, in the order of the schemas. -/
  | named (members : List (String × Node))
  /-- Members by pattern, in the order of the schemas. -/
  | matching (members : List (Pattern × Node))
  /-- All members in their order: by name, by pattern, or as further ones. Without a schema for further ones
  there may be none. -/
  | members (path : List String) (named : List (String × Node)) (matching : List (Pattern × Node))
    (further : Option Node)
  /-- The names of members. -/
  | names (node : Node)
  /-- Names that are needed with a member. -/
  | needed (path : List String) (key : String) (names : List String)
  /-- A schema for the whole where a member is there. -/
  | dependent (key : String) (node : Node)
  /-- Items by position. -/
  | tuple (nodes : List Node)
  /-- Items from a position on. -/
  | items (start : Nat) (node : Node)
  /-- Some items, within bounds; the paths are those of the lower and the upper bound. -/
  | contains (path lowPath highPath : List String) (node : Node) (least most : Option Nat)
  | unevaluatedMembers (path : List String) (cover : Cover) (node : Node)
  | unevaluatedItems (path : List String) (cover : Cover) (node : Node)

/-- Which parts of a value a schema looks at: all that one of some ways leads to. -/
inductive Cover where
  | ways (ways : List Way)

/-- A way by which a schema looks at parts of a value. -/
inductive Way where
  /-- The members of some names that are allowed. -/
  | named (members : List (String × Node))
  /-- The members of matching names that are allowed. -/
  | matching (members : List (Pattern × Node))
  /-- All parts that are allowed. -/
  | allowed (node : Node)
  /-- The first items. -/
  | first (count : Nat)
  /-- All items. -/
  | all
  /-- What another schema looks at. -/
  | through (cover : Cover)
  /-- What another schema looks at where a member is there. -/
  | dependent (key : String) (cover : Cover)
  /-- What the condition and one branch look at, or the other branch. -/
  | branch (condition : Node) (own : Cover) (yes no : Option Cover)
  /-- What all of some schemas look at, if they all allow the value. -/
  | ifAll (options : List (Node × Cover))
  /-- What those of some schemas look at that allow the value. -/
  | ifAny (options : List (Node × Cover))
  /-- What some schemas look at, if exactly one of them allows the value. -/
  | ifOne (options : List (Node × Cover))

end

namespace Node

/-- Everything is allowed. -/
def allow : Node := rules []

/-- Nothing is allowed. -/
def deny (path : List String) : Node := rules [.check path .nothing]

end Node

end TraitWeave.Schema
