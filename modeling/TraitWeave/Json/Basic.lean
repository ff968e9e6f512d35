import TraitWeave.Json.Number
import TraitWeave.Table

/-!
# JSON values

Decoded documents, parameters and schemas are JSON values. The members of an object keep the order in
which they came, and their names are distinct.

* `Json.same`: equality of values; members are compared by name, so their order does not matter.
* `Json.kind`, `Json.described`: what a value is, in one word and with its article.
-/

namespace TraitWeave

/-- A JSON value. -/
inductive Json where
  | null
  | bool (value : Bool)
  | num (value : Number)
  | str (value : String)
  | arr (items : List Json)
  | obj (members : List (String × Json))
  deriving Repr

/-- What a value is. -/
inductive Json.Kind where
  | null
  | bool
  | num
  | str
  | arr
  | obj
  deriving DecidableEq, Repr

namespace Json

/-- What a value is. -/
def kind : Json → Kind
  | null => .null
  | bool _ => .bool
  | num _ => .num
  | str _ => .str
  | arr _ => .arr
  | obj _ => .obj

/-- A kind with its article, as messages name it. -/
def Kind.described : Kind → String
  | .null => "null"
  | .bool => "a boolean"
  | .num => "a number"
  | .str => "a string"
  | .arr => "an array"
  | .obj => "an object"

/-- The value's kind with its article. -/
def described (v : Json) : String := v.kind.described

/-- The text of a string. -/
def asStr? : Json → Option String
  | str s => some s
  | _ => none

/-- The truth value of a boolean. -/
def asBool? : Json → Option Bool
  | bool b => some b
  | _ => none

/-- The items of an array. -/
def asArr? : Json → Option (List Json)
  | arr items => some items
  | _ => none

/-- The members of an object. -/
def asObj? : Json → Option (Table Json)
  | obj members => some members
  | _ => none

/-- The integer of a number that is one. -/
def asInt? : Json → Option Int
  | num (.int n) => some n
  | _ => none

/-- The value of a member; values that are no objects have none. -/
def member? (v : Json) (key : String) : Option Json :=
  v.asObj?.bind (Table.get? · key)

/-- A member that is missing counts as null. -/
def memberOrNull (v : Json) (key : String) : Json :=
  (v.member? key).getD null

/-- Null or absent. -/
def isNull : Json → Bool
  | null => true
  | _ => false

/-- A value without parts: a string, a number or a boolean. -/
def isLiteral : Json → Bool
  | str _ => true
  | num _ => true
  | bool _ => true
  | _ => false

mutual

/-- Equality of values. Objects are equal when they have as many members and each member of the one is
equal to the member of that name in the other. -/
def same : Json → Json → Bool
  | null, null => true
  | bool a, bool b => a == b
  | num a, num b => a.same b
  | str a, str b => a == b
  | arr xs, arr ys => sameItems xs ys
  | obj ms, obj ns => ms.length == ns.length && sameMembers ms ns
  | _, _ => false

/-- Item by item. -/
def sameItems : List Json → List Json → Bool
  | [], [] => true
  | x :: xs, y :: ys => same x y && sameItems xs ys
  | _, _ => false

/-- Every member has an equal one of its name. -/
def sameMembers : List (String × Json) → List (String × Json) → Bool
  | [], _ => true
  | (k, v) :: rest, ns =>
    (match Table.get? ns k with
      | some w => same v w
      | none => false) && sameMembers rest ns

end

mutual

/-- How deep the parts of a value are nested; a value without parts has depth one. -/
def depth : Json → Nat
  | arr items => depthOfItems items + 1
  | obj members => depthOfMembers members + 1
  | _ => 1

/-- The greatest depth among items. -/
def depthOfItems : List Json → Nat
  | [] => 0
  | v :: vs => max (depth v) (depthOfItems vs)

/-- The greatest depth among members. -/
def depthOfMembers : List (String × Json) → Nat
  | [] => 0
  | (_, v) :: rest => max (depth v) (depthOfMembers rest)

end

mutual

/-- The number of parts of a value, itself counted. -/
def parts : Json → Nat
  | arr items => partsOfItems items + 1
  | obj members => partsOfMembers members + 1
  | _ => 1

/-- The number of parts of items. -/
def partsOfItems : List Json → Nat
  | [] => 0
  | v :: vs => parts v + partsOfItems vs

/-- The number of parts of members. -/
def partsOfMembers : List (String × Json) → Nat
  | [] => 0
  | (_, v) :: rest => parts v + partsOfMembers rest

end

/-- Whether a list holds a value equal to `v`. -/
def elem (v : Json) (vs : List Json) : Bool :=
  vs.any fun w => w.same v

end Json

end TraitWeave
