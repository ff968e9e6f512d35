import TraitWeave.Json.Basic
import TraitWeave.Text.Quoted

/-!
# Decoding values

Documents are decoded from JSON values into typed definitions. A value of the wrong shape is refused
with a cause that names what was found and what was expected.

* `Decode.Error`: the causes, and `Decode.Error.message` their wording.
* `Decoder`: from a value to a typed thing or a cause.
* Decoders for texts, truth values, numbers, lists, tables, options and enumerations.
-/

namespace TraitWeave

namespace Decode

/-- What was found in place of what was expected. -/
inductive Found where
  | null
  | bool (value : Bool)
  | int (value : Int)
  | real (value : Double)
  | str (value : String)
  | seq
  | map
  deriving DecidableEq, Repr

/-- How a found thing is named. -/
def Found.text : Found → String
  | null => "null"
  | bool true => "boolean `true`"
  | bool false => "boolean `false`"
  | int n => "integer `" ++ toString n ++ "`"
  | real x => "floating point `" ++ x.text Number.style ++ "`"
  | str s => "string " ++ Text.quoted s
  | seq => "sequence"
  | map => "map"

/-- What a value is found to be. -/
def Found.ofJson : Json → Found
  | .null => null
  | .bool b => bool b
  | .num (.int n) => int n
  | .num (.real x) => real x
  | .str s => str s
  | .arr _ => seq
  | .obj _ => map

/-- Why a value cannot be decoded. -/
inductive Error where
  | wrongType (found : Found) (expected : String)
  | wrongValue (found : Found) (expected : String)
  | wrongLength (length : Nat) (expected : String)
  | unknownVariant (name : String) (known : List String)
  | missingField (name : String)
  | duplicateField (name : String)
  | noVariant (enum : String)
  deriving DecidableEq, Repr

/-- The known names of an enumeration, as a message lists them. -/
def listed (names : List String) : String :=
  let marked := names.map fun n => "`" ++ n ++ "`"
  match marked with
  | [a] => a
  | [a, b] => a ++ " or " ++ b
  | _ => "one of " ++ ", ".intercalate marked

/-- The wording of a cause. -/
def Error.message : Error → String
  | wrongType found expected => "invalid type: " ++ found.text ++ ", expected " ++ expected
  | wrongValue found expected => "invalid value: " ++ found.text ++ ", expected " ++ expected
  | wrongLength n expected => "invalid length " ++ toString n ++ ", expected " ++ expected
  | unknownVariant name known => "unknown variant `" ++ name ++ "`, expected " ++ listed known
  | missingField name => "missing field `" ++ name ++ "`"
  | duplicateField name => "duplicate field `" ++ name ++ "`"
  | noVariant enum => "data did not match any variant of untagged enum " ++ enum

end Decode

/-- From a value to a typed thing, or the cause why it is none. -/
abbrev Decoder (α : Type) := Json → Except Decode.Error α

namespace Decode

variable {α : Type}

/-- Refuse a value for its type. -/
def refuse (expected : String) (v : Json) : Except Error α :=
  .error (.wrongType (.ofJson v) expected)

/-- Any value, as it is. -/
def value : Decoder Json := .ok

/-- A text. -/
def text : Decoder String
  | .str s => .ok s
  | v => refuse "a string" v

/-- A truth value. -/
def flag : Decoder Bool
  | .bool b => .ok b
  | v => refuse "a boolean" v

/-- A number of either kind, as a double. -/
def real : Decoder Double
  | .num n => .ok n.toDouble
  | v => refuse "f64" v

/-- A natural number of 64 bits. -/
def natural : Decoder Nat
  | .num (.int n) =>
    if 0 ≤ n then .ok n.toNat else .error (.wrongValue (.int n) "u64")
  | v => refuse "u64" v

/-- Null for nothing, anything else decoded. -/
def option (d : Decoder α) : Decoder (Option α)
  | .null => .ok none
  | v => (d v).map some

/-- Decode the items one after the other; the first failure counts. -/
def each (d : Decoder α) : List Json → Except Error (List α)
  | [] => .ok []
  | v :: vs =>
    match d v with
    | .error e => .error e
    | .ok a => (each d vs).map (a :: ·)

/-- A list. -/
def list (d : Decoder α) : Decoder (List α)
  | .arr items => each d items
  | v => refuse "a sequence" v

/-- Decode the values of a table one after the other; the first failure counts. -/
def eachMember (d : Decoder α) : Table Json → Except Error (Table α)
  | [] => .ok []
  | (k, v) :: rest =>
    match d v with
    | .error e => .error e
    | .ok a => (eachMember d rest).map ((k, a) :: ·)

/-- A table. -/
def table (d : Decoder α) : Decoder (Table α)
  | .obj members => eachMember d members
  | v => refuse "a map" v

/-- One of several names, each standing for a value. -/
def variantNamed (cases : List (String × α)) (name : String) : Except Error α :=
  match Table.get? cases name with
  | some a => .ok a
  | none => .error (.unknownVariant name (cases.map Prod.fst))

/-- An enumeration: a name, or a table that has the name as its one key, with nothing under it. -/
def variant (cases : List (String × α)) : Decoder α
  | .str name => variantNamed cases name
  | .obj [(name, v)] =>
    match variantNamed cases name with
    | .error e => .error e
    | .ok a => match v with
      | .null => .ok a
      | v => refuse "unit" v
  | .obj _ => .error (.wrongValue .map "map with a single key")
  | v => refuse "string or map" v

/-- The first decoder that accepts; where none does, the name of the choice is the cause. -/
def firstOf (enum : String) (ds : List (Decoder α)) : Decoder α := fun v =>
  match ds.findSome? fun d => (d v).toOption with
  | some a => .ok a
  | none => .error (.noVariant enum)

end Decode

end TraitWeave
