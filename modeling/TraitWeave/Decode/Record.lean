import TraitWeave.Decode.Basic

/-!
# Decoding records

A record decoder is built field by field, in the order in which the record declares them. It reads an
object, whose members may come in any order and may have other names beside; most records may also be
written as a list of their fields in order.

* `Record.require`, `Record.optional`, `Record.defaulting` and the `Either` forms of the first and last,
  which know a second name: add a field.
* `Record.ofMembers`: the members are decoded in their own order and the first failure counts; fields
  that are missing are found only after that.
* `Record.decode`, `Record.decodeNamed`: the decoders of a record, with and without the list form.
-/

namespace TraitWeave.Decode

/-- A field of a record: its name, other names for it, whether it must be there, and a test of its
value. -/
structure FieldRule where
  name : String
  aliases : List String
  required : Bool
  check : Json → Except Error Unit

/-- Whether a member's name means this field. -/
def FieldRule.answersTo (f : FieldRule) (key : String) : Bool :=
  f.name == key || f.aliases.contains key

/-- A record of the fields in `rules`, built from the value given for each, by position. -/
structure Record (α : Type) where
  rules : List FieldRule
  build : (Nat → Option Json) → Except Error α

namespace Record

variable {α β : Type}

/-- A record without fields. -/
def start (a : α) : Record α := ⟨[], fun _ => .ok a⟩

/-- Add a field. Where it is missing, `fallback` stands for it, or the record is refused. -/
def field (r : Record (β → α)) (name : String) (aliases : List String) (d : Decoder β)
    (fallback : Option β) : Record α where
  rules := r.rules ++ [⟨name, aliases, fallback.isNone, fun v => (d v).map fun _ => ()⟩]
  build slots :=
    match r.build slots with
    | .error e => .error e
    | .ok f =>
      match slots r.rules.length with
      | some v => (d v).map f
      | none =>
        match fallback with
        | some b => .ok (f b)
        | none => .error (.missingField name)

/-- A field that must be there. -/
def require (r : Record (β → α)) (name : String) (d : Decoder β) : Record α :=
  r.field name [] d none

/-- A field that must be there under one of two names. -/
def requireEither (r : Record (β → α)) (name other : String) (d : Decoder β) : Record α :=
  r.field name [other] d none

/-- A field that may be missing or null. -/
def optional (r : Record (Option β → α)) (name : String) (d : Decoder β) : Record α :=
  r.field name [] (option d) (some none)

/-- A field that may be missing, with a value for that case. -/
def defaulting (r : Record (β → α)) (name : String) (d : Decoder β) (fallback : β) : Record α :=
  r.field name [] d (some fallback)

/-- A field that may be missing, and may have either of two names. -/
def defaultingEither (r : Record (β → α)) (name other : String) (d : Decoder β) (fallback : β) :
    Record α :=
  r.field name [other] d (some fallback)

/-- The position of the field that a member's name means. -/
def position? (r : Record α) (key : String) : Option Nat :=
  r.rules.findIdx? (·.answersTo key)

/-- Sort members into their fields, in member order, and test each; `slots` and `others` hold what was
sorted so far. -/
def sortMembers (r : Record α) (slots : List (Nat × Json)) (others : Table Json) :
    Table Json → Except Error (List (Nat × Json) × Table Json)
  | [] => .ok (slots, others)
  | (k, v) :: rest =>
    match r.position? k with
    | none => r.sortMembers slots (others ++ [(k, v)]) rest
    | some i =>
      match r.rules[i]? with
      | none => r.sortMembers slots others rest
      | some rule =>
        if slots.any (·.1 == i) then .error (.duplicateField rule.name)
        else
          match rule.check v with
          | .error e => .error e
          | .ok _ => r.sortMembers (slots ++ [(i, v)]) others rest

/-- The value in a slot. -/
def slotOf (slots : List (Nat × Json)) (i : Nat) : Option Json :=
  (slots.find? (·.1 == i)).map Prod.snd

/-- The record that an object's members give, and the members that are none of its fields. -/
def ofMembers (r : Record α) (members : Table Json) : Except Error (α × Table Json) :=
  match r.sortMembers [] [] members with
  | .error e => .error e
  | .ok (slots, others) => (r.build (slotOf slots)).map (·, others)

/-- Test items against fields in order. The first field without an item that must be there ends it. -/
def checkItems (label : String) (total index : Nat) : List FieldRule → List Json → Except Error Unit
  | [], _ => .ok ()
  | rule :: rules, [] =>
    if rule.required then .error (.wrongLength index (label ++ " with " ++ toString total ++
      (if total = 1 then " element" else " elements")))
    else checkItems label total (index + 1) rules []
  | rule :: rules, v :: vs =>
    match rule.check v with
    | .error e => .error e
    | .ok _ => checkItems label total (index + 1) rules vs

/-- The record whose fields are listed in order. -/
def ofItems (r : Record α) (label : String) (items : List Json) : Except Error α :=
  match checkItems label r.rules.length 0 r.rules items with
  | .error e => .error e
  | .ok _ =>
    if r.rules.length < items.length then
      .error (.wrongLength items.length "fewer elements in array")
    else r.build (items[·]?)

/-- Decode a record from an object or from the list of its fields. -/
def decode (r : Record α) (label : String) : Decoder α
  | .obj members => (r.ofMembers members).map Prod.fst
  | .arr items => r.ofItems label items
  | v => refuse label v

/-- Decode a record from an object only. -/
def decodeNamed (r : Record α) (label : String) : Decoder α
  | .obj members => (r.ofMembers members).map Prod.fst
  | v => refuse label v

/-- Decode a record from an object only; the members that are none of its fields go to `extend`. -/
def decodeOpen (r : Record β) (label : String) (extend : β → Table Json → α) : Decoder α
  | .obj members => (r.ofMembers members).map fun (b, others) => extend b others
  | v => refuse label v

end Record

end TraitWeave.Decode
