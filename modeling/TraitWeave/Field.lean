import TraitWeave.Decode.Record
import TraitWeave.Encode

/-!
# Field declarations

A field of a schema is declared by its type, a default, the literal values it may take and rules for its
values; a declaration may have further attributes, which are kept as they are. Parameters follow the same
rules.

* `Rules`, `Field`: rules and declarations.
* `Field.literals?`: the literal values, from the declaration itself or else from its rules.
* `Field.decode`, `Field.encode`: declarations as values.
-/

namespace TraitWeave

/-- Rules for the values of a field or parameter. -/
structure Rules where
  /-- The literal values that are allowed. -/
  allowed : Option (List Json)
  /-- The parameter whose value lists the literal values that are allowed. -/
  enumFrom : Option String
  minimum : Option Double
  maximum : Option Double
  minLength : Option Nat
  maxLength : Option Nat
  pattern : Option String

namespace Rules

/-- No rules. -/
def empty : Rules := ⟨none, none, none, none, none, none, none⟩

/-- There is no rule. -/
def isEmpty (r : Rules) : Bool :=
  r.allowed.isNone && r.enumFrom.isNone && r.minimum.isNone && r.maximum.isNone &&
    r.minLength.isNone && r.maxLength.isNone && r.pattern.isNone

/-- The fields of the record. -/
def record : Decode.Record Rules :=
  Decode.Record.start Rules.mk
    |>.optional "enum" (Decode.list Decode.value)
    |>.optional "enum_from" Decode.text
    |>.optional "minimum" Decode.real
    |>.optional "maximum" Decode.real
    |>.optional "min_length" Decode.natural
    |>.optional "max_length" Decode.natural
    |>.optional "pattern" Decode.text

/-- Rules from a value. -/
def decode : Decoder Rules := record.decode "struct ValidationRules"

/-- Rules as a value. -/
def encode (r : Rules) : Json :=
  Encode.record [
    Encode.some? "enum" .arr r.allowed,
    Encode.some? "enum_from" .str r.enumFrom,
    Encode.some? "minimum" Encode.real r.minimum,
    Encode.some? "maximum" Encode.real r.maximum,
    Encode.some? "min_length" Encode.natural r.minLength,
    Encode.some? "max_length" Encode.natural r.maxLength,
    Encode.some? "pattern" .str r.pattern]

/-- The member for rules, left out where there are none. -/
def encodeMember (r : Rules) : Option (String × Json) :=
  if r.isEmpty then none else some ("validation", r.encode)

end Rules

/-- The declaration of a field. -/
structure Field where
  kind : Option String
  required : Option Bool
  default : Option Json
  description : Option String
  /-- The type of the elements of an array: a type name or a declaration. -/
  items : Option Json
  allowed : Option (List Json)
  rules : Rules
  /-- Further attributes, in their order. -/
  extra : Table Json

namespace Field

/-- A declaration that says nothing. -/
def empty : Field := ⟨none, none, none, none, none, none, Rules.empty, []⟩

/-- The declaration that is only a type name. -/
def ofKind (kind : String) : Field := { empty with kind := some kind }

/-- The field must have a value. -/
def isRequired (f : Field) : Bool := f.required.getD false

/-- The literal values that the field may take. -/
def literals? (f : Field) : Option (List Json) := f.allowed.orElse fun _ => f.rules.allowed

/-- The fields of the record, but for the further attributes. -/
def record : Decode.Record (Table Json → Field) :=
  Decode.Record.start Field.mk
    |>.optional "type" Decode.text
    |>.optional "required" Decode.flag
    |>.optional "default" Decode.value
    |>.optional "description" Decode.text
    |>.optional "items" Decode.value
    |>.optional "enum" (Decode.list Decode.value)
    |>.defaulting "validation" Rules.decode Rules.empty

/-- A declaration from a value. -/
def decode : Decoder Field :=
  record.decodeOpen "struct FieldSpec" fun build extra => build extra

/-- A declaration as a value; the further attributes come last. -/
def encode (f : Field) : Json :=
  .obj ([
    Encode.some? "type" .str f.kind,
    Encode.some? "required" .bool f.required,
    Encode.some? "default" id f.default,
    Encode.some? "description" .str f.description,
    Encode.some? "items" id f.items,
    Encode.some? "enum" .arr f.allowed,
    f.rules.encodeMember].filterMap id ++ f.extra)

/-- The fields of a schema as a value. -/
def encodeTable (t : Table Field) : Json := .obj (t.mapValues encode)

end Field

end TraitWeave
