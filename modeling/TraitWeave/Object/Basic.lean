import TraitWeave.Field
import TraitWeave.Name

/-!
# Objects

An object is composed of the traits it refers to. It may extend another object, declare fields of its own
and say for each key how declarations that meet are resolved.

* `Reference`, `Resolution`, `Resolutions`, `Object`.
* `Object.decode`, `Object.encode`: objects as values.
* `Object.base?`, `Object.tags`, `Object.domains`, `Object.activeTraits`.
-/

namespace TraitWeave

/-- A reference from an object to a trait. -/
structure Reference where
  name : String
  scope : Option String
  version : Option String
  /-- The name under which the object uses the trait. -/
  nickname : Option String
  parameters : Table Json
  disabled : Bool
  optional : Bool

/-- How declarations that meet on a key are resolved. -/
inductive Strategy where
  /-- The declaration of the earliest trait stands. -/
  | useTrait
  /-- The declaration of the object stands. -/
  | useObject
  /-- The declarations are merged. -/
  | merge
  deriving DecidableEq, Repr

/-- What is said about one key: a strategy, a value that is applied last, both or neither. -/
structure Resolution where
  strategy : Option Strategy
  override : Option Json

/-- How deep composite values are merged. -/
inductive Depth where
  /-- The later value's keys replace the earlier ones. -/
  | shallow
  /-- Objects inside objects are merged again. -/
  | deep
  deriving DecidableEq, Repr

/-- What is said about the keys of each section. -/
structure Resolutions where
  fields : Table Resolution
  semantics : Table Resolution
  tokens : Table Resolution
  views : Table Resolution
  depth : Depth

/-- The identity of an object. -/
structure Object.Info where
  name : String
  base : Option String
  description : Option String
  version : Option String
  tags : List String
  domains : List String

/-- An object. -/
structure Object where
  info : Object.Info
  traits : List Reference
  schema : Table Field
  semantics : Table Json
  tokens : Table Json
  views : Table Json
  actions : List Json
  resolutions : Resolutions
  metadata : Table Json

namespace Reference

/-- A reference by name alone. -/
def named (name : String) : Reference := ⟨name, none, none, none, [], false, false⟩

/-- The nickname where one is given, or the name. -/
def effectiveName (r : Reference) : String :=
  match r.nickname with
  | some a => if a.isEmpty then r.name else a
  | none => r.name

/-- The long form. -/
def record : Decode.Record Reference :=
  Decode.Record.start Reference.mk
    |>.requireEither "name" "trait" Decode.text
    |>.optional "namespace" Decode.text
    |>.optional "version" Decode.text
    |>.optional "alias" Decode.text
    |>.defaulting "parameters" (Decode.table Decode.value) []
    |>.defaulting "disabled" Decode.flag false
    |>.defaulting "optional" Decode.flag false

/-- A reference from a value. -/
def decode : Decoder Reference :=
  Decode.firstOf "RawReference" [
    fun v => (Decode.text v).map named,
    record.decodeNamed "struct variant"]

/-- A reference as a value, in the long form. -/
def encode (r : Reference) : Json :=
  Encode.record [
    Encode.always "name" (.str r.name),
    Encode.some? "namespace" .str r.scope,
    Encode.some? "version" .str r.version,
    Encode.some? "alias" .str r.nickname,
    Encode.nonEmpty "parameters" .obj r.parameters,
    Encode.whenTrue "disabled" r.disabled,
    Encode.whenTrue "optional" r.optional]

end Reference

namespace Strategy

/-- The names of the strategies. -/
def cases : List (String × Strategy) :=
  [("use_trait", useTrait), ("use_object", useObject), ("merge", merge)]

/-- A strategy from a value. -/
def decode : Decoder Strategy := Decode.variant cases

/-- The name of a strategy. -/
def name : Strategy → String
  | useTrait => "use_trait"
  | useObject => "use_object"
  | merge => "merge"

end Strategy

namespace Resolution

/-- The long form. -/
def record : Decode.Record Resolution :=
  Decode.Record.start Resolution.mk
    |>.optional "strategy" Strategy.decode
    |>.optional "override" Decode.value

/-- A resolution from a value: a bare strategy, or the long form. -/
def decode : Decoder Resolution :=
  Decode.firstOf "RawResolution" [
    fun v => (Strategy.decode v).map fun s => ⟨some s, none⟩,
    record.decodeNamed "struct variant"]

/-- A resolution as a value, in the long form. -/
def encode (r : Resolution) : Json :=
  Encode.record [
    Encode.some? "strategy" (fun s => .str s.name) r.strategy,
    Encode.some? "override" id r.override]

/-- The resolutions of a section as a value. -/
def encodeTable (t : Table Resolution) : Json := .obj (t.mapValues encode)

end Resolution

namespace Depth

/-- The names of the depths. -/
def cases : List (String × Depth) := [("shallow", shallow), ("deep", deep)]

/-- A depth from a value. -/
def decode : Decoder Depth := Decode.variant cases

/-- The name of a depth. -/
def name : Depth → String
  | shallow => "shallow"
  | deep => "deep"

end Depth

namespace Resolutions

/-- Nothing is said about any key. -/
def empty : Resolutions := ⟨[], [], [], [], .shallow⟩

/-- No key is spoken of. -/
def isEmpty (r : Resolutions) : Bool :=
  r.fields.isEmpty && r.semantics.isEmpty && r.tokens.isEmpty && r.views.isEmpty

/-- The fields of the record. -/
def record : Decode.Record Resolutions :=
  Decode.Record.start Resolutions.mk
    |>.defaulting "fields" (Decode.table Resolution.decode) []
    |>.defaulting "semantics" (Decode.table Resolution.decode) []
    |>.defaulting "tokens" (Decode.table Resolution.decode) []
    |>.defaulting "views" (Decode.table Resolution.decode) []
    |>.defaultingEither "merge_strategy" "mergeStrategy" Depth.decode .shallow

/-- Resolutions from a value. -/
def decode : Decoder Resolutions := record.decode "struct Resolutions"

/-- Resolutions as a value. -/
def encode (r : Resolutions) : Json :=
  Encode.record [
    Encode.nonEmpty "fields" Resolution.encodeTable r.fields,
    Encode.nonEmpty "semantics" Resolution.encodeTable r.semantics,
    Encode.nonEmpty "tokens" Resolution.encodeTable r.tokens,
    Encode.nonEmpty "views" Resolution.encodeTable r.views,
    Encode.always "merge_strategy" (.str r.depth.name)]

end Resolutions

namespace Object.Info

/-- The fields of the record. -/
def record : Decode.Record Object.Info :=
  Decode.Record.start Object.Info.mk
    |>.require "name" Decode.text
    |>.optional "extends" Decode.text
    |>.optional "description" Decode.text
    |>.optional "version" Decode.text
    |>.defaulting "tags" (Decode.list Decode.text) []
    |>.defaulting "domains" (Decode.list Decode.text) []

/-- An identity from a value. -/
def decode : Decoder Object.Info := record.decode "struct ObjectInfo"

/-- An identity as a value. -/
def encode (i : Object.Info) : Json :=
  Encode.record [
    Encode.always "name" (.str i.name),
    Encode.some? "extends" .str i.base,
    Encode.some? "description" .str i.description,
    Encode.some? "version" .str i.version,
    Encode.nonEmpty "tags" Encode.texts i.tags,
    Encode.nonEmpty "domains" Encode.texts i.domains]

end Object.Info

namespace Object

/-- The fields of the record. -/
def record : Decode.Record Object :=
  Decode.Record.start Object.mk
    |>.require "object" Info.decode
    |>.defaulting "traits" (Decode.list Reference.decode) []
    |>.defaulting "schema" (Decode.table Field.decode) []
    |>.defaulting "semantics" (Decode.table Decode.value) []
    |>.defaulting "tokens" (Decode.table Decode.value) []
    |>.defaulting "views" (Decode.table Decode.value) []
    |>.defaulting "actions" (Decode.list Decode.value) []
    |>.defaulting "resolutions" Resolutions.decode Resolutions.empty
    |>.defaulting "metadata" (Decode.table Decode.value) []

/-- An object from a value. -/
def decode : Decoder Object := record.decode "struct ObjectDefinition"

/-- An object as a value. -/
def encode (o : Object) : Json :=
  Encode.record [
    Encode.always "object" o.info.encode,
    Encode.nonEmpty "traits" (fun rs => .arr (rs.map Reference.encode)) o.traits,
    Encode.nonEmpty "schema" Field.encodeTable o.schema,
    Encode.nonEmpty "semantics" .obj o.semantics,
    Encode.nonEmpty "tokens" .obj o.tokens,
    Encode.nonEmpty "views" .obj o.views,
    Encode.nonEmpty "actions" .arr o.actions,
    Encode.always "resolutions" o.resolutions.encode,
    Encode.nonEmpty "metadata" .obj o.metadata]

/-- The name of the object. -/
def name (o : Object) : String := o.info.name

/-- The object that this one extends; a blank name is none. -/
def base? (o : Object) : Option String :=
  o.info.base.filter fun e => !Text.isAllBlank e

/-- Add a label unless it is blank or known; the case of ASCII letters is ignored and the first spelling
stays. -/
def addLabel (labels : List String) (label : String) : List String :=
  let label := Text.trim label
  if label.isEmpty || labels.any (Text.eqIgnoringAsciiCase · label) then labels
  else labels ++ [label]

/-- Labels from a list and from the texts in an array of the metadata. -/
def unionLabels (primary : List String) (extra : Option Json) : List String :=
  let more := ((extra.bind Json.asArr?).getD []).filterMap Json.asStr?
  (primary ++ more).foldl addLabel []

/-- The tags of the object and of its metadata. -/
def tags (o : Object) : List String := unionLabels o.info.tags (o.metadata.get? "tags")

/-- The domains of the object and of its metadata. -/
def domains (o : Object) : List String := unionLabels o.info.domains (o.metadata.get? "domains")

/-- The references that are loaded. -/
def activeTraits (o : Object) : List Reference := o.traits.filter fun r => !r.disabled

end Object

end TraitWeave
