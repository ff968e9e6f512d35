import TraitWeave.Field
import TraitWeave.Name

/-!
# Traits

A trait is a named and versioned bundle: fields of a schema, parameters, and sections that are passed on
as they are. It may depend on other traits and may refuse to stand beside some.

* `Trait` and its parts.
* `Trait.decode`, `Trait.encode`: traits as values.
* `Trait.qualifiedName`, `Trait.defaults`, `Trait.declaresConflictWith`.
-/

namespace TraitWeave

/-- The identity of a trait. -/
structure Trait.Info where
  name : String
  version : String
  scope : Option String
  category : Option String
  description : Option String
  tags : List String

/-- A declared parameter. -/
structure Parameter where
  name : String
  kind : String
  required : Bool
  default : Option Json
  description : Option String
  allowed : Option (List Json)
  deprecated : Bool
  rules : Rules

/-- A trait that another one depends on: by name alone, or in the long form. -/
inductive Dependency where
  | name (name : String)
  | detailed (name : String) (version : Option String)

/-- The states of a trait's objects. -/
structure StateMachine where
  states : List Json
  initial : String
  transitions : List Json

/-- Free-form metadata with the names of traits that may not stand beside this one. -/
structure Trait.Metadata where
  conflictsWith : List String
  extra : Table Json

/-- A trait. -/
structure Trait where
  info : Trait.Info
  parameters : List Parameter
  schema : Table Field
  semantics : Table Json
  viewExtensions : Table Json
  tokens : Table Json
  dependencies : List Dependency
  actions : List Json
  stateMachine : Option StateMachine
  metadata : Trait.Metadata

namespace Trait.Info

/-- The fields of the record. -/
def record : Decode.Record Trait.Info :=
  Decode.Record.start Trait.Info.mk
    |>.require "name" Decode.text
    |>.require "version" Decode.text
    |>.optional "namespace" Decode.text
    |>.optional "category" Decode.text
    |>.optional "description" Decode.text
    |>.defaulting "tags" (Decode.list Decode.text) []

/-- An identity from a value. -/
def decode : Decoder Trait.Info := record.decode "struct TraitInfo"

/-- An identity as a value. -/
def encode (i : Trait.Info) : Json :=
  Encode.record [
    Encode.always "name" (.str i.name),
    Encode.always "version" (.str i.version),
    Encode.some? "namespace" .str i.scope,
    Encode.some? "category" .str i.category,
    Encode.some? "description" .str i.description,
    Encode.nonEmpty "tags" Encode.texts i.tags]

end Trait.Info

namespace Parameter

/-- The literal values that the parameter may take. -/
def literals? (p : Parameter) : Option (List Json) := p.allowed.orElse fun _ => p.rules.allowed

/-- The fields of the record. -/
def record : Decode.Record Parameter :=
  Decode.Record.start Parameter.mk
    |>.require "name" Decode.text
    |>.defaulting "type" Decode.text "string"
    |>.defaulting "required" Decode.flag false
    |>.optional "default" Decode.value
    |>.optional "description" Decode.text
    |>.optional "enum" (Decode.list Decode.value)
    |>.defaulting "deprecated" Decode.flag false
    |>.defaulting "validation" Rules.decode Rules.empty

/-- A parameter from a value. -/
def decode : Decoder Parameter := record.decode "struct ParameterSpec"

/-- A parameter as a value. -/
def encode (p : Parameter) : Json :=
  Encode.record [
    Encode.always "name" (.str p.name),
    Encode.always "type" (.str p.kind),
    Encode.always "required" (.bool p.required),
    Encode.some? "default" id p.default,
    Encode.some? "description" .str p.description,
    Encode.some? "enum" .arr p.allowed,
    Encode.whenTrue "deprecated" p.deprecated,
    p.rules.encodeMember]

end Parameter

namespace Dependency

/-- The trait that is depended on. -/
def target : Dependency → String
  | name n => n
  | detailed n _ => n

/-- The long form. -/
def record : Decode.Record Dependency :=
  Decode.Record.start Dependency.detailed
    |>.requireEither "trait" "name" Decode.text
    |>.optional "version" Decode.text

/-- A dependency from a value. -/
def decode : Decoder Dependency :=
  Decode.firstOf "DependencySpec" [
    fun v => (Decode.text v).map Dependency.name,
    record.decodeNamed "struct variant"]

/-- A dependency as a value. -/
def encode : Dependency → Json
  | name n => .str n
  | detailed n version =>
    Encode.record [Encode.always "trait" (.str n), Encode.some? "version" .str version]

end Dependency

namespace StateMachine

/-- The fields of the record. -/
def record : Decode.Record StateMachine :=
  Decode.Record.start StateMachine.mk
    |>.require "states" (Decode.list Decode.value)
    |>.require "initial" Decode.text
    |>.defaulting "transitions" (Decode.list Decode.value) []

/-- A state machine from a value. -/
def decode : Decoder StateMachine := record.decode "struct StateMachine"

/-- A state machine as a value. -/
def encode (m : StateMachine) : Json :=
  Encode.record [
    Encode.always "states" (.arr m.states),
    Encode.always "initial" (.str m.initial),
    Encode.always "transitions" (.arr m.transitions)]

end StateMachine

namespace Trait.Metadata

/-- No metadata. -/
def empty : Trait.Metadata := ⟨[], []⟩

/-- The fields of the record, but for the free-form part. -/
def record : Decode.Record (Table Json → Trait.Metadata) :=
  Decode.Record.start Trait.Metadata.mk
    |>.defaulting "conflicts_with" (Decode.list Decode.text) []

/-- Metadata from a value. -/
def decode : Decoder Trait.Metadata :=
  record.decodeOpen "struct TraitMetadata" fun build extra => build extra

/-- Metadata as a value; the free-form part comes last. -/
def encode (m : Trait.Metadata) : Json :=
  .obj ((Encode.nonEmpty "conflicts_with" Encode.texts m.conflictsWith).toList ++ m.extra)

end Trait.Metadata

namespace Trait

/-- The fields of the record. -/
def record : Decode.Record Trait :=
  Decode.Record.start Trait.mk
    |>.require "trait" Info.decode
    |>.defaulting "parameters" (Decode.list Parameter.decode) []
    |>.require "schema" (Decode.table Field.decode)
    |>.defaulting "semantics" (Decode.table Decode.value) []
    |>.defaulting "view_extensions" (Decode.table Decode.value) []
    |>.defaulting "tokens" (Decode.table Decode.value) []
    |>.defaulting "dependencies" (Decode.list Dependency.decode) []
    |>.defaulting "actions" (Decode.list Decode.value) []
    |>.optional "state_machine" StateMachine.decode
    |>.defaulting "metadata" Metadata.decode Metadata.empty

/-- A trait from a value. -/
def decode : Decoder Trait := record.decode "struct TraitDefinition"

/-- A trait as a value. -/
def encode (t : Trait) : Json :=
  Encode.record [
    Encode.always "trait" t.info.encode,
    Encode.nonEmpty "parameters" (fun ps => .arr (ps.map Parameter.encode)) t.parameters,
    Encode.always "schema" (Field.encodeTable t.schema),
    Encode.nonEmpty "semantics" .obj t.semantics,
    Encode.nonEmpty "view_extensions" .obj t.viewExtensions,
    Encode.nonEmpty "tokens" .obj t.tokens,
    Encode.nonEmpty "dependencies" (fun ds => .arr (ds.map Dependency.encode)) t.dependencies,
    Encode.nonEmpty "actions" .arr t.actions,
    Encode.some? "state_machine" StateMachine.encode t.stateMachine,
    Encode.always "metadata" t.metadata.encode]

/-- The name of the trait. -/
def name (t : Trait) : String := t.info.name

/-- The version of the trait. -/
def version (t : Trait) : String := t.info.version

/-- The name behind the namespace, where there is one. -/
def qualifiedName (t : Trait) : String :=
  match t.info.scope with
  | some ns => if ns.isEmpty then t.name else ns ++ "/" ++ t.name
  | none => t.name

/-- The first parameter of a name. -/
def parameter? (t : Trait) (name : String) : Option Parameter :=
  t.parameters.find? (·.name == name)

/-- The defaults of the parameters that have one, in declaration order. -/
def defaults (t : Trait) : Table Json :=
  Table.ofPairs (t.parameters.filterMap fun p => p.default.map (p.name, ·))

/-- The traits that this one depends on. -/
def dependencyNames (t : Trait) : List String := t.dependencies.map Dependency.target

/-- Whether the trait refuses to stand beside the one of this name; only the case of ASCII letters is
ignored. -/
def declaresConflictWith (t : Trait) (other : String) : Bool :=
  t.metadata.conflictsWith.any (Text.eqIgnoringAsciiCase · other)

end Trait

end TraitWeave
