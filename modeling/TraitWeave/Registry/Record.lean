import TraitWeave.Object.Basic
import TraitWeave.Registry.Snapshot

/-!
# Records of objects

A record is what the registry keeps of an object file: the definition, the names by which it can be found,
and the file with its stamp.

* `Record.of`: the record of a definition.
* `Record.key`: the name under which it is kept.
* `Record.traitKeys`, `Record.tagKeys`, `Record.domainKeys`: the keys by which it is found.
-/

namespace TraitWeave

/-- The record of an object file. -/
structure Record where
  name : String
  definition : Object
  traits : List String
  tags : List String
  domains : List String
  path : Path
  stamp : Stamp

namespace Record

/-- The domain of objects that declare none. -/
def defaultDomain : String := "core"

/-- The record of a definition. -/
def of (o : Object) (path : Path) (stamp : Stamp) : Record where
  name := Text.trim o.name
  definition := o
  traits := o.activeTraits.map Reference.name
  tags := o.tags
  domains := if o.domains.isEmpty then [defaultDomain] else o.domains
  path := path
  stamp := stamp

/-- The name under which the record is kept. -/
def key (r : Record) : String := Name.normalize r.name

/-- The keys of a reference: its name, the last segment of the name, and the nickname. -/
def referenceKeys (r : Reference) : List String :=
  [Name.normalize r.name, Name.normalize (Name.lastSegment r.name)] ++
    (r.nickname.map Name.normalize).toList

/-- The keys of the traits that the object refers to. -/
def traitKeys (r : Record) : List String := r.definition.activeTraits.flatMap referenceKeys

/-- The keys of the tags. -/
def tagKeys (r : Record) : List String := r.tags.map Name.normalize

/-- The keys of the domains. -/
def domainKeys (r : Record) : List String := r.domains.map Name.normalize

/-- A record as a value. -/
def encode (r : Record) : Json :=
  .obj [("name", .str r.name), ("definition", r.definition.encode), ("traits", Encode.texts r.traits),
    ("tags", Encode.texts r.tags), ("domains", Encode.texts r.domains),
    ("source", .obj [("path", .str r.path.text), ("mtime_ms", Encode.natural r.stamp.time),
      ("size", Encode.natural r.stamp.size)])]

end Record

end TraitWeave
