import TraitWeave.Registry.Record

/-!
# The index of records

Records are kept by name. Beside them stand three inverted indexes, which lead from the key of a trait, a
tag or a domain to the names of the records that have it.

* `Inverted`: an inverted index, with `Inverted.link`, `Inverted.unlink` and `Inverted.lookup`.
* `Index.insert`, `Index.remove`: keep the records and the inverted indexes together.
* `Index.findByTrait`, `Index.filterByTags`, `Index.filterByDomains`, `Index.query`: what is asked for.
-/

namespace TraitWeave

/-- Sets of names, as lists in rising order. -/
abbrev NameSet := List String

namespace NameSet

/-- Add a name. -/
def insert (s : NameSet) (name : String) : NameSet :=
  match s with
  | [] => [name]
  | n :: rest =>
    if name < n then name :: n :: rest
    else if name = n then n :: rest
    else n :: insert rest name

/-- The names of two sets. -/
def union (s t : NameSet) : NameSet := t.foldl insert s

/-- The names that are in both sets. -/
def inter (s t : NameSet) : NameSet := s.filter fun n => t.contains n

end NameSet

/-- Whether one of several values is enough or all are needed. -/
inductive MatchMode where
  | any
  | all
  deriving DecidableEq, Repr

namespace MatchMode

/-- The names of the modes. -/
def cases : List (String × MatchMode) := [("any", any), ("all", all)]

/-- A mode from a value. -/
def decode : Decoder MatchMode := Decode.variant cases

end MatchMode

/-- An inverted index: from keys to the names of the records that have them. -/
abbrev Inverted := Table NameSet

namespace Inverted

/-- The record `name` has the key. -/
def link (name : String) (t : Inverted) (key : String) : Inverted :=
  t.put key (NameSet.insert ((t.get? key).getD []) name)

/-- The record `name` no longer has the key; a key that no record has is dropped. -/
def unlink (name : String) (t : Inverted) (key : String) : Inverted :=
  match t.get? key with
  | none => t
  | some names =>
    match names.filter (· != name) with
    | [] => t.erase key
    | rest => t.put key rest

/-- The records that have a key. -/
def names (t : Inverted) (value : String) : NameSet := (t.get? (Name.normalize value)).getD []

/-- The records that have some or all of the values; no value finds nothing. -/
def lookup (t : Inverted) (values : List String) (mode : MatchMode) : NameSet :=
  match mode, values.map t.names with
  | _, [] => []
  | .any, sets => sets.foldl NameSet.union []
  | .all, first :: sets => sets.foldl NameSet.inter first

end Inverted

/-- What records are asked for; empty lists ask for nothing. -/
structure Query where
  traits : List String
  tags : List String
  domains : List String
  traitMatch : MatchMode
  tagMatch : MatchMode

namespace Query

/-- The fields of the record. -/
def record : Decode.Record Query :=
  Decode.Record.start Query.mk
    |>.defaulting "traits" (Decode.list Decode.text) []
    |>.defaulting "tags" (Decode.list Decode.text) []
    |>.defaulting "domains" (Decode.list Decode.text) []
    |>.defaulting "trait_match" MatchMode.decode .any
    |>.defaulting "tag_match" MatchMode.decode .any

/-- A query from a value. -/
def decode : Decoder Query := record.decode "struct Query"

end Query

/-- Records by name, in rising order, with the inverted indexes. -/
structure Index where
  records : Table Record
  byTrait : Inverted
  byTag : Inverted
  byDomain : Inverted

namespace Index

/-- An index without records. -/
def empty : Index := ⟨[], [], [], []⟩

/-- The record of a name. -/
def get? (ix : Index) (name : String) : Option Record := ix.records.get? (Name.normalize name)

/-- Whether there is a record of a name. -/
def has (ix : Index) (name : String) : Bool := ix.records.has (Name.normalize name)

/-- The number of records. -/
def size (ix : Index) : Nat := ix.records.length

/-- All records, in the order of their names. -/
def list (ix : Index) : List Record := ix.records.map Prod.snd

/-- Without the record of a name, and that record. -/
def remove (ix : Index) (name : String) : Index × Option Record :=
  let key := Name.normalize name
  match ix.records.get? key with
  | none => (ix, none)
  | some r =>
    ({ records := ix.records.erase key
       byTrait := r.traitKeys.foldl (Inverted.unlink key) ix.byTrait
       byTag := r.tagKeys.foldl (Inverted.unlink key) ix.byTag
       byDomain := r.domainKeys.foldl (Inverted.unlink key) ix.byDomain }, some r)

/-- With a record, and the one of its name that it replaces. -/
def insert (ix : Index) (r : Record) : Index × Option Record :=
  let (rest, previous) := ix.remove r.key
  ({ records := rest.records.place r.key r
     byTrait := r.traitKeys.foldl (Inverted.link r.key) rest.byTrait
     byTag := r.tagKeys.foldl (Inverted.link r.key) rest.byTag
     byDomain := r.domainKeys.foldl (Inverted.link r.key) rest.byDomain }, previous)

/-- The records of names, in the order of the names. -/
def collect (ix : Index) (names : NameSet) : List Record := names.filterMap ix.records.get?

/-- The records that refer to some or all of the traits. -/
def findByTrait (ix : Index) (values : List String) (mode : MatchMode) : List Record :=
  ix.collect (ix.byTrait.lookup values mode)

/-- The records that have some or all of the tags. -/
def filterByTags (ix : Index) (values : List String) (mode : MatchMode) : List Record :=
  ix.collect (ix.byTag.lookup values mode)

/-- The records in some of the domains. -/
def filterByDomains (ix : Index) (values : List String) : List Record :=
  ix.collect (ix.byDomain.lookup values .any)

/-- Keep the names that a filter finds; a filter without values keeps all. -/
def narrow (names : NameSet) (t : Inverted) (values : List String) (mode : MatchMode) : NameSet :=
  if values.isEmpty then names else NameSet.inter names (t.lookup values mode)

/-- The records that all parts of a query find. -/
def query (ix : Index) (q : Query) : List Record :=
  let named := narrow ix.records.keys ix.byTrait q.traits q.traitMatch
  let tagged := narrow named ix.byTag q.tags q.tagMatch
  ix.collect (narrow tagged ix.byDomain q.domains .any)

end Index

end TraitWeave
