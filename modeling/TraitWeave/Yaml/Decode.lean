import TraitWeave.Decode.Basic
import TraitWeave.Yaml.Value

/-!
# Decoding documents

A document can be decoded without making a value of it first. Then what a scalar means depends on what is
wanted: where a text is wanted, `1` and `null` are texts. What is refused is told with its place.

* `NodeDecoder`: from a node to a typed thing.
* Decoders for texts, truth values, numbers, options, lists and enumerations.
* `NodeDecoder.record`: decoders for mappings with known keys; other keys are passed over.
* `Yaml.decode`: the typed thing that a text holds.
-/

namespace TraitWeave.Yaml

/-- From a node, and where it stands, to a typed thing. The number counts the links followed so far. -/
abbrev NodeDecoder (α : Type) := Document → Trail → Nat → Node → Except Error (α × Nat)

mutual

/-- The node and all below it are there. -/
def Node.isWhole : Node → Bool
  | .sequence _ _ items => areWhole items
  | .mapping _ _ parts => areWhole parts
  | .broken => false
  | _ => true

/-- The nodes and all below them are there. -/
def Node.areWhole : List Node → Bool
  | [] => true
  | n :: ns => n.isWhole && Node.areWhole ns

end

/-- The node that is meant: a link leads to its node, and a broken place ends decoding. -/
def Document.meant (d : Document) (links : Nat) : Node → Except Error (Node × Nat)
  | .broken => .error d.endError
  | .link _ number => d.follow number links
  | n => .ok (n, links)

namespace NodeDecoder

variable {α σ : Type}

/-- Refuse a node for its type. -/
def wrongType (t : Trail) (expected : String) : Node → Except Error α
  | .scalar m tag text style =>
    match scalarMeaning tag text style with
    | .error message => refuse t m message
    | .ok p => refuse t m ("invalid type: " ++ p.found ++ ", expected " ++ expected)
  | .sequence m _ _ => refuse t m ("invalid type: sequence, expected " ++ expected)
  | .mapping m _ _ => refuse t m ("invalid type: map, expected " ++ expected)
  | _ => .error .endOfStream

/-- A scalar, whatever it means. -/
def text (expected : String) : NodeDecoder String := fun d t links n =>
  match d.meant links n with
  | .error e => .error e
  | .ok (.scalar _ _ s _, links) => .ok (s, links)
  | .ok (n, _) => wrongType t expected n

/-- A scalar that may mean something other than a text: a plain one, or a block tagged as such. -/
def mayMean (kind : String) (tag : Option Tag) (style : Style) : Bool :=
  style = .plain || (style = .literal && tag == some (coreTag kind))

/-- A scalar that `read` understands. -/
def scalar (kind expected : String) (read : String → Option α) : NodeDecoder α := fun d t links n =>
  match d.meant links n with
  | .error e => .error e
  | .ok (.scalar m tag s style, links) =>
    match if mayMean kind tag style then read s else none with
    | some a => .ok (a, links)
    | none => wrongType t expected (.scalar m tag s style)
  | .ok (n, _) => wrongType t expected n

/-- A truth value. -/
def flag : NodeDecoder Bool := scalar "bool" "a boolean" bool?

/-- A natural number of 64 bits; a sign in front is a plus. -/
def natural64? (s : String) : Option Nat :=
  if s.toList.head? = some '-' then none
  else (integer? s).bind fun n => if n < UInt64.size then some n.toNat else none

/-- A natural number of 64 bits. -/
def natural : NodeDecoder Nat := scalar "int" "u64" natural64?

/-- Null, or nothing at all, for nothing, anything else decoded. A scalar tagged as null must be null. -/
def option (dec : NodeDecoder α) : NodeDecoder (Option α) := fun d t links n =>
  match d.meant links n with
  | .error e => .error e
  | .ok (.absent _, links) => .ok (none, links)
  | .ok (.scalar m tag s style, links) =>
    let isNullTagged := tag == some (coreTag "null")
    if style = .plain ∧ isNullTagged ∧ !isNullWord s then
      .error (.misfit ("invalid value: string " ++ Text.quoted s ++ ", expected null"))
    else if style = .plain ∧ (isNullTagged ∨ (tag.isNone ∧ (s.isEmpty ∨ isNullWord s))) then
      .ok (none, links)
    else (dec d t links (.scalar m tag s style)).map fun (a, links) => (some a, links)
  | .ok (n, links) => (dec d t links n).map fun (a, links) => (some a, links)

/-- A node without contents, which stands for an empty collection. -/
def isEmptyPlain : Node → Bool
  | .absent _ => true
  | .scalar _ _ s style => s.isEmpty && style = .plain
  | _ => false

/-- Items, numbered from `index`. -/
def items (dec : NodeDecoder α) (d : Document) (t : Trail) :
    Nat → Nat → List Node → Except Error (List α × Nat)
  | links, _, [] => .ok ([], links)
  | links, index, n :: rest =>
    match n.isWhole, dec d (.item t index) links n with
    | false, .ok _ => .error d.endError
    | _, .error e => .error e
    | true, .ok (a, links) =>
      (items dec d t links (index + 1) rest).map fun (as, links) => (a :: as, links)

/-- A list. -/
def list (dec : NodeDecoder α) : NodeDecoder (List α) := fun d t links n =>
  match d.meant links n with
  | .error e => .error e
  | .ok (.sequence _ _ ns, links) => items dec d t links 0 ns
  | .ok (n, links) => if isEmptyPlain n then .ok ([], links) else wrongType t "a sequence" n

/-- The tag that is the node's own, without its mark. -/
def ownTag? : Node → Option String
  | .scalar _ (some t) _ _ | .sequence _ (some t) _ | .mapping _ (some t) _ => t.ownName?
  | _ => none

/-- Nothing but null under the tag that names a variant. -/
def unit (t : Trail) : Node → Except Error Unit
  | .scalar m _ s style =>
    if style = .plain && (s.isEmpty || isNullWord s) then .ok ()
    else refuse t m ("invalid value: string " ++ Text.quoted s ++ ", expected null")
  | n => wrongType t "unit" n

/-- The place of a node. -/
def markOf : Node → Mark
  | .scalar m _ _ _ | .sequence m _ _ | .mapping m _ _ | .link m _ | .absent m => m
  | .broken => .start

/-- An enumeration: a scalar with one of the names, or a tag with one of them and nothing under it. -/
def variant (cases : List (String × α)) : NodeDecoder α := fun d t links n =>
  let named := fun (m : Mark) (name : String) =>
    match Decode.variantNamed cases name with
    | .ok a => Except.ok a
    | .error e => refuse t m e.message
  match d.meant links n with
  | .error e => .error e
  | .ok (n, links) =>
    match ownTag? n, n with
    | some name, n =>
      match named (markOf n) name with
      | .error e => .error e
      | .ok a => (unit t n).map fun _ => (a, links)
    | none, .scalar m _ s _ => (named m s).map fun a => (a, links)
    | none, n => wrongType t "a YAML tag starting with '!'" n

/-- A key of a record, and what becomes of the record with the value under it. -/
structure Field (σ : Type) where
  name : String
  read : σ → NodeDecoder σ

/-- A field of a record. -/
def field (name : String) (dec : NodeDecoder α) (set : σ → α → σ) : Field σ where
  name := name
  read s := fun d t links n => (dec d t links n).map fun (a, links) => (set s a, links)

/-- The members of the mapping at `m`: known keys set their fields, once each. -/
def members (fields : List (Field σ)) (d : Document) (t : Trail) (m : Mark) :
    List String → σ → Nat → List Node → Except Error (σ × Nat)
  | _, s, links, [] => .ok (s, links)
  | seen, s, links, key :: rest =>
    match d.keyText "field identifier" t links key 2 with
    | .error e => .error e
    | .ok (name, links) =>
      match rest with
      | [] => .error d.endError
      | n :: rest =>
        match fields.find? fun f => f.name == name with
        | none => if n.isWhole then members fields d t m seen s links rest else .error d.endError
        | some f =>
          if seen.contains name then
            refuse t m (Decode.Error.duplicateField name).message
          else
            match f.read s d (t.under key) links n with
            | .error e => .error (e.placed t m)
            | .ok (s, links) =>
              if n.isWhole then members fields d t m (name :: seen) s links rest
              else .error d.endError

/-- A mapping whose known keys set fields of a record, which starts with the values they have otherwise. -/
def record (expected : String) (fields : List (Field σ)) (start : σ) : NodeDecoder σ := fun d t links n =>
  match d.meant links n with
  | .error e => .error e
  | .ok (.mapping m _ parts, links) => members fields d t m [] start links parts
  | .ok (n, links) => if isEmptyPlain n then .ok (start, links) else wrongType t expected n

end NodeDecoder

/-- The typed thing that a text holds. -/
def decode {α : Type} (dec : NodeDecoder α) (text : String) : Except Error α :=
  parseWith (fun d => dec d .root 0 d.root) text

end TraitWeave.Yaml
