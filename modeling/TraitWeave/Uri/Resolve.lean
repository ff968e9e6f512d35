import TraitWeave.Uri.Reader

/-!
# Resolving references

A reference is completed by the parts of the URI of the place where it stands, and URIs are compared in
their normal form.

* `Uri.normalize`: the normal form.
* `Uri.against`: a reference resolved against a base.
-/

namespace TraitWeave.Uri

/-! ### Normal form -/

/-- The hexadecimal digit of a value below sixteen, with capital letters. -/
def capitalHex (n : Nat) : Char := Char.ofNat (if n < 10 then n + 48 else n + 55)

/-- A part in normal form: escapes of characters that never need one are decoded, others get capital
digits, and small letters are written where case does not count. -/
def normalPart (fold : Char → Char) : List Char → List Char
  | [] => []
  | '%' :: a :: b :: cs =>
    let x := (hexByte? a b).getD 0
    let c := Char.ofNat x
    (if x < 128 && isUnreserved c then [fold c] else ['%', capitalHex (x / 16), capitalHex (x % 16)]) ++
      normalPart fold cs
  | c :: cs => fold c :: normalPart fold cs

/-- The steps of a path without the dots: one dot stays, two go up. -/
def withoutDots (done : List (List Char)) : List (List Char) → List (List Char)
  | [] => done.reverse
  | [p] =>
    if p = ['.'] then ([] :: done).reverse
    else if p = ['.', '.'] then ([] :: done.tail).reverse
    else (p :: done).reverse
  | p :: ps =>
    if p = ['.'] then withoutDots done ps
    else if p = ['.', '.'] then withoutDots done.tail ps
    else withoutDots (p :: done) ps

/-- A path from the root without the dots. -/
def cleanPath (path : List Char) : List Char :=
  match path with
  | '/' :: rest => '/' :: ['/'].intercalate (withoutDots [] (Text.pieces (· == '/') rest))
  | path => path

/-- A host in normal form. -/
def Host.normalize : Host → Host
  | address groups => .address groups
  | later t => .later (t.map Char.toLower)
  | name t => .name (normalPart Char.toLower t)

/-- An authority in normal form; a service without digits is left out. -/
def Authority.normalize (a : Authority) : Authority :=
  ⟨a.user.map (normalPart id), a.host.normalize, a.service.filter (!·.isEmpty)⟩

/-- Where no authority stands, a path must not look as if it had one. -/
def guarded (authority : Option Authority) (path : List Char) : List Char :=
  match authority, path with
  | none, '/' :: '/' :: _ => '/' :: '.' :: path
  | _, path => path

/-- The normal form. -/
def normalize (u : Uri) : Uri :=
  let path := normalPart id u.path
  let authority := u.authority.map Authority.normalize
  let path := if u.scheme.isSome then guarded authority (cleanPath path) else path
  ⟨u.scheme.map (·.map Char.toLower), authority, path, u.query.map (normalPart id),
    u.fragment.map (normalPart id)⟩

/-! ### Resolution -/

/-- Why a reference cannot be resolved against a base. -/
inductive Unresolved where
  | baseWithFragment
  | opaqueBase
  deriving DecidableEq, Repr

/-- The wording. -/
def Unresolved.message : Unresolved → String
  | baseWithFragment => "base URI/IRI with fragment"
  | opaqueBase =>
    "relative reference must be empty or start with '#' when resolved against authority-less base URI/IRI " ++
      "with rootless path"

/-- A path that stands beside that of the base. -/
def mergePath (base : Uri) (path : List Char) : List Char :=
  if base.authority.isSome && base.path.isEmpty then '/' :: path
  else (base.path.reverse.dropWhile (· ≠ '/')).reverse ++ path

/-- A reference says nothing but perhaps a fragment. -/
def isLocal (r : Uri) : Bool :=
  r.scheme.isNone && r.authority.isNone && r.path.isEmpty && r.query.isNone

/-- A reference resolved against a base. -/
def against (r base : Uri) : Except Unresolved Uri :=
  if base.fragment.isSome then .error .baseWithFragment
  else if base.authority.isNone && base.path.head? != some '/' && r.scheme.isNone && !r.isLocal then
    .error .opaqueBase
  else
    let (scheme, authority, path, query) :=
      if r.scheme.isSome then (r.scheme, r.authority, cleanPath r.path, r.query)
      else if r.authority.isSome then (base.scheme, r.authority, cleanPath r.path, r.query)
      else if r.path.isEmpty then
        (base.scheme, base.authority, base.path, r.query.or base.query)
      else if r.path.head? = some '/' then (base.scheme, base.authority, cleanPath r.path, r.query)
      else (base.scheme, base.authority, cleanPath (mergePath base r.path), r.query)
    .ok ⟨scheme, authority, guarded authority path, query, r.fragment⟩

end TraitWeave.Uri
