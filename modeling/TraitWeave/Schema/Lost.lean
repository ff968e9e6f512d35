import TraitWeave.Uri.Resolve

/-!
# References that lead nowhere

* `Lost`, `Lost.message`: why a reference leads nowhere, and its wording.
* `Reach.resolve`, `Reach.ofName`: the URI that a reference means at some place, and that of a document.
-/

namespace TraitWeave.Schema

/-- Why a reference leads nowhere. -/
inductive Lost where
  | unknownDraft (name : String)
  | malformed (reference : String) (fault : Uri.Fault)
  | unresolved (reference base : String) (reason : Uri.Unresolved)
  | noPart (pointer : String)
  | badEncoding (pointer : String)
  | badIndex (pointer index : String)
  | noAnchor (name : String)
  | badAnchor (name : String)
  | noResource (uri reason : String)
  deriving DecidableEq, Repr

/-- The wording. -/
def Lost.message : Lost → String
  | unknownDraft name => "Unknown specification: " ++ name
  | malformed r f => "Invalid URI reference '" ++ r ++ "': " ++ f.message
  | unresolved r base reason =>
    "Failed to resolve '" ++ r ++ "' against '" ++ base ++ "': " ++ reason.message
  | noPart p => "Pointer '" ++ p ++ "' does not exist"
  | badEncoding p =>
    "Invalid percent encoding in pointer '" ++ p ++ "': the decoded bytes do not represent valid UTF-8"
  | badIndex p i => "Failed to parse array index '" ++ i ++ "' in pointer '" ++ p ++ "'"
  | noAnchor n => "Anchor '" ++ n ++ "' does not exist"
  | badAnchor n => "Anchor '" ++ n ++ "' is invalid"
  | noResource uri reason =>
    "Resource '" ++ uri ++ "' is not present in a registry and retrieving it failed: " ++ reason

namespace Reach

/-- The URI of a document that has no name. -/
def defaultBase : Uri :=
  ⟨some "json-schema".toList, some ⟨none, .name [], none⟩, ['/'], none, none⟩

/-- The URI that a reference means at some place, in normal form. A fragment that ends the URI of the place
means that URI. -/
def resolve (base : Uri) (reference : String) : Except Lost Uri :=
  if reference.toList.head? = some '#' ∧ Text.endsWith base.text reference then .ok base
  else
    match Uri.read .ascii reference with
    | .error f => .error (.malformed reference f)
    | .ok r =>
      match r.against base with
      | .error e => .error (.unresolved reference base.text e)
      | .ok u => .ok u.normalize

/-- The URI of a document of some name. -/
def ofName (name : String) : Except Lost Uri :=
  match Uri.read .ascii name with
  | .error f => .error (.malformed name f)
  | .ok r =>
    let r := r.normalize
    if r.scheme.isSome then .ok r
    else
      match r.against defaultBase with
      | .error e => .error (.unresolved name defaultBase.text e)
      | .ok u => .ok u

/-- Why a resource that is not at hand cannot be had from where its URI points to. -/
def whyAbsent (uri : Uri) : String :=
  let scheme := String.ofList (uri.scheme.getD [])
  if scheme = "http" ∨ scheme = "https" then
    let service := if scheme = "http" then "80".toList else "443".toList
    let path := if uri.path.isEmpty then ['/'] else uri.path
    let authority := uri.authority.map fun a => { a with service := a.service.filter (· != service) }
    let shown := { uri with path, authority }
    "error sending request for url (" ++ shown.text ++ ")"
  else if scheme = "file" then
    if uri.path == ['/'] then "Is a directory (os error 21)" else "No such file or directory (os error 2)"
  else "Unknown scheme " ++ scheme

end Reach

end TraitWeave.Schema
