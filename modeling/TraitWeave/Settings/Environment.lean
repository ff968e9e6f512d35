import TraitWeave.Path
import TraitWeave.Table
import TraitWeave.Text.Alphanumeric

/-!
# The environment

What the program is told from outside: variables, and where the home directory is.

* `Environment.home?`, `Environment.configHome?`, `Environment.dataHome?`: the usual directories.
* `Environment.expand`: a path with a tilde and variables in it, as a path without them.
-/

namespace TraitWeave

/-- What is known from outside. -/
structure Environment where
  values : Table String
  /-- The home directory of the account, for when no variable names one. -/
  account : Option String

namespace Environment

/-- The value of a variable. -/
def get? (env : Environment) (name : String) : Option String := env.values.get? name

/-- The home directory. -/
def home? (env : Environment) : Option Path :=
  match env.get? "HOME" with
  | some h => if h.isEmpty then env.account.map Path.mk else some ⟨h⟩
  | none => env.account.map Path.mk

/-- The directory that a variable names by an absolute path, or one below the home directory. -/
def directory? (env : Environment) (name below : String) : Option Path :=
  let usual := env.home?.map fun h => h.child below
  match env.get? name with
  | some p => if (Path.mk p).isAbsolute then some ⟨p⟩ else usual
  | none => usual

/-- The directory of configurations. -/
def configHome? (env : Environment) : Option Path := env.directory? "XDG_CONFIG_HOME" ".config"

/-- The directory of data. -/
def dataHome? (env : Environment) : Option Path := env.directory? "XDG_DATA_HOME" ".local/share"

/-- A character in the name of a variable: a letter or number, or the low line. -/
def isNameChar (c : Char) : Bool := Text.isAlphanumeric c || c = '_'

/-- The inside of braces: a name, and after a colon and a hyphen the value it has otherwise. -/
def splitDefault (cs : List Char) : List Char × Option (List Char) :=
  match Text.cutAtPair ':' '-' cs with
  | name :: d :: more =>
    if name.isEmpty then (cs, none) else (name, some ([':', '-'].intercalate (d :: more)))
  | _ => (cs, none)

/-- The value of a variable, or another value; without either there is none. -/
def valueOr (env : Environment) (name : List Char) (other : Option (List Char)) : Option (List Char) :=
  match env.get? (String.ofList name) with
  | some v => some v.toList
  | none => other

/-- The text with the values of its variables; none if one of them has no value. Two dollars stand for
one. -/
def expandVariables (env : Environment) : Nat → List Char → Option (List Char)
  | _, [] => some []
  | 0, cs => some cs
  | fuel + 1, c :: cs =>
    if c ≠ '$' then (expandVariables env fuel cs).map (c :: ·)
    else
      match cs with
      | '$' :: rest => (expandVariables env fuel rest).map ('$' :: ·)
      | '\x7b' :: rest =>
        if rest.contains '\x7d' then
          let inside := rest.takeWhile (· ≠ '\x7d')
          let (name, other) := splitDefault inside
          match env.valueOr name other, expandVariables env fuel (rest.drop (inside.length + 1)) with
          | some v, some more => some (v ++ more)
          | _, _ => none
        else (expandVariables env fuel rest).map (['$', '\x7b'] ++ ·)
      | rest =>
        let name := rest.takeWhile isNameChar
        if name.isEmpty then (expandVariables env fuel rest).map ('$' :: ·)
        else
          match env.valueOr name none, expandVariables env fuel (rest.drop name.length) with
          | some v, some more => some (v ++ more)
          | _, _ => none

/-- The home directory for a tilde that stands alone or before a slash. -/
def expandTilde (env : Environment) (cs : List Char) : List Char :=
  match cs with
  | '~' :: rest =>
    if rest.isEmpty || rest.head? = some '/' then
      match env.home? with
      | some h => h.text.toList ++ rest
      | none => cs
    else cs
  | _ => cs

/-- A path without its tilde and variables. It stays as it is if a variable has no value; a tilde that
comes from a variable stays too. -/
def expand (env : Environment) (p : Path) : Path :=
  let cs := p.text.toList
  match env.expandVariables cs.length cs with
  | none => p
  | some es =>
    if cs.head? ≠ some '~' && es.head? = some '~' then ⟨String.ofList es⟩
    else ⟨String.ofList (env.expandTilde es)⟩

end Environment

end TraitWeave
