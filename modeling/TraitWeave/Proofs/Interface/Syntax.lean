import TraitWeave.Interface.Basic
import TraitWeave.Proofs.Json.Literal

/-!
# The part of TypeScript in which interfaces are written

A text is read in three steps. Comments are dropped, what is left is cut into tokens, and the tokens are read by
the grammar of a file with one interface and some named types. The first two steps are machines that go through
the characters one by one.

* `Zone.step`: dropping comments; marks of comments between quotes are none.
* `Place.step`: cutting into tokens.
* `File`, `TypeSyntax`: what is read.
* `File.read`: the three steps together. What is not in the grammar is not read.
-/

namespace TraitWeave.Script

/-! ## Machines -/

/-- Go through a list with a machine that changes its state and puts something out at each step. -/
def run {σ α β : Type} (step : σ → α → σ × List β) : σ → List α → σ × List β
  | s, [] => (s, [])
  | s, a :: as => ((run step (step s a).1 as).1, (step s a).2 ++ (run step (step s a).1 as).2)

section Run

variable {σ τ α β γ : Type} {step : σ → α → σ × List β}

theorem run_append (s : σ) (as bs : List α) : run step s (as ++ bs) =
    ((run step (run step s as).1 bs).1, (run step s as).2 ++ (run step (run step s as).1 bs).2) := by
  induction as generalizing s with
  | nil => rfl
  | cons a as ih => simp only [List.cons_append, run, ih, List.append_assoc]

/-- Two machines, of which the second one goes through what the first one puts out. -/
def after (first : σ → α → σ × List β) (second : τ → β → τ × List γ) (s : σ × τ) (a : α) : (σ × τ) × List γ :=
  (((first s.1 a).1, (run second s.2 (first s.1 a).2).1), (run second s.2 (first s.1 a).2).2)

theorem run_after {second : τ → β → τ × List γ} (s : σ × τ) (as : List α) : run (after step second) s as =
    (((run step s.1 as).1, (run second s.2 (run step s.1 as).2).1), (run second s.2 (run step s.1 as).2).2) := by
  induction as generalizing s with
  | nil => rfl
  | cons a as ih => simp only [run, ih, after, run_append]

end Run

/-! ## Comments -/

/-- Where a reader stands that drops comments. -/
inductive Zone where
  | code
  /-- Behind a slash, which may start a comment. -/
  | slash
  /-- Between quotes. -/
  | text (quote : Char)
  /-- Between quotes, behind a backslash. -/
  | escape (quote : Char)
  /-- In a comment that ends with its line. -/
  | line
  /-- In a comment that ends with a mark. -/
  | block
  /-- There, behind an asterisk. -/
  | star

/-- The characters that stand at the start and at the end of a text. -/
def isQuote (c : Char) : Bool := c == '"' || c == '\x27' || c == '\x60'

/-- One step. A comment to the end of its line leaves the break, and one that ends with a mark leaves a blank. -/
def Zone.step (isBreak : Char → Bool) : Zone → Char → Zone × List Char
  | code, c => if c = '/' then (slash, []) else (if isQuote c then text c else code, [c])
  | slash, c =>
    if c = '/' then (line, [])
    else if c = '*' then (block, [])
    else (if isQuote c then text c else code, ['/', c])
  | text q, c => (if c = '\\' then escape q else if c = q then code else text q, [c])
  | escape q, c => (text q, [c])
  | line, c => if isBreak c then (code, [c]) else (line, [])
  | block, c => (if c = '*' then star else block, [])
  | star, c => if c = '/' then (code, [' ']) else (if c = '*' then star else block, [])

/-- What is left to put out at the end of the text. -/
def Zone.rest : Zone → List Char
  | slash => ['/']
  | _ => []

/-- A text without its comments. -/
def withoutComments (isBreak : Char → Bool) (cs : List Char) : List Char :=
  let (zone, code) := run (Zone.step isBreak) .code cs
  code ++ zone.rest

/-! ## Tokens -/

/-- A token. -/
inductive Token where
  /-- Letters, digits and what else may stand in identifiers and numbers. -/
  | word (text : String)
  /-- A text with its quotes and escapes. -/
  | text (text : String)
  | mark (c : Char)
  /-- What is no part of any token. -/
  | stray (c : Char)
  deriving DecidableEq

/-- Where a reader of tokens stands; what it has of a token comes last character first. -/
inductive Place where
  | between
  | word (seen : List Char)
  | text (seen : List Char)
  | escape (seen : List Char)

/-- The characters of words. -/
def inWord (c : Char) : Bool := Interface.inIdentifier c || c == '.' || c == '+' || c == '-'

/-- The characters between tokens. -/
def isBlank (c : Char) : Bool := c == ' ' || c == '\n' || c == '\t' || c == '\r'

/-- The characters that are tokens. -/
def isMark (c : Char) : Bool := ['\x7b', '\x7d', '?', ':', ';', '=', '|', '<', '>', ','].contains c

/-- The token that one character is, if it is one. -/
def single (c : Char) : List Token :=
  if isMark c then [.mark c] else if isBlank c || inWord c || c == '"' then [] else [.stray c]

/-- Where a reader stands behind the first character of a token, or behind one between tokens. -/
def Place.first (c : Char) : Place := if inWord c then word [c] else if c = '"' then text [c] else between

/-- One step. -/
def Place.step : Place → Char → Place × List Token
  | between, c => (first c, single c)
  | word seen, c =>
    if inWord c then (word (c :: seen), []) else (first c, .word (String.ofList seen.reverse) :: single c)
  | text seen, c =>
    if c = '"' then (between, [.text (String.ofList (c :: seen).reverse)])
    else (if c = '\\' then escape (c :: seen) else text (c :: seen), [])
  | escape seen, c => (text (c :: seen), [])

/-- What is left to put out at the end; a text without its end is none. -/
def Place.rest : Place → List Token
  | between => []
  | word seen => [.word (String.ofList seen.reverse)]
  | _ => [.stray '"']

/-- The tokens of a text without comments. -/
def tokens (cs : List Char) : List Token :=
  let (place, ts) := run Place.step .between cs
  ts ++ place.rest

/-! ## The grammar -/

/-- A type. -/
inductive TypeSyntax where
  | string
  | number
  | boolean
  | unknown
  | record
  | array (element : TypeSyntax)
  /-- A union of literals, as they are written. -/
  | union (literals : List String)
  deriving DecidableEq

/-- The types that are one word. -/
def namedTypes : List (String × TypeSyntax) :=
  [("string", .string), ("number", .number), ("boolean", .boolean), ("unknown", .unknown)]

/-- The string that a text between quotes stands for. -/
def stringOf? (text : String) : Option String :=
  match Json.parse text with
  | .ok (.str s) => some s
  | _ => none

/-- A literal: a text between quotes, a number, a truth value or null. -/
def literal? : Token → Option String
  | .text s => if (stringOf? s).isSome then some s else none
  | .word w => if ["true", "false", "null"].contains w || Json.isNumberText w.toList then some w else none
  | _ => none

/-- Literals with bars between them, and the tokens behind them. -/
def readLiterals : List Token → Option (List String × List Token)
  | t :: .mark '|' :: ts =>
    match literal? t, readLiterals ts with
    | some l, some (ls, rest) => some (l :: ls, rest)
    | _, _ => none
  | t :: ts => (literal? t).map fun l => ([l], ts)
  | [] => none

/-- A union of distinct literals. -/
def readUnion (ts : List Token) : Option (TypeSyntax × List Token) :=
  match readLiterals ts with
  | some (ls, rest) => if ls.Nodup then some (.union ls, rest) else none
  | none => none

/-- What stands behind the words for objects of any members. -/
def recordTail : List Token := [.word "string", .mark ',', .word "unknown", .mark '>']

/-- A type, and the tokens behind it. -/
def readType : List Token → Option (TypeSyntax × List Token)
  | .word name :: .mark '<' :: ts =>
    if name = "Array" then
      match readType ts with
      | some (t, .mark '>' :: rest) => some (.array t, rest)
      | _ => none
    else if name = "Record" ∧ ts.take 4 = recordTail then some (.record, ts.drop 4)
    else none
  | .word name :: ts =>
    match namedTypes.lookup name with
    | some t => some (t, ts)
    | none => readUnion (.word name :: ts)
  | ts => readUnion ts

/-- A type that ends with the tokens. -/
def wholeType? (ts : List Token) : Option TypeSyntax :=
  match readType ts with
  | some (t, []) => some t
  | _ => none

/-- An identifier. -/
def identifier? : Token → Option String
  | .word w => if Interface.isIdentifier w then some w else none
  | _ => none

/-- The key of a property: an identifier, or the string that a text between quotes stands for. -/
def key? : Token → Option String
  | .text s => stringOf? s
  | t => identifier? t

/-- A property of an interface. -/
structure Member where
  key : String
  optional : Bool
  type : TypeSyntax
  deriving DecidableEq

/-- A property without its end. -/
def member? : List Token → Option Member
  | key :: .mark '?' :: .mark ':' :: ts =>
    match key? key, wholeType? ts with
    | some k, some t => some ⟨k, true, t⟩
    | _, _ => none
  | key :: .mark ':' :: ts =>
    match key? key, wholeType? ts with
    | some k, some t => some ⟨k, false, t⟩
    | _, _ => none
  | _ => none

/-- A named type without its end. -/
def namedType? : List Token → Option (String × TypeSyntax)
  | .word "export" :: .word "type" :: name :: .mark '=' :: ts =>
    match identifier? name, wholeType? ts with
    | some n, some t => some (n, t)
    | _, _ => none
  | _ => none

/-- Tokens cut behind each semicolon; nothing may stand behind the last one. -/
def statements : List Token → Option (List (List Token))
  | [] => some []
  | t :: ts =>
    match statements ts with
    | some ss => if t = .mark ';' then some ([] :: ss) else
      match ss with
      | s :: ss => some ((t :: s) :: ss)
      | [] => none
    | none => none

/-- A file with one interface and some named types. -/
structure File where
  name : String
  members : List Member
  types : List (String × TypeSyntax)
  deriving DecidableEq

/-- A file from its tokens. -/
def File.ofTokens : List Token → Option File
  | .word "export" :: .word "interface" :: name :: .mark '\x7b' :: ts =>
    match ts.dropWhile (· ≠ .mark '\x7d') with
    | _ :: rest => do
      let n ← identifier? name
      let members ← (← statements (ts.takeWhile (· ≠ .mark '\x7d'))).mapM member?
      let types ← (← statements rest).mapM namedType?
      some ⟨n, members, types⟩
    | [] => none
  | _ => none

/-- The file that a text is. -/
def File.read (isBreak : Char → Bool) (text : String) : Option File :=
  File.ofTokens (tokens (withoutComments isBreak text.toList))

end TraitWeave.Script
