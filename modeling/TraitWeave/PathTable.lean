import TraitWeave.Path

/-!
# Tables by path

A table by path keeps values in the order of the paths. Paths are told apart by component, so two
spellings of one path are one key, which keeps its first spelling.

* `PathTable.get?`, `PathTable.put`, `PathTable.erase`: the value of a path.
* `PathTable.ofList`: the table of pairs in any order.
-/

namespace TraitWeave

/-- Values by path, in the order of the paths. -/
abbrev PathTable (α : Type) := List (Path × α)

namespace PathTable

variable {α : Type}

/-- The value of a path. -/
def get? (t : PathTable α) (p : Path) : Option α := (t.find? fun e => e.1.same p).map Prod.snd

/-- Whether there is a value for a path. -/
def has (t : PathTable α) (p : Path) : Bool := t.any fun e => e.1.same p

/-- The paths. -/
def paths (t : PathTable α) : List Path := t.map Prod.fst

/-- Set the value of a path. -/
def put (t : PathTable α) (p : Path) (value : α) : PathTable α :=
  match t with
  | [] => [(p, value)]
  | (q, old) :: rest =>
    match p.compareTo q with
    | .lt => (p, value) :: (q, old) :: rest
    | .eq => (q, value) :: rest
    | .gt => (q, old) :: put rest p value

/-- Without the value of a path. -/
def erase (t : PathTable α) (p : Path) : PathTable α := t.filter fun e => !e.1.same p

/-- The table of pairs, given in any order; of several for one path the last counts. -/
def ofList (pairs : List (Path × α)) : PathTable α := pairs.foldl (fun t e => put t e.1 e.2) []

end PathTable

end TraitWeave
