/-!
# Tables

A table maps names to values and keeps the order in which the names first came. It is a list of pairs;
the operations here keep its names distinct.

* `get?`: the value under a name.
* `put`: a new name goes to the end, a known one keeps its place and gets the new value.
* `ofPairs`: the table that arises by putting pairs one after the other.
* `place`: like `put`, for tables whose names are in rising order.
-/

namespace TraitWeave

/-- Values under distinct names, in the order in which the names first came. -/
abbrev Table (α : Type) := List (String × α)

namespace Table

variable {α β : Type}

/-- The value under `key`. -/
def get? (t : Table α) (key : String) : Option α :=
  match t with
  | [] => none
  | (k, v) :: rest => if k = key then some v else get? rest key

/-- Whether there is a value under `key`. -/
def has (t : Table α) (key : String) : Bool :=
  t.any fun p => p.1 == key

/-- The names, in order. -/
def keys (t : Table α) : List String :=
  t.map Prod.fst

/-- Set the value under `key`: in place where the name is known, at the end where it is new. -/
def put (t : Table α) (key : String) (value : α) : Table α :=
  match t with
  | [] => [(key, value)]
  | (k, v) :: rest => if k = key then (k, value) :: rest else (k, v) :: put rest key value

/-- Put pairs one after the other. -/
def putAll (t : Table α) (pairs : List (String × α)) : Table α :=
  pairs.foldl (fun acc p => acc.put p.1 p.2) t

/-- The table that pairs give when they are put one after the other. -/
def ofPairs (pairs : List (String × α)) : Table α :=
  putAll [] pairs

/-- Set the value under `key` in a table whose names are in rising order. -/
def place (t : Table α) (key : String) (value : α) : Table α :=
  match t with
  | [] => [(key, value)]
  | (k, v) :: rest =>
    if key < k then (key, value) :: (k, v) :: rest
    else if key = k then (key, value) :: rest
    else (k, v) :: place rest key value

/-- Without the value under `key`; the others keep their order. -/
def erase (t : Table α) (key : String) : Table α :=
  t.filter fun p => p.1 != key

/-- Apply a function to every value. -/
def mapValues (f : α → β) (t : Table α) : Table β :=
  t.map fun p => (p.1, f p.2)

end Table

end TraitWeave
