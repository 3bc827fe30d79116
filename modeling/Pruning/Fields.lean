/-!
Ordered maps keyed by text. A key keeps the position of its first entry, and a later entry of the
same key takes over the value. Manifest headers, clause parameters, registered versions and
re-export edges all have this shape.
-/

namespace Pruning

/-- An ordered map from text keys to values, listed in the order the keys were first entered. -/
abbrev Fields (α : Type) := List (String × α)

namespace Fields

variable {α β : Type}

/-- The value entered under `key`. -/
def get? (key : String) : Fields α → Option α
  | [] => none
  | (k, v) :: rest => if k = key then some v else get? key rest

/-- Enters `value` under `key`: in place when the key is present, at the end otherwise. -/
def put (key : String) (value : α) : Fields α → Fields α
  | [] => [(key, value)]
  | (k, v) :: rest => if k = key then (k, value) :: rest else (k, v) :: put key value rest

/-- Drops the entry of `key`. -/
def erase (key : String) (fields : Fields α) : Fields α :=
  fields.filter fun entry => entry.1 ≠ key

/-- The keys in order. -/
def keys (fields : Fields α) : List String :=
  fields.map Prod.fst

/-- Whether `key` has an entry. -/
def has (key : String) (fields : Fields α) : Bool :=
  (get? key fields).isSome

/-- Collects pairs into a map. -/
def ofPairs (pairs : List (String × α)) : Fields α :=
  pairs.foldl (fun fields pair => put pair.1 pair.2 fields) []

end Fields

end Pruning
