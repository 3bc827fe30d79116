import Pruning.Toml.Value

/-!
TOML documents under construction. Statements add to a tree of tables, and what they have declared limits
what later statements may add: a table is opened by its header once, a table made by dotted keys is not
opened by a header, and values written inline are closed. The limits are kept as paths beside the tree.
-/

namespace Pruning.Toml

/-- The names on the way from the root of a document. -/
abbrev Key := List String

/-- A tree of tables, and the limits on what may be added. -/
structure Document where
  root : Fields Toml
  /-- Tables that no header may open any more. -/
  opened : List Key
  /-- Tables that will be in `opened` when the next header is read. -/
  pending : List Key
  /-- Inline values. Nothing may be added at or below them. -/
  closed : List Key

namespace Document

/-- The document without statements. -/
def empty : Document :=
  ⟨[], [], [], []⟩

/-- Whether a key is at or below an inline value. -/
def isClosed (d : Document) (key : Key) : Bool :=
  d.closed.any fun frozen => !frozen.isEmpty && frozen.isPrefixOf key

/-- Changes the last item of a list. -/
def updateLast {α : Type} (f : α → Option α) : List α → Option (List α)
  | [] => none
  | [last] => (f last).map fun changed => [changed]
  | item :: rest => (updateLast f rest).map (item :: ·)

mutual

/-- Changes the table behind a key; tables that are missing are made. Behind an array, when `intoArrays`
is set, stands its last item. -/
def update (intoArrays : Bool) (f : Fields Toml → Option (Fields Toml)) (key : Key)
    (table : Fields Toml) : Option (Fields Toml) :=
  match key with
  | [] => f table
  | name :: rest => do
    let value := (Fields.get? name table).getD (.table [])
    return Fields.put name (← updateValue intoArrays f rest value) table

/-- Changes the table behind a key in a value. -/
def updateValue (intoArrays : Bool) (f : Fields Toml → Option (Fields Toml)) (key : Key)
    (value : Toml) : Option Toml :=
  match value with
  | .table entries => (update intoArrays f key entries).map .table
  | .array items =>
    if intoArrays then
      (updateLast
        (fun item =>
          match item with
          | .table entries => (update intoArrays f key entries).map .table
          | _ => none)
        items).map .array
    else none
  | _ => none

end

/-- Adds a value to a table that has none of this name. -/
def add (name : String) (value : Toml) (table : Fields Toml) : Option (Fields Toml) :=
  if Fields.has name table then none else some (table ++ [(name, value)])

/-- Adds an empty table to an array of tables, which is made when it is missing. -/
def addItem (name : String) (table : Fields Toml) : Option (Fields Toml) :=
  match Fields.get? name table with
  | none => some (table ++ [(name, .array [.table []])])
  | some (.array items) => some (Fields.put name (.array (items ++ [.table []])) table)
  | some _ => none

/-- The document when a header is read. -/
def settle (d : Document) : Document :=
  { d with opened := d.opened ++ d.pending, pending := [] }

/-- Opens a table by its header. -/
def openTable (d : Document) (key : Key) : Option Document := do
  if d.opened.contains key || d.isClosed key then none
  else return { d with root := ← update true some key d.root, opened := key :: d.opened }

/-- Opens a new item of an array of tables by its header. What was declared in the item before counts no
more. -/
def openItem (d : Document) (key : Key) : Option Document := do
  if d.isClosed key then none
  else
    let root ← update true (addItem (key.getLastD "")) key.dropLast d.root
    let isElsewhere (other : Key) : Bool := !key.isPrefixOf other
    return { d with
      root
      opened := key :: d.opened.filter isElsewhere
      closed := d.closed.filter isElsewhere }

/-- The tables that a dotted key passes, below the table `header`. -/
def passed (header key : Key) : List Key :=
  (List.range (key.length - 1)).map fun i => header ++ key.take (i + 1)

/-- Whether a value is written inline. -/
def isInline : Toml → Bool
  | .array _ => true
  | .table _ => true
  | _ => false

/-- Adds a value under a dotted key in the table `header`. -/
def addValue (d : Document) (header key : Key) (value : Toml) : Option Document := do
  let parent := header ++ key.dropLast
  if (passed header key).any d.opened.contains then none
  else if d.isClosed parent then none
  else
    let root ← update true (add (key.getLastD "") value) parent d.root
    return { d with
      root
      pending := d.pending ++ passed header key
      closed := if isInline value then (header ++ key) :: d.closed else d.closed }

end Document

end Pruning.Toml
