import Pruning.Fields

/-!
Values of the TOML data model. Of dates and times only their kind is kept.
-/

namespace Pruning

/-- The kinds of dates and times. -/
inductive Toml.Moment where
  | date
  | datetime
  | time
  deriving DecidableEq, Repr

/-- A TOML value. -/
inductive Toml where
  | text (value : String)
  | bool (value : Bool)
  | int (value : Int)
  | float (value : Float)
  | moment (kind : Toml.Moment)
  | array (items : List Toml)
  | table (entries : List (String × Toml))
  deriving Inhabited

namespace Toml

/-- The name of the type of a value, as messages give it. -/
def typeName : Toml → String
  | .text _ => "str"
  | .bool _ => "bool"
  | .int _ => "int"
  | .float _ => "float"
  | .moment .date => "date"
  | .moment .datetime => "datetime"
  | .moment .time => "time"
  | .array _ => "list"
  | .table _ => "dict"

/-- The full name of the type of a value. -/
def fullTypeName : Toml → String
  | .moment kind => "datetime." ++ (moment kind).typeName
  | value => value.typeName

/-- Whether a value is empty, zero or false. -/
def isVoid : Toml → Bool
  | .text s => s.isEmpty
  | .bool b => !b
  | .int n => n == 0
  | .float x => x == 0.0
  | .moment _ => false
  | .array items => items.isEmpty
  | .table entries => entries.isEmpty

/-- The text of a text value. -/
def text? : Toml → Option String
  | .text s => some s
  | _ => none

/-- The entries of a table. -/
def table? : Toml → Option (Fields Toml)
  | .table entries => some entries
  | _ => none

/-- The items of an array of texts. -/
def texts? (value : Toml) : Option (List String) :=
  match value with
  | .array items => items.mapM text?
  | _ => none

end Toml

end Pruning
