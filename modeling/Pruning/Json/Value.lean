import Pruning.Fields
import Pruning.Decimal.Shortest
import Pruning.Text.Quoted

/-!
Values of the JSON data model. Integers and floating-point numbers are kept apart, and an object keeps
its members in the order they were first written.
-/

namespace Pruning

/-- A JSON value. -/
inductive Json where
  | null
  | bool (value : Bool)
  | int (value : Int)
  | float (value : Float)
  | text (value : String)
  | list (items : List Json)
  | object (members : List (String × Json))
  deriving Inhabited

namespace Json

/-- The first of the private characters that stand in for halves of surrogate pairs. -/
def firstStandIn : Nat := 0x10E000

/-- The number of stand-ins. -/
def standIns : Nat := 0x800

mutual

/-- A value inside a message, with texts in quotes. -/
def literal : Json → String
  | .null => "None"
  | .bool true => "True"
  | .bool false => "False"
  | .int n => toString n
  | .float x => Decimal.floatText x
  | .text s => Text.quoted s
  | .list items => Text.bracketed (literals items)
  | .object members => "\x7b" ++ ", ".intercalate (literalMembers members) ++ "\x7d"

/-- The items of a list inside a message. -/
def literals : List Json → List String
  | [] => []
  | item :: rest => item.literal :: literals rest

/-- The members of an object inside a message. -/
def literalMembers : List (String × Json) → List String
  | [] => []
  | (name, value) :: rest => (Text.quoted name ++ ": " ++ value.literal) :: literalMembers rest

end

/-- A value as message text: a text stands for itself, everything else is written as a literal. -/
def display : Json → String
  | .text s => s
  | value => value.literal

/-- The name of the type of a value, as messages give it. -/
def typeName : Json → String
  | .null => "NoneType"
  | .bool _ => "bool"
  | .int _ => "int"
  | .float _ => "float"
  | .text _ => "str"
  | .list _ => "list"
  | .object _ => "dict"

/-- The text of a text value. -/
def text? : Json → Option String
  | .text s => some s
  | _ => none

/-- The items of a list. -/
def list? : Json → Option (List Json)
  | .list items => some items
  | _ => none

/-- The members of an object. -/
def object? : Json → Option (Fields Json)
  | .object members => some members
  | _ => none

/-- The items of a list of texts. -/
def texts? (value : Json) : Option (List String) :=
  match value with
  | .list items => items.mapM text?
  | _ => none

/-- A text that may be missing. -/
def optional : Option String → Json
  | some s => .text s
  | none => .null

/-- A list of texts. -/
def ofTexts (texts : List String) : Json :=
  .list (texts.map text)

/-- An ordered map as a list of pairs, which keeps the order. -/
def ofFields (fields : Fields Json) : Json :=
  .list (fields.map fun field => .list [.text field.1, field.2])

/-- An ordered map of texts as a list of pairs. -/
def ofTextFields (fields : Fields String) : Json :=
  ofFields (fields.map fun field => (field.1, .text field.2))

end Json

end Pruning
