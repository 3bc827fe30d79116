import Pruning.Json.Value

/-!
Writing JSON in ASCII. Characters outside ASCII are written as escaped UTF-16 code units. `compact`
writes on one line, `pretty` one item a line with two columns of indentation for each level.
-/

namespace Pruning.Json

/-- A code unit as an escape. -/
def unitEscape (unit : Nat) : List Char :=
  '\\' :: 'u' :: Text.hexDigits unit 4

/-- One character inside a quoted JSON text. -/
def escapeChar (c : Char) : List Char :=
  match c with
  | '"' => ['\\', '"']
  | '\\' => ['\\', '\\']
  | '\n' => ['\\', 'n']
  | '\r' => ['\\', 'r']
  | '\t' => ['\\', 't']
  | '\x08' => ['\\', 'b']
  | '\x0c' => ['\\', 'f']
  | c =>
    let n := c.toNat
    if 32 ≤ n ∧ n < 127 then [c]
    else if n < 0x10000 then unitEscape n
    else if firstStandIn ≤ n ∧ n < firstStandIn + standIns then unitEscape (0xD800 + (n - firstStandIn))
    else unitEscape (0xD800 + (n - 0x10000) / 0x400) ++ unitEscape (0xDC00 + (n - 0x10000) % 0x400)

/-- A text in JSON quotes. -/
def quote (s : String) : String :=
  String.ofList ('"' :: s.toList.flatMap escapeChar ++ ['"'])

/-- A floating-point number in JSON. -/
def numberText (x : Float) : String :=
  if x.isNaN then "NaN"
  else if x == 1.0 / 0.0 then "Infinity"
  else if x == -1.0 / 0.0 then "-Infinity"
  else Decimal.floatText x

mutual

/-- A value on one line. -/
def compact : Json → String
  | .null => "null"
  | .bool value => if value then "true" else "false"
  | .int n => toString n
  | .float x => numberText x
  | .text s => quote s
  | .list items => "[" ++ ", ".intercalate (compactItems items) ++ "]"
  | .object members => "\x7b" ++ ", ".intercalate (compactMembers members) ++ "\x7d"

/-- The items of a list, each on one line. -/
def compactItems : List Json → List String
  | [] => []
  | item :: rest => item.compact :: compactItems rest

/-- The members of an object, each on one line. -/
def compactMembers : List (String × Json) → List String
  | [] => []
  | (name, value) :: rest => (quote name ++ ": " ++ value.compact) :: compactMembers rest

end

/-- Items on lines of their own between two brackets; `margin` is the indentation of the brackets. -/
def layOut (opening closing : String) (margin : Nat) (items : List String) : String :=
  if items.isEmpty then opening ++ closing
  else
    let inner := "\n" ++ String.ofList (List.replicate (margin + 2) ' ')
    opening ++ inner ++ ("," ++ inner).intercalate items ++ "\n" ++
      String.ofList (List.replicate margin ' ') ++ closing

mutual

/-- A value laid out over lines, the first of which is indented by `margin` already. -/
def prettyFrom (margin : Nat) : Json → String
  | .list items => layOut "[" "]" margin (prettyItems (margin + 2) items)
  | .object members => layOut "\x7b" "\x7d" margin (prettyMembers (margin + 2) members)
  | value => value.compact

/-- The items of a list, each laid out. -/
def prettyItems (margin : Nat) : List Json → List String
  | [] => []
  | item :: rest => prettyFrom margin item :: prettyItems margin rest

/-- The members of an object, each laid out. -/
def prettyMembers (margin : Nat) : List (String × Json) → List String
  | [] => []
  | (name, value) :: rest =>
    (quote name ++ ": " ++ prettyFrom margin value) :: prettyMembers margin rest

end

/-- A value laid out over lines. -/
def pretty (value : Json) : String :=
  prettyFrom 0 value

end Pruning.Json
