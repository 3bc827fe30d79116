import Pruning.Decimal.Scientific
import Pruning.Json.Value

/-!
Reading JSON. Beside the standard grammar the reader takes the names `NaN`, `Infinity` and
`-Infinity` as numbers. A text that is not JSON is refused with the place of the first fault, counted
in characters from the start and as line and column. Repeated members keep the place of the first and
the value of the last.

A `\u` escape may write half of a surrogate pair that stands alone. No character is that, so such a half
is read as a character for private use, one of 2048 from U+10E000 on, and printed as the escape again
(`Json.firstStandIn`). A text that has these characters themselves reads the same as one with the halves.
-/

namespace Pruning.Json

/-- What is wrong at the place of a fault. -/
inductive Complaint where
  | value
  | memberName
  | colon
  | comma
  | extraData
  | openText
  | controlCharacter
  | escape
  | unicodeEscape
  | byteOrderMark
  deriving DecidableEq, Repr

/-- The wording of a complaint. -/
def Complaint.wording : Complaint → String
  | .value => "Expecting value"
  | .memberName => "Expecting property name enclosed in double quotes"
  | .colon => "Expecting ':' delimiter"
  | .comma => "Expecting ',' delimiter"
  | .extraData => "Extra data"
  | .openText => "Unterminated string starting at"
  | .controlCharacter => "Invalid control character at"
  | .escape => "Invalid \\escape"
  | .unicodeEscape => "Invalid \\uXXXX escape"
  | .byteOrderMark => "Unexpected UTF-8 BOM (decode using utf-8-sig)"

/-- Why a text is refused. -/
inductive Refusal where
  /-- The text is not JSON; the number is the offset of the fault. -/
  | malformed (complaint : Complaint) (offset : Nat)
  /-- Lists and objects are nested too deeply; the innermost one is named. -/
  | tooDeep (container : String)
  /-- An integer has more digits than are read. -/
  | longInteger (digits : Nat)
  deriving DecidableEq, Repr

/-- The most digits an integer may have. -/
def maxIntegerDigits : Nat := 4300

/-- The deepest nesting of lists and objects. -/
def maxDepth : Nat := 980

/-- The rest of a text, and how many characters come before it. -/
structure Cursor where
  rest : List Char
  offset : Nat

/-- Whether a character may stand between two parts of a value. -/
def isGap (c : Char) : Bool :=
  c = ' ' || c = '\t' || c = '\n' || c = '\r'

/-- Passes over the gap at the cursor. -/
def skipGap (rest : List Char) (offset : Nat) : Cursor :=
  match rest with
  | [] => ⟨[], offset⟩
  | c :: more => if isGap c then skipGap more (offset + 1) else ⟨rest, offset⟩

/-- The value of a hexadecimal digit. -/
def hexValue? (c : Char) : Option Nat :=
  if c.isDigit then some (c.toNat - 48)
  else if 'a' ≤ c ∧ c ≤ 'f' then some (c.toNat - 87)
  else if 'A' ≤ c ∧ c ≤ 'F' then some (c.toNat - 55)
  else none

/-- The value of four hexadecimal digits. -/
def hexValue4? (a b c d : Char) : Option Nat := do
  return (((← hexValue? a) * 16 + (← hexValue? b)) * 16 + (← hexValue? c)) * 16 + (← hexValue? d)

/-- The character of a one-letter escape. -/
def escapeOf? (c : Char) : Option Char :=
  match c with
  | '"' => some '"'
  | '\\' => some '\\'
  | '/' => some '/'
  | 'b' => some '\x08'
  | 'f' => some '\x0c'
  | 'n' => some '\n'
  | 'r' => some '\r'
  | 't' => some '\t'
  | _ => none

/-- Whether `n` is the first half of a surrogate pair. -/
def isHighSurrogate (n : Nat) : Bool :=
  0xD800 ≤ n && n < 0xDC00

/-- Whether `n` is the second half of a surrogate pair. -/
def isLowSurrogate (n : Nat) : Bool :=
  0xDC00 ≤ n && n < 0xE000

/-- A code unit as a character. Half of a pair that stands alone is no character; each such unit has a
stand-in of its own, which cannot be told from the same character written as it is. -/
def unitChar (n : Nat) : Char :=
  if isHighSurrogate n || isLowSurrogate n then Char.ofNat (firstStandIn + (n - 0xD800))
  else Char.ofNat n

/-- Reads a text up to its closing quote. `start` is the offset of the opening quote and `seen` the
reversed characters before the cursor. -/
def readText (start : Nat) (seen : List Char) (offset : Nat) :
    List Char → Except Refusal (String × Cursor)
  | [] => .error (.malformed .openText start)
  | '"' :: rest => .ok (String.ofList seen.reverse, ⟨rest, offset + 1⟩)
  | '\\' :: 'u' :: a :: b :: c :: d :: '\\' :: 'u' :: e :: f :: g :: h :: next :: rest =>
    match hexValue4? a b c d with
    | none => .error (.malformed .unicodeEscape (offset + 1))
    | some high =>
      if isHighSurrogate high then
        match hexValue4? e f g h with
        | none => .error (.malformed .unicodeEscape (offset + 7))
        | some low =>
          if isLowSurrogate low then
            let joined := Char.ofNat (0x10000 + (high - 0xD800) * 0x400 + (low - 0xDC00))
            readText start (joined :: seen) (offset + 12) (next :: rest)
          else
            readText start (unitChar high :: seen) (offset + 6)
              ('\\' :: 'u' :: e :: f :: g :: h :: next :: rest)
      else
        readText start (unitChar high :: seen) (offset + 6)
          ('\\' :: 'u' :: e :: f :: g :: h :: next :: rest)
  | '\\' :: 'u' :: a :: b :: c :: d :: next :: rest =>
    match hexValue4? a b c d with
    | none => .error (.malformed .unicodeEscape (offset + 1))
    | some unit => readText start (unitChar unit :: seen) (offset + 6) (next :: rest)
  | ['\\'] => .error (.malformed .openText start)
  | '\\' :: c :: rest =>
    if c = 'u' then .error (.malformed .unicodeEscape (offset + 1))
    else
      match escapeOf? c with
      | some escaped => readText start (escaped :: seen) (offset + 2) rest
      | none => .error (.malformed .escape offset)
  | c :: rest =>
    if c.toNat < 32 then .error (.malformed .controlCharacter offset)
    else readText start (c :: seen) (offset + 1) rest

/-- The sign, whole digits, fraction digits and exponent of a number, and the text after it. A point
or an exponent mark without a digit after it does not belong to the number. -/
structure Numeral where
  negative : Bool
  whole : List Char
  fraction : List Char
  exponent : Option Int
  rest : List Char

/-- Reads an exponent, if there is a complete one. -/
def readExponent (cs : List Char) : Option (Int × List Char) :=
  match cs with
  | mark :: rest =>
    if mark = 'e' ∨ mark = 'E' then
      let (negative, digits) : Bool × List Char :=
        match rest with
        | '-' :: more => (true, more)
        | '+' :: more => (false, more)
        | more => (false, more)
      let power := digits.takeWhile Char.isDigit
      if power.isEmpty then none
      else
        let value : Int := Decimal.natural power
        some (if negative then -value else value, digits.dropWhile Char.isDigit)
    else none
  | [] => none

/-- Reads the number at the start of a text. -/
def readNumeral (cs : List Char) : Option Numeral :=
  let (negative, cs) : Bool × List Char :=
    match cs with
    | '-' :: rest => (true, rest)
    | _ => (false, cs)
  let whole :=
    match cs with
    | '0' :: _ => ['0']
    | _ => cs.takeWhile Char.isDigit
  if whole.isEmpty then none
  else
    let cs := cs.drop whole.length
    let (fraction, cs) : List Char × List Char :=
      match cs with
      | '.' :: rest =>
        let fraction := rest.takeWhile Char.isDigit
        if fraction.isEmpty then ([], cs) else (fraction, rest.dropWhile Char.isDigit)
      | _ => ([], cs)
    match readExponent cs with
    | some (exponent, rest) => some ⟨negative, whole, fraction, some exponent, rest⟩
    | none => some ⟨negative, whole, fraction, none, cs⟩

/-- The value of a numeral: an integer when it has neither fraction nor exponent. -/
def Numeral.value (n : Numeral) : Except Refusal Json :=
  if n.fraction.isEmpty && n.exponent.isNone then
    if maxIntegerDigits < n.whole.length then .error (.longInteger n.whole.length)
    else
      let size : Int := Decimal.natural n.whole
      .ok (.int (if n.negative then -size else size))
  else
    let size := Decimal.float (Decimal.natural (n.whole ++ n.fraction))
      (n.exponent.getD 0 - n.fraction.length)
    .ok (.float (if n.negative then -size else size))

/-- The names that stand for values. -/
def names : List (String × Json) :=
  [("null", .null), ("true", .bool true), ("false", .bool false), ("NaN", .float (0.0 / 0.0)),
    ("Infinity", .float (1.0 / 0.0)), ("-Infinity", .float (-1.0 / 0.0))]

/-- Reads a name or a number. -/
def readScalar (cursor : Cursor) : Except Refusal (Json × Cursor) :=
  match names.find? fun name => name.1.toList.isPrefixOf cursor.rest with
  | some (name, value) =>
    .ok (value, ⟨cursor.rest.drop name.length, cursor.offset + name.length⟩)
  | none =>
    match readNumeral cursor.rest with
    | none => .error (.malformed .value cursor.offset)
    | some numeral => do
      let value ← numeral.value
      .ok (value, ⟨numeral.rest, cursor.offset + (cursor.rest.length - numeral.rest.length)⟩)

mutual

/-- Reads one value. `depth` is how much deeper lists and objects may be nested, and `fuel` bounds the
number of parts still to be read. -/
def readValue (fuel depth : Nat) (cursor : Cursor) : Except Refusal (Json × Cursor) :=
  match fuel with
  | 0 => .error (.malformed .value cursor.offset)
  | fuel + 1 =>
    match cursor.rest with
    | [] => .error (.malformed .value cursor.offset)
    | '"' :: rest =>
      match readText cursor.offset [] (cursor.offset + 1) rest with
      | .error refusal => .error refusal
      | .ok (content, cursor) => .ok (.text content, cursor)
    | '[' :: rest =>
      if depth = 0 then .error (.tooDeep "array")
      else
        let cursor := skipGap rest (cursor.offset + 1)
        match cursor.rest with
        | ']' :: rest => .ok (.list [], ⟨rest, cursor.offset + 1⟩)
        | _ => readItems fuel (depth - 1) [] cursor
    | '\x7b' :: rest =>
      if depth = 0 then .error (.tooDeep "object")
      else
        let cursor := skipGap rest (cursor.offset + 1)
        match cursor.rest with
        | '\x7d' :: rest => .ok (.object [], ⟨rest, cursor.offset + 1⟩)
        | _ => readMembers fuel (depth - 1) [] cursor
    | _ => readScalar cursor

/-- Reads the items of a list up to the closing bracket; `items` are the ones before, reversed. -/
def readItems (fuel depth : Nat) (items : List Json) (cursor : Cursor) :
    Except Refusal (Json × Cursor) :=
  match fuel with
  | 0 => .error (.malformed .value cursor.offset)
  | fuel + 1 =>
    match readValue fuel depth cursor with
    | .error refusal => .error refusal
    | .ok (item, cursor) =>
      let cursor := skipGap cursor.rest cursor.offset
      match cursor.rest with
      | ']' :: rest => .ok (.list (item :: items).reverse, ⟨rest, cursor.offset + 1⟩)
      | ',' :: rest => readItems fuel depth (item :: items) (skipGap rest (cursor.offset + 1))
      | _ => .error (.malformed .comma cursor.offset)

/-- Reads the members of an object up to the closing brace; `members` are the ones before. -/
def readMembers (fuel depth : Nat) (members : Fields Json) (cursor : Cursor) :
    Except Refusal (Json × Cursor) :=
  match fuel with
  | 0 => .error (.malformed .value cursor.offset)
  | fuel + 1 =>
    match cursor.rest with
    | '"' :: rest =>
      match readText cursor.offset [] (cursor.offset + 1) rest with
      | .error refusal => .error refusal
      | .ok (name, cursor) =>
        let cursor := skipGap cursor.rest cursor.offset
        match cursor.rest with
        | ':' :: rest =>
          match readValue fuel depth (skipGap rest (cursor.offset + 1)) with
          | .error refusal => .error refusal
          | .ok (value, cursor) =>
            let members := Fields.put name value members
            let cursor := skipGap cursor.rest cursor.offset
            match cursor.rest with
            | '\x7d' :: rest => .ok (.object members, ⟨rest, cursor.offset + 1⟩)
            | ',' :: rest => readMembers fuel depth members (skipGap rest (cursor.offset + 1))
            | _ => .error (.malformed .comma cursor.offset)
        | _ => .error (.malformed .colon cursor.offset)
    | _ => .error (.malformed .memberName cursor.offset)

end

/-- Reads a whole text as one value. -/
def read (text : String) : Except Refusal Json :=
  let cs := text.toList
  match cs with
  | '\ufeff' :: _ => .error (.malformed .byteOrderMark 0)
  | _ =>
    match readValue (2 * cs.length + 2) maxDepth (skipGap cs 0) with
    | .error refusal => .error refusal
    | .ok (value, cursor) =>
      let cursor := skipGap cursor.rest cursor.offset
      if cursor.rest.isEmpty then .ok value
      else .error (.malformed .extraData cursor.offset)

/-- The message for a fault in `text`: what is wrong, and the line, column and offset of the place. -/
def faultMessage (text : String) (complaint : Complaint) (offset : Nat) : String :=
  let before := text.toList.take offset
  let line := before.count '\n' + 1
  let column := (before.reverse.takeWhile (· ≠ '\n')).length + 1
  s!"{complaint.wording}: line {line} column {column} (char {offset})"

end Pruning.Json
