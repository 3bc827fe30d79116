import Pruning.Decimal.Scientific
import Pruning.Toml.Document

/-!
Reading TOML 1.1. A text is a list of statements, one a line: headers of tables and of arrays of tables,
and values under keys. The reader goes through the characters once; every part of it takes the text that
is left, and gives what it has read with the text after it.
-/

namespace Pruning.Toml

/-- Why a text is refused. -/
inductive Refusal where
  /-- The text is not TOML, because of what the words say. -/
  | malformed (complaint : String)
  /-- Arrays and inline tables are nested too deeply. -/
  | tooDeep
  /-- A key has too many parts. -/
  | longKey
  /-- An integer has more digits than are read. -/
  | longInteger (digits : Nat)
  deriving DecidableEq, Repr

/-- Refuses a text. -/
def refuse {α : Type} (complaint : String) : Except Refusal α :=
  .error (.malformed complaint)

/-- The deepest nesting of a value in arrays and inline tables. -/
def maxDepth : Nat := 400

/-- The most parts of a key. -/
def maxKeyParts : Nat := 1000

/-- The most digits a decimal integer may have. -/
def maxIntegerDigits : Nat := 4300

/-- White space within a line. -/
def isGap (c : Char) : Bool :=
  c = ' ' || c = '\t'

/-- A character that stands neither in comments nor in texts of one line. -/
def isControl (c : Char) : Bool :=
  (c.toNat < 32 && c != '\t') || c.toNat = 127

/-- A character of a key without quotes. -/
def isBare (c : Char) : Bool :=
  c.isAlphanum || c = '-' || c = '_'

/-- The text after white space within a line. -/
def skipGap (cs : List Char) : List Char :=
  cs.dropWhile isGap

/-- The text after a comment, if there is one. -/
def skipComment (cs : List Char) : Except Refusal (List Char) :=
  match cs with
  | '#' :: rest =>
    if (rest.takeWhile (· ≠ '\n')).any isControl then refuse "Invalid character in a comment"
    else .ok (rest.dropWhile (· ≠ '\n'))
  | _ => .ok cs

/-- The text after white space, ends of lines and comments. -/
def skipLines (inComment : Bool) : List Char → Except Refusal (List Char)
  | [] => .ok []
  | c :: rest =>
    if c = '\n' then skipLines false rest
    else if inComment then
      if isControl c then refuse "Invalid character in a comment" else skipLines true rest
    else if isGap c then skipLines false rest
    else if c = '#' then skipLines true rest
    else .ok (c :: rest)

/-- The value of a hexadecimal digit. -/
def hexValue? (c : Char) : Option Nat :=
  if c.isDigit then some (c.toNat - 48)
  else if 'a' ≤ c ∧ c ≤ 'f' then some (c.toNat - 87)
  else if 'A' ≤ c ∧ c ≤ 'F' then some (c.toNat - 55)
  else none

/-- The character that hexadecimal digits stand for. -/
def hexChar? (digits : List Char) : Option Char := do
  let values ← digits.mapM hexValue?
  let n := values.foldl (fun n digit => n * 16 + digit) 0
  if n < 0xD800 ∨ (0xDFFF < n ∧ n < 0x110000) then some (Char.ofNat n) else none

/-- The character of an escape of one letter. -/
def escapeOf? (c : Char) : Option Char :=
  match c with
  | 'b' => some '\x08'
  | 't' => some '\t'
  | 'n' => some '\n'
  | 'f' => some '\x0c'
  | 'r' => some '\r'
  | 'e' => some '\x1b'
  | '"' => some '"'
  | '\\' => some '\\'
  | _ => none

/-- How many hexadecimal digits follow the letter of an escape. -/
def hexWidth? (c : Char) : Option Nat :=
  match c with
  | 'x' => some 2
  | 'u' => some 4
  | 'U' => some 8
  | _ => none

/-- The part of a text in double quotes that the cursor is in. -/
inductive BasicMode where
  /-- Plain characters. -/
  | plain
  /-- After a backslash. -/
  | escape
  /-- Among the digits of an escape; the ones before are reversed. -/
  | hex (left : Nat) (digits : List Char)
  /-- In white space after a backslash, before the end of the line. -/
  | lineEnd
  /-- In white space after the end of the line. -/
  | margin

/-- Reads a text in double quotes after the opening quote or quotes. `seen` holds its characters,
reversed. -/
def readBasic (multiline : Bool) (mode : BasicMode) (seen : List Char) :
    List Char → Except Refusal (List Char × List Char)
  | [] => refuse "Unterminated string"
  | c :: rest =>
    let plain (seen : List Char) : Except Refusal (List Char × List Char) :=
      if c = '"' then
        if !multiline then .ok (seen.reverse, rest)
        else
          match rest with
          | '"' :: '"' :: after => .ok (seen.reverse, after)
          | _ => readBasic multiline .plain ('"' :: seen) rest
      else if c = '\\' then readBasic multiline .escape seen rest
      else if isControl c && !(multiline && c = '\n') then refuse "Illegal character"
      else readBasic multiline .plain (c :: seen) rest
    match mode with
    | .plain => plain seen
    | .margin => if isGap c || c = '\n' then readBasic multiline .margin seen rest else plain seen
    | .lineEnd =>
      if isGap c then readBasic multiline .lineEnd seen rest
      else if c = '\n' then readBasic multiline .margin seen rest
      else refuse "Unescaped backslash in a string"
    | .hex left digits =>
      if (hexValue? c).isNone then refuse "Invalid hex value"
      else
        match left with
        | 0 => refuse "Invalid hex value"
        | 1 =>
          match hexChar? (c :: digits).reverse with
          | some escaped => readBasic multiline .plain (escaped :: seen) rest
          | none => refuse "Escaped character is not a Unicode scalar value"
        | left + 2 => readBasic multiline (.hex (left + 1) (c :: digits)) seen rest
    | .escape =>
      if multiline && isGap c then readBasic multiline .lineEnd seen rest
      else if multiline && c = '\n' then readBasic multiline .margin seen rest
      else
        match hexWidth? c, escapeOf? c with
        | some width, _ => readBasic multiline (.hex width []) seen rest
        | none, some escaped => readBasic multiline .plain (escaped :: seen) rest
        | none, none => refuse "Unescaped backslash in a string"

/-- Reads a text of one line in apostrophes after the opening one. -/
def readLiteral (cs : List Char) : Except Refusal (List Char × List Char) :=
  let content := cs.takeWhile (· ≠ '\'')
  match cs.dropWhile (· ≠ '\'') with
  | [] => refuse "Unterminated string"
  | _ :: rest =>
    if content.any isControl then refuse "Invalid character in a string" else .ok (content, rest)

/-- Reads a text in three apostrophes after the opening ones. -/
def readLiteralLines (seen : List Char) : List Char → Except Refusal (List Char × List Char)
  | '\'' :: '\'' :: '\'' :: rest => .ok (seen.reverse, rest)
  | [] => refuse "Unterminated string"
  | c :: rest =>
    if isControl c && c != '\n' then refuse "Invalid character in a string"
    else readLiteralLines (c :: seen) rest

/-- Takes up to two more quotes that follow the closing three. -/
def withMoreQuotes (quote : Char) (content : List Char) (cs : List Char) : List Char × List Char :=
  match cs with
  | a :: b :: rest =>
    if a = quote ∧ b = quote then (content ++ [quote, quote], rest)
    else if a = quote then (content ++ [quote], b :: rest)
    else (content, cs)
  | [a] => if a = quote then (content ++ [quote], []) else (content, cs)
  | [] => (content, [])

/-- The text after the end of the line that may follow three opening quotes. -/
def skipFirstEnd (cs : List Char) : List Char :=
  match cs with
  | '\n' :: rest => rest
  | _ => cs

/-- Reads a text in quotes of any kind. -/
def readText (cs : List Char) : Except Refusal (List Char × List Char) :=
  match cs with
  | '"' :: '"' :: '"' :: rest => do
    let (content, rest) ← readBasic true .plain [] (skipFirstEnd rest)
    return withMoreQuotes '"' content rest
  | '"' :: rest => readBasic false .plain [] rest
  | '\'' :: '\'' :: '\'' :: rest => do
    let (content, rest) ← readLiteralLines [] (skipFirstEnd rest)
    return withMoreQuotes '\'' content rest
  | '\'' :: rest => readLiteral rest
  | _ => refuse "Invalid value"

/-- Reads one part of a key. -/
def readKeyPart (cs : List Char) : Except Refusal (String × List Char) := do
  match cs with
  | '"' :: rest =>
    let (name, rest) ← readBasic false .plain [] rest
    return (String.ofList name, rest)
  | '\'' :: rest =>
    let (name, rest) ← readLiteral rest
    return (String.ofList name, rest)
  | _ =>
    let name := cs.takeWhile isBare
    if name.isEmpty then refuse "Invalid initial character for a key part"
    else return (String.ofList name, cs.dropWhile isBare)

/-- Reads a key of at most `most` parts that are separated by dots. -/
def readKeyParts (most : Nat) (cs : List Char) : Except Refusal (Key × List Char) := do
  let (name, rest) ← readKeyPart cs
  match most with
  | 0 => .error .longKey
  | most + 1 =>
    match skipGap rest with
    | '.' :: more =>
      let (names, rest) ← readKeyParts most (skipGap more)
      return (name :: names, rest)
    | rest => return ([name], rest)

/-- Reads a key. -/
def readKey (cs : List Char) : Except Refusal (Key × List Char) :=
  readKeyParts maxKeyParts cs

/-- Reads a number of two digits in a range. -/
def twoDigits? (low high : Nat) (cs : List Char) : Option (Nat × List Char) :=
  match cs with
  | a :: b :: rest =>
    let n := Decimal.natural [a, b]
    if a.isDigit && b.isDigit && low ≤ n && n ≤ high then some (n, rest) else none
  | _ => none

/-- The text after a time of day: hours and minutes, then seconds and a fraction if they are there. -/
def afterTime? (cs : List Char) : Option (List Char) := do
  let (_, rest) ← twoDigits? 0 23 cs
  match rest with
  | ':' :: rest =>
    let (_, rest) ← twoDigits? 0 59 rest
    match rest with
    | ':' :: more =>
      match twoDigits? 0 59 more with
      | none => return rest
      | some (_, rest) =>
        match rest with
        | '.' :: more =>
          if (more.takeWhile Char.isDigit).isEmpty then return rest
          else return more.dropWhile Char.isDigit
        | rest => return rest
    | rest => return rest
  | _ => none

/-- The text after the offset of a time, if there is one. -/
def afterOffset (cs : List Char) : List Char :=
  match cs with
  | c :: rest =>
    if c = 'Z' ∨ c = 'z' then rest
    else if c = '+' ∨ c = '-' then
      match twoDigits? 0 23 rest with
      | some (_, ':' :: more) =>
        match twoDigits? 0 59 more with
        | some (_, rest) => rest
        | none => cs
      | _ => cs
    else cs
  | [] => []

/-- The days of a month. -/
def daysOf (year month : Nat) : Nat :=
  if month = 2 then
    if year % 4 = 0 ∧ (year % 100 ≠ 0 ∨ year % 400 = 0) then 29 else 28
  else if month = 4 ∨ month = 6 ∨ month = 9 ∨ month = 11 then 30
  else 31

/-- Reads a date: whether it exists, and the text after it. -/
def readDate? (cs : List Char) : Option (Bool × List Char) := do
  let digits := cs.take 4
  if digits.length = 4 && digits.all Char.isDigit then
    match cs.drop 4 with
    | '-' :: rest =>
      let (month, rest) ← twoDigits? 1 12 rest
      match rest with
      | '-' :: rest =>
        let (day, rest) ← twoDigits? 1 31 rest
        let year := Decimal.natural digits
        return (year ≠ 0 && day ≤ daysOf year month, rest)
      | _ => none
    | _ => none
  else none

/-- Reads a date, a time or both. -/
def readMoment? (cs : List Char) : Option (Except Refusal (Toml × List Char)) :=
  match readDate? cs with
  | some (isReal, rest) =>
    let (kind, rest) : Moment × List Char :=
      match rest with
      | c :: more =>
        if c = 'T' ∨ c = 't' ∨ c = ' ' then
          match afterTime? more with
          | some rest => (.datetime, afterOffset rest)
          | none => (.date, rest)
        else (.date, rest)
      | [] => (.date, rest)
    some (if isReal then .ok (.moment kind, rest) else refuse "Invalid date or datetime")
  | none => (afterTime? cs).map fun rest => .ok (.moment .time, rest)

/-- The digits at the start of a text, single underscores between them left out. -/
def spanDigits (isDigit : Char → Bool) : List Char → List Char × List Char
  | c :: '_' :: d :: more =>
    if !isDigit c then ([], c :: '_' :: d :: more)
    else if !isDigit d then ([c], '_' :: d :: more)
    else
      let (digits, after) := spanDigits isDigit (d :: more)
      (c :: digits, after)
  | c :: rest =>
    if !isDigit c then ([], c :: rest)
    else
      let (digits, after) := spanDigits isDigit rest
      (c :: digits, after)
  | [] => ([], [])

/-- A digit of a number system. -/
def isDigitOf (base : Nat) (c : Char) : Bool :=
  match hexValue? c with
  | some n => n < base
  | none => false

/-- The number that digits of a number system stand for. -/
def valueIn (base : Nat) (digits : List Char) : Nat :=
  digits.foldl (fun n c => n * base + (hexValue? c).getD 0) 0

/-- Reads an integer that starts with the letter of its number system. -/
def readBased? (cs : List Char) : Option (Toml × List Char) :=
  match cs with
  | '0' :: letter :: rest =>
    let base := if letter = 'x' then 16 else if letter = 'o' then 8 else if letter = 'b' then 2 else 0
    let (digits, rest) := spanDigits (isDigitOf base) rest
    if digits.isEmpty then none else some (.int (valueIn base digits), rest)
  | _ => none

/-- A sign, and the text after it. -/
def readSign (cs : List Char) : Bool × List Char :=
  match cs with
  | '-' :: rest => (true, rest)
  | '+' :: rest => (false, rest)
  | _ => (false, cs)

/-- Reads the exponent of a number, if there is one. -/
def readExponent? (cs : List Char) : Option (Int × List Char) :=
  match cs with
  | mark :: rest =>
    if mark = 'e' ∨ mark = 'E' then
      let (negative, rest) := readSign rest
      let (digits, rest) := spanDigits Char.isDigit rest
      let power : Int := Decimal.natural digits
      if digits.isEmpty then none else some (if negative then -power else power, rest)
    else none
  | [] => none

/-- Reads a decimal number. -/
def readDecimal (cs : List Char) : Option (Except Refusal (Toml × List Char)) :=
  let (negative, rest) := readSign cs
  let (whole, rest) :=
    match rest with
    | '0' :: rest => (['0'], rest)
    | rest => spanDigits Char.isDigit rest
  if whole.isEmpty then none
  else
    let (fraction, afterFraction) : List Char × List Char :=
      match rest with
      | '.' :: more =>
        let (digits, after) := spanDigits Char.isDigit more
        if digits.isEmpty then ([], rest) else (digits, after)
      | _ => ([], rest)
    match fraction, readExponent? afterFraction with
    | [], none =>
      if maxIntegerDigits < whole.length then some (.error (.longInteger whole.length))
      else
        let size : Int := Decimal.natural whole
        some (.ok (.int (if negative then -size else size), rest))
    | fraction, exponent =>
      let (power, rest) := exponent.getD (0, afterFraction)
      let size := Decimal.float (Decimal.natural (whole ++ fraction)) (power - fraction.length)
      some (.ok (.float (if negative then -size else size), rest))

/-- The names that stand for values. -/
def names : List (String × Toml) :=
  [("true", .bool true), ("false", .bool false), ("inf", .float (1.0 / 0.0)),
    ("nan", .float (0.0 / 0.0)), ("-inf", .float (-1.0 / 0.0)), ("+inf", .float (1.0 / 0.0)),
    ("-nan", .float (0.0 / 0.0)), ("+nan", .float (0.0 / 0.0))]

/-- Reads a value that is neither an array nor an inline table. -/
def readScalar (cs : List Char) : Except Refusal (Toml × List Char) :=
  match cs with
  | '"' :: _ => (readText cs).map fun found => (.text (String.ofList found.1), found.2)
  | '\'' :: _ => (readText cs).map fun found => (.text (String.ofList found.1), found.2)
  | _ =>
    match readMoment? cs with
    | some found => found
    | none =>
      match readBased? cs, readDecimal cs, names.find? fun name => name.1.toList.isPrefixOf cs with
      | some found, _, _ => .ok found
      | none, some found, _ => found
      | none, none, some name => .ok (name.2, cs.drop name.1.length)
      | none, none, none => refuse "Invalid value"

/-- Adds a value under a dotted key of an inline table. -/
def addInline (d : Document) (key : Key) (value : Toml) : Option Document := do
  if d.isClosed key then none
  else
    let root ← Document.update false (Document.add (key.getLastD "") value) key.dropLast d.root
    return { d with
      root
      closed := if Document.isInline value then key :: d.closed else d.closed }

mutual

/-- Reads a value. `depth` is how much deeper values may be nested, and `fuel` bounds the number of parts
still to be read. -/
def readValue (fuel depth : Nat) (cs : List Char) : Except Refusal (Toml × List Char) :=
  match fuel, depth with
  | 0, _ => refuse "Invalid value"
  | _, 0 => .error .tooDeep
  | fuel + 1, depth + 1 =>
    match cs with
    | '[' :: rest => do
      let rest ← skipLines false rest
      match rest with
      | ']' :: rest => return (.array [], rest)
      | rest => readItems fuel depth [] rest
    | '\x7b' :: rest => do
      let rest ← skipLines false rest
      match rest with
      | '\x7d' :: rest => return (.table [], rest)
      | rest => readEntries fuel depth .empty rest
    | cs => readScalar cs

/-- Reads the items of an array up to the closing bracket; `items` are the ones before, reversed. -/
def readItems (fuel depth : Nat) (items : List Toml) (cs : List Char) : Except Refusal (Toml × List Char) :=
  match fuel with
  | 0 => refuse "Unclosed array"
  | fuel + 1 => do
    let (item, rest) ← readValue fuel depth cs
    let rest ← skipLines false rest
    match rest with
    | ']' :: rest => return (.array (item :: items).reverse, rest)
    | ',' :: rest =>
      let rest ← skipLines false rest
      match rest with
      | ']' :: rest => return (.array (item :: items).reverse, rest)
      | rest => readItems fuel depth (item :: items) rest
    | _ => refuse "Unclosed array"

/-- Reads the entries of an inline table up to the closing brace; `d` holds the ones before. -/
def readEntries (fuel depth : Nat) (d : Document) (cs : List Char) : Except Refusal (Toml × List Char) :=
  match fuel with
  | 0 => refuse "Unclosed inline table"
  | fuel + 1 => do
    let (key, value, rest) ← readPair fuel depth cs
    match addInline d key value with
    | none => refuse "Cannot overwrite a value"
    | some d =>
      let rest ← skipLines false rest
      match rest with
      | '\x7d' :: rest => return (.table d.root, rest)
      | ',' :: rest =>
        let rest ← skipLines false rest
        match rest with
        | '\x7d' :: rest => return (.table d.root, rest)
        | rest => readEntries fuel depth d rest
      | _ => refuse "Unclosed inline table"

/-- Reads a key, an equals sign and a value. -/
def readPair (fuel depth : Nat) (cs : List Char) : Except Refusal (Key × Toml × List Char) :=
  match fuel with
  | 0 => refuse "Invalid value"
  | fuel + 1 => do
    let (key, rest) ← readKey cs
    match rest with
    | '=' :: rest =>
      let (value, rest) ← readValue fuel depth (skipGap rest)
      return (key, value, rest)
    | _ => refuse "Expected '=' after a key in a key/value pair"

end

/-- Reads a header: whether it is one of an array of tables, its key, and the text after it. -/
def readHeader (cs : List Char) : Except Refusal (Bool × Key × List Char) := do
  let (isArray, cs) : Bool × List Char :=
    match cs with
    | '[' :: rest => (true, rest)
    | _ => (false, cs)
  let (key, rest) ← readKey (skipGap cs)
  return (isArray, key, rest)

/-- The text after the brackets that end a header. -/
def afterHeader (isArray : Bool) (cs : List Char) : Except Refusal (List Char) :=
  match isArray, cs with
  | false, ']' :: rest => .ok rest
  | true, ']' :: ']' :: rest => .ok rest
  | _, _ => refuse "Expected ']' at the end of a header"

/-- Adds what a statement declares to a document, or gives its complaint. -/
def orComplaint (complaint : String) (changed : Option Document) : Except Refusal Document :=
  match changed with
  | some d => .ok d
  | none => refuse complaint

/-- Reads statements. `header` is the table that they are in, `fuel` bounds their number. -/
def readStatements (fuel : Nat) (d : Document) (header : Key) (cs : List Char) :
    Except Refusal Document :=
  match fuel with
  | 0 => .ok d
  | fuel + 1 =>
    match skipGap cs with
    | [] => .ok d
    | '\n' :: rest => readStatements fuel d header rest
    | c :: rest => do
      let (d, header, rest) ←
        if isBare c || c = '"' || c = '\'' then do
          let (key, value, rest) ← readPair (2 * rest.length + 4) (maxDepth + 1) (c :: rest)
          let d ← orComplaint "Cannot overwrite a value" (d.addValue header key value)
          pure (d, header, skipGap rest)
        else if c = '[' then do
          let (isArray, key, rest) ← readHeader rest
          let changed := if isArray then d.settle.openItem key else d.settle.openTable key
          let d ← orComplaint "Cannot declare a table twice" changed
          let rest ← afterHeader isArray rest
          pure (d, key, skipGap rest)
        else if c = '#' then pure (d, header, c :: rest)
        else refuse "Invalid statement"
      match ← skipComment rest with
      | [] => return d
      | '\n' :: rest => readStatements fuel d header rest
      | _ => refuse "Expected newline or end of document after a statement"

/-- A text with every carriage return before a line feed left out; `seen` is what comes before,
reversed. -/
def joinLineEnds (seen : List Char) : List Char → List Char
  | '\r' :: '\n' :: rest => joinLineEnds ('\n' :: seen) rest
  | c :: rest => joinLineEnds (c :: seen) rest
  | [] => seen.reverse

/-- Reads a document. -/
def read (text : String) : Except Refusal (Fields Toml) := do
  let cs := joinLineEnds [] text.toList
  let d ← readStatements (cs.length + 1) .empty [] cs
  return d.root

end Pruning.Toml
