import Pruning.Console.Literal.Escape
import Pruning.Text.Lines
import Pruning.Text.Printable
import Pruning.Text.Quoted
import Pruning.Text.Word

/-!
Tokens of values: names, numbers, quoted texts and signs. `Token.scan` divides a text into tokens up to
its end or up to the first place where no token can be read. Inside of brackets a line end is white space.
-/

namespace Pruning.Console.Literal

/-- What a token is. -/
inductive Token.Kind where
  | name
  | number (imaginary : Bool)
  /-- A quoted text: of characters or of bytes, with escapes or as it is, and perhaps a pattern to be filled
  in. -/
  | text (bytes raw formatted : Bool)
  | sign
  | lineEnd
  /-- White space at the start of a line that is not the first one. -/
  | indent
  | finish
  deriving DecidableEq, Repr

/-- A part of a text that is read as a whole. -/
structure Token where
  kind : Token.Kind
  text : String
  line : Nat
  /-- The number of brackets that are open after it. -/
  depth : Nat
  deriving DecidableEq, Repr

/-- How the tokens of a text end. -/
inductive Ending where
  | complete
  /-- What follows is no token. -/
  | broken (complaint : String)
  /-- A line that should go on does not. -/
  | cut (complaint : String) (brackets : List (Char × Nat))
  /-- A bracket of some line is still open. -/
  | unclosed (bracket : Char) (line : Nat)
  deriving DecidableEq, Repr

/-- What is told about tokens that end too early. -/
def Ending.complaint : Ending → String
  | .complete => "invalid syntax"
  | .broken complaint => complaint
  | .cut complaint _ => complaint
  | .unclosed bracket _ => s!"'{bracket}' was never closed"

/-! ## Numbers -/

/-- Whether a character would go on with a name. -/
def continuesName (c : Char) : Bool :=
  c.isAlphanum || c = '_' || 128 ≤ c.toNat

/-- Whether a text starts with a word that can follow a value without a space. -/
def startsWithJoint (cs : List Char) : Bool :=
  let starts (word : String) : Bool := word.toList.isPrefixOf cs
  ["if", "in", "is"].any starts ||
    ["and", "else", "for", "or", "not"].any fun word =>
      starts word && !(cs.drop word.length).head?.any continuesName

/-- Checks that a number of some kind ends before a text. -/
def endNumber (kind : String) (cs : List Char) : Except String (List Char) :=
  let goesOn := cs.head?.any fun c => continuesName c && c.toNat < 128
  if goesOn && !startsWithJoint cs then .error s!"invalid {kind} literal" else .ok cs

/-- Leaves out digits of a number of some kind, with single underscores between them; `due` tells whether
a digit must come next. -/
def skipDigits (kind : String) (isDigit : Char → Bool) (due : Bool) :
    List Char → Except String (List Char)
  | [] => if due then .error s!"invalid {kind} literal" else .ok []
  | c :: rest =>
    if isDigit c then skipDigits kind isDigit false rest
    else if c = '_' && !due then skipDigits kind isDigit true rest
    else if c.isDigit then .error s!"invalid digit '{c}' in {kind} literal"
    else if due then .error s!"invalid {kind} literal"
    else .ok (c :: rest)

/-- Leaves out the digits of a number with a letter for its base. -/
def skipBased (kind : String) (isDigit : Char → Bool) (cs : List Char) :
    Except String (List Char) := do
  let digits := if cs.head? = some '_' then cs.tail else cs
  endNumber kind (← skipDigits kind isDigit true digits)

/-- Leaves out decimal digits. -/
def skipDecimal (cs : List Char) : Except String (List Char) :=
  skipDigits "decimal" Char.isDigit true cs

/-- Ends a number, which may be imaginary. -/
def endDecimal (cs : List Char) : Except String (Bool × List Char) :=
  match cs with
  | 'j' :: rest => (endNumber "imaginary" rest).map (true, ·)
  | 'J' :: rest => (endNumber "imaginary" rest).map (true, ·)
  | cs => (endNumber "decimal" cs).map (false, ·)

/-- Leaves out what follows the digits before a point: an exponent and an imaginary unit. -/
def skipExponent (cs : List Char) : Except String (Bool × List Char) :=
  let isExponent := cs.head? = some 'e' || cs.head? = some 'E'
  let power := cs.tail
  let signed := power.head? = some '+' || power.head? = some '-'
  if isExponent && (signed || power.head?.any Char.isDigit) then do
    endDecimal (← skipDecimal (if signed then power.tail else power))
  else endDecimal cs

/-- Leaves out what follows a point. -/
def skipFraction (cs : List Char) : Except String (Bool × List Char) := do
  skipExponent (← if cs.head?.any Char.isDigit then skipDecimal cs else .ok cs)

/-- Leaves out a number without a base. One with zeros before it must have a point, an exponent or an
imaginary unit. -/
def skipPlain (cs : List Char) : Except String (Bool × List Char) := do
  let rest ← skipDecimal cs
  let digits := (cs.take (cs.length - rest.length)).filter Char.isDigit
  match rest with
  | '.' :: fraction => skipFraction fraction
  | rest =>
    let floating := rest.head?.any fun c => ['e', 'E', 'j', 'J'].contains c
    if !floating && digits.head? = some '0' && digits.any (· ≠ '0') then
      .error ("leading zeros in decimal integer literals are not permitted; " ++
        "use an 0o prefix for octal integers")
    else skipExponent rest

/-- Leaves out a number at the start of a text, and tells whether it is imaginary. -/
def skipNumber (cs : List Char) : Except String (Bool × List Char) :=
  match cs with
  | '.' :: fraction => skipFraction fraction
  | '0' :: base :: digits =>
    match base.toLower with
    | 'x' => (skipBased "hexadecimal" isHexDigit digits).map (false, ·)
    | 'o' => (skipBased "octal" (fun c => '0' ≤ c && c ≤ '7') digits).map (false, ·)
    | 'b' => (skipBased "binary" (fun c => c = '0' || c = '1') digits).map (false, ·)
    | _ => skipPlain cs
  | cs => skipPlain cs

/-! ## Quoted texts -/

/-- The text up to the closing quote, which is `quote` once or three times, and what follows it; if there
is none, the number of line ends before the place where it is missed. `seen` is the reversed text so far. -/
def quotedText (quote : Char) (tripled : Bool) (seen : List Char) :
    List Char → Except Nat (List Char × List Char)
  | [] => .error (seen.count '\n')
  | '\\' :: c :: rest => quotedText quote tripled (c :: '\\' :: seen) rest
  | c :: rest =>
    if tripled then
      if c = quote && rest.take 2 = [quote, quote] then .ok (seen.reverse, rest.drop 2)
      else quotedText quote tripled (c :: seen) rest
    else if c = quote then .ok (seen.reverse, rest)
    else if c = '\n' then .error (seen.count '\n')
    else quotedText quote tripled (c :: seen) rest

/-- The letters that can stand before a quote. -/
def isQuotePrefix (cs : List Char) : Bool :=
  ["", "b", "u", "r", "f", "br", "rb", "fr", "rf"].contains
    (String.ofList (cs.map Char.toLower))

/-! ## Tokens -/

/-- The code point of a character in messages. -/
def codePoint (c : Char) : String :=
  let digits := Text.hexDigits c.toNat (if c.toNat < 0x10000 then 4 else if c.toNat < 0x100000 then 5 else 6)
  "U+" ++ String.ofList (digits.map Char.toUpper)

/-- The first character of a name that cannot be there. -/
def strayChar? : List Char → Option Char
  | [] => none
  | c :: rest => if !Text.isNameStart c then some c else rest.find? fun c => !Text.isNamePart c

/-- What is told about a character that cannot be anywhere. -/
def strayComplaint (c : Char) : String :=
  if Text.isPrintable c then s!"invalid character '{c}' ({codePoint c})"
  else "invalid non-printable character " ++ codePoint c

/-- The signs of more than one character, longer ones first. -/
def longSigns : List String :=
  ["**=", "//=", ">>=", "<<=", "...", "!=", "%=", "&=", "**", "*=", "+=", "-=", "->", "//", "/=", ":=",
    "<<", "<=", "<>", "==", ">=", ">>", "@=", "^=", "|="]

/-- A scan: the present line, the open brackets with their lines, whether no token is in the present line,
whether white space is at its start, and the tokens so far, the latest first. -/
structure Scan where
  line : Nat
  brackets : List (Char × Nat)
  isFresh : Bool
  isIndented : Bool
  tokens : List Token

namespace Scan

/-- Adds a token. -/
def add (scan : Scan) (kind : Token.Kind) (text : List Char) : Scan :=
  let token (kind : Token.Kind) (text : List Char) : Token :=
    ⟨kind, String.ofList text, scan.line, scan.brackets.length⟩
  let before := if scan.isFresh && scan.isIndented then [token .indent []] else []
  { scan with tokens := token kind text :: (before ++ scan.tokens), isFresh := false }

/-- Ends a line. -/
def endLine (scan : Scan) : Scan :=
  let scan := if scan.isFresh || !scan.brackets.isEmpty then scan else scan.add .lineEnd []
  { scan with line := scan.line + 1, isFresh := scan.brackets.isEmpty, isIndented := false }

/-- Passes a number of line ends inside of a token. -/
def pass (scan : Scan) (text : List Char) : Scan :=
  { scan with line := scan.line + text.count '\n' }

/-- The closing bracket of an opening one. -/
def closing (bracket : Char) : Char :=
  if bracket = '(' then ')' else if bracket = '[' then ']' else '}'

/-- Meets a closing bracket. -/
def close (scan : Scan) (c : Char) : Except String Scan :=
  match scan.brackets with
  | [] => .error s!"unmatched '{c}'"
  | (bracket, line) :: brackets =>
    if closing bracket = c then .ok ({ scan with brackets }.add .sign [c])
    else
      let place := if line = scan.line then "" else s!" on line {line}"
      .error s!"closing parenthesis '{c}' does not match opening parenthesis '{bracket}'{place}"

/-- The most brackets that can be open at once. -/
def maxBrackets : Nat := 200

/-- Meets an opening bracket. -/
def openBracket (scan : Scan) (c : Char) : Except String Scan :=
  if maxBrackets ≤ scan.brackets.length then .error "too many nested parentheses"
  else .ok ({ scan with brackets := (c, scan.line) :: scan.brackets }.add .sign [c])

/-- Reads a quoted text that starts with letters and a quote. -/
def quote (scan : Scan) (letters : List Char) (quote : Char) (cs : List Char) :
    Except String (Scan × List Char) :=
  let tripled := cs.take 2 = [quote, quote]
  let isIn (c : Char) : Bool := (letters.map Char.toLower).contains c
  match quotedText quote tripled [] (if tripled then cs.drop 2 else cs) with
  | .ok (text, rest) => .ok ((scan.add (.text (isIn 'b') (isIn 'r') (isIn 'f')) text).pass text, rest)
  | .error lines =>
    let what := if tripled then "triple-quoted string" else "string"
    .error s!"unterminated {what} literal (detected at line {scan.line + lines})"

/-- Goes on in the next line after a backslash. -/
def continueLine (scan : Scan) : List Char → Except Ending (Scan × List Char)
  | ['\n'] =>
    match scan.brackets with
    | [] => .error (.cut "unexpected EOF while parsing" [])
    | (bracket, line) :: _ => .error (.unclosed bracket line)
  | '\n' :: rest => .ok ({ scan with line := scan.line + 1 }, rest)
  | _ => .error (.cut "unexpected character after line continuation character" scan.brackets)

/-- Reads a token that starts with `c`, which is neither white space nor a backslash. -/
def step (scan : Scan) (c : Char) (rest : List Char) : Except String (Scan × List Char) :=
  let cs := c :: rest
  let word := cs.takeWhile continuesName
  let after := cs.drop word.length
  if c.isDigit || (c = '.' && rest.head?.any Char.isDigit) then do
    let (imaginary, rest) ← skipNumber cs
    return (scan.add (.number imaginary) (cs.take (cs.length - rest.length)), rest)
  else if isQuotePrefix word && (after.head? = some '\'' || after.head? = some '"') then
    scan.quote word (after.head?.getD '"') after.tail
  else if continuesName c then
    match strayChar? word with
    | some c => .error (strayComplaint c)
    | none => .ok (scan.add .name word, after)
  else if c = '(' || c = '[' || c = '{' then (scan.openBracket c).map (·, rest)
  else if c = ')' || c = ']' || c = '}' then (scan.close c).map (·, rest)
  else if !Text.isPrintable c then .error (strayComplaint c)
  else
    match longSigns.find? fun sign => sign.toList.isPrefixOf cs with
    | some sign => .ok (scan.add .sign sign.toList, cs.drop sign.length)
    | none => .ok (scan.add .sign [c], rest)

/-- The tokens of a scan that has come to the end of the text. -/
def finish (scan : Scan) : List Token × Ending :=
  match scan.brackets with
  | (bracket, line) :: _ => (scan.tokens.reverse, .unclosed bracket line)
  | [] =>
    let scan := if scan.isFresh then scan else scan.add .lineEnd []
    (({ scan with isIndented := false }.add .finish []).tokens.reverse, .complete)

end Scan

/-- Goes on with a scan; every step takes a character, so as many steps as characters are enough. -/
def Token.scanFrom (scan : Scan) : Nat → List Char → List Token × Ending
  | _, [] => scan.finish
  | 0, _ :: _ => scan.finish
  | fuel + 1, c :: rest =>
    if c = ' ' || c = '\t' || c = '\x0c' then
      scanFrom { scan with isIndented := scan.isIndented || scan.isFresh } fuel rest
    else if c = '#' then scanFrom scan fuel (rest.dropWhile (· ≠ '\n'))
    else if c = '\n' then scanFrom scan.endLine fuel rest
    else if c = '\\' then
      match scan.continueLine rest with
      | .ok (scan, rest) => scanFrom scan fuel rest
      | .error ending => (scan.tokens.reverse, ending)
    else
      match scan.step c rest with
      | .ok (scan, rest) => scanFrom scan fuel rest
      | .error complaint => (scan.tokens.reverse, .broken complaint)

/-- The tokens of a text. -/
def Token.scan (cs : List Char) : List Token × Ending :=
  let cs := Text.withLineFeeds cs
  scanFrom ⟨1, [], true, false, []⟩ cs.length cs

end Pruning.Console.Literal
