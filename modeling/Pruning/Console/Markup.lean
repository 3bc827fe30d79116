import Pruning.Console.Literal
import Pruning.Console.Picture
import Pruning.Console.Style
import Pruning.Console.Styled

/-!
Markup: texts with tags. `[name]` opens a style, `[/name]` closes the last one of that name and `[/]` the
last one at all. A tag starts with a small letter, a number sign, a slash or an at sign, so other brackets
are text, and a backslash before a tag makes it text too. A tag that starts with an at sign names a handler,
whose parameters must be a value. `Markup.styled` is the text that is left when the tags are taken out and
names of pictures are replaced by the pictures, with the stretches between the tags. How parameters are
read as values (`Literal.check`, as a rule) is a parameter of it.
-/

namespace Pruning.Console.Markup

/-- Why a text with tags cannot be shown. -/
inductive Fault where
  /-- No open tag has the name of the closing tag at `offset`. -/
  | unopened (tag : String) (offset : Nat)
  /-- No tag is open at `offset`. -/
  | nothingOpen (offset : Nat)
  /-- The parameters of a handler are no value; `part` is what was read of them. -/
  | parameters (part whole : String) (refusal : Literal.Refusal)
  /-- The style of a tag has a color that cannot be mixed. -/
  | color (fault : StyleFault)
  deriving DecidableEq, Repr

/-- What is told about a text that cannot be shown. -/
def Fault.message : Fault → String
  | .unopened tag offset =>
    s!"closing tag '[{tag}]' at position {offset} doesn't match any open tag"
  | .nothingOpen offset => s!"closing tag '[/]' at position {offset} has nothing to close"
  | .parameters part whole (.syntactic complaint) =>
    s!"error parsing {Text.quoted part} in {Text.quoted whole}; {complaint}"
  | .parameters _ whole (.unusable complaint) =>
    s!"error parsing {Text.quoted whole}; {complaint}"
  | .color _ => ColorFault.emptyPart.message

/-- A part of a text with tags. -/
inductive Part where
  | plain (text : List Char)
  /-- The text between the brackets of a tag whose first bracket is at `offset`. -/
  | tag (offset : Nat) (content : List Char)
  deriving DecidableEq, Repr

/-- Whether a tag can start with a character. -/
def startsTag (c : Char) : Bool :=
  ('a' ≤ c && c ≤ 'z') || c = '#' || c = '/' || c = '@'

/-- The text up to the next closing bracket, unless an opening one comes first. -/
def untilClose : List Char → Option (List Char)
  | [] => none
  | c :: rest =>
    if c = ']' then some []
    else if c = '[' then none
    else (untilClose rest).map (c :: ·)

/-- The content of the tag that starts after an opening bracket. -/
def tagAt? (cs : List Char) : Option (List Char) :=
  match cs with
  | [] => none
  | c :: _ => if startsTag c then untilClose cs else none

/-- A text with its escaped brackets as brackets. -/
def unescape : List Char → List Char
  | '\\' :: '[' :: rest => '[' :: unescape rest
  | c :: rest => c :: unescape rest
  | [] => []

/-- What a scan over a text has found: parts in reverse order, the reversed text since the last of them,
and the number of backslashes at its end. -/
structure Scan where
  parts : List Part
  plain : List Char
  slashes : Nat

/-- Ends the text since the last part, leaving out the backslashes at its end. -/
def Scan.cut (scan : Scan) : List Part :=
  match scan.plain.drop scan.slashes with
  | [] => scan.parts
  | plain => .plain (unescape plain.reverse) :: scan.parts

/-- Meets a tag. Of the backslashes before it every two are one, and an odd one makes the tag text. -/
def Scan.meet (scan : Scan) (offset : Nat) (content : List Char) : Scan :=
  let halved := List.replicate (scan.slashes / 2) '\\'
  let parts := if halved.isEmpty then scan.cut else .plain halved :: scan.cut
  if scan.slashes % 2 = 1 then ⟨.plain ('[' :: content ++ [']']) :: parts, [], 0⟩
  else ⟨.tag offset content :: parts, [], 0⟩

/-- Reads a character of the text between tags. -/
def Scan.read (scan : Scan) (c : Char) : Scan :=
  { scan with plain := c :: scan.plain, slashes := if c = '\\' then scan.slashes + 1 else 0 }

/-- Goes on with a scan at `offset`; the next `skip` characters belong to a tag that was met. -/
def scanFrom (scan : Scan) (offset skip : Nat) : List Char → List Part
  | [] => ({ scan with slashes := 0 }.cut).reverse
  | c :: rest =>
    match skip with
    | skip + 1 => scanFrom scan (offset + 1) skip rest
    | 0 =>
      match if c = '[' then tagAt? rest else none with
      | some content => scanFrom (scan.meet offset content) (offset + 1) (content.length + 1) rest
      | none => scanFrom (scan.read c) (offset + 1) 0 rest

/-- The parts of a text. A text without an opening bracket is plain as it stands. -/
def parts (cs : List Char) : List Part :=
  if cs.contains '[' then scanFrom ⟨[], [], 0⟩ 0 0 cs else [.plain cs]

/-- A tag that is open: its canonical name, what follows an equals sign, and where its text starts. -/
structure Opened where
  name : String
  parameters : Option (List Char)
  start : Nat
  deriving DecidableEq, Repr

/-- Finds the last open tag of a name, if there is one, and the tags that stay open; the last tag opened
comes first. -/
def close? (name : String) : List Opened → Option (Opened × List Opened)
  | [] => none
  | tag :: rest =>
    if tag.name = name then some (tag, rest)
    else (close? name rest).map fun closed => (closed.1, tag :: closed.2)

/-- Whether a character can be part of the name of a handler. -/
def isNameChar (c : Char) : Bool :=
  c = '.' || Text.isWordChar c

/-- What the parameters of a handler are read as: they can be a name, with nothing or with a text in
parentheses after it; all else is read as it stands. -/
def handlerValue (cs : List Char) : List Char :=
  let rest := cs.dropWhile isNameChar
  if rest.isEmpty then ['(', ')']
  else if rest.head? = some '(' && rest.getLast? = some ')' && !rest.contains '\n' then rest
  else cs

/-- Checks the parameters of a tag that is closed. -/
def Opened.check (evaluate : Literal.Evaluation) (tag : Opened) : Except Fault Unit :=
  match tag.parameters with
  | none => .ok ()
  | some whole =>
    if tag.name.toList.head? ≠ some '@' || whole.isEmpty then .ok ()
    else
      let part := handlerValue (Text.trim whole)
      (evaluate part).mapError (Fault.parameters (String.ofList part) (String.ofList whole))

/-- Control characters that are never shown: bells, backspaces and vertical movements. -/
def isHidden (c : Char) : Bool :=
  [7, 8, 11, 12, 13].contains c.toNat

/-- The text without its control characters. -/
def shown (cs : List Char) : List Char :=
  cs.filter fun c => !isHidden c

/-- A text that is being read: what there is of it, and the tags that are open. -/
structure Reading where
  text : Styled
  opened : List Opened
  deriving DecidableEq, Repr

namespace Reading

variable (evaluate : Literal.Evaluation)

/-- Closes a tag: its stretch ends. -/
def close (reading : Reading) (tag : Opened) (opened : List Opened) : Except Fault Reading := do
  tag.check evaluate
  let stretch : Stretch := ⟨tag.start, reading.text.length⟩
  return ⟨{ reading.text with stretches := stretch :: reading.text.stretches }, opened⟩

/-- Meets a tag. -/
def meet (reading : Reading) (offset : Nat) (content : List Char) : Except Fault Reading :=
  let name := content.takeWhile (· ≠ '=')
  let normal (cs : List Char) : Except Fault String :=
    (styleName (String.ofList cs)).mapError Fault.color
  match name with
  | '/' :: closed =>
    let closed := Text.trim closed
    if closed.isEmpty then
      match reading.opened with
      | [] => .error (.nothingOpen offset)
      | tag :: opened => reading.close evaluate tag opened
    else do
      match close? (← normal closed) reading.opened with
      | some (tag, opened) => reading.close evaluate tag opened
      | none => .error (.unopened (String.ofList content) offset)
  | _ => do
    let parameters := if name = content then none else some (content.drop (name.length + 1))
    let tag : Opened := ⟨← normal name, parameters, reading.text.length⟩
    return { reading with opened := tag :: reading.opened }

/-- Reads a part of a text. -/
def read (reading : Reading) : Part → Except Fault Reading
  | .plain cs =>
    .ok { reading with text := .join [reading.text, .plain (shown (Picture.drawn cs))] }
  | .tag offset content => reading.meet evaluate offset content

/-- The text, with stretches to its end for the tags that are still open. -/
def finish (reading : Reading) : Styled :=
  let unclosed := reading.opened.map fun tag => (⟨tag.start, reading.text.length⟩ : Stretch)
  { reading.text with stretches := unclosed ++ reading.text.stretches }

end Reading

/-- The text without its tags, with its pictures and its stretches. -/
def styled (evaluate : Literal.Evaluation) (cs : List Char) : Except Fault Styled := do
  let reading ← (parts cs).foldlM (Reading.read evaluate) ⟨.plain [], []⟩
  return reading.finish

end Pruning.Console.Markup
