import Pruning.Text.Quoted

/-!
Escapes in quoted texts. A backslash and a letter for a code point need hexadecimal digits after them, and
what is told when these are missing counts places in the text as it is handed on: with characters outside
ASCII written as escapes. Names of characters are not looked up, so every name counts as unknown. What
stands between the braces of a pattern is not looked at either.
-/

namespace Pruning.Console.Literal

/-- Whether a character is a hexadecimal digit. -/
def isHexDigit (c : Char) : Bool :=
  c.isDigit || ('a' ≤ c.toLower && c.toLower ≤ 'f')

/-- The number that hexadecimal digits write. -/
def hexNumber (digits : List Char) : Nat :=
  digits.foldl (fun n c => n * 16 + (if c.isDigit then c.toNat - 48 else c.toLower.toNat - 87)) 0

/-- A text in ASCII: other characters are written by their code points, and so is a backslash before one. -/
def transcribed : List Char → List Char
  | [] => []
  | '\\' :: c :: rest =>
    if c.toNat < 128 then '\\' :: c :: transcribed rest
    else "\\u005c\\U".toList ++ Text.hexDigits c.toNat 8 ++ transcribed rest
  | c :: rest =>
    if c.toNat < 128 then c :: transcribed rest
    else "\\U".toList ++ Text.hexDigits c.toNat 8 ++ transcribed rest

/-- What is wrong with an escape, of which `cs` is what follows the backslash at `position`. -/
def escapeFault? (position : Nat) (cs : List Char) : Option String :=
  let told (length : Nat) (reason : String) : Option String :=
    some (s!"(unicode error) 'unicodeescape' codec can't decode bytes in position {position}-" ++
      s!"{position + length - 1}: {reason}")
  let coded (width : Nat) (form : String) : Option String :=
    let digits := (cs.tail.take width).takeWhile isHexDigit
    if digits.length < width then told (digits.length + 2) s!"truncated {form} escape"
    else if 0x10ffff < hexNumber digits then told (width + 2) "illegal Unicode character"
    else none
  match cs with
  | 'x' :: _ => coded 2 "\\xXX"
  | 'u' :: _ => coded 4 "\\uXXXX"
  | 'U' :: _ => coded 8 "\\UXXXXXXXX"
  | 'N' :: '{' :: rest =>
    let name := rest.takeWhile (· ≠ '}')
    if name.isEmpty || name.length = rest.length then
      told (name.length + 3) "malformed \\N character escape"
    else told (name.length + 4) "unknown Unicode character name"
  | 'N' :: _ => told 2 "malformed \\N character escape"
  | _ => none

/-- What is wrong with the first escape of a text that cannot be read; the text starts at `position`. -/
def textFault? (position : Nat) : List Char → Option String
  | '\\' :: c :: rest =>
    (escapeFault? position (c :: rest)).orElse fun _ => textFault? (position + 2) rest
  | _ :: rest => textFault? (position + 1) rest
  | [] => none

/-- What is wrong with the first escape of bytes that cannot be read. -/
def bytesFault? (position : Nat) : List Char → Option String
  | '\\' :: c :: rest =>
    if c = 'x' && ((rest.take 2).takeWhile isHexDigit).length < 2 then
      some s!"(value error) invalid \\x escape at position {position}"
    else bytesFault? (position + 2) rest
  | _ :: rest => bytesFault? (position + 1) rest
  | [] => none

end Pruning.Console.Literal
