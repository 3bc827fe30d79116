import Pruning.Manifest.Fault
import Pruning.Text.Lines

/-!
The main section of a manifest: header lines `Name: value`, continued by lines that start with one
space, up to the first empty line. Names are made of ASCII letters, digits, `-` and `_` and are not
repeated.
-/

namespace Pruning.Manifest

/-- A character that a header name may start with. -/
def isNameStart (c : Char) : Bool :=
  c.isAlphanum

/-- A character of a header name. -/
def isNameChar (c : Char) : Bool :=
  c.isAlphanum || c = '-' || c = '_'

/-- Whether a text is a header name. -/
def isHeaderName (cs : List Char) : Bool :=
  match cs with
  | [] => false
  | c :: rest => isNameStart c && rest.all isNameChar

/-- The value after the colon of a header line, without the one space that separates it. -/
def valueOf (cs : List Char) : List Char :=
  match cs with
  | ' ' :: rest => rest
  | _ => cs

/-- Reads lines, the first of which has number `number`. `before` holds the headers read so far, the
latest first. -/
def readLines (number : Nat) (before : Fields String) :
    List (List Char) → Except Fault (Fields String)
  | [] => .ok before.reverse
  | [] :: _ => .ok before.reverse
  | (' ' :: more) :: rest =>
    match before with
    | [] => .error (.strayContinuation number (String.ofList (' ' :: more)))
    | (name, value) :: before =>
      readLines (number + 1) ((name, value ++ String.ofList more) :: before) rest
  | line :: rest =>
    let name := line.takeWhile (· ≠ ':')
    match line.dropWhile (· ≠ ':') with
    | [] => .error (.notAHeader number (String.ofList line))
    | _ :: value =>
      if !isHeaderName name then .error (.notAHeader number (String.ofList line))
      else if Fields.has (String.ofList name) before then
        .error (.duplicateHeader number (String.ofList name))
      else
        readLines (number + 1)
          ((String.ofList name, String.ofList (valueOf value)) :: before) rest

/-- Reads the main section of a manifest; `file` is the path shown when it is refused. -/
def read (text : String) (file : Option String) : Except Refusal (Fields String) :=
  match readLines 1 [] (Text.lines text.toList) with
  | .ok headers => .ok headers
  | .error fault => .error ⟨fault, file, none⟩

end Pruning.Manifest
