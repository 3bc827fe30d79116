import Pruning.Version.Basic
import Pruning.Text.Blank
import Pruning.Text.Digit
import Pruning.Text.Quoted

/-!
Reading versions. `Version.read` takes the public version scheme in all its spellings (`1.0-rc.1`,
`v1.2`, `1.0.post1`, `1!2.0+local.1`). Module manifests also carry versions with a free qualifier,
such as `1.2.0.v20240101`; `Version.ofManifest` then keeps the first three numbers, and takes a text
without a number for version `0`.

The scheme is read by a library of which any release from `packaging` 23.0 on may be there, and these
differ in how they ignore case. `Version.Casing` says which one it is, and nothing is assumed about it.
-/

namespace Pruning.Version

/-- How the library ignores the case of letters. -/
class Casing where
  /-- Whether case is ignored among all letters and not only among those of ASCII. Then `ſ` counts as `s`,
  `İ` and `ı` as `i`, and the sign for kelvins as `k`. -/
  beyondAscii : Bool

namespace Casing

/-- Case is ignored among the letters of ASCII. -/
@[reducible]
def ascii : Casing :=
  ⟨false⟩

/-- Case is ignored among all letters. -/
@[reducible]
def unicode : Casing :=
  ⟨true⟩

end Casing

/-- Why a text is refused as a version. -/
inductive Refusal where
  /-- The text does not follow the scheme. -/
  | malformed (text : String)
  /-- A number of the text has more digits than are read. -/
  | longNumber (digits : Nat)
  deriving DecidableEq, Repr

/-- The message of a refusal. -/
def Refusal.message : Refusal → String
  | .malformed text => "Invalid version: " ++ Text.quoted text
  | .longNumber digits => Text.longNumberMessage digits

/-- The digits at the start of a text, and the text after them. -/
def spanDigits (cs : List Char) : List Char × List Char :=
  (cs.takeWhile Char.isDigit, cs.dropWhile Char.isDigit)

/-- Whether a character may separate two parts of a version. -/
def isSeparator (c : Char) : Bool :=
  c = '-' || c = '_' || c = '.'

/-- The text after a separator, if it starts with one. -/
def skipSeparator (cs : List Char) : List Char :=
  match cs with
  | c :: rest => if isSeparator c then rest else cs
  | [] => []

/-- The text after `word`, if it starts with it. -/
def afterWord? (word : String) (cs : List Char) : Option (List Char) :=
  if word.toList.isPrefixOf cs then some (cs.drop word.length) else none

/-- The first of `words` that a text starts with, and the text after it. -/
def afterAny? {α : Type} (words : List (String × α)) (cs : List Char) : Option (α × List Char) :=
  words.findSome? fun word => (afterWord? word.1 cs).map (word.2, ·)

/-- The parts of a version as digits, not yet turned into numbers. -/
structure Spelling where
  epoch : List Char
  release : List (List Char)
  pre : Option (Stage × List Char)
  post : Option (PostMark × List Char)
  dev : Option (List Char)
  build : Option (List (List Char))

/-- Reads release numbers separated by dots, after the first one. -/
def moreNumbers (numbers : List (List Char)) : Nat → List Char → List (List Char) × List Char
  | 0, cs => (numbers.reverse, cs)
  | fuel + 1, cs =>
    match cs with
    | '.' :: rest =>
      let (digits, rest) := spanDigits rest
      if digits.isEmpty then (numbers.reverse, cs) else moreNumbers (digits :: numbers) fuel rest
    | _ => (numbers.reverse, cs)

/-- A mark: one of `words` after an optional separator, then an optional separator and number. -/
def mark? {α : Type} (words : List (String × α)) (cs : List Char) :
    Option (α × List Char × List Char) :=
  match afterAny? words (skipSeparator cs) with
  | none => none
  | some (meaning, rest) =>
    let (digits, rest) := spanDigits (skipSeparator rest)
    some (meaning, digits, rest)

section Letters

variable [Casing]

/-- The words that count only if case is ignored among all letters. -/
def foldedWords {α : Type} (words : List (String × α)) : List (String × α) :=
  if Casing.beyondAscii then words else []

/-- The spellings of the pre-release stages. -/
def stageWords : List (String × Stage) :=
  foldedWords [("prevİew", .dottedPreview), ("prevıew", .dotlessPreview)] ++
    [("alpha", .alpha), ("a", .alpha), ("beta", .beta), ("b", .beta), ("preview", .candidate),
      ("pre", .candidate), ("c", .candidate), ("rc", .candidate)]

/-- The spellings of the post-release mark. -/
def postWords : List (String × PostMark) :=
  foldedWords [("poſt", .longS)] ++ [("post", .usual), ("rev", .usual), ("r", .usual)]

/-- Reads a post-release mark, which may also be a dash and a number. -/
def post? (cs : List Char) : Option (PostMark × List Char × List Char) :=
  let dashed : Option (PostMark × List Char × List Char) :=
    match cs with
    | '-' :: rest =>
      let (digits, rest) := spanDigits rest
      if digits.isEmpty then none else some (.usual, digits, rest)
    | _ => none
  match dashed with
  | some found => some found
  | none => mark? postWords cs

/-- Whether a character outside ASCII counts as a letter of ASCII. -/
def isFolded (c : Char) : Bool :=
  Casing.beyondAscii && ['ſ', 'ı', 'İ', '\u212a'].contains c

/-- A character of a local build segment. -/
def isSegmentChar (c : Char) : Bool :=
  c.isDigit || c.isLower || isFolded c

/-- Reads local build segments; `segments` are the ones before, reversed. -/
def buildSegments (segments : List (List Char)) : Nat → List Char → Option (List (List Char))
  | 0, _ => none
  | fuel + 1, cs =>
    let segment := cs.takeWhile isSegmentChar
    if segment.isEmpty then none
    else
      match cs.dropWhile isSegmentChar with
      | [] => some (segment :: segments).reverse
      | c :: rest => if isSeparator c then buildSegments (segment :: segments) fuel rest else none

/-- Takes a version apart whose letters of ASCII are small ones. -/
def spelling? (cs : List Char) : Option Spelling := do
  let cs := (afterWord? "v" cs).getD cs
  let (first, afterFirst) := spanDigits cs
  let (epoch, cs) : List Char × List Char :=
    match first, afterFirst with
    | _ :: _, '!' :: rest => (first, rest)
    | _, _ => ([], cs)
  let (first, cs) := spanDigits cs
  guard (!first.isEmpty)
  let (release, cs) := moreNumbers [first] cs.length cs
  let (pre, cs) : Option (Stage × List Char) × List Char :=
    match mark? stageWords cs with
    | some (stage, digits, rest) => (some (stage, digits), rest)
    | none => (none, cs)
  let (post, cs) : Option (PostMark × List Char) × List Char :=
    match post? cs with
    | some (mark, digits, rest) => (some (mark, digits), rest)
    | none => (none, cs)
  let (dev, cs) : Option (List Char) × List Char :=
    match mark? [("dev", ())] cs with
    | some ((), digits, rest) => (some digits, rest)
    | none => (none, cs)
  match cs with
  | [] => return ⟨epoch, release, pre, post, dev, none⟩
  | '+' :: rest => return ⟨epoch, release, pre, post, dev, some (← buildSegments [] rest.length rest)⟩
  | _ => none

end Letters

/-- The number that digits stand for; a missing number is zero. -/
def number (digits : List Char) : Except Refusal Nat :=
  if Text.maxDigits < digits.length then .error (.longNumber digits.length)
  else .ok (digits.foldl (fun n c => n * 10 + (c.toNat - 48)) 0)

/-- A character of a word in small letters. -/
def lowered (c : Char) : List Char :=
  if c = 'İ' then ['i', '\u0307'] else if c = '\u212a' then ['k'] else [c]

/-- The segment that characters stand for. -/
def segment (cs : List Char) : Except Refusal Segment :=
  if cs.all Char.isDigit then (number cs).map .number
  else .ok (.word (String.ofList (cs.flatMap lowered)))

/-- Turns the parts of a version into numbers. -/
def Spelling.version (spelling : Spelling) : Except Refusal Version := do
  let epoch ← number spelling.epoch
  let release ← spelling.release.mapM number
  let pre ← spelling.pre.mapM fun pre => do return (pre.1, ← number pre.2)
  let post ← spelling.post.mapM fun post => do return (post.1, ← number post.2)
  let dev ← spelling.dev.mapM number
  let build ← spelling.build.mapM fun segments => segments.mapM segment
  return ⟨epoch, release, pre, post, dev, build⟩

/-- Reads a version without white space around it. -/
def read [Casing] (cs : List Char) : Except Refusal Version :=
  match spelling? (cs.map Char.toLower) with
  | none => .error (.malformed (String.ofList cs))
  | some spelling => spelling.version

/-- Up to three numbers at the start of a text, with the dots between them. The digits may be those of
any script. -/
def numericStart (cs : List Char) : List Char :=
  let numbers (cs : List Char) := cs.takeWhile Text.isDecimalDigit
  let first := numbers cs
  if first.isEmpty then []
  else
    let next (seen : List Char) : List Char :=
      match cs.drop seen.length with
      | '.' :: rest =>
        let digits := numbers rest
        if digits.isEmpty then seen else seen ++ '.' :: digits
      | _ => seen
    let second := next first
    if second.length = first.length then first else next second

/-- The version that a manifest declares. -/
def ofManifest [Casing] (declared : String) : Except Refusal Version :=
  let cs := Text.trim declared.toList
  if cs.isEmpty then .ok zero
  else
    match read cs with
    | .ok version => .ok version
    | .error (.longNumber digits) => .error (.longNumber digits)
    | .error (.malformed _) =>
      let start := numericStart cs
      if start.isEmpty then .ok zero else read start

end Pruning.Version
