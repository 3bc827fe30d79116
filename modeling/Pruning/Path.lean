/-!
File paths in the notation with slashes. A path is a list of names below an anchor; empty names and
single dots are dropped when a path is read, double dots are kept.
-/

namespace Pruning

/-- Where a path starts. Two leading slashes are an anchor of their own; three or more are one. -/
inductive Anchor where
  | relative
  | root
  | doubleRoot
  deriving DecidableEq, Repr

/-- A path: an anchor and the names below it. -/
structure Path where
  anchor : Anchor
  parts : List String
  deriving DecidableEq, Repr

namespace Path

/-- The anchor that a text starts with. -/
def anchorOf (cs : List Char) : Anchor :=
  match cs with
  | '/' :: '/' :: '/' :: _ => .root
  | '/' :: '/' :: _ => .doubleRoot
  | '/' :: _ => .root
  | _ => .relative

/-- The pieces of a text between slashes; `piece` is the reversed start of the current one. -/
def pieces (piece : List Char) : List Char → List (List Char)
  | [] => [piece.reverse]
  | c :: rest => if c = '/' then piece.reverse :: pieces [] rest else pieces (c :: piece) rest

/-- Reads a path. -/
def parse (s : String) : Path :=
  let cs := s.toList
  let parts := (pieces [] cs).filter fun piece => !piece.isEmpty && piece != ['.']
  ⟨anchorOf cs, parts.map String.ofList⟩

/-- A path as text. -/
def text (p : Path) : String :=
  let names := "/".intercalate p.parts
  match p.anchor with
  | .relative => if p.parts.isEmpty then "." else names
  | .root => "/" ++ names
  | .doubleRoot => "//" ++ names

instance : ToString Path := ⟨text⟩

/-- The path `p`, taken from `base` when it is relative. -/
def join (base p : Path) : Path :=
  match p.anchor with
  | .relative => ⟨base.anchor, base.parts ++ p.parts⟩
  | _ => p

/-- The path of the folder that a path is in. -/
def parent (p : Path) : Path :=
  ⟨p.anchor, p.parts.dropLast⟩

/-- The path of an entry of the folder `p`. -/
def child (p : Path) (name : String) : Path :=
  ⟨p.anchor, p.parts ++ [name]⟩

/-- The last name of a path. -/
def name (p : Path) : String :=
  p.parts.getLast?.getD ""

/-- What follows the last slash of a path's text. For the folder where relative paths start it is a dot,
unlike `name`. -/
def lastPiece (p : Path) : String :=
  String.ofList ((pieces [] p.text.toList).getLast?.getD [])

/-- Cuts a name before its last dot; a dot at either end of the name does not count. -/
def cutSuffix (cs : List Char) : List Char × List Char :=
  let tail := cs.reverse.takeWhile (· ≠ '.')
  let head := (cs.reverse.drop (tail.length + 1)).reverse
  if tail.length < cs.length ∧ tail ≠ [] ∧ head ≠ [] then (head, '.' :: tail.reverse) else (cs, [])

/-- The last name without its suffix. -/
def stem (p : Path) : String :=
  String.ofList (cutSuffix p.name.toList).1

/-- The last dot of the last name, and what follows it. -/
def suffix (p : Path) : String :=
  String.ofList (cutSuffix p.name.toList).2

end Path

end Pruning
